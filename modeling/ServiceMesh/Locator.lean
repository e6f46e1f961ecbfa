import ServiceMesh.Hash.Murmur3
import ServiceMesh.Text.Form
import ServiceMesh.Text.Split

/-!
# Service locators

A service is addressed by a group, a name and a version.  The written form is
`group!service:version`; an empty group or version is left out with its
separator.  A segment holds neither separator, so the written form determines
the locator.  The routing hash of a locator is the hash of its written form.
-/

namespace ServiceMesh

/-- The separator after the group. -/
def groupSeparator : Char := '!'

/-- The separator before the version. -/
def versionSeparator : Char := ':'

/-- The parts of an address. -/
inductive Segment where
  | group
  | service
  | version
deriving DecidableEq, Repr

/-- The name of a segment in messages. -/
def Segment.name : Segment → String
  | group => "group"
  | service => "service"
  | version => "version"

/-- Why a text or a triple is no address. -/
inductive LocatorError where
  /-- There is no service name. -/
  | emptyService
  /-- A segment holds a separator. -/
  | reserved (segment : Segment) (separator : Char) (value : String)
  /-- A separator appears twice. -/
  | duplicateSeparator (separator : Char) (input : String)
  /-- A separator has nothing on its outer side. -/
  | emptySegment (separator : Char) (input : String)
deriving DecidableEq, Repr

/-- The text of an address error. -/
def LocatorError.message : LocatorError → String
  | emptyService => "service name must not be empty"
  | reserved segment separator value =>
      segment.name ++ " segment must not contain '" ++ separator.toString ++ "': "
        ++ Text.quoted value
  | duplicateSeparator separator input =>
      "separator '" ++ separator.toString ++ "' appears more than once in " ++ Text.quoted input
  | emptySegment separator input =>
      "separator '" ++ separator.toString
        ++ "' is followed or preceded by an empty segment in " ++ Text.quoted input

/-- The first separator that stands in a segment. -/
def separatorIn (value : String) : Option Char :=
  if groupSeparator ∈ value.toList then some groupSeparator
  else if versionSeparator ∈ value.toList then some versionSeparator
  else none

/-- A segment without separators. -/
def CleanSegment (value : String) : Prop := separatorIn value = none

instance (value : String) : Decidable (CleanSegment value) :=
  inferInstanceAs (Decidable (separatorIn value = none))

/-- The written form of a triple. -/
def formatGsv (group service version : String) : String :=
  (if group = "" then "" else group.push groupSeparator) ++ service
    ++ (if version = "" then "" else versionSeparator.toString ++ version)

/-- The address of a service. -/
structure Locator where
  /-- The group, empty if there is none. -/
  group : String
  /-- The service name. -/
  service : String
  /-- The version, empty if there is none. -/
  version : String
  /-- The service has a name. -/
  service_ne : service ≠ ""
  /-- The group holds no separator. -/
  group_clean : CleanSegment group
  /-- The service name holds no separator. -/
  service_clean : CleanSegment service
  /-- The version holds no separator. -/
  version_clean : CleanSegment version
deriving DecidableEq

namespace Locator

/-- The written form. -/
def gsv (l : Locator) : String := formatGsv l.group l.service l.version

/-- The hash under which the service is routed. -/
def hash (l : Locator) : UInt32 := Hash.routingHash l.gsv

instance : ToString Locator := ⟨gsv⟩

instance : Repr Locator := ⟨fun l _ => l.gsv⟩

/-- Checks that a segment holds no separator. -/
def checkSegment (segment : Segment) (value : String) :
    Except LocatorError (PLift (CleanSegment value)) :=
  match h : separatorIn value with
  | some separator => .error (.reserved segment separator value)
  | none => .ok ⟨h⟩

/-- The locator of a triple. -/
def of (group service version : String) : Except LocatorError Locator :=
  if hs : service = "" then .error .emptyService
  else do
    let ⟨hg⟩ ← checkSegment .group group
    let ⟨hv⟩ ← checkSegment .service service
    let ⟨hw⟩ ← checkSegment .version version
    return ⟨group, service, version, hs, hg, hv, hw⟩

/-- The locator of a service without group and version. -/
def ofService (service : String) : Except LocatorError Locator := of "" service ""

/-- The parts of a text around a separator that may stand in it once. -/
def cutOnce (input : String) (separator : Char) :
    Except LocatorError (Option (String × String)) :=
  if 1 < input.toList.count separator then .error (.duplicateSeparator separator input)
  else .ok ((Text.cut? separator input.toList).map fun p => (String.ofList p.1, String.ofList p.2))

/-- Reads the written form. -/
def parse (input : String) : Except LocatorError Locator := do
  let byGroup ← cutOnce input groupSeparator
  let group := (byGroup.map (·.1)).getD ""
  let rest := (byGroup.map (·.2)).getD input
  let byVersion ← cutOnce rest versionSeparator
  let service := (byVersion.map (·.1)).getD rest
  let version := (byVersion.map (·.2)).getD ""
  let _ ← checkSegment .group group
  if byGroup.isSome ∧ group = "" then throw (.emptySegment groupSeparator input)
  if byVersion.isSome ∧ version = "" then throw (.emptySegment versionSeparator input)
  of group service version

/-- The written form of a method of the service: `group!service.method:version`. -/
def methodKey (l : Locator) (method : String) : String :=
  formatGsv l.group (l.service ++ "." ++ method) l.version

/-- The form in which a locator is shown to developers. -/
def debugText (l : Locator) : String :=
  "ServiceLocator \x7b gsv: " ++ Text.quoted l.gsv ++ ", hash: " ++ toString l.hash.toNat ++ " \x7d"

end Locator

end ServiceMesh
