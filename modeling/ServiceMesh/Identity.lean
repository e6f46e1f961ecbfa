import ServiceMesh.Locator
import ServiceMesh.MsgPack.Record

/-!
# Applications and brokers

What a provider says about itself when it connects, what a broker says about
itself to other brokers, and the frame of a call.
-/

namespace ServiceMesh

/-- One call: metadata that says where it goes, and opaque data. -/
structure Payload where
  /-- The composite metadata block. -/
  metadata : Bytes := []
  /-- The data. -/
  data : Bytes := []
deriving DecidableEq, Repr, Inhabited

/-! ## Applications -/

/-- Where a provider is in its life.  It is connected first, then serves, may go
down and serve again, and stops for good. -/
inductive AppStatus where
  | connected
  | serving
  | down
  | stopped
deriving DecidableEq, Repr, Inhabited

namespace AppStatus

/-- The number of a status. -/
def code : AppStatus → UInt8
  | connected => 0
  | serving => 1
  | down => 2
  | stopped => 3

/-- The status with a number. -/
def ofCode? (n : UInt8) : Option AppStatus :=
  match n with
  | 0 => some connected
  | 1 => some serving
  | 2 => some down
  | 3 => some stopped
  | _ => none

/-- The name of a status on the wire. -/
def wireName : AppStatus → String
  | connected => "CONNECTED"
  | serving => "SERVING"
  | down => "DOWN"
  | stopped => "STOPPED"

/-- The name of a status as developers see it. -/
def debugText : AppStatus → String
  | connected => "Connected"
  | serving => "Serving"
  | down => "Down"
  | stopped => "Stopped"

/-- The statuses by number. -/
def all : List AppStatus := [connected, serving, down, stopped]

/-- The status with a wire name. -/
def ofWireName? (s : String) : Option AppStatus := all.find? fun x => x.wireName == s

/-- A status as a wire value. -/
def toValue (s : AppStatus) : MsgPack.Value := .text s.wireName

/-- Reads a status from a wire value. -/
def ofValue (v : MsgPack.Value) : Option AppStatus := do
  let i ← v.asUnitVariant (all.map wireName)
  all[i]?

end AppStatus

/-- What an application says about itself. -/
structure AppMetadata where
  /-- The id of the running instance. -/
  instanceId : Uuid
  /-- The name, which instances may share. -/
  name : String
  /-- The address of the instance. -/
  ip : String
  /-- The ports by transport. -/
  ports : TextMap UInt16 := .empty
  /-- Whether the transports are encrypted. -/
  secure : Bool := false
  /-- A hint at the capacity of the instance. -/
  weight : UInt32 := 1
  /-- Free tags. -/
  tags : TextMap String := .empty
deriving DecidableEq, Repr

/-- The first frame of a connecting provider. -/
structure Setup where
  /-- Who connects. -/
  app : AppMetadata
  /-- The services to expose at once. -/
  services : List Locator := []
deriving DecidableEq, Repr

/-! ## Brokers -/

/-- What a broker says about itself. -/
structure BrokerInfo where
  /-- The id of the broker. -/
  id : String
  /-- The transport between brokers. -/
  schema : String
  /-- The address. -/
  ip : String
  /-- The public name, if there is one. -/
  externalDomain : Option String := none
  /-- The port for brokers. -/
  port : UInt16
  /-- The port of the console. -/
  webPort : UInt16
  /-- When the broker started. -/
  startTimeMs : UInt64
  /-- At least one if the broker is active. -/
  status : Int32
deriving DecidableEq, Repr

namespace BrokerInfo

/-- Whether the broker takes part. -/
def isActive (b : BrokerInfo) : Bool := decide (1 ≤ b.status.toInt)

/-- Where other brokers reach it. -/
def url (b : BrokerInfo) : String := b.schema ++ "://" ++ b.ip ++ ":" ++ toString b.port.toNat

/-- Where clients reach it. -/
def publicHost (b : BrokerInfo) : String := b.externalDomain.getD b.ip

end BrokerInfo

/-! ## Wire forms -/

open MsgPack (Value Fields Reading)

/-- A port as a wire value. -/
def portValue (p : UInt16) : Value := .nat p.toNat

/-- Reads a port. -/
def readPort (v : Value) : Option UInt16 := (v.asNat 65535).map UInt16.ofNat

/-- Reads a word of 32 bits. -/
def readWord (v : Value) : Option UInt32 := (v.asNat 4294967295).map UInt32.ofNat

/-- Reads a word of 64 bits. -/
def readLong (v : Value) : Option UInt64 := (v.asNat 18446744073709551615).map UInt64.ofNat

/-- Reads a signed word of 32 bits. -/
def readSigned (v : Value) : Option Int32 :=
  (v.asInt (-2147483648) 2147483647).map Int32.ofInt

/-- A locator as a wire value: its written form. -/
def Locator.toValue (l : Locator) : Value := .text l.gsv

/-- Reads a locator. -/
def Locator.ofValue (v : Value) : Option Locator := do
  match Locator.parse (← v.asText) with
  | .ok l => some l
  | .error _ => none

/-- An id as a wire value. -/
def Uuid.toValue (u : Uuid) : Value := .binary u.bytes

namespace AppMetadata

/-- The fields on the wire. -/
def fieldNames : List String := ["instanceId", "name", "ip", "ports", "secure", "weight", "tags"]

/-- The wire form. -/
def toValue (a : AppMetadata) : Value :=
  MsgPack.recordOf [
    ("instanceId", a.instanceId.toValue),
    ("name", .text a.name),
    ("ip", .text a.ip),
    ("ports", MsgPack.ofTextMap portValue a.ports),
    ("secure", .bool a.secure),
    ("weight", .nat a.weight.toNat),
    ("tags", MsgPack.ofTextMap .text a.tags)]

/-- Reads the wire form. -/
def ofValue (v : Value) : Option AppMetadata := do
  let f ← MsgPack.asFields .strict fieldNames v
  return {
    instanceId := ← f.required 0 (Value.asUuid .strict)
    name := ← f.required 1 Value.asText
    ip := ← f.required 2 Value.asText
    ports := ← f.withDefault 3 (Value.asTextMap readPort) .empty
    secure := ← f.withDefault 4 Value.asBool false
    weight := ← f.withDefault 5 readWord 1
    tags := ← f.withDefault 6 (Value.asTextMap Value.asText) .empty }

end AppMetadata

namespace Setup

/-- The fields on the wire. -/
def fieldNames : List String := ["app", "services"]

/-- The wire form. -/
def toValue (s : Setup) : Value :=
  MsgPack.recordOf [("app", s.app.toValue), ("services", .array (s.services.map Locator.toValue))]

/-- Reads the wire form. -/
def ofValue (v : Value) : Option Setup := do
  let f ← MsgPack.asFields .strict fieldNames v
  return {
    app := ← f.required 0 AppMetadata.ofValue
    services := ← f.withDefault 1 (Value.asList Locator.ofValue) [] }

/-- The bytes of a setup frame. -/
def encode (s : Setup) : Bytes := s.toValue.encode

/-- Reads a setup frame. -/
def decode? (b : Bytes) : Option Setup := MsgPack.decode? b >>= ofValue

end Setup

namespace BrokerInfo

/-- The fields on the wire. -/
def fieldNames : List String :=
  ["id", "schema", "ip", "externalDomain", "port", "webPort", "startTimeMs", "status"]

/-- The fields of the wire form. -/
def toFields (b : BrokerInfo) : List (String × Value) :=
  [("id", .text b.id), ("schema", .text b.schema), ("ip", .text b.ip)]
    ++ MsgPack.optionalField "externalDomain" (b.externalDomain.map .text)
    ++ [("port", portValue b.port), ("webPort", portValue b.webPort),
      ("startTimeMs", .nat b.startTimeMs.toNat), ("status", .int b.status.toInt)]

/-- The wire form. -/
def toValue (b : BrokerInfo) : Value := MsgPack.recordOf b.toFields

/-- Reads the wire form. -/
def ofValue (reading : Reading) (v : Value) : Option BrokerInfo := do
  let f ← MsgPack.asFields reading fieldNames v
  return {
    id := ← f.required 0 Value.asText
    schema := ← f.required 1 Value.asText
    ip := ← f.required 2 Value.asText
    externalDomain := ← f.withDefault 3 (Value.asOption Value.asText) none
    port := ← f.required 4 readPort
    webPort := ← f.required 5 readPort
    startTimeMs := ← f.required 6 readLong
    status := ← f.required 7 readSigned }

end BrokerInfo

end ServiceMesh
