import ServiceMesh.Identity
import ServiceMesh.Transport.Link

/-!
# Responders

A responder is a provider as a broker knows it: who it is, how it is reached, where
it is in its life, and which services it exposes.
-/

namespace ServiceMesh

/-- How calls reach a provider. -/
inductive Route where
  /-- Over its own link to this broker. -/
  | direct (link : LinkId)
  /-- Through another broker. -/
  | peer (brokerUri : String)
deriving DecidableEq, Repr

/-- A provider and the services that it exposes. -/
structure Responder where
  /-- What the provider says about itself. -/
  app : AppMetadata
  /-- How calls reach it. -/
  route : Route
  /-- Where it is in its life. -/
  status : AppStatus := .connected
  /-- The services that it exposes, each once. -/
  services : List Locator := []
deriving DecidableEq, Repr

namespace Responder

/-- The id of the provider. -/
def id (r : Responder) : Uuid := r.app.instanceId

/-- The id as the balancers know it. -/
def key (r : Responder) : String := r.id.toText

/-- Whether the provider takes calls. -/
def isServing (r : Responder) : Bool := r.status == .serving

/-- Whether calls go through another broker. -/
def isRemote (r : Responder) : Bool :=
  match r.route with
  | .peer _ => true
  | .direct _ => false

/-- The link of a provider that is connected here. -/
def link? (r : Responder) : Option LinkId :=
  match r.route with
  | .direct link => some link
  | .peer _ => none

/-- Whether a service is exposed. -/
def exposes (r : Responder) (l : Locator) : Bool := r.services.contains l

/-- The services of a list that are not exposed yet, each once. -/
def missing (r : Responder) : List Locator → List Locator
  | [] => []
  | l :: rest =>
      if r.exposes l then r.missing rest
      else l :: (r.missing rest).filter (· ≠ l)

/-- Exposes services.  Gives those that were not exposed before. -/
def addServices (r : Responder) (ls : List Locator) : List Locator × Responder :=
  (r.missing ls, { r with services := r.services ++ r.missing ls })

/-- The services of a list that are exposed, each once. -/
def present (r : Responder) (ls : List Locator) : List Locator := (ls.filter r.exposes).eraseDups

/-- Withdraws services, all of them if none is listed.  Gives those withdrawn. -/
def removeServices (r : Responder) (ls : List Locator) : List Locator × Responder :=
  let gone := if ls.isEmpty then r.services else r.present ls
  (gone, { r with services := r.services.filter fun l => !gone.contains l })

/-- The form in which a responder is shown to developers. -/
def debugText (r : Responder) (links : Links) : String :=
  let route := match r.route with
    | .direct link =>
        "Direct \x7b connection_id: " ++ toString link.number ++ ", uri: "
          ++ Text.quoted (links.uriOf link) ++ " \x7d"
    | .peer uri => "Peer \x7b broker_uri: " ++ Text.quoted uri ++ " \x7d"
  "ServiceResponder \x7b instance_id: " ++ r.id.toText ++ ", app: " ++ Text.quoted r.app.name
    ++ ", status: " ++ r.status.debugText ++ ", handle: " ++ route ++ ", .. \x7d"

end Responder

end ServiceMesh
