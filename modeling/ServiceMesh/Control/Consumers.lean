import ServiceMesh.Event
import ServiceMesh.Routes.Table

/-!
# Consumers of control events

What a broker does when it hears a control event.  Each consumer is idempotent: to
hear an event twice leaves what hearing it once leaves.

An exposure through the broker itself is ignored, so that no provider is ever reached
by relaying to ourselves.  A provider that is known through another broker moves when
it is exposed through a new one; one that is connected here stays.
-/

namespace ServiceMesh

/-- What the consumers of a broker keep beside the route table. -/
structure Consumers where
  /-- The name to which settings must be addressed. -/
  localApp : String
  /-- Where this broker is reached. -/
  selfUri : Option String := none
  /-- The settings. -/
  config : Dict String String := .empty
  /-- The ports of providers. -/
  ports : Dict Uuid (TextMap UInt16) := .empty

/-! ## Settings -/

/-- Drops settings, all of them if none is named. -/
def dropSettings (config : Dict String String) (keys : List String) : Dict String String :=
  if keys.isEmpty then .empty else keys.foldl Dict.erase config

/-! ## Exposure -/

/-- Whether a known provider is now reached through another broker than before. -/
def isRelocated (r : Responder) (brokerUri : String) : Bool :=
  match r.route with
  | .peer uri => uri != brokerUri
  | .direct _ => false

/-- A provider that is only known through another broker. -/
def remoteResponder (id : Uuid) (appName brokerUri : String) : Responder where
  app := { instanceId := id, name := appName, ip := "" }
  route := .peer brokerUri

/-- Has a provider serve that is known, or reached through a broker. -/
def applyExposed (selfUri : Option String) (id : Uuid) (appName : String)
    (services : List Locator) (brokerUri : Option String) (t : RouteTable) :
    RouteTable × List RouteChange :=
  if brokerUri.isSome ∧ brokerUri = selfUri then (t, [])
  else match t.get? id, brokerUri with
    | some known, some uri =>
        if isRelocated known uri then
          let (_, t, gone) := t.remove id
          let (_, t, changes) := t.expose (remoteResponder id appName uri) services
          (t, gone ++ changes)
        else (t.expose known services).2
    | some known, none => (t.expose known services).2
    | none, some uri => (t.expose (remoteResponder id appName uri) services).2
    | none, none => (t, [])

/-! ## All events -/

/-- What an event does to the settings, the ports and the route table.  Endpoint sets
are kept elsewhere. -/
def Consumers.apply (event : Event) (c : Consumers) (t : RouteTable) :
    Consumers × RouteTable × List RouteChange :=
  match event with
  | .servicesExposed id appName services brokerUri =>
      (c, applyExposed c.selfUri id appName services brokerUri t)
  | .servicesHidden id _ services => (c, (t.hide id services).2)
  | .appStatusChanged id _ status =>
      (if status = .stopped then { c with ports := c.ports.erase id } else c,
        (t.setStatus id status).2)
  | .configChanged appName key value =>
      (if Event.addresses appName c.localApp then { c with config := c.config.insert key value }
        else c, t, [])
  | .portsUpdated id ports => ({ c with ports := c.ports.insert id ports }, t, [])
  | .cacheInvalidate appName keys =>
      (if (appName.map (Event.addresses · c.localApp)).getD true then
          { c with config := dropSettings c.config keys }
        else c, t, [])
  | .clusterChanged .. => (c, t, [])

/-- What the consumers ask of their surroundings. -/
structure ConsumerHost (m : Type → Type u) where
  /-- Acts on the consumers and the route table in one section. -/
  atomically : (Consumers → RouteTable → Consumers × RouteTable × List RouteChange) → m Unit
  /-- Sets the addresses of a destination. -/
  refresh : String → List String → m Unit

/-- Takes in an event. -/
def ConsumerHost.consume (h : ConsumerHost m) : Event → m Unit
  | .clusterChanged destination uris => h.refresh destination uris
  | event => h.atomically (Consumers.apply event)

end ServiceMesh
