import ServiceMesh.Fault
import ServiceMesh.Gossip.Peers
import ServiceMesh.Routes.Table
import ServiceMesh.Text.Class

/-!
# The broker and its providers

A broker takes in providers over links.  A provider that comes again over another
link, or that was known through another broker, is replaced; when its link closes, it
is removed, unless it has moved to a newer link.  Whatever happens to providers that
are connected here is told to the other brokers.

When a broker joins the cluster, the routes of this broker are replayed to it.  When a
broker departs, the routes through it are pruned.
-/

namespace ServiceMesh

/-- Where a broker is in its life. -/
inductive Health where
  | starting
  | ready
  | draining
  | stopped
deriving DecidableEq, Repr

/-- The name of a state of health. -/
def Health.name : Health → String
  | starting => "Starting"
  | ready => "Ready"
  | draining => "Draining"
  | stopped => "Stopped"

/-- What a broker asks of its surroundings. -/
structure BrokerHost (m : Type → Type u) where
  /-- Where the broker is reached. -/
  uri : String
  /-- Acts on the route table in one section. -/
  routes : {α : Type} → (RouteTable → α × RouteTable × List RouteChange) → m α
  /-- Publishes an event to itself and to all members. -/
  publish : Event → m Unit
  /-- Sends an event to one broker. -/
  sendTo : String → Event → m (Except Fault Unit)
  /-- The address to which a link was opened. -/
  linkUri : LinkId → m String
  /-- Sees to it that a provider is disconnected when its link closes. -/
  watch : Uuid → LinkId → m Unit

namespace Broker

/-- Why the first frame of a provider is refused. -/
def refusal (setup : Setup) : Option String :=
  if Text.isBlank setup.app.name then some "empty application name"
  else if setup.app.instanceId.isNil then some "nil instance id"
  else none

/-- Whether a known responder gives way to a provider that connects over a link. -/
def givesWay (r : Responder) (link : LinkId) : Bool := r.link? != some link

/-- Puts a provider that connects into the route table. -/
def takeIn (setup : Setup) (link : LinkId) (t : RouteTable) :
    Responder × RouteTable × List RouteChange :=
  let id := setup.app.instanceId
  let (t, gone) := match t.get? id with
    | some previous => if givesWay previous link then (t.remove id).2 else (t, [])
    | none => (t, [])
  let responder : Responder := { app := setup.app, route := .direct link }
  let (current, t, changes) :=
    if setup.services.isEmpty then t.register responder [] else t.expose responder setup.services
  (current, t, gone ++ changes)

/-- Removes a provider whose link closed, if it still stands on that link. -/
def dismiss (id : Uuid) (link : LinkId) (t : RouteTable) :
    Option Responder × RouteTable × List RouteChange :=
  match t.get? id with
  | some r => if r.link? = some link then t.remove id else (none, t, [])
  | none => (none, t, [])

/-- A provider that is connected here. -/
def local? (id : Uuid) (t : RouteTable) : Option Responder :=
  (t.get? id).filter fun r => !r.isRemote

/-- The fault of a provider that is not connected here. -/
def notHere (id : Uuid) : Fault := .internal ("provider " ++ id.toText ++ " is not connected here")

/-- The exposure of services of a provider that is connected here. -/
def exposure (uri : String) (r : Responder) (services : List Locator) : Event :=
  .servicesExposed r.id r.app.name services (some uri)

/-- What is told about a provider to a broker that joins: its services, and whether it
is down. -/
def replayOf (uri : String) (r : Responder) : List Event :=
  exposure uri r r.services
    :: (if r.status = .down then [.appStatusChanged r.id r.app.name .down] else [])

/-- What a responder is now, if it is still reached as it was, is connected here, and
exposes something. -/
def current? (r : Responder) (t : RouteTable) : Option Responder :=
  (t.get? r.id).filter fun now => now.route = r.route && !now.isRemote && !now.services.isEmpty

/-- The responders that are reached through a broker. -/
def through (uri : String) (t : RouteTable) : List Uuid :=
  (t.responders.filter fun r => r.route = .peer uri).map Responder.id

/-- Removes responders. -/
def removeAll : List Uuid → RouteTable → RouteTable × List RouteChange
  | [], t => (t, [])
  | id :: rest, t =>
      let (_, t, gone) := t.remove id
      let (t, more) := removeAll rest t
      (t, gone ++ more)

/-- Removes every responder that is reached through a broker, and counts them. -/
def pruneSection (uri : String) (t : RouteTable) : Nat × RouteTable × List RouteChange :=
  let stale := through uri t
  (stale.length, removeAll stale t)

end Broker

namespace BrokerHost

open Broker

variable {m : Type → Type u} [Monad m]

/-- Reads the route table. -/
def readRoutes (h : BrokerHost m) (f : RouteTable → α) : m α := h.routes fun t => (f t, t, [])

/-- Takes in a provider over a link. -/
def connect (h : BrokerHost m) (setup : Setup) (link : LinkId) : m (Except Fault Responder) := do
  match refusal setup with
  | some reason => return .error (.handshakeFailed (← h.linkUri link) reason)
  | none => do
      let responder ← h.routes (takeIn setup link)
      h.watch responder.id link
      if !setup.services.isEmpty then h.publish (exposure h.uri responder setup.services)
      return .ok responder

/-- Removes a provider whose link closed.  Says whether one was removed. -/
def disconnect (h : BrokerHost m) (id : Uuid) (link : LinkId) : m Bool := do
  match ← h.routes (dismiss id link) with
  | none => return false
  | some r =>
      h.publish (.appStatusChanged id r.app.name .stopped)
      return true

/-- Acts on a provider that is connected here, and tells the others. -/
def withLocal (h : BrokerHost m) (id : Uuid)
    (act : Responder → RouteTable → Event × RouteTable × List RouteChange) :
    m (Except Fault Unit) := do
  let event ← h.routes fun t =>
    match local? id t with
    | some r =>
        let (event, t, changes) := act r t
        (some event, t, changes)
    | none => (none, t, [])
  match event with
  | none => return .error (notHere id)
  | some event => do
      h.publish event
      return .ok ()

/-- Has a provider serve services. -/
def expose (h : BrokerHost m) (id : Uuid) (services : List Locator) : m (Except Fault Unit) :=
  h.withLocal id fun r t =>
    let (current, t, changes) := t.expose r services
    (exposure h.uri current services, t, changes)

/-- Withdraws services of a provider, all of them if none is listed. -/
def hide (h : BrokerHost m) (id : Uuid) (services : List Locator) : m (Except Fault Unit) :=
  h.withLocal id fun r t =>
    (.servicesHidden id r.app.name services, (t.hide id services).2)

/-- Sets the status of a provider. -/
def setStatus (h : BrokerHost m) (id : Uuid) (status : AppStatus) : m (Except Fault Unit) :=
  h.withLocal id fun r t =>
    (.appStatusChanged id r.app.name status, (t.setStatus id status).2)

/-- Sends events to a broker, as long as it takes them. -/
def sendAll (h : BrokerHost m) (peerUri : String) : List Event → m Bool
  | [] => return true
  | event :: rest => do
      match ← h.sendTo peerUri event with
      | .ok () => h.sendAll peerUri rest
      | .error _ => return false

/-- Tells a broker about providers, as long as it listens, and counts those that it was
told about.  A provider that withdrew everything or moved in the meantime is passed
over. -/
def replayAll (h : BrokerHost m) (peerUri : String) : List Responder → m Nat
  | [] => return 0
  | r :: rest => do
      match ← h.readRoutes (current? r) with
      | none => h.replayAll peerUri rest
      | some now =>
          if ← h.sendAll peerUri (replayOf h.uri now) then
            return (← h.replayAll peerUri rest) + 1
          else return 0

/-- Tells a broker about every provider that is connected here. -/
def replay (h : BrokerHost m) (peerUri : String) : m Nat := do
  h.replayAll peerUri (← h.readRoutes RouteTable.responders)

/-- Removes every responder that is reached through a broker. -/
def prune (h : BrokerHost m) (uri : String) : m Nat := h.routes (pruneSection uri)

/-- Follows a change of the members: replays to a broker that joined, and prunes what
was reached through one that departed. -/
def follow (h : BrokerHost m) : MembershipChange → m Unit
  | .added info => do
      let _ ← h.replay info.url
  | .removed info _ => do
      let _ ← h.prune info.url

end BrokerHost

end ServiceMesh
