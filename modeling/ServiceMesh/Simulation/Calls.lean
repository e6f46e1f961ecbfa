import ServiceMesh.Simulation.Views
import ServiceMesh.Simulation.Wiring

/-!
# Calls in a world

A `Call` names the link, router, broker or pool over which somebody calls.  `Call.run`
looks the name up, makes the call, and shows the result.
-/

namespace ServiceMesh

open Document (text texts flag bytes list record ofExcept)

/-! ## Results -/

/-- The result of something that is told to nobody in particular. -/
def Document.ok : Document := text "ok"

/-- The answer to a name that stands for nothing. -/
def Document.unknownName : Document := .failure "bad_input" none

/-- A result without a value. -/
def viewDone : Except Fault Unit → Document := ofExcept Fault.toDocument fun () => .ok

/-- A reply. -/
def viewReply : Except Fault Payload → Document := ofExcept Fault.toDocument Payload.toDocument

/-- The items of a stream, each as its data. -/
def viewItems (items : List (Except Fault Payload)) : Document :=
  record [("items", list (items.map (ofExcept Fault.toDocument fun p => bytes p.data)))]

/-- What changed when addresses were set. -/
def viewSummary (s : RefreshSummary) : Document :=
  record [("added", texts s.added), ("removed", texts s.removed), ("rejected", texts s.rejected),
    ("unchanged", flag s.isUnchanged)]

/-! ## Names -/

namespace World

/-- The pool that a name stands for. -/
def findPool? (w : World) : PoolName → Option Nat
  | .own name => w.pools.find? name
  | .ofFleet fleet destination => (w.fleets.named? fleet).bind fun f => f.get? destination
  | .ofBroker broker destination =>
      (w.brokers.named? broker).bind fun b =>
        (w.fleets.get? b.fleet).bind fun f => f.get? (destination.getD brokerDestination)

/-- Gives a link a name, if one is asked for. -/
def nameLink (name : Option String) (link : LinkId) (w : World) : World :=
  match name with
  | some name => { w with conns := w.conns.insert name link }
  | none => w

/-- The link of a stream that closed, the one nearest to the caller if there are
several. -/
def brokenLink? (links : List LinkId) (w : World) : Option LinkId :=
  links.find? w.network.links.isClosed

end World

/-- Acts on something that has a name. -/
def withNamed (find : World → Option α) (use : α → Proc Document) : Proc Document := do
  match ← Process.readWorld find with
  | some x => use x
  | none => return .unknownName

/-! ## Calls -/

/-- Waits for all items of a stream.  A stream that never ends by itself ends when a
link under it closes. -/
def collect (r : Replies) : Proc (List (Except Fault Payload)) := do
  if r.endless then
    Process.awaitWorld fun w => (w.brokenLink? r.links).isSome
    let closed ← Process.readWorld fun w =>
      ((w.brokenLink? r.links).map w.network.links.uriOf).getD ""
    return r.items ++ [.error (.connectionClosed closed)]
  else return r.items

/-- Shows the items of a stream. -/
def viewStream : Except Fault Replies → Proc Document
  | .ok r => do return viewItems (← collect r)
  | .error fault => return fault.toDocument

/-- Calls over a link. -/
def callLink (w : Wire Proc) (link : LinkId) (p : Payload) : Mode → Proc Document
  | .response => do return viewReply (← w.request link p)
  | .forget => do return viewDone (← w.send link p)
  | .stream => do viewStream (← w.stream link p)

/-- Calls through a router. -/
def callRouter (h : RouterHost Proc) (p : Payload) : Mode → Proc Document
  | .response => do return viewReply (← h.request p)
  | .forget => do return viewDone (← h.send p)
  | .stream => do viewStream (← h.stream p)

/-- Shows a link, and gives it a name. -/
def presentLink (conn : Option String) (view : World → LinkId → Document) :
    Except Fault LinkId → Proc Document
  | .error fault => return fault.toDocument
  | .ok link => do
      Process.modifyWorld (World.nameLink conn link)
      Process.readWorld fun w => view w link

/-- Acts on a pool. -/
def withPool (transports : List Transport) (name : PoolName)
    (use : PoolHost Proc → Proc Document) : Proc Document :=
  withNamed (World.findPool? · name) fun ref =>
    use (poolHost transports (fullWire transports) ref)

/-- Makes a call, and shows the result. -/
def Call.run (transports : List Transport) : Call → Proc Document
  | .overLink conn mode p =>
      withNamed (·.conns.get? conn) fun link => callLink (fullWire transports) link p mode
  | .throughRouter router mode p =>
      withNamed (·.routers.find? router) fun ref =>
        withRouter transports (fullWire transports) ref fun h => callRouter h p mode
  | .throughBroker broker mode p =>
      withNamed (·.brokers.named? broker) fun b =>
        withRouter transports (fullWire transports) b.router fun h => callRouter h p mode
  | .pool name p fingerprint =>
      withPool transports name fun h => do return viewReply (← h.request p fingerprint)
  | .poolTo name uri p =>
      withPool transports name fun h => do return viewReply (← h.requestTo uri p)
  | .broadcast name p => withPool transports name fun h => do
      return list ((← h.broadcast p).map fun r => list [text r.1, viewDone r.2])
  | .connection name fingerprint conn => withPool transports name fun h => do
      match ← h.connection fingerprint with
      | .error fault => return fault.toDocument
      | .ok (uri, link) =>
          presentLink conn (fun w id => record [("uri", text uri), ("conn", w.viewLink id)])
            (.ok link)
  | .connectionTo name uri conn => withPool transports name fun h => do
      presentLink conn World.viewLink (← h.connectionTo uri)
  | .retry name => withPool transports name fun h => do return texts (← h.retry)
  | .refresh name uris => withPool transports name fun h => do return viewSummary (← h.refresh uris)

end ServiceMesh
