import ServiceMesh.Simulation.Calls

/-!
# Actions on the network

Binding endpoints, asking what they received, and opening and closing links.
-/

namespace ServiceMesh

open Document (text flag list record ofExcept)

/-- Something that is done with the network. -/
inductive NetworkAction where
  /-- Binds an endpoint. -/
  | bind (name : String) (handler : Handler)
  /-- Unbinds an endpoint. -/
  | unbind (name : String)
  /-- Asks whether an endpoint is bound. -/
  | isBound (name : String)
  /-- Asks what an endpoint received since the last time, read as gossip or not. -/
  | received (name : String) (asGossip : Bool)
  /-- Asks which transport takes an address. -/
  | resolve (uri : String)
  /-- Asks for the links over a transport to the outside. -/
  | opened (transport : String)
  /-- Opens a link and names it. -/
  | openLink (conn uri : String)
  /-- Closes a link. -/
  | closeLink (conn : String)
  /-- Looks at a link. -/
  | lookAt (conn : String)

/-- A call that arrived, read as gossip or not. -/
def viewArrival (asGossip : Bool) (p : Payload) : Document :=
  if asGossip then
    match GossipMessage.ofPayload p with
    | some message => World.viewGossip message
    | none => (Fault.codec "malformed gossip message").toDocument
  else p.toDocument

/-- Does something with the network. -/
def NetworkAction.run (transports : List Transport) : NetworkAction → Proc Document
  | bind name handler => do
      Process.modifyWorld fun w =>
        { w with network := w.network.bind name handler, received := w.received.erase name }
      return .ok
  | unbind name => Proc.onNetwork fun n => (flag (n.isBound name), n.unbind name)
  | isBound name => Process.readWorld fun w => flag (w.network.isBound name)
  | received name asGossip => Process.onWorld fun w =>
      (list ((w.received.getD name []).map (viewArrival asGossip)),
        { w with received := w.received.erase name })
  | resolve uri => .done (ofExcept Fault.toDocument
      (fun r => record [("transport", text r.2.name), ("uri", r.1.toDocument)])
      (ServiceMesh.resolve transports uri))
  | opened transport => Process.readWorld fun w =>
      list ((w.network.linksOver transport).map World.viewOutside)
  | openLink conn uri => do
      presentLink (some conn) World.viewLink (← (fullWire transports).openLink uri)
  | closeLink conn => withNamed (·.conns.get? conn) fun link => do
      Proc.onNetwork fun n => ((), n.close link)
      Process.readWorld fun w => w.viewLink link
  | lookAt conn => withNamed (·.conns.get? conn) fun link =>
      Process.readWorld fun w => w.viewLink link

end ServiceMesh
