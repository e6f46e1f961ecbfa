import ServiceMesh.Simulation.Calls

/-!
# Actions on memberships

A node is a membership with an endpoint of its own, which answers gossip and nothing
else.
-/

namespace ServiceMesh

open Document (text texts ofOption)

/-- The settings of a new node. -/
structure NodeSetup where
  /-- What the broker says about itself. -/
  info : BrokerInfo
  /-- The settings of the membership. -/
  settings : MembershipSettings
  /-- What watches the other brokers, a deadline if nothing is said. -/
  detector : Option Detector := none
  /-- The pool of links between brokers. -/
  pool : Option String := none
  /-- The directory that knows more seeds. -/
  directory : Option String := none
  /-- Whether control events are written down. -/
  hasSink : Bool := true
  /-- Whether the node has an endpoint. -/
  isBound : Bool := true

/-- Something that is done with a node. -/
inductive NodeAction where
  /-- Makes a node. -/
  | create (setup : NodeSetup)
  /-- Joins the cluster. -/
  | start
  /-- One round of gossip. -/
  | round
  /-- Leaves the cluster. -/
  | leave
  /-- Removes the members that were silent for too long at a time. -/
  | detect (now : Option Nat)
  /-- Tells a scripted detector which peers are down. -/
  | script (down : List String)
  /-- Handles a message. -/
  | handle (message : GossipMessage)
  /-- Sends a control event to all members. -/
  | broadcast (envelope : Envelope)
  /-- Sends a control event to one broker. -/
  | sendEvent (uri : String) (envelope : Envelope)
  /-- Asks for a member. -/
  | member (id : String)
  /-- Only looks. -/
  | look

/-- Where a broker is bound inside the process. -/
def BrokerInfo.endpoint (b : BrokerInfo) : String := b.ip ++ ":" ++ toString b.port.toNat

/-- A new membership. -/
def NodeSetup.membership (s : NodeSetup) : Membership :=
  let m := Membership.new s.info s.settings
  match s.detector with
  | some detector => { m with detector := detector }
  | none => m

/-- Adds a node. -/
def World.addNode (name : String) (s : NodeSetup) (w : World) : World :=
  let (ref, nodes) := w.nodes.addNamed name {
    membership := s.membership
    pool := s.pool.bind w.pools.find?
    directory := s.directory.bind w.directories.find?
    sink := if s.hasSink then .recorder else .nowhere }
  { w with
    nodes := nodes
    network := if s.isBound then w.network.bind s.info.endpoint (.node ref) else w.network }

/-- Asks a membership. -/
def askNode (ref : Nat) (f : Membership → Document) : Proc Document :=
  withNamed (·.nodes.get? ref) fun o => .done (f o.membership)

/-- Does something with a node under a reference. -/
def NodeAction.runOn (transports : List Transport) (ref : Nat) (action : NodeAction) :
    Proc Document :=
  withNode transports (fullWire transports) ref fun h => do
    match action with
    | .create _ => return .null
    | .start => do
        h.start
        return .ok
    | .round => do
        h.round
        return .ok
    | .leave => do
        h.leave
        return .ok
    | .detect now => return texts (← h.detect (now.getD (← h.clock)))
    | .script down => do
        h.change fun m => { m with detector := m.detector.script down }
        return .ok
    | .handle message => return ofOption World.viewGossip (← h.handle message)
    | .broadcast envelope => do
        h.broadcast envelope
        return .ok
    | .sendEvent uri envelope => return viewDone (← h.sendEvent uri envelope)
    | .member id => askNode ref fun m => ofOption World.viewMember (m.peers.get? id)
    | .look => return .null

/-- Does something with a named node. -/
def NodeAction.run (transports : List Transport) (name : String) (action : NodeAction) :
    Proc Document :=
  match action with
  | .create setup => do
      Process.modifyWorld (World.addNode name setup)
      return .ok
  | action => withNamed (·.nodes.find? name) fun ref => action.runOn transports ref

end ServiceMesh
