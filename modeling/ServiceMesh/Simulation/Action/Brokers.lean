import ServiceMesh.Simulation.Action.Events
import ServiceMesh.Simulation.Action.Members
import ServiceMesh.Simulation.Action.Workers

/-!
# Actions on brokers

A broker is made of a route table, a router, a fleet of pools, a bus with consumers and
a membership.  Starting it joins the cluster and starts the background work; shutting
it down stops the background work, leaves the cluster and closes all pools.  A broker
that is dropped answers no more calls.
-/

namespace ServiceMesh

open Document (text texts flag nat list record)

/-- Something that is done with a broker. -/
inductive BrokerAction where
  /-- Makes a broker. -/
  | create (settings : Settings) (directory : Option String)
  /-- Starts it. -/
  | start
  /-- Shuts it down. -/
  | shutdown
  /-- Lets go of it. -/
  | drop
  /-- Takes in a provider over a link. -/
  | connect (conn : String) (setup : Setup)
  /-- Removes a provider that was connected over a link. -/
  | disconnect (instanceId : Uuid) (conn : String)
  /-- Has a provider serve services. -/
  | expose (instanceId : Uuid) (services : List Locator)
  /-- Withdraws services of a provider. -/
  | hide (instanceId : Uuid) (services : List Locator)
  /-- Sets the status of a provider. -/
  | setStatus (instanceId : Uuid) (status : AppStatus)
  /-- Tells a broker about all providers. -/
  | replay (uri : String)
  /-- Removes the providers that are reached through a broker. -/
  | prune (uri : String)
  /-- Publishes an event. -/
  | publish (event : Event)
  /-- Removes the members that were silent for too long at a time. -/
  | detect (now : Nat)
  /-- One round of gossip. -/
  | round
  /-- Asks for the settings. -/
  | look

/-! ## Making and dropping -/

/-- Adds a broker with its parts, and binds its endpoint. -/
def World.addBroker (name : String) (s : Settings) (directory : Option Nat) (w : World) : World :=
  let info := s.brokerInfo (s.brokerId.getD name) (UInt64.ofNat timeOfDay)
  let (table, tables) := w.tables.add { watcher := some w.routers.next }
  let (fleet, fleets) := w.fleets.add { settings := s.pools }
  let (pool, w) := poolOf fleet brokerDestination { w with tables := tables, fleets := fleets }
  let (router, routers) := w.routers.add {
    router := {
      brokerId := info.id
      balancer := .ofStrategy s.loadBalance s.exploration
      alwaysSticky := s.sticky
      callTimeoutMs := s.pools.callTimeoutMs }
    table := table
    peers := some pool }
  let (bus, buses) := w.buses.add {
    bus := { consumingBus info.id with broadcaster := some (.members w.nodes.next) }
    consumers := some {
      state := { localApp := s.appName, selfUri := some info.url }
      table := table
      fleet := fleet } }
  let (node, nodes) := w.nodes.add {
    membership := .new info s.membership
    pool := some pool
    directory := directory
    sink := .bus bus }
  let (ref, brokers) := w.brokers.addNamed name {
    info := info, settings := s, table := table, router := router, fleet := fleet, pool := pool
    bus := bus, node := node, directory := directory }
  { w with
    routers := routers, buses := buses, nodes := nodes, brokers := brokers
    network := w.network.bind info.endpoint (.broker ref) }

/-- Changes a broker. -/
def onBroker (ref : Nat) (f : BrokerObject → BrokerObject) : Proc Unit :=
  Process.modifyWorld fun w => { w with brokers := w.brokers.modify ref f }

/-- Lets go of a broker: its workers stop where they are, and it answers no more calls. -/
def dropBroker (ref : Nat) : Proc Unit := do
  let workers ← Process.readWorld fun w => (w.brokers.get? ref).bind (·.workers)
  onBroker ref fun b => { b with alive := false, workers := none }
  match workers with
  | some x => do
      dropWorker x.gossip
      dropWorker x.upkeep
  | none => pure ()

/-- Lets go of the broker that has a name, if there is one. -/
def dropNamed (name : String) : Proc Bool := do
  match ← Process.readWorld (·.brokers.find? name) with
  | some ref => do
      dropBroker ref
      Process.modifyWorld fun w => { w with brokers := w.brokers.forget name }
      return true
  | none => return false

/-! ## Life -/

/-- Starts a broker: the follower of the members first, so that it hears of those that
are found when the broker joins, then the workers. -/
def startBroker (transports : List Transport) (ref : Nat) (b : BrokerObject) : Proc Document := do
  if b.workers.isSome then
    return .failure "Lifecycle" ("broker " ++ b.info.id ++ " already started")
  else
    let position ← Process.readWorld fun w =>
      ((w.membershipOf? ref).map fun m => m.history.length).getD 0
    let follower ← Process.launch (Job.follow ref position)
    withNode transports (fullWire transports) b.node GossipHost.start
    let gossip ← startWorker "gossip" (.gossip b.node) b.settings.membership.gossipIntervalMs
    let upkeep ← startWorker "upstream-refresh" (.upkeep b.fleet b.directory)
      b.settings.pools.refreshIntervalMs
    onBroker ref fun b => { b with workers := some ⟨gossip, upkeep, follower⟩, health := .ready }
    return .ok

/-- Shuts a broker down. -/
def shutDownBroker (transports : List Transport) (ref : Nat) (b : BrokerObject) :
    Proc Document := do
  onBroker ref fun b => { b with health := .draining, workers := none }
  match b.workers with
  | some x => do
      (workerHost x.gossip).stop
      (workerHost x.upkeep).stop
      Process.abort x.follower
  | none => pure ()
  withNode transports (fullWire transports) b.node GossipHost.leave
  closeFleet b.fleet
  onBroker ref fun b => { b with health := .stopped }
  return .ok

/-! ## Everything else -/

/-- The settings of a broker. -/
def viewSettings (s : Settings) (info : BrokerInfo) (source : String) : Document :=
  record [("strategy", text s.loadBalance.name), ("sticky", flag s.sticky),
    ("host", text info.publicHost), ("source", text source)]

/-- Does something with a broker under a reference. -/
def BrokerAction.runOn (transports : List Transport) (ref : Nat) (b : BrokerObject)
    (action : BrokerAction) : Proc Document :=
  let host := brokerHost transports (fullWire transports) ref b
  match action with
  | .create .. => .done .null
  | .drop => .done .null
  | .start => startBroker transports ref b
  | .shutdown => shutDownBroker transports ref b
  | .connect conn setup => withNamed (·.conns.get? conn) fun link => do
      match ← host.connect setup link with
      | .ok r => Process.readWorld fun w => w.viewProvider r
      | .error fault => return fault.toDocument
  | .disconnect id conn => withNamed (·.conns.get? conn) fun link => do
      return flag (← host.disconnect id link)
  | .expose id services => do return viewDone (← host.expose id services)
  | .hide id services => do return viewDone (← host.hide id services)
  | .setStatus id status => do return viewDone (← host.setStatus id status)
  | .replay uri => do return nat (← host.replay uri)
  | .prune uri => do return nat (← host.prune uri)
  | .publish event => do
      return World.viewEnvelope (← publishOn transports (fullWire transports) b.bus event)
  | .detect now => withNode transports (fullWire transports) b.node fun h => do
      return texts (← h.detect now)
  | .round => withNode transports (fullWire transports) b.node fun h => do
      h.round
      return .ok
  | .look => Process.readWorld fun w =>
      viewSettings b.settings b.info (((w.buses.get? b.bus).map (·.bus.source)).getD "")

/-- Does something with a named broker.  A broker whose name is given again is dropped. -/
def BrokerAction.run (transports : List Transport) (name : String) (action : BrokerAction) :
    Proc Document :=
  match action with
  | .create settings directory => do
      let _ ← dropNamed name
      Process.modifyWorld fun w =>
        w.addBroker name settings (directory.bind w.directories.find?)
      return .ok
  | .drop => do return flag (← dropNamed name)
  | action =>
      withNamed (fun w => (w.brokers.find? name).bind fun ref =>
        (w.brokers.get? ref).map fun b => (ref, b)) fun b => action.runOn transports b.1 b.2

end ServiceMesh
