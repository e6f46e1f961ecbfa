import ServiceMesh.Simulation.World

/-!
# How the parts of a world are connected

Each part of the mesh is written against what it asks of its surroundings.  Here the
surroundings are the objects of a world: a section of a part is one section on the
world, and a call over a link runs the handler at the other end, raced against the
closing of the link.

A handler may itself make calls, whose handlers may make calls again.  `wire` counts
how deep calls may be nested.
-/

namespace ServiceMesh

namespace Proc

/-- One section on the network. -/
def onNetwork (f : Network Handler → α × Network Handler) : Proc α :=
  Process.onWorld fun w => ((f w.network).1, { w with network := (f w.network).2 })

/-- Reads the links. -/
def readLinks (f : Links → α) : Proc α := Process.readWorld fun w => f w.network.links

/-- Runs something, and takes its time to be nothing. -/
def untimed (body : Proc α) : Proc (α × Float) := do return (← body, 0.0)

end Proc

/-- Opens links in a world. -/
def dialer : Dialer Proc Handler where
  atomically := Proc.onNetwork
  sleep := Process.sleep

/-! ## Pools -/

/-- One section on a pool and the links. -/
def onPool (ref : Nat) (f : Pool → Links → α × Pool × Links) : Proc α :=
  Process.onWorld fun w =>
    let (a, pool, links) := f ((w.pools.get? ref).map (·.pool) |>.getD default) w.network.links
    (a, { w with
      pools := w.pools.modify ref fun o => { o with pool := pool }
      network := { w.network with links := links } })

/-- Stands in line for the addresses of a pool. -/
def joinLine (ref : Nat) (w : World) : Nat × World :=
  (((w.pools.get? ref).map (·.nextTicket)).getD 0, { w with
    pools := w.pools.modify ref fun o =>
      { o with line := o.line ++ [o.nextTicket], nextTicket := o.nextTicket + 1 } })

/-- Leaves the line. -/
def leaveLine (ref ticket : Nat) (w : World) : World :=
  { w with pools := w.pools.modify ref fun o => { o with line := o.line.filter (· ≠ ticket) } }

/-- Whether a ticket is the first in the line. -/
def isFirst (ref ticket : Nat) (w : World) : Bool :=
  ((w.pools.get? ref).bind fun o => o.line.head?) == some ticket

/-- Runs something when it is its turn to change the addresses of a pool. -/
def inLine (ref : Nat) (body : Proc α) : Proc α :=
  Fiber.step (fun m => ((joinLine ref m.world).1, { m with world := (joinLine ref m.world).2 }))
    fun ticket =>
      Fiber.guarding (Machine.mapWorld (leaveLine ref ticket))
        (Fiber.await (fun m => isFirst ref ticket m.world) body)

/-- The surroundings of a pool. -/
def poolHost (transports : List Transport) (wire : Wire Proc) (ref : Nat) : PoolHost Proc where
  wire := wire
  atomically := onPool ref
  resolves := resolves transports
  exclusively := inLine ref
  draw := .done {}
  timed := Proc.untimed

/-- The addresses that a directory has for a name. -/
def lookup (directory : Option Nat) (name : String) : Proc (Option (List String)) :=
  Process.readWorld fun w => (directory.bind w.directories.get?).bind fun d => d.lookup name

/-- The pool of a destination, made if there is none. -/
def poolOf (fleet : Nat) (destination : String) (w : World) : Nat × World :=
  match w.fleets.get? fleet with
  | none => (w.pools.next, w)
  | some f =>
      match f.get? destination with
      | some ref => (ref, w)
      | none =>
          let (ref, pools) := w.pools.add { pool := Pool.new destination f.settings }
          (ref, { w with pools := pools, fleets := w.fleets.set fleet (f.add destination ref) })

/-- The references of all pools of a fleet. -/
def poolsOf (fleet : Nat) (w : World) : List Nat :=
  ((w.fleets.get? fleet).map fun f => f.pools.values).getD []

/-- One pass over all pools of a fleet. -/
def upkeepFleet (transports : List Transport) (wire : Wire Proc) (fleet : Nat)
    (directory : Option Nat) : Proc Unit := do
  let refs ← Process.readWorld (poolsOf fleet)
  upkeepAll (lookup directory) (refs.map (poolHost transports wire))

/-- Closes all pools of a fleet. -/
def closeFleet (fleet : Nat) : Proc Unit :=
  Process.modifyWorld fun w =>
    (poolsOf fleet w).foldl (fun w ref =>
      match w.pools.get? ref with
      | none => w
      | some o =>
          let (pool, links) := o.pool.close w.network.links
          { w with
            pools := w.pools.set ref { o with pool := pool }
            network := { w.network with links := links } }) w

/-! ## Routes -/

/-- Writes changes of a table down, and tells them to the balancer that watches. -/
def tell (ref : Nat) (table : RouteTable) (changes : List RouteChange) (w : World) : World :=
  match w.tables.get? ref with
  | none => w
  | some o =>
      { w with
        tables := w.tables.set ref { o with table := table, history := o.history ++ changes }
        routers := match o.watcher with
          | none => w.routers
          | some router => w.routers.modify router fun r =>
              { r with router := { r.router with
                balancer := changes.foldl Balancer.observe r.router.balancer } } }

/-- A route table. -/
def tableOf (ref : Nat) (w : World) : RouteTable :=
  ((w.tables.get? ref).map (·.table)).getD {}

/-- One section on a route table. -/
def onTable (ref : Nat) (f : RouteTable → α × RouteTable × List RouteChange) : Proc α :=
  Process.onWorld fun w =>
    let (a, table, changes) := f (tableOf ref w)
    (a, tell ref table changes w)

/-- One section on a router, with its table in sight. -/
def onRouter (ref : Nat) (f : Router → RouteTable → α × Router) : Proc α :=
  Process.onWorld fun w =>
    match w.routers.get? ref with
    | none => ((f default {}).1, w)
    | some o =>
        let (a, router) := f o.router (tableOf o.table w)
        (a, { w with routers := w.routers.set ref { o with router := router } })

/-- The surroundings of a router. -/
def routerHost (transports : List Transport) (wire : Wire Proc) (ref : Nat)
    (peers : Option Nat) : RouterHost Proc where
  wire := wire
  atomically := onRouter ref
  peers := peers.map (poolHost transports wire)
  draw := .done {}
  timed := Proc.untimed

/-- Routes a call as it is wanted. -/
def withRouter (transports : List Transport) (wire : Wire Proc) (ref : Nat)
    (use : RouterHost Proc → Proc α) : Proc α := do
  let peers ← Process.readWorld fun w => (w.routers.get? ref).bind (·.peers)
  use (routerHost transports wire ref peers)

/-! ## Events -/

/-- One section on a bus. -/
def onBus (ref : Nat) (f : BusObject → BusObject) : Proc Unit :=
  Process.modifyWorld fun w => { w with buses := w.buses.modify ref f }

/-- The surroundings of the consumers of a bus. -/
def consumerHost (transports : List Transport) (wire : Wire Proc) (bus : Nat)
    (consumers : ConsumerObject) : ConsumerHost Proc where
  atomically := fun f => Process.modifyWorld fun w =>
    let state := (((w.buses.get? bus).bind (·.consumers)).map (·.state)).getD consumers.state
    let (state, table, changes) := f state (tableOf consumers.table w)
    let w := tell consumers.table table changes w
    { w with buses := w.buses.modify bus fun o =>
        { o with consumers := some { consumers with state := state } } }
  refresh := fun destination uris => do
    let pool ← Process.onWorld (poolOf consumers.fleet destination)
    let _ ← (poolHost transports wire pool).refresh uris

/-- What a handler of a bus does with an event. -/
def runHandler (transports : List Transport) (wire : Wire Proc) (bus : Nat) :
    EventHandler → Event → Proc Unit
  | .note tag, event => onBus bus fun o => { o with log := o.log ++ [(tag, event)] }
  | .consume, event => do
      match ← Process.readWorld fun w => (w.buses.get? bus).bind (·.consumers) with
      | some consumers => (consumerHost transports wire bus consumers).consume event
      | none => pure ()

/-- The surroundings of a bus, with a way to broadcast. -/
def busHost (transports : List Transport) (wire : Wire Proc)
    (broadcast : Broadcaster → Envelope → Proc Unit) (ref : Nat) :
    BusHost Proc EventHandler Broadcaster where
  bus := Process.readWorld fun w => ((w.buses.get? ref).map (·.bus)).getD { source := "" }
  run := runHandler transports wire ref
  broadcast := broadcast
  stamp := .done (.nil, UInt64.ofNat timeOfDay)

/-- Handles an envelope on a bus. -/
def dispatchOn (transports : List Transport) (wire : Wire Proc) (ref : Nat)
    (envelope : Envelope) : Proc Nat :=
  (busHost transports wire (fun _ _ => .done ()) ref).dispatch envelope

/-! ## Gossip -/

/-- One section on a membership and the links. -/
def onNode (ref : Nat) (f : Membership → Links → α × Membership × Links) (default : α) : Proc α :=
  Process.onWorld fun w =>
    match w.nodes.get? ref with
    | none => (default, w)
    | some o =>
        let (a, membership, links) := f o.membership w.network.links
        (a, { w with
          nodes := w.nodes.set ref { o with membership := membership }
          network := { w.network with links := links } })

/-- A membership that stands for one that is missing. -/
def nobody : Membership := .new ⟨"", "", "", none, 0, 0, 0, 0⟩ {}

/-- Takes in a control event that a node received. -/
def deliverAt (transports : List Transport) (wire : Wire Proc) (ref : Nat)
    (envelope : Envelope) : Proc Unit := do
  match ← Process.readWorld fun w => ((w.nodes.get? ref).map (·.sink)).getD .nowhere with
  | .nowhere => pure ()
  | .recorder => Process.modifyWorld fun w =>
      { w with nodes := w.nodes.modify ref fun o => { o with events := o.events ++ [envelope] } }
  | .bus bus => do
      let _ ← dispatchOn transports wire bus envelope

/-- The surroundings of a membership. -/
def gossipHost (transports : List Transport) (wire : Wire Proc) (ref : Nat)
    (pool directory : Option Nat) : GossipHost Proc where
  wire := wire
  atomically := fun f => onNode ref f (f nobody {}).1
  pool := pool.map (poolHost transports wire)
  lookup := lookup directory
  deliver := deliverAt transports wire ref
  clock := .done timeOfDay

/-- Does something with the membership of a node. -/
def withNode (transports : List Transport) (wire : Wire Proc) (ref : Nat)
    (use : GossipHost Proc → Proc α) : Proc α := do
  let parts ← Process.readWorld fun w =>
    ((w.nodes.get? ref).map fun o => (o.pool, o.directory)).getD (none, none)
  use (gossipHost transports wire ref parts.1 parts.2)

/-- Sends what a bus publishes. -/
def broadcastFrom (transports : List Transport) (wire : Wire Proc) (bus : Nat) :
    Broadcaster → Envelope → Proc Unit
  | .recorder, envelope => onBus bus fun o => { o with sent := o.sent ++ [envelope] }
  | .members node, envelope => withNode transports wire node fun h => h.broadcast envelope

/-- Publishes an event on a bus. -/
def publishOn (transports : List Transport) (wire : Wire Proc) (bus : Nat) (event : Event) :
    Proc Envelope :=
  (busHost transports wire (broadcastFrom transports wire bus) bus).publish event

/-! ## Brokers -/

/-- The surroundings of a broker. -/
def brokerHost (transports : List Transport) (wire : Wire Proc) (ref : Nat)
    (b : BrokerObject) : BrokerHost Proc where
  uri := b.info.url
  routes := onTable b.table
  publish := fun event => do
    let _ ← publishOn transports wire b.bus event
  sendTo := fun uri event =>
    withNode transports wire b.node fun h =>
      h.sendEvent uri (Envelope.wrap .nil (UInt64.ofNat timeOfDay) b.info.id event)
  linkUri := fun link => Proc.readLinks fun links => links.uriOf link
  watch := fun id link => do
    let _ ← Process.launch (Job.watch ref id link)

/-- A broker that somebody still holds. -/
def liveBroker? (ref : Nat) (w : World) : Option BrokerObject :=
  (w.brokers.get? ref).filter (·.alive)

/-! ## Endpoints -/

/-- What a call says if it is gossip: a message, or that it cannot be read. -/
def gossipOf (p : Payload) : Option (Except Fault GossipMessage) :=
  match Composite.decode p.metadata with
  | .error _ => none
  | .ok c =>
      if c.isGossip then
        some (match GossipMessage.ofPayload p with
          | some message => .ok message
          | none => .error (.codec "malformed gossip message"))
      else none

/-- The fault of a broker that nobody holds any more. -/
def brokerGone : Fault := .remote "broker stopped"

/-- Answers a call at a broker: gossip by its membership, everything else by its
router. -/
def answerAtBroker (transports : List Transport) (wire : Wire Proc) (ref : Nat) (p : Payload)
    (gossip : Except Fault Payload → Except Fault α)
    (route : RouterHost Proc → Payload → Proc (Except Fault α)) : Proc (Except Fault α) := do
  match ← Process.readWorld (liveBroker? ref) with
  | none => return .error brokerGone
  | some b =>
      match gossipOf p with
      | some (.ok message) =>
          return gossip (← withNode transports wire b.node fun h => h.reply message)
      | some (.error fault) => return .error fault
      | none => withRouter transports wire b.router fun h => route h p

/-- Answers a call. -/
def answer (transports : List Transport) (wire : Wire Proc) (handler : Handler) (p : Payload) :
    Proc (Except Fault Payload) :=
  match handler with
  | .reply data => .done (.ok ⟨[], data⟩)
  | .echo => .done (.ok p)
  | .sleep ms data => do
      Process.sleep ms
      return .ok ⟨[], data⟩
  | .fail fault => .done (.error fault)
  | .stream .. => .done (.ok {})
  | .node ref => withNode transports wire ref fun h => h.answer p
  | .broker ref => answerAtBroker transports wire ref p id RouterHost.request

/-- A result without its value. -/
def forgetValue : Except Fault α → Except Fault Unit
  | .ok _ => .ok ()
  | .error fault => .error fault

/-- Takes a call that wants no reply. -/
def accept (transports : List Transport) (wire : Wire Proc) (handler : Handler) (p : Payload) :
    Proc (Except Fault Unit) :=
  match handler with
  | .broker ref => answerAtBroker transports wire ref p forgetValue RouterHost.send
  | other => do return forgetValue (← answer transports wire other p)

/-- Answers a call that wants a stream of replies. -/
def answerStream (transports : List Transport) (wire : Wire Proc) (handler : Handler)
    (p : Payload) : Proc (Except Fault Replies) :=
  match handler with
  | .stream items fault endless =>
      .done (.ok {
        items := items.map (fun data => .ok ⟨[], data⟩) ++ (fault.map .error).toList
        endless := endless
        links := [] })
  | .broker ref => do
      match ← Process.readWorld (liveBroker? ref) with
      | none => return .error brokerGone
      | some b => withRouter transports wire b.router fun h => h.stream p
  | _ => .done (.error (.remote "request-stream not supported"))

/-! ## Calls over links -/

/-- Whether an endpoint writes down a call.  Nodes and brokers keep no such list, and a
call for a stream goes past an endpoint that has none. -/
def Handler.notes : Handler → Mode → Bool
  | node _, _ => false
  | broker _, _ => false
  | stream .., _ => true
  | _, mode => mode != .stream

/-- Writes down what arrives at an endpoint. -/
def noteArrival (name : String) (handler : Handler) (mode : Mode) (p : Payload) : Proc Unit :=
  if handler.notes mode then
    Process.modifyWorld fun w =>
      { w with received := w.received.insert name (w.received.getD name [] ++ [p]) }
  else pure ()

/-- What comes back over a link to the outside: the call itself, unless the link is
closed. -/
def echoed (uri : String) (isClosed : Bool) (p : Payload) : Except Fault Payload :=
  if isClosed then .error (.connectionClosed uri) else .ok p

/-- Calls over a link.  A call that is under way when the link closes fails. -/
def callOver (link : LinkId) (mode : Mode) (p : Payload)
    (inside : Handler → Proc (Except Fault α))
    (outside : Except Fault Payload → Except Fault α) : Proc (Except Fault α) := do
  match ← Process.readWorld fun w => w.network.farEnd link with
  | .closed uri => return .error (.connectionClosed uri)
  | .outside uri isClosed => return outside (echoed uri isClosed p)
  | .endpoint name handler uri =>
      Fiber.race
        (do
          noteArrival name handler mode p
          inside handler)
        (Process.awaitWorld fun w => w.network.links.isClosed link)
        fun
          | .inl result => .done result
          | .inr () => .done (.error (.connectionClosed uri))

/-- Replies that come over one more link. -/
def Replies.across (r : Replies) (link : LinkId) : Replies := { r with links := link :: r.links }

/-- Limits the time of something. -/
def limited (ms : Nat) (body : Proc α) : Proc (Option α) := Process.within ms body

/-- The links of a world, with calls nested up to a depth. -/
def wire (transports : List Transport) : Nat → Wire Proc
  | 0 => {
      openLink := openLink dialer transports
      request := fun _ _ => .done (.error (.internal "calls are nested too deep"))
      send := fun _ _ => .done (.error (.internal "calls are nested too deep"))
      stream := fun _ _ => .done (.error (.internal "calls are nested too deep"))
      within := limited
      all := Fiber.all }
  | depth + 1 =>
      let inner := wire transports depth
      { openLink := openLink dialer transports
        request := fun link p => callOver link .response p (answer transports inner · p) id
        send := fun link p => callOver link .forget p (accept transports inner · p) forgetValue
        stream := fun link p => do
          let result ← callOver link .stream p (answerStream transports inner · p)
            fun reply => .ok ⟨[reply], false, []⟩
          return result.map fun r => r.across link
        within := limited
        all := Fiber.all }

/-- How deep calls may be nested. -/
def callDepth : Nat := 16

/-- The links of a world. -/
def fullWire (transports : List Transport) : Wire Proc := wire transports callDepth

end ServiceMesh
