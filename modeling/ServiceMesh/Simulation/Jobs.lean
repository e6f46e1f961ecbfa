import ServiceMesh.Simulation.Calls

/-!
# Background jobs of a world

What runs in the background: workers, which take one turn after the other; the task
with which a broker follows its members; the tasks that watch the links of providers;
and calls whose results are picked up later.  `program` says what each job does and
which job follows.
-/

namespace ServiceMesh

/-! ## Workers -/

/-- Changes a worker. -/
def World.modifyWorker (ref : Nat) (f : WorkerObject → WorkerObject) (w : World) : World :=
  { w with workers := w.workers.modify ref f }

/-- Sets the timer for the next turn of the periodic work, if it is not set. -/
def armTimer (ref : Nat) (m : Machine World Job) : Machine World Job :=
  match m.world.workers.get? ref with
  | none => m
  | some o =>
      match o.timer with
      | some _ => m
      | none =>
          let (timer, m) := m.setTimer o.worker.nextTick
          m.mapWorld (World.modifyWorker ref fun o => { o with timer := some timer })

/-- Whether the periodic work of a worker is due. -/
def tickDue (m : Machine World Job) (o : WorkerObject) : Bool :=
  match o.timer with
  | some timer => !m.isPending timer
  | none => false

/-- Whether a worker has something to do.  One that is missing has to end. -/
def hasWork (ref : Nat) (m : Machine World Job) : Bool :=
  match m.world.workers.get? ref with
  | none => true
  | some o => o.worker.hasTurn (tickDue m o)

/-- Has a worker take up the first thing that is ready. -/
def takeTurn (ref : Nat) (m : Machine World Job) :
    Option (WorkerTurn Command) × Machine World Job :=
  match m.world.workers.get? ref with
  | none => (none, m)
  | some o =>
      match o.worker.turn 0 (tickDue m o) m.now with
      | none => (none, m)
      | some (turn, worker) =>
          let timer := match turn with
            | .tick => none
            | _ => o.timer
          (some turn,
            m.mapWorld (World.modifyWorker ref fun o =>
              { o with worker := worker, timer := timer }))

/-- Whether a worker takes another command now. -/
def workerHasRoom (ref : Nat) (w : World) : Bool :=
  ((w.workers.get? ref).map fun o => o.worker.hasRoom).getD true

/-- Waits until the task of a worker is over. -/
def joinWorker (ref : Nat) : Proc Unit := do
  match ← Process.readWorld fun w => w.workers.get? ref with
  | some o => Process.joinTask o.task
  | none => pure ()

/-- Changes what a worker keeps, in one section. -/
def onWorker (ref : Nat) (f : Worker Command → Worker Command) : Proc Unit :=
  Process.modifyWorld (World.modifyWorker ref fun o => { o with worker := f o.worker })

/-- A worker of a world. -/
def workerHost (ref : Nat) : WorkerHost Proc Command where
  worker? := Process.readWorld fun w => (w.workers.get? ref).map (·.worker)
  awaitRoom := Process.awaitWorld (workerHasRoom ref)
  enqueue command := onWorker ref (·.submit command)
  askToStop := onWorker ref (·.askToStop)
  join := joinWorker ref
  awaitTurn := do
    Fiber.change (armTimer ref)
    Fiber.until_ (hasWork ref)
  take := Fiber.atomically (takeTurn ref)

/-- Counts something, if the worker is there to count. -/
def count (ref : Nat) (f : Int → Nat → Nat → Nat → Duty) : Proc Unit :=
  Process.modifyWorld (World.modifyWorker ref fun o =>
    match o.duty with
    | .counting sum commands ticks stops => { o with duty := f sum commands ticks stops }
    | _ => o)

/-- Gossips for a node. -/
def gossipTurn (transports : List Transport) (node : Nat) : Proc Unit :=
  withNode transports (fullWire transports) node GossipHost.tick

/-- Does one turn of the periodic work. -/
def runTick (transports : List Transport) (ref : Nat) : Duty → Proc Unit
  | .counting .. =>
      count ref fun sum commands ticks stops => .counting sum commands (ticks + 1) stops
  | .upkeep fleet directory => upkeepFleet transports (fullWire transports) fleet directory
  | .gossip node => gossipTurn transports node

/-- Carries a command out. -/
def runCommand (transports : List Transport) (ref : Nat) (duty : Duty) (command : Command) :
    Proc Unit :=
  match duty, command with
  | .counting .., .add n =>
      count ref fun sum commands ticks stops => .counting (sum + n) (commands + 1) ticks stops
  | .upkeep fleet directory, .upkeep .all =>
      upkeepFleet transports (fullWire transports) fleet directory
  | .upkeep fleet _, .upkeep (.unhealthy destination) => do
      match ← Process.readWorld fun w => (w.fleets.get? fleet).bind fun f => f.get? destination with
      | some pool => do
          let _ ← (poolHost transports (fullWire transports) pool).retry
      | none => pure ()
  | .gossip node, .round => gossipTurn transports node
  | _, _ => pure ()

/-- What a worker does when it stops. -/
def runStop (ref : Nat) : Duty → Proc Unit
  | .counting .. =>
      count ref fun sum commands ticks stops => .counting sum commands ticks (stops + 1)
  | .upkeep fleet _ => closeFleet fleet
  | .gossip _ => pure ()

/-- Acts on the duty of a worker, if it is there. -/
def withDuty (ref : Nat) (use : Duty → Proc Unit) : Proc Unit := do
  match ← Process.readWorld fun w => w.workers.get? ref with
  | some o => use o.duty
  | none => pure ()

/-- The work of a worker, by its duty. -/
def periodicOf (transports : List Transport) (ref : Nat) : Periodic Proc Command where
  handle command := withDuty ref fun duty => runCommand transports ref duty command
  tick := withDuty ref (runTick transports ref)
  stop := withDuty ref (runStop ref)

/-- One turn of a worker. -/
def workTurn (transports : List Transport) (ref : Nat) : Proc (Option Job) := do
  if ← (workerHost ref).round (periodicOf transports ref) then return some (.work ref)
  else return none

/-! ## Followers and watchers -/

/-- The membership of a broker. -/
def World.membershipOf? (w : World) (broker : Nat) : Option Membership :=
  (w.brokers.get? broker).bind fun b => (w.nodes.get? b.node).map (·.membership)

/-- Takes up the next change of the members of a broker. -/
def followTurn (transports : List Transport) (broker position : Nat) : Proc (Option Job) := do
  let next (w : World) : Option MembershipChange :=
    (w.membershipOf? broker).bind fun m => m.history[position]?
  Process.awaitWorld fun w => (next w).isSome || (liveBroker? broker w).isNone
  match ← Process.readWorld fun w => (liveBroker? broker w, next w) with
  | (some b, some change) => do
      (brokerHost transports (fullWire transports) broker b).follow change
      return some (.follow broker (position + 1))
  | _ => return none

/-- Waits for the link of a provider to close, and disconnects the provider then.  The
end of a link to the outside is never heard of. -/
def watchLink (transports : List Transport) (broker : Nat) (id : Uuid) (link : LinkId) :
    Proc (Option Job) := do
  match link with
  | .outside _ => return none
  | .inside _ => do
      Process.awaitWorld fun w => w.network.links.isClosed link
      match ← Process.readWorld (liveBroker? broker) with
      | none => return none
      | some b => do
          let _ ← (brokerHost transports (fullWire transports) broker b).disconnect id link
          return none

/-- Keeps the result of a call. -/
def keepResult (slot : Nat) (result : Document) (w : World) : World :=
  { w with results := w.results.set slot (some result) }

/-- What each job does, and which job follows. -/
def program (transports : List Transport) : Program World Job
  | .work worker => workTurn transports worker
  | .follow broker position => followTurn transports broker position
  | .watch broker id link => watchLink transports broker id link
  | .call slot call => do
      let result ← call.run transports
      Process.modifyWorld (keepResult slot result)
      return none

end ServiceMesh
