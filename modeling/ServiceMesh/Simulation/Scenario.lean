import ServiceMesh.Simulation.Action.Brokers
import ServiceMesh.Simulation.Action.Network
import ServiceMesh.Simulation.Action.Pools
import ServiceMesh.Simulation.Action.Routes

/-!
# Scenarios

A scenario is a list of steps in a world.  Each step does something, waits until it is
done, and lets everything in the background go on until it waits for time to pass.
Then the step reports its result, and the part of the world on which it acted.
-/

namespace ServiceMesh

open Document (list record optional)

/-- Something that is done in a step. -/
inductive Action where
  /-- Makes a call and waits for it. -/
  | call (call : Call)
  /-- Starts a call in the background. -/
  | startTask (name : String) (call : Call)
  /-- Picks up the result of a call in the background. -/
  | joinTask (name : String)
  /-- Lets time pass. -/
  | sleep (ms : Nat)
  /-- Moves the clock. -/
  | jump (ms : Nat)
  | network (action : NetworkAction)
  | table (name : String) (action : TableAction)
  | router (name : String) (action : RouterAction)
  | pool (name : PoolName) (action : PoolAction)
  | fleet (name : String) (action : FleetAction)
  | directory (name : String) (action : DirectoryAction)
  | worker (name : String) (action : WorkerAction)
  | bus (name : String) (action : BusAction)
  | node (name : String) (action : NodeAction)
  | broker (name : String) (action : BrokerAction)

/-- The part of a world that a step reports. -/
inductive Subject where
  | table (name : String)
  | pool (name : PoolName)
  | fleet (name : String)
  | bus (name : String)
  | node (name : String)
  | broker (name : String)
  | worker (name : String)
deriving DecidableEq, Repr

/-- A step: what is done, or why that makes no sense, and what is reported. -/
structure Step where
  /-- What is done, or the answer to what makes no sense. -/
  action : Except Document Action
  /-- What is reported. -/
  subject : Option Subject := none

/-! ## One step -/

/-- Starts a call in the background. -/
def startTask (name : String) (call : Call) : Proc Document := do
  let slot ← Process.onWorld fun w =>
    let (slot, results) := w.results.addNamed name none
    (slot, { w with results := results })
  let _ ← Process.launch (Job.call slot call)
  return .ok

/-- The result of a call in the background, if it is there. -/
def joinTask (name : String) : Proc Document :=
  withNamed (·.results.named? name) fun result => .done (result.getD (.text "pending"))

/-- Does what a step says. -/
def Action.run (transports : List Transport) : Action → Proc Document
  | call c => c.run transports
  | startTask name c => ServiceMesh.startTask name c
  | joinTask name => ServiceMesh.joinTask name
  | sleep ms => do
      Process.sleep ms
      return .ok
  | jump ms => do
      Fiber.change fun m => { m with now := m.now + ms }
      return .ok
  | network a => a.run transports
  | table name a => a.run name
  | router name a => a.run transports name
  | pool name a => a.run name
  | fleet name a => a.run transports name
  | directory name a => a.run name
  | worker name a => a.run name
  | bus name a => a.run transports name
  | node name a => a.run transports name
  | broker name a => a.run transports name

/-- Looks at something that has a name, and marks it as seen. -/
def lookAt (a : Arena α) (name : String) (view : Nat → α → Document × World) (w : World) :
    Option Document × World :=
  match a.find? name with
  | none => (none, w)
  | some ref =>
      match a.get? ref with
      | none => (none, w)
      | some x => (some (view ref x).1, (view ref x).2)

/-- Reports a part of a world. -/
def Subject.report (m : Machine World Job) (s : Subject) : Option Document × World :=
  let w := m.world
  match s with
  | table name => lookAt w.tables name (fun ref o => (w.viewTable o, w.seeTable ref)) w
  | pool name => (((w.findPool? name).bind w.pool?).map World.viewPool, w)
  | fleet name => ((w.fleets.find? name).map w.viewFleet, w)
  | bus name => lookAt w.buses name (fun ref o => (w.viewBus o, w.seeBus ref)) w
  | node name => lookAt w.nodes name (fun ref o => (w.viewNode o, w.seeNode ref)) w
  | broker name => lookAt w.brokers name (fun _ b => (w.viewBroker b, w)) w
  | worker name => lookAt w.workers name (fun _ o => (World.viewWorker o (m.isLive o.task), w)) w

/-! ## All steps -/

/-- How many turns tasks may take in one step. -/
def stepFuel : Nat := 100000000

/-- A world with its tasks. -/
abbrev Stage := Runtime World Job

/-- Lets the background go on, without time passing, until everything waits. -/
def rest (transports : List Transport) (s : Stage) : Stage :=
  let s := Runtime.fireDue (program transports) s.machine.timers.length s
  Runtime.settle (program transports) stepFuel s

/-- Takes a step, and gives its answer. -/
def takeStep (transports : List Transport) (step : Step) (s : Stage) : Document × Stage :=
  let (result, s) := match step.action with
    | .error answer => (answer, s)
    | .ok action =>
        let r := Runtime.run (program transports) stepFuel (action.run transports) s
        (r.1.getD .unknownName, r.2)
  let s := rest transports s
  match step.subject with
  | none => (record [("r", result)], s)
  | some subject =>
      let (state, w) := subject.report s.machine
      (record ([("r", result)] ++ optional "state" id state),
        { s with machine := { s.machine with world := w } })

/-- Takes steps one after the other, and gives their answers. -/
def takeSteps (transports : List Transport) : List Step → Stage → List Document
  | [], _ => []
  | step :: rest, s =>
      let (answer, s) := takeStep transports step s
      answer :: takeSteps transports rest s

/-- The answers to a scenario in a new world. -/
def runScenario (transports : List Transport) (steps : List Step) : Document :=
  list (takeSteps transports steps { machine := { world := {} } })

end ServiceMesh
