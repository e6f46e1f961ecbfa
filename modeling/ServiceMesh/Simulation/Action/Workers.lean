import ServiceMesh.Simulation.Jobs

/-!
# Actions on background workers
-/

namespace ServiceMesh

open Document (flag)

/-- What a worker is started for, its objects given by name. -/
inductive Purpose where
  /-- To count what happens to it. -/
  | counting
  /-- To keep up the pools of a fleet. -/
  | upkeep (fleet : String) (directory : Option String)
  /-- To gossip for a node. -/
  | gossip (node : String)
deriving DecidableEq, Repr

/-- Something that is done with a worker. -/
inductive WorkerAction where
  /-- Starts a worker. -/
  | start (purpose : Purpose) (periodMs : Nat)
  /-- Stops it, and waits until it has stopped. -/
  | stop
  /-- Asks whether it runs. -/
  | look
  /-- Submits a command. -/
  | submit (command : Command)

/-- The names of workers by purpose. -/
def Purpose.workerName : Purpose → String
  | counting => "counting"
  | upkeep .. => "upstream-refresh"
  | gossip _ => "gossip"

/-- The duty for a purpose, if its objects are there. -/
def Purpose.duty? (w : World) : Purpose → Option Duty
  | counting => some (.counting 0 0 0 0)
  | upkeep fleet directory =>
      (w.fleets.find? fleet).map fun ref => .upkeep ref (directory.bind w.directories.find?)
  | gossip node => (w.nodes.find? node).map .gossip

/-- Starts a worker, and gives its reference. -/
def startWorker (name : String) (duty : Duty) (periodMs : Nat) : Proc Nat :=
  Fiber.atomically fun m =>
    let ref := m.world.workers.next
    let (task, m) := m.spawn (.work ref)
    (ref, m.mapWorld fun w => { w with
      workers := (w.workers.add
        { worker := .start name periodMs m.now, duty := duty, task := task }).2 })

/-- Stops a worker where it is. -/
def dropWorker (ref : Nat) : Proc Unit :=
  Fiber.change fun m =>
    match m.world.workers.get? ref with
    | some o => m.abort o.task
    | none => m

/-- Does something with a worker under a reference. -/
def WorkerAction.runOn (ref : Nat) : WorkerAction → Proc Document
  | start .. => .done .null
  | stop => do
      (workerHost ref).stop
      return .ok
  | look => Fiber.read fun m =>
      flag (((m.world.workers.get? ref).map fun o => m.isLive o.task).getD false)
  | submit command => do
      match ← (workerHost ref).submit command with
      | .ok () => return .ok
      | .error e => return .failure "Worker" e.message

/-- Does something with a named worker.  A worker whose name is given again is
dropped. -/
def WorkerAction.run (name : String) (action : WorkerAction) : Proc Document :=
  match action with
  | .start purpose periodMs => withNamed purpose.duty? fun duty => do
      let previous ← Process.readWorld (·.workers.find? name)
      let ref ← startWorker purpose.workerName duty periodMs
      Process.modifyWorld fun w =>
        { w with workers := { w.workers with names := w.workers.names.insert name ref } }
      match previous with
      | some old => dropWorker old
      | none => pure ()
      return .ok
  | action => withNamed (·.workers.find? name) action.runOn

end ServiceMesh
