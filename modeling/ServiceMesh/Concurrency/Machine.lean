import ServiceMesh.Concurrency.Fiber

/-!
# Time and background tasks

A `Machine` puts a clock, timers and background tasks around a world.  Fibers over a
machine can sleep, limit the time of other fibers, and start and stop tasks.  A task
is named by a plain value, its job; `Program` says which fiber a job runs, and which
job follows when that fiber is over.

Time passes only when nothing else can be done: then the clock moves to the next
timer.  Timers that are due at the same time fire in the order in which they were
set.  Tasks that can go on do so in the order in which they became able to.
-/

namespace ServiceMesh

/-- A point in time for which somebody waits. -/
structure Timer where
  /-- The number of the timer. -/
  id : Nat
  /-- When it fires, in milliseconds. -/
  due : Nat
deriving DecidableEq, Repr

/-- A world with a clock and background tasks, whose jobs are `χ`. -/
structure Machine (ω χ : Type) where
  /-- The time in milliseconds. -/
  now : Nat := 0
  /-- The timers that have not fired, in the order in which they were set. -/
  timers : List Timer := []
  /-- The number of the next timer or task. -/
  nextId : Nat := 0
  /-- Tasks that are not over. -/
  live : List Nat := []
  /-- Tasks that wait to be started. -/
  born : List (Nat × χ) := []
  /-- Tasks that have to be stopped. -/
  condemned : List Nat := []
  /-- The world. -/
  world : ω

/-- What runs over a machine. -/
abbrev Process (ω χ : Type) := Fiber (Machine ω χ)

namespace Machine

variable {ω χ α : Type}

/-- Whether a timer has not fired. -/
def isPending (m : Machine ω χ) (timer : Nat) : Bool := m.timers.any fun t => t.id == timer

/-- Sets a timer.  One that is due already is not set. -/
def setTimer (m : Machine ω χ) (due : Nat) : Nat × Machine ω χ :=
  (m.nextId, { m with
    nextId := m.nextId + 1
    timers := if due ≤ m.now then m.timers else m.timers ++ [⟨m.nextId, due⟩] })

/-- Takes a timer back. -/
def cancelTimer (timer : Nat) (m : Machine ω χ) : Machine ω χ :=
  { m with timers := m.timers.filter fun t => t.id ≠ timer }

/-- Starts a task, and gives its number. -/
def spawn (m : Machine ω χ) (job : χ) : Nat × Machine ω χ :=
  (m.nextId, { m with
    nextId := m.nextId + 1
    live := m.live ++ [m.nextId]
    born := m.born ++ [(m.nextId, job)] })

/-- Whether a task is not over. -/
def isLive (m : Machine ω χ) (task : Nat) : Bool := m.live.contains task

/-- Has a task stopped where it is. -/
def abort (m : Machine ω χ) (task : Nat) : Machine ω χ :=
  { m with
    live := m.live.filter (· ≠ task)
    born := m.born.filter fun b => b.1 ≠ task
    condemned := m.condemned ++ [task] }

/-- Changes the world. -/
def mapWorld (f : ω → ω) (m : Machine ω χ) : Machine ω χ := { m with world := f m.world }

end Machine

namespace Process

variable {ω χ α β : Type}

/-- One atomic section on the world. -/
def onWorld (f : ω → α × ω) : Process ω χ α :=
  Fiber.atomically fun m => ((f m.world).1, { m with world := (f m.world).2 })

/-- Changes the world in one section. -/
def modifyWorld (f : ω → ω) : Process ω χ Unit := Fiber.change (Machine.mapWorld f)

/-- Reads the world. -/
def readWorld (f : ω → α) : Process ω χ α := Fiber.read fun m => f m.world

/-- Waits until the world is as it should be. -/
def awaitWorld (ready : ω → Bool) : Process ω χ Unit := Fiber.until_ fun m => ready m.world

/-- Waits for some milliseconds. -/
def sleep (ms : Nat) : Process ω χ Unit :=
  Fiber.step (fun m => m.setTimer (m.now + ms)) fun timer =>
    Fiber.guarding (Machine.cancelTimer timer) (Fiber.until_ fun m => !m.isPending timer)

/-- Runs a process for at most some milliseconds. -/
def within (ms : Nat) (body : Process ω χ α) : Process ω χ (Option α) :=
  Fiber.race body (sleep ms) fun
    | .inl a => .done (some a)
    | .inr () => .done none

/-- Starts a task. -/
def launch (job : χ) : Process ω χ Nat := Fiber.atomically fun m => m.spawn job

/-- Waits until a task is over. -/
def joinTask (task : Nat) : Process ω χ Unit := Fiber.until_ fun m => !m.isLive task

/-- Stops a task where it is. -/
def abort (task : Nat) : Process ω χ Unit := Fiber.change fun m => m.abort task

end Process

/-! ## Running -/

/-- Which process a job runs, and which job follows. -/
abbrev Program (ω χ : Type) := χ → Process ω χ (Option χ)

/-- A task under way. -/
structure Task (ω χ : Type) where
  /-- The number of the task. -/
  id : Nat
  /-- What is left to do. -/
  process : Process ω χ (Option χ)

/-- A machine with its tasks. -/
structure Runtime (ω χ : Type) where
  /-- The machine. -/
  machine : Machine ω χ
  /-- The tasks that can go on, in turn. -/
  queue : List (Task ω χ) := []
  /-- The tasks that wait. -/
  blocked : List (Task ω χ) := []

namespace Runtime

variable {ω χ α : Type}

/-- Puts tasks that can go on now into the queue. -/
def wake (r : Runtime ω χ) : Runtime ω χ :=
  let able := r.blocked.partition fun t => t.process.isReady r.machine
  { r with queue := r.queue ++ able.1, blocked := able.2 }

/-- Stops the tasks that have to be stopped. -/
def bury (r : Runtime ω χ) : Runtime ω χ :=
  let doomed (t : Task ω χ) : Bool := r.machine.condemned.contains t.id
  let dropAll (ts : List (Task ω χ)) (m : Machine ω χ) : Machine ω χ :=
    (ts.filter doomed).foldl (fun m t => t.process.drop m) m
  { machine := { dropAll r.blocked (dropAll r.queue r.machine) with condemned := [] }
    queue := r.queue.filter fun t => !doomed t
    blocked := r.blocked.filter fun t => !doomed t }

/-- Takes up what a section did: tasks it stopped, tasks it started, and tasks that
can go on because of it. -/
def settleIn (program : Program ω χ) (r : Runtime ω χ) : Runtime ω χ :=
  let r := if r.machine.condemned.isEmpty then r else r.bury
  let started := r.machine.born.map fun b => (⟨b.1, program b.2⟩ : Task ω χ)
  let r := r.wake
  { r with machine := { r.machine with born := [] }, queue := r.queue ++ started }

/-- Lets a task go on.  A task whose job is over goes on with the job that follows. -/
def runTask (program : Program ω χ) (r : Runtime ω χ) (t : Task ω χ) : Runtime ω χ :=
  let (process, m) := t.process.poll r.machine
  if m.condemned.contains t.id then
    settleIn program { r with machine := process.drop m }
  else match process.result? with
    | none => settleIn program { r with machine := m, blocked := r.blocked ++ [⟨t.id, process⟩] }
    | some none =>
        settleIn program { r with machine := { m with live := m.live.filter (· ≠ t.id) } }
    | some (some job) =>
        let r := settleIn program { r with machine := m }
        { r with queue := ⟨t.id, program job⟩ :: r.queue }

/-- Runs the tasks that can go on, until none can. -/
def settle (program : Program ω χ) : Nat → Runtime ω χ → Runtime ω χ
  | 0, r => r
  | fuel + 1, r =>
      match r.queue with
      | [] => r
      | t :: rest => settle program fuel (runTask program { r with queue := rest } t)

/-- The timer that fires next: the earliest, and among those the one set first. -/
def nextTimer? (timers : List Timer) : Option Timer :=
  timers.foldl (fun best t =>
    match best with
    | none => some t
    | some b => if t.due < b.due then some t else best) none

/-- Fires one timer. -/
def fire (program : Program ω χ) (r : Runtime ω χ) (t : Timer) : Runtime ω χ :=
  settleIn program { r with machine := r.machine.cancelTimer t.id }

/-- Fires the timers that are due. -/
def fireDue (program : Program ω χ) : Nat → Runtime ω χ → Runtime ω χ
  | 0, r => r
  | fuel + 1, r =>
      match nextTimer? r.machine.timers with
      | none => r
      | some t =>
          if t.due ≤ r.machine.now then fireDue program fuel (r.fire program t) else r

/-- Moves the clock to the next timer, and fires the timers that are due then. -/
def passTime (program : Program ω χ) (r : Runtime ω χ) : Option (Runtime ω χ) :=
  match nextTimer? r.machine.timers with
  | none => none
  | some t =>
      let now := max r.machine.now t.due
      some (fireDue program r.machine.timers.length
        { r with machine := { r.machine with now := now } })

/-- How many tasks go on before the foreground has its turn again. -/
def turnLength : Nat := 61

/-- Runs a process in the foreground until it is over, and lets time pass only when
nothing else can be done.  Without a result the process waits for ever. -/
def run (program : Program ω χ) : Nat → Process ω χ α → Runtime ω χ → Option α × Runtime ω χ
  | 0, _, r => (none, r)
  | fuel + 1, process, r =>
      if process.isReady r.machine then
        let (process, m) := process.poll r.machine
        run program fuel process (settleIn program { r with machine := m })
      else match process.result? with
        | some value => (some value, r)
        | none =>
            if !r.queue.isEmpty then run program fuel process (settle program turnLength r)
            else
                match passTime program r with
                | some r => run program fuel process r
                | none => (none, r)

end Runtime

end ServiceMesh
