/-!
# Background workers

A worker handles commands in the order in which they were submitted, and does its
periodic work once per period.  The first turn of the periodic work is one period
after the start.  If turns were missed, the next one is one full period after the one
that was late.  A worker that is asked to stop takes no more commands, and stops when its
turn to stop is the one that is chosen among those that are ready.

`Worker` is the state, `WorkerHost` what the loop and its users need from outside, and
`Periodic` the work itself.
-/

namespace ServiceMesh

/-- A worker whose commands are `κ`. -/
structure Worker (κ : Type) where
  /-- The name. -/
  name : String
  /-- The period in milliseconds. -/
  periodMs : Nat
  /-- When the next turn of the periodic work is due. -/
  nextTick : Nat
  /-- The commands that were submitted and not taken up. -/
  queue : List κ := []
  /-- Whether the worker was asked to stop. -/
  stopping : Bool := false

/-- Why a command was not taken. -/
inductive SubmitError where
  /-- The worker was stopped. -/
  | notRunning (name : String)
  /-- The worker is gone. -/
  | channelClosed (name : String)
deriving DecidableEq, Repr

/-- The text of a submit error. -/
def SubmitError.message : SubmitError → String
  | notRunning name => "worker " ++ name ++ " is not running"
  | channelClosed name => "worker " ++ name ++ " channel closed"

/-- What a worker does next. -/
inductive WorkerTurn (κ : Type) where
  | handle (command : κ)
  | tick
  | stop

namespace Worker

variable {κ : Type}

/-- The least period. -/
def leastPeriodMs : Nat := 1

/-- How many commands may wait. -/
def capacity : Nat := 64

/-- How late a turn may be without putting off the next one, in milliseconds. -/
def toleranceMs : Nat := 5

/-- A worker that starts at a time. -/
def start (name : String) (periodMs now : Nat) : Worker κ where
  name := name
  periodMs := max periodMs leastPeriodMs
  nextTick := now + max periodMs leastPeriodMs

/-- Whether another command can wait. -/
def hasRoom (w : Worker κ) : Bool := decide (w.queue.length < capacity)

/-- Takes a command. -/
def submit (w : Worker κ) (command : κ) : Worker κ := { w with queue := w.queue ++ [command] }

/-- Asks the worker to stop. -/
def askToStop (w : Worker κ) : Worker κ := { w with stopping := true }

/-- The time of the turn after one that was due at `due`. -/
def following (w : Worker κ) (due now : Nat) : Nat :=
  if due + toleranceMs < now then now + w.periodMs else due + w.periodMs

/-- Whether there is something to do. -/
def hasTurn (w : Worker κ) (tickDue : Bool) : Bool := w.stopping || !w.queue.isEmpty || tickDue

/-- What the worker can take up: to stop, the next command, the periodic work. -/
def turns (w : Worker κ) (tickDue : Bool) (now : Nat) : List (WorkerTurn κ × Worker κ) :=
  let stops : List (WorkerTurn κ × Worker κ) := if w.stopping then [(.stop, w)] else []
  let commands : List (WorkerTurn κ × Worker κ) := match w.queue with
    | command :: rest => [(.handle command, { w with queue := rest })]
    | [] => []
  let ticks : List (WorkerTurn κ × Worker κ) :=
    if tickDue then [(.tick, { w with nextTick := w.following w.nextTick now })] else []
  stops ++ commands ++ ticks

/-- Takes up the one that is chosen of what is ready. -/
def turn (w : Worker κ) (choice : Nat) (tickDue : Bool) (now : Nat) :
    Option (WorkerTurn κ × Worker κ) :=
  let ready := w.turns tickDue now
  ready[choice % ready.length]?

end Worker

/-! ## The loop -/

/-- The work of a worker. -/
structure Periodic (m : Type → Type u) (κ : Type) where
  /-- Carries a command out. -/
  handle : κ → m Unit
  /-- Does the periodic work. -/
  tick : m Unit
  /-- Is done once after everything else. -/
  stop : m Unit

/-- What a turn comes to. -/
def Periodic.run {m : Type → Type u} {κ : Type} (p : Periodic m κ) : WorkerTurn κ → m Unit
  | .handle command => p.handle command
  | .tick => p.tick
  | .stop => p.stop

/-- Whether another turn follows. -/
def WorkerTurn.goesOn {κ : Type} : WorkerTurn κ → Bool
  | stop => false
  | _ => true

/-- What a worker asks of its surroundings. -/
structure WorkerHost (m : Type → Type u) (κ : Type) where
  /-- The worker, if it is there. -/
  worker? : m (Option (Worker κ))
  /-- Waits until another command can wait. -/
  awaitRoom : m Unit
  /-- Puts a command behind those that wait. -/
  enqueue : κ → m Unit
  /-- Asks the worker to stop. -/
  askToStop : m Unit
  /-- Waits until the loop is over. -/
  join : m Unit
  /-- Waits until there is something to do. -/
  awaitTurn : m Unit
  /-- Takes up something that is ready. -/
  take : m (Option (WorkerTurn κ))

namespace WorkerHost

variable {m : Type → Type u} [Monad m] {κ : Type}

/-- Submits a command, and waits for room if there is none. -/
def submit (h : WorkerHost m κ) (command : κ) : m (Except SubmitError Unit) := do
  match ← h.worker? with
  | none => return .error (.channelClosed "")
  | some worker =>
      if worker.stopping then return .error (.notRunning worker.name)
      else
        h.awaitRoom
        h.enqueue command
        return .ok ()

/-- Has the worker stop, and waits until it has. -/
def stop (h : WorkerHost m κ) : m Unit := do
  h.askToStop
  h.join

/-- One round of the loop.  Gives whether another follows. -/
def round (h : WorkerHost m κ) (p : Periodic m κ) : m Bool := do
  h.awaitTurn
  match ← h.take with
  | none => return false
  | some turn => do
      p.run turn
      return turn.goesOn

end WorkerHost

end ServiceMesh
