import ServiceMesh.Proofs.Concurrency.Parts
import ServiceMesh.Proofs.Concurrency.Runs
import ServiceMesh.Worker

/-!
# A worker among its users

A `Workplace` is a worker with what its loop meets with: the time, whether the periodic work
is due, and which of the turns that are ready is chosen.  It marks what happens: commands that
were accepted, and turns that began and ended.  The work itself is any `Periodic` over a state
of its own.

A `Shift` has a workplace, the loop, and the submits and stops under way.  It moves by starting
a submit or a stop, by a turn of one of them or of the loop, by the periodic work falling due,
and by a change of what the loop meets with.  A run is any list of moves, so the loop may
choose as it likes, and may be as late as it likes.
-/

namespace ServiceMesh

variable {κ τ : Type}

/-! ## Turns -/

namespace Worker

/-- The ways to take up something: what it is, and what is left of the worker. -/
inductive Takes (w : Worker κ) (tickDue : Bool) (now : Nat) :
    WorkerTurn κ → Worker κ → Prop
  | stop (h : w.stopping = true) : Takes w tickDue now .stop w
  | handle {command : κ} {rest : List κ} (h : w.queue = command :: rest) :
      Takes w tickDue now (.handle command) { w with queue := rest }
  | tick (h : tickDue = true) :
      Takes w tickDue now .tick { w with nextTick := w.following w.nextTick now }

variable {w w' : Worker κ} {tickDue : Bool} {now : Nat} {turn : WorkerTurn κ}

theorem mem_turns : (turn, w') ∈ w.turns tickDue now ↔ w.Takes tickDue now turn w' := by
  constructor
  · intro h
    simp only [turns, List.mem_append] at h
    rcases h with (h | h) | h
    · split at h
      · next hstopping =>
        cases List.mem_singleton.mp h
        exact .stop hstopping
      · cases h
    · split at h
      · next command rest hqueue =>
        cases List.mem_singleton.mp h
        exact .handle hqueue
      · cases h
    · split at h
      · next hdue =>
        cases List.mem_singleton.mp h
        exact .tick hdue
      · cases h
  · intro h
    cases h with
    | stop h => simp [turns, h]
    | handle h => simp [turns, h]
    | tick h => simp [turns, h]

/-- Whatever is ready can be chosen, and nothing else. -/
theorem exists_turn_iff :
    (∃ choice, w.turn choice tickDue now = some (turn, w')) ↔ w.Takes tickDue now turn w' := by
  rw [← mem_turns]
  constructor
  · rintro ⟨choice, h⟩
    exact List.mem_of_getElem? h
  · intro h
    obtain ⟨choice, hlt, hget⟩ := List.getElem_of_mem h
    refine ⟨choice, ?_⟩
    rw [Worker.turn, Nat.mod_eq_of_lt hlt, List.getElem?_eq_getElem hlt, hget]

/-- A worker that has something to do can take it up, whatever is chosen. -/
theorem exists_turn_eq (h : w.hasTurn tickDue = true) (choice now : Nat) :
    ∃ turn w', w.turn choice tickDue now = some (turn, w') := by
  have hready : w.turns tickDue now ≠ [] := by
    intro hnil
    simp only [turns, List.append_eq_nil_iff] at hnil
    obtain ⟨⟨hstops, hcommands⟩, hticks⟩ := hnil
    simp only [hasTurn, Bool.or_eq_true, Bool.not_eq_true'] at h
    rcases h with (hstopping | hqueue) | hdue
    · simp [hstopping] at hstops
    · split at hcommands
      · cases hcommands
      · next hempty => simp [hempty] at hqueue
    · simp [hdue] at hticks
  have hlt : choice % (w.turns tickDue now).length < (w.turns tickDue now).length :=
    Nat.mod_lt _ (List.length_pos_iff.mpr hready)
  exact ⟨_, _, List.getElem?_eq_getElem hlt⟩

end Worker

/-! ## Marks -/

/-- What happens at a workplace. -/
inductive Mark (κ : Type) where
  /-- A command was accepted. -/
  | accepted (command : κ)
  /-- A turn began. -/
  | began (turn : WorkerTurn κ)
  /-- A turn ended. -/
  | ended (turn : WorkerTurn κ)

namespace Mark

/-- The command that was accepted, if one was. -/
def accepted? : Mark κ → Option κ
  | accepted command => some command
  | _ => none

/-- The turn that began, if one did. -/
def begun? : Mark κ → Option (WorkerTurn κ)
  | began turn => some turn
  | _ => none

/-- Whether a turn began or ended. -/
def isOfTurn : Mark κ → Bool
  | accepted _ => false
  | _ => true

/-- The marks of turns that began and ended one after the other. -/
def ofTurns (turns : List (WorkerTurn κ)) : List (Mark κ) :=
  turns.flatMap fun turn => [began turn, ended turn]

@[simp] theorem ofTurns_append (turns turns' : List (WorkerTurn κ)) :
    ofTurns (turns ++ turns') = ofTurns turns ++ ofTurns turns' := List.flatMap_append

@[simp] theorem filterMap_begun?_ofTurns (turns : List (WorkerTurn κ)) :
    (ofTurns turns).filterMap begun? = turns := by
  induction turns with
  | nil => rfl
  | cons turn rest ih => exact congrArg (turn :: ·) ih

end Mark

/-- The command that a turn handles, if it handles one. -/
def WorkerTurn.command? : WorkerTurn κ → Option κ
  | handle command => some command
  | _ => none

/-! ## Workplaces -/

/-- A worker and what its loop meets with. -/
structure Workplace (κ τ : Type) where
  /-- The worker. -/
  worker : Worker κ
  /-- The time in milliseconds. -/
  now : Nat
  /-- Whether the periodic work is due. -/
  tickDue : Bool := false
  /-- Which of the turns that are ready is chosen. -/
  choice : Nat := 0
  /-- Whether the loop is over. -/
  isOver : Bool := false
  /-- What happened, oldest first. -/
  marks : List (Mark κ) := []
  /-- The state that the work is about. -/
  own : τ

namespace Workplace

/-- The state that the work is about. -/
def ownPart : Part (Workplace κ τ) τ where
  get s := s.own
  set x s := { s with own := x }
  get_set _ _ := rfl
  set_get _ := rfl
  set_set _ _ _ := rfl

/-- Writes down what happens. -/
def note (mark : Mark κ) (s : Workplace κ τ) : Workplace κ τ :=
  { s with marks := s.marks ++ [mark] }

/-- Puts a command behind those that wait. -/
def accept (command : κ) (s : Workplace κ τ) : Workplace κ τ :=
  { s.note (.accepted command) with worker := s.worker.submit command }

/-- Asks the worker to stop. -/
def askToStop (s : Workplace κ τ) : Workplace κ τ := { s with worker := s.worker.askToStop }

/-- Takes up what is chosen of what is ready.  The periodic work is not due when it was taken
up. -/
def takeTurn (s : Workplace κ τ) : Option (WorkerTurn κ) × Workplace κ τ :=
  match s.worker.turn s.choice s.tickDue s.now with
  | some (.tick, worker) => (some .tick, { s with worker := worker, tickDue := false })
  | some (turn, worker) => (some turn, { s with worker := worker })
  | none => (none, s)

/-- The commands that were accepted, in order. -/
def accepted (s : Workplace κ τ) : List κ := s.marks.filterMap Mark.accepted?

/-- What happened to turns. -/
def doings (s : Workplace κ τ) : List (Mark κ) := s.marks.filter Mark.isOfTurn

/-- The turns that began, in order. -/
def begun (s : Workplace κ τ) : List (WorkerTurn κ) := s.doings.filterMap Mark.begun?

/-- The commands that were handled, in order. -/
def handled (s : Workplace κ τ) : List κ := s.begun.filterMap WorkerTurn.command?

/-- The worker of a workplace. -/
def host : WorkerHost (Fiber (Workplace κ τ)) κ where
  worker? := Fiber.read fun s => some s.worker
  awaitRoom := Fiber.until_ fun s => s.worker.hasRoom
  enqueue command := Fiber.change (accept command)
  askToStop := Fiber.change askToStop
  join := Fiber.until_ fun s => s.isOver
  awaitTurn := Fiber.until_ fun s => s.worker.hasTurn s.tickDue
  take := Fiber.atomically takeTurn

/-- Work on its own state, marked at its beginning and at its end. -/
def during (turn : WorkerTurn κ) (work : Fiber τ Unit) : Fiber (Workplace κ τ) Unit := do
  Fiber.change (note (.began turn))
  work.within ownPart
  Fiber.change (note (.ended turn))

/-- Work of which each turn is marked. -/
def marked (p : Periodic (Fiber τ) κ) : Periodic (Fiber (Workplace κ τ)) κ where
  handle command := during (.handle command) (p.handle command)
  tick := during .tick p.tick
  stop := during .stop p.stop

theorem run_marked (p : Periodic (Fiber τ) κ) (turn : WorkerTurn κ) :
    (marked p).run turn = during turn (p.run turn) := by
  cases turn with
  | handle command => rfl
  | tick => rfl
  | stop => rfl

/-! ### What is written down -/

section

variable (s : Workplace κ τ) (command : κ) (turn : WorkerTurn κ)

@[simp] theorem accepted_accept : (s.accept command).accepted = s.accepted ++ [command] := by
  simp [accepted, accept, note, Mark.accepted?]

@[simp] theorem doings_accept : (s.accept command).doings = s.doings := by
  simp [doings, accept, note, Mark.isOfTurn]

@[simp] theorem accepted_began : (s.note (.began turn)).accepted = s.accepted := by
  simp [accepted, note, Mark.accepted?]

@[simp] theorem doings_began : (s.note (.began turn)).doings = s.doings ++ [.began turn] := by
  simp [doings, note, Mark.isOfTurn]

@[simp] theorem accepted_ended : (s.note (.ended turn)).accepted = s.accepted := by
  simp [accepted, note, Mark.accepted?]

@[simp] theorem doings_ended : (s.note (.ended turn)).doings = s.doings ++ [.ended turn] := by
  simp [doings, note, Mark.isOfTurn]

end

/-- What is taken up was ready, and all else stays as it is. -/
theorem takeTurn_of_hasTurn {s : Workplace κ τ} (h : s.worker.hasTurn s.tickDue = true) :
    ∃ turn w tickDue, s.worker.Takes s.tickDue s.now turn w ∧
      s.takeTurn = (some turn, { s with worker := w, tickDue := tickDue }) := by
  obtain ⟨turn, w, hturn⟩ := Worker.exists_turn_eq h s.choice s.now
  have htakes := Worker.exists_turn_iff.mp ⟨s.choice, hturn⟩
  cases turn with
  | handle command => exact ⟨_, w, s.tickDue, htakes, by rw [takeTurn, hturn]⟩
  | tick => exact ⟨_, w, false, htakes, by rw [takeTurn, hturn]⟩
  | stop => exact ⟨_, w, s.tickDue, htakes, by rw [takeTurn, hturn]⟩

end Workplace

/-! ## Shifts -/

/-- Somebody who submits a command. -/
structure Submission (κ τ : Type) where
  /-- The command. -/
  command : κ
  /-- What is left to do. -/
  fiber : Fiber (Workplace κ τ) (Except SubmitError Unit)

/-- Somebody who begins to submit a command. -/
def Submission.begin (command : κ) : Submission κ τ where
  command := command
  fiber := Workplace.host.submit command

/-- The command, if it was submitted. -/
def Submission.submitted? (x : Submission κ τ) : Option κ :=
  match x.fiber.result? with
  | some (.ok ()) => some x.command
  | _ => none

/-- A turn of somebody who submits. -/
def Submission.advance (q : Place) (x : Submission κ τ) (s : Workplace κ τ) : Submission κ τ :=
  { x with fiber := (x.fiber.advance q s).1 }

/-- A workplace and what is under way there. -/
structure Shift (κ τ : Type) where
  /-- The workplace. -/
  place : Workplace κ τ
  /-- The loop. -/
  loop : Fiber (Workplace κ τ) Bool
  /-- Those who submit. -/
  submissions : List (Submission κ τ) := []
  /-- Those who stop the worker. -/
  stops : List (Fiber (Workplace κ τ) Unit) := []

/-- What can happen next. -/
inductive Shift.Move (κ τ : Type) where
  /-- Somebody begins to submit a command. -/
  | submit (command : κ)
  /-- Somebody begins to stop the worker. -/
  | stop
  /-- Somebody who submits takes a turn. -/
  | submitTurn (index : Nat) (q : Place)
  /-- Somebody who stops the worker takes a turn. -/
  | stopTurn (index : Nat) (q : Place)
  /-- The loop takes a turn. -/
  | loopTurn (q : Place)
  /-- The periodic work falls due. -/
  | fallDue
  /-- Time passes, another choice is made, and the state changes that the work is about. -/
  | meanwhile (now choice : Nat) (own : τ)

namespace Shift

open Workplace (host marked)

variable (p : Periodic (Fiber τ) κ)

/-- A worker that starts. -/
def start (name : String) (periodMs now : Nat) (own : τ) : Shift κ τ where
  place := { worker := .start name periodMs now, now := now, own := own }
  loop := host.round (marked p)

/-- A turn of the loop.  A round that is over is followed by the next one, or ends the loop. -/
def loopTurn (q : Place) (s : Shift κ τ) : Shift κ τ :=
  match s.loop.result? with
  | some true => { s with loop := host.round (marked p) }
  | some false => { s with place := { s.place with isOver := true } }
  | none => { s with loop := (s.loop.advance q s.place).1, place := (s.loop.advance q s.place).2 }

/-- A turn of somebody who submits. -/
def submitTurn (index : Nat) (q : Place) (s : Shift κ τ) : Shift κ τ :=
  match s.submissions[index]? with
  | some x =>
      { s with
        submissions := s.submissions.set index (x.advance q s.place)
        place := (x.fiber.advance q s.place).2 }
  | none => s

/-- A turn of somebody who stops the worker. -/
def stopTurn (index : Nat) (q : Place) (s : Shift κ τ) : Shift κ τ :=
  { s with
    stops := (Fiber.advanceAt index q s.stops s.place).1
    place := (Fiber.advanceAt index q s.stops s.place).2 }

/-- What becomes of a shift by a move. -/
def move (s : Shift κ τ) : Move κ τ → Shift κ τ
  | .submit command => { s with submissions := s.submissions ++ [.begin command] }
  | .stop => { s with stops := s.stops ++ [host.stop] }
  | .submitTurn index q => s.submitTurn index q
  | .stopTurn index q => s.stopTurn index q
  | .loopTurn q => s.loopTurn p q
  | .fallDue => { s with place := { s.place with tickDue := true } }
  | .meanwhile now choice own =>
      { s with place := { s.place with now := now, choice := choice, own := own } }

/-- A shift after moves. -/
def run (s : Shift κ τ) (moves : List (Move κ τ)) : Shift κ τ := moves.foldl (move p) s

end Shift

end ServiceMesh
