import Mathlib.Data.List.Perm.Basic
import ServiceMesh.Proofs.Concurrency.Runs
import ServiceMesh.Proofs.Worker.Shift

/-!
# The protocol of a worker

At any time the loop is at one `Spot`: it waits, takes up a turn, has taken one up, is busy with
it, or is finished.  `Stands` says what the loop looks like there and what the work did until
then, and `Workplace.Keeps` what was written down: the turns that were done, one after the other,
then what the spot adds.  Commands that were accepted are those of these turns, and then those
that wait.  Others write down nothing of turns (`Workplace.Meantime`), so each move of a shift
keeps this (`Shift.Keeps.move`), and so does a run.

So commands are handled in the order in which they were accepted, and each turn ends before the
next one begins.  Between the marks of a turn its work runs, from its start to its end and once,
and the state that the work is about changes in no other way, unless others change it (`Tied`).
When somebody who stopped the worker is done, the loop is finished: the last turn was to stop,
nothing is taken up any more, and submits fail (`Shift.keeps_protocol`).
-/

namespace ServiceMesh

variable {κ τ : Type}

/-! ## Where the loop is -/

/-- Where the loop is. -/
inductive Spot (κ : Type) where
  /-- It waits for something to do. -/
  | idle
  /-- There is something to do. -/
  | ready
  /-- A turn was taken up. -/
  | chosen (turn : WorkerTurn κ)
  /-- A turn is being done. -/
  | busy (turn : WorkerTurn κ)
  /-- The turn to stop was done. -/
  | finished

namespace Spot

/-- The turn that was taken up and is not among those before. -/
def taken : Spot κ → List (WorkerTurn κ)
  | chosen turn | busy turn => [turn]
  | finished => [.stop]
  | _ => []

/-- What was written down of it. -/
def marks : Spot κ → List (Mark κ)
  | busy turn => [.began turn]
  | finished => [.began .stop, .ended .stop]
  | _ => []

/-- The turn, if it began. -/
def begun (spot : Spot κ) : List (WorkerTurn κ) := spot.marks.filterMap Mark.begun?

/-- Turns are begun in the order in which they are taken. -/
theorem begun_prefix_taken (spot : Spot κ) : spot.begun <+: spot.taken := by
  cases spot with
  | idle => exact List.prefix_refl _
  | ready => exact List.prefix_refl _
  | chosen turn => exact List.nil_prefix
  | busy turn => exact List.prefix_refl _
  | finished => exact List.prefix_refl _

/-- What is marked so far is a part of what the turns begun will be marked with. -/
theorem marks_prefix_ofTurns (spot : Spot κ) : spot.marks <+: Mark.ofTurns spot.begun := by
  cases spot with
  | idle => exact List.prefix_refl _
  | ready => exact List.prefix_refl _
  | chosen turn => exact List.prefix_refl _
  | busy turn => exact ⟨[.ended turn], rfl⟩
  | finished => exact List.prefix_refl _

end Spot

namespace Workplace

/-- What was written down when the loop is at a spot, with the turns done before. -/
structure Keeps (name : String) (s : Workplace κ τ) (turns : List (WorkerTurn κ))
    (spot : Spot κ) : Prop where
  name_eq : s.worker.name = name
  unstopped : .stop ∉ turns
  doings_eq : s.doings = Mark.ofTurns turns ++ spot.marks
  accepted_eq : s.accepted
    = (turns ++ spot.taken).filterMap WorkerTurn.command? ++ s.worker.queue
  asked : .stop ∈ spot.taken → s.worker.stopping = true
  able : spot = .ready → s.worker.hasTurn s.tickDue = true
  finished : s.isOver = true → spot = .finished

/-! ## What others do -/

/-- What others than the loop do: they submit commands, ask the worker to stop, have the
periodic work fall due, and change what the loop meets with. -/
structure Meantime (s t : Workplace κ τ) : Prop where
  name_eq : t.worker.name = s.worker.name
  isOver_eq : t.isOver = s.isOver
  doings_eq : t.doings = s.doings
  commands : ∃ more, t.accepted = s.accepted ++ more ∧ t.worker.queue = s.worker.queue ++ more
  stopping : s.worker.stopping = true → t.worker.stopping = true
  due : s.tickDue = true → t.tickDue = true

variable {s t : Workplace κ τ}

/-- Whoever touches neither the worker nor the marks nor the end may do so meanwhile. -/
theorem Meantime.of_eq (hworker : t.worker = s.worker) (hmarks : t.marks = s.marks)
    (hover : t.isOver = s.isOver) (hdue : s.tickDue = true → t.tickDue = true) : Meantime s t where
  name_eq := by rw [hworker]
  isOver_eq := hover
  doings_eq := by rw [doings, hmarks, doings]
  commands := ⟨[], by rw [accepted, hmarks, accepted, List.append_nil],
    by rw [hworker, List.append_nil]⟩
  stopping h := by rw [hworker, h]
  due := hdue

theorem Meantime.refl (s : Workplace κ τ) : Meantime s s := .of_eq rfl rfl rfl id

/-- A command may be accepted meanwhile. -/
theorem Meantime.accept (command : κ) (s : Workplace κ τ) : Meantime s (s.accept command) where
  name_eq := rfl
  isOver_eq := rfl
  doings_eq := doings_accept s command
  commands := ⟨[command], accepted_accept s command, rfl⟩
  stopping := id
  due := id

/-- A worker may be asked to stop meanwhile. -/
theorem Meantime.askToStop (s : Workplace κ τ) : Meantime s s.askToStop where
  name_eq := rfl
  isOver_eq := rfl
  doings_eq := rfl
  commands := ⟨[], (List.append_nil _).symm, (List.append_nil _).symm⟩
  stopping _ := rfl
  due := id

/-- What is there to be done stays there. -/
theorem Meantime.hasTurn (h : Meantime s t) (hs : s.worker.hasTurn s.tickDue = true) :
    t.worker.hasTurn t.tickDue = true := by
  obtain ⟨more, -, hqueue⟩ := h.commands
  simp only [Worker.hasTurn, Bool.or_eq_true, Bool.not_eq_true'] at hs ⊢
  rcases hs with (hstopping | hwaiting) | hdue
  · exact .inl (.inl (h.stopping hstopping))
  · refine .inl (.inr ?_)
    cases hwait : s.worker.queue with
    | nil => simp [hwait] at hwaiting
    | cons command rest => rw [hqueue, hwait, List.cons_append, List.isEmpty_cons]
  · exact .inr (h.due hdue)

/-- What others do leaves the loop at its spot. -/
theorem Keeps.meantime {name : String} {turns : List (WorkerTurn κ)} {spot : Spot κ}
    (h : s.Keeps name turns spot) (hlater : Meantime s t) : t.Keeps name turns spot where
  name_eq := hlater.name_eq.trans h.name_eq
  unstopped := h.unstopped
  doings_eq := hlater.doings_eq.trans h.doings_eq
  accepted_eq := by
    obtain ⟨more, haccepted, hqueue⟩ := hlater.commands
    rw [haccepted, hqueue, h.accepted_eq, List.append_assoc]
  asked hstop := hlater.stopping (h.asked hstop)
  able hspot := hlater.hasTurn (h.able hspot)
  finished hover := h.finished (hlater.isOver_eq ▸ hover)

/-! ## What the loop does -/

section

variable {name : String} {turns : List (WorkerTurn κ)} {turn : WorkerTurn κ}

/-- A worker that gave up a turn is left with the commands behind it. -/
theorem Keeps.taken (h : s.Keeps name turns .ready) {w : Worker κ} (tickDue : Bool)
    (hname : w.name = s.worker.name) (hqueue : s.worker.queue = turn.command?.toList ++ w.queue)
    (hasked : turn = .stop → w.stopping = true) :
    Keeps name { s with worker := w, tickDue := tickDue } turns (.chosen turn) where
  name_eq := hname.trans h.name_eq
  unstopped := h.unstopped
  doings_eq := h.doings_eq
  accepted_eq := by
    have hcommand : [turn].filterMap WorkerTurn.command? = turn.command?.toList := by
      cases turn <;> rfl
    have haccepted : s.accepted = turns.filterMap WorkerTurn.command? ++ s.worker.queue := by
      simpa [Spot.taken] using h.accepted_eq
    rw [Spot.taken, List.filterMap_append, hcommand, List.append_assoc, ← hqueue]
    exact haccepted
  asked hstop := hasked (List.mem_singleton.mp hstop).symm
  able := nofun
  finished hover := nomatch h.finished hover

/-- The loop takes up something when there is something. -/
theorem Keeps.take (h : s.Keeps name turns .ready) :
    ∃ turn t, s.takeTurn = (some turn, t) ∧ t.Keeps name turns (.chosen turn) ∧
      t.accepted = s.accepted ∧ t.isOver = s.isOver ∧ t.own = s.own := by
  obtain ⟨turn, w, tickDue, htakes, htake⟩ := takeTurn_of_hasTurn (h.able rfl)
  refine ⟨turn, _, htake, ?_, rfl, rfl, rfl⟩
  cases htakes with
  | stop hstopping =>
    apply h.taken tickDue rfl rfl
    intro _
    exact hstopping
  | handle hqueue => exact h.taken tickDue rfl hqueue nofun
  | tick hdue => exact h.taken tickDue rfl rfl nofun

/-- A turn begins that was taken up. -/
theorem Keeps.begin (h : s.Keeps name turns (.chosen turn)) :
    (s.note (.began turn)).Keeps name turns (.busy turn) where
  name_eq := h.name_eq
  unstopped := h.unstopped
  doings_eq := by
    rw [doings_began, h.doings_eq]
    simp [Spot.marks]
  accepted_eq := (accepted_began s turn).trans h.accepted_eq
  asked := h.asked
  able := nofun
  finished hover := nomatch h.finished hover

/-- A turn ends after which the loop goes on. -/
theorem Keeps.end_of_goesOn (h : s.Keeps name turns (.busy turn)) (hgoesOn : turn.goesOn = true) :
    (s.note (.ended turn)).Keeps name (turns ++ [turn]) .idle where
  name_eq := h.name_eq
  unstopped hstop := by
    rcases List.mem_append.mp hstop with hstop | hstop
    · exact h.unstopped hstop
    · cases List.mem_singleton.mp hstop
      cases hgoesOn
  doings_eq := by
    rw [doings_ended, h.doings_eq]
    simp [Spot.marks, Mark.ofTurns]
  accepted_eq := by
    rw [accepted_ended, h.accepted_eq]
    simp [Spot.taken, note]
  asked := nofun
  able := nofun
  finished hover := nomatch h.finished hover

/-- The turn to stop ends. -/
theorem Keeps.end_stop (h : s.Keeps name turns (.busy .stop)) :
    (s.note (.ended .stop)).Keeps name turns .finished where
  name_eq := h.name_eq
  unstopped := h.unstopped
  doings_eq := by
    rw [doings_ended, h.doings_eq]
    simp [Spot.marks]
  accepted_eq := (accepted_ended s .stop).trans h.accepted_eq
  asked := h.asked
  able := nofun
  finished _ := rfl

end

end Workplace

/-! ### Those who submit -/

open Workplace (host marked)

/-- A submit that waits for room. -/
def awaitingRoom (command : κ) : Fiber (Workplace κ τ) (Except SubmitError Unit) :=
  .await (fun s => s.worker.hasRoom)
    (.step (fun s => ((), s.accept command)) fun _ => .done (.ok ()))

/-- What is left to do of a submit. -/
inductive Submitting (command : κ) : Fiber (Workplace κ τ) (Except SubmitError Unit) → Prop
  | beginning : Submitting command (host.submit command)
  | waiting : Submitting command (awaitingRoom command)
  | entering : Submitting command (.step (fun s => ((), s.accept command)) fun _ => .done (.ok ()))
  | ended (result : Except SubmitError Unit) : Submitting command (.done result)

/-- The first turn of a submit fails it if the worker was asked to stop. -/
theorem advance_submit (command : κ) (q : Place) (s : Workplace κ τ) :
    (host.submit command).advance q s
      = (if s.worker.stopping then .done (.error (.notRunning s.worker.name))
          else awaitingRoom command, s) :=
  Fiber.advance_step q _ _ s

/-- A turn of somebody who submits has a command accepted if and only if it ends with
success. -/
theorem Submission.advance_keeps {x : Submission κ τ} (h : Submitting x.command x.fiber)
    (q : Place) (s : Workplace κ τ) :
    Submitting x.command (x.fiber.advance q s).1 ∧
      Workplace.Meantime s (x.fiber.advance q s).2 ∧ (x.fiber.advance q s).2.own = s.own ∧
      ∃ more, (x.advance q s).submitted?.toList = x.submitted?.toList ++ more ∧
        (x.fiber.advance q s).2.accepted = s.accepted ++ more := by
  obtain ⟨command, fiber⟩ := x
  change Submitting command fiber at h
  have hnil := (List.append_nil s.accepted).symm
  rw [Submission.advance]
  cases h with
  | beginning =>
    rw [advance_submit]
    split
    · exact ⟨.ended _, .refl s, rfl, [], rfl, hnil⟩
    · exact ⟨.waiting, .refl s, rfl, [], rfl, hnil⟩
  | waiting =>
    rw [awaitingRoom, Fiber.advance_await]
    split
    · exact ⟨.entering, .refl s, rfl, [], rfl, hnil⟩
    · exact ⟨.waiting, .refl s, rfl, [], rfl, hnil⟩
  | entering =>
    rw [Fiber.advance_step]
    exact ⟨.ended _, .accept command s, rfl, [command], rfl, Workplace.accepted_accept s command⟩
  | ended result =>
    rw [Fiber.advance_done]
    exact ⟨.ended result, .refl s, rfl, [], (List.append_nil _).symm, hnil⟩

/-! ### Those who stop the worker -/

/-- What is left to do of a stop, by whether the loop is over. -/
inductive Stopping (ended : Bool) : Fiber (Workplace κ τ) Unit → Prop
  | beginning : Stopping ended host.stop
  | waiting : Stopping ended host.join
  | ended (h : ended = true) : Stopping ended (.done ())

/-- Whoever is stopping a worker remains so when the loop has ended. -/
theorem Stopping.mono {ended ended' : Bool} (h : ended = true → ended' = true)
    {f : Fiber (Workplace κ τ) Unit} (hf : Stopping ended f) : Stopping ended' f := by
  cases hf with
  | beginning => exact .beginning
  | waiting => exact .waiting
  | ended hover => exact .ended (h hover)

/-- A turn of a stop asks the worker to stop at most, and ends it only when the loop is over. -/
theorem Stopping.advance {s : Workplace κ τ} {f : Fiber (Workplace κ τ) Unit}
    (h : Stopping s.isOver f) (q : Place) :
    Stopping s.isOver (f.advance q s).1 ∧
      ((f.advance q s).2 = s ∨ (f.advance q s).2 = s.askToStop) := by
  cases h with
  | beginning =>
    have hturn : host.stop.advance q s = (host.join, s.askToStop) := Fiber.advance_step q _ _ s
    rw [hturn]
    exact ⟨.waiting, .inr rfl⟩
  | waiting =>
    have hturn : host.join.advance q s = if s.isOver then (.done (), s) else (host.join, s) :=
      Fiber.advance_await q _ _ s
    rw [hturn]
    split
    · next hover => exact ⟨.ended hover, .inl rfl⟩
    · exact ⟨.waiting, .inl rfl⟩
  | ended hover =>
    rw [Fiber.advance_done]
    exact ⟨.ended hover, .inl rfl⟩

/-! ## The loop -/

section

variable (p : Periodic (Fiber τ) κ)

/-- What the loop does after it took something up. -/
def goOn : Option (WorkerTurn κ) → Fiber (Workplace κ τ) Bool
  | none => .done false
  | some turn => (marked p).run turn >>= fun _ => .done turn.goesOn

/-- What the loop does when part of a turn is left to do. -/
def goOnWith (turn : WorkerTurn κ) (work : Fiber τ Unit) : Fiber (Workplace κ τ) Bool :=
  work.within Workplace.ownPart >>= fun _ =>
    .step (fun s => ((), s.note (.ended turn))) fun _ => .done turn.goesOn

/-- What the work of turns, done one after the other, makes of the state that it is about.  Others
may change the state meanwhile. -/
inductive Worked (meanwhile : τ → τ → Prop) (own : τ) : List (WorkerTurn κ) → τ → Prop
  | start : Worked meanwhile own [] own
  | turn {turns : List (WorkerTurn κ)} {turn : WorkerTurn κ} {x y : τ}
      (before : Worked meanwhile own turns x) (run : Fiber.Runs meanwhile (p.run turn) x () y) :
      Worked meanwhile own (turns ++ [turn]) y
  | wait {turns : List (WorkerTurn κ)} {x y : τ} (before : Worked meanwhile own turns x)
      (change : meanwhile x y) : Worked meanwhile own turns y

/-- What the loop looks like at a spot, and the state that the work is about, if some turns were
done before. -/
inductive Stands (meanwhile : τ → τ → Prop) (own : τ) (turns : List (WorkerTurn κ)) :
    Spot κ → Fiber (Workplace κ τ) Bool → τ → Prop
  | round {x : τ} (h : Worked p meanwhile own turns x) :
      Stands meanwhile own turns .idle (host.round (marked p)) x
  | ready {x : τ} (h : Worked p meanwhile own turns x) :
      Stands meanwhile own turns .ready (.step Workplace.takeTurn (goOn p)) x
  | chosen (turn : WorkerTurn κ) {x : τ} (h : Worked p meanwhile own turns x) :
      Stands meanwhile own turns (.chosen turn) (goOn p (some turn)) x
  | busy (turn : WorkerTurn κ) (work : Fiber τ Unit) {x y : τ}
      (h : Worked p meanwhile own turns x)
      (hwork : Fiber.Gets meanwhile (p.run turn) x work y) :
      Stands meanwhile own turns (.busy turn) (goOnWith turn work) y
  | rested {x : τ} (h : Worked p meanwhile own turns x) :
      Stands meanwhile own turns .idle (.done true) x
  | finished {x : τ} (h : Worked p meanwhile own (turns ++ [.stop]) x) :
      Stands meanwhile own turns .finished (.done false) x

/-- Others may change the state that the work is about, wherever the loop is. -/
theorem Stands.wait {meanwhile : τ → τ → Prop} {own x y : τ} {turns : List (WorkerTurn κ)}
    {spot : Spot κ} {loop : Fiber (Workplace κ τ) Bool}
    (h : Stands p meanwhile own turns spot loop x) (change : meanwhile x y) :
    Stands p meanwhile own turns spot loop y := by
  cases h with
  | round h => exact .round (h.wait change)
  | ready h => exact .ready (h.wait change)
  | chosen turn h => exact .chosen turn (h.wait change)
  | busy turn work h hwork => exact .busy turn work h (hwork.wait change)
  | rested h => exact .rested (h.wait change)
  | finished h => exact .finished (h.wait change)

/-- The state that the work is about is tied to the marks of turns.  The work of each turn ran
from its start to its end, one after the other, and a turn that began and has not ended is under
way. -/
inductive Tied (meanwhile : τ → τ → Prop) (own : τ) : List (Mark κ) → τ → Prop
  | between {turns : List (WorkerTurn κ)} {x : τ} (h : Worked p meanwhile own turns x) :
      Tied meanwhile own (Mark.ofTurns turns) x
  | during {turns : List (WorkerTurn κ)} {turn : WorkerTurn κ} {work : Fiber τ Unit} {x y : τ}
      (h : Worked p meanwhile own turns x) (hwork : Fiber.Gets meanwhile (p.run turn) x work y) :
      Tied meanwhile own (Mark.ofTurns turns ++ [.began turn]) y

variable (q : Place) (s : Workplace κ τ)

/-- A round takes a turn as soon as there is one. -/
theorem advance_round : (host.round (marked p)).advance q s
    = (if s.worker.hasTurn s.tickDue then .step Workplace.takeTurn (goOn p)
        else host.round (marked p), s) := by
  have hround : host.round (marked p)
      = .await (fun s => s.worker.hasTurn s.tickDue) (.step Workplace.takeTurn (goOn p)) := rfl
  rw [hround, Fiber.advance_await]
  split
  · rfl
  · rfl

/-- A turn that was taken is marked, then worked on. -/
theorem goOn_some (turn : WorkerTurn κ) : goOn p (some turn)
    = .step (fun s => ((), s.note (.began turn))) fun _ => goOnWith turn (p.run turn) := by
  rw [goOn, Workplace.run_marked]
  have hassoc := Fiber.bind_assoc ((p.run turn).within Workplace.ownPart)
    (fun _ => Fiber.change (Workplace.note (.ended turn))) fun _ => .done turn.goesOn
  exact congrArg (Fiber.step _) (funext fun _ => hassoc)

/-- Work on a turn is not over before its end is marked. -/
theorem result?_goOnWith (turn : WorkerTurn κ) (work : Fiber τ Unit) :
    (goOnWith turn work).result? = none := by
  cases work with
  | done value => rfl
  | step section_ next => rfl
  | await ready next => rfl
  | both first second next => rfl
  | race first second next => rfl
  | guarded release body next => rfl

/-- A turn of work that is not over changes the state that the work is about. -/
theorem advance_goOnWith {turn : WorkerTurn κ} {work : Fiber τ Unit}
    (h : work.result? = none) :
    (goOnWith turn work).advance q s
      = (goOnWith turn (work.advance q s.own).1, { s with own := (work.advance q s.own).2 }) := by
  have hwithin := (Fiber.result?_within (Workplace.ownPart : Part (Workplace κ τ) τ) work).trans h
  rw [goOnWith, Fiber.Runs.advance_bind _ hwithin, Fiber.advance_within]
  rfl

/-- Work that is over is marked, and tells whether the loop goes on. -/
theorem advance_goOnWith_done (turn : WorkerTurn κ) :
    (goOnWith turn (.done ())).advance q s = (.done turn.goesOn, s.note (.ended turn)) :=
  Fiber.advance_step q _ _ s

end

/-! ## What a shift keeps -/

namespace Shift

/-- A shift is as it was written down, and the work did what is written down of it. -/
structure Keeps (p : Periodic (Fiber τ) κ) (name : String) (meanwhile : τ → τ → Prop) (own : τ)
    (s : Shift κ τ) (turns : List (WorkerTurn κ)) (spot : Spot κ) : Prop where
  place : s.place.Keeps name turns spot
  loop : Stands p meanwhile own turns spot s.loop s.place.own
  submitting : ∀ x ∈ s.submissions, Submitting x.command x.fiber
  accepted : s.place.accepted.Perm (s.submissions.filterMap Submission.submitted?)
  stopping : ∀ f ∈ s.stops, Stopping s.place.isOver f

/-- If others change the state that the work is about by a move, they may. -/
def Move.IsPermitted (meanwhile : τ → τ → Prop) (own : τ) : Move κ τ → Prop
  | .meanwhile _ _ own' => meanwhile own own'
  | _ => True

/-- In moves one after the other, others change the state that the work is about only as they
may. -/
def Respects (p : Periodic (Fiber τ) κ) (meanwhile : τ → τ → Prop) :
    Shift κ τ → List (Move κ τ) → Prop
  | _, [] => True
  | s, m :: rest =>
      m.IsPermitted meanwhile s.place.own ∧ Respects p meanwhile (s.move p m) rest

variable {p : Periodic (Fiber τ) κ} {name : String} {meanwhile : τ → τ → Prop} {own : τ}
  {s : Shift κ τ} {turns turns' : List (WorkerTurn κ)} {spot spot' : Spot κ}

/-- Others do as they may if they may do anything. -/
theorem respects_any (p : Periodic (Fiber τ) κ) (s : Shift κ τ) (moves : List (Move κ τ)) :
    Respects p (fun _ _ => True) s moves := by
  induction moves generalizing s with
  | nil => exact trivial
  | cons m rest ih =>
    refine ⟨?_, ih _⟩
    cases m with
    | _ => exact trivial

/-- If one of those who submit changes, what it submitted now is what they submitted more. -/
theorem perm_submitted_set {submissions : List (Submission κ τ)} {index : Nat}
    {x y : Submission κ τ} {more : List κ} (hx : submissions[index]? = some x)
    (hmore : y.submitted?.toList = x.submitted?.toList ++ more) :
    ((submissions.set index y).filterMap Submission.submitted?).Perm
      (submissions.filterMap Submission.submitted? ++ more) := by
  obtain ⟨hlt, hget⟩ := List.getElem?_eq_some_iff.mp hx
  have hcons : ∀ z : Submission κ τ,
      ((submissions.set index z).filterMap Submission.submitted?).Perm
        (z.submitted?.toList ++ (submissions.eraseIdx index).filterMap Submission.submitted?) := by
    intro z
    refine ((List.set_perm_cons_eraseIdx hlt z).filterMap _).trans (.of_eq ?_)
    cases hz : z.submitted? with
    | none => exact List.filterMap_cons_none hz
    | some command => exact List.filterMap_cons_some hz
  have hbefore := hcons x
  rw [← hget, List.set_getElem_self, hget] at hbefore
  have hafter := hcons y
  rw [hmore, List.append_assoc] at hafter
  refine hafter.trans (.trans ?_ (hbefore.symm.append_right more))
  rw [List.append_assoc]
  exact List.perm_append_comm.append_left _

/-- What follows where a loop is: a loop that is finished stays so. -/
def Follows (turns : List (WorkerTurn κ)) (spot : Spot κ) (turns' : List (WorkerTurn κ))
    (spot' : Spot κ) : Prop :=
  spot = .finished → turns' = turns ∧ spot' = .finished

/-- What happens at the workplace without submits leaves the rest as it is. -/
theorem Keeps.replace (h : s.Keeps p name meanwhile own turns spot) {place : Workplace κ τ}
    {loop : Fiber (Workplace κ τ) Bool} (hplace : place.Keeps name turns' spot')
    (hloop : Stands p meanwhile own turns' spot' loop place.own)
    (haccepted : place.accepted = s.place.accepted)
    (hover : s.place.isOver = true → place.isOver = true) :
    Keeps p name meanwhile own { s with place := place, loop := loop } turns' spot' where
  place := hplace
  loop := hloop
  submitting := h.submitting
  accepted := haccepted ▸ h.accepted
  stopping f hf := (h.stopping f hf).mono hover

/-- A turn of a loop that is not over advances it. -/
theorem loopTurn_eq {q : Place} {loop : Fiber (Workplace κ τ) Bool} {place : Workplace κ τ}
    (hresult : s.loop.result? = none) (hturn : s.loop.advance q s.place = (loop, place)) :
    s.loopTurn p q = { s with place := place, loop := loop } := by
  rw [loopTurn, hresult]
  simp only [hturn]

/-- A turn of the loop. -/
theorem Keeps.loopTurn (h : s.Keeps p name meanwhile own turns spot) (q : Place) :
    ∃ turns' spot', (s.loopTurn p q).Keeps p name meanwhile own turns' spot' ∧
      Follows turns spot turns' spot' := by
  have hplace := h.place
  have hloop := h.loop
  obtain ⟨place, loop, submissions, stops⟩ := s
  cases hloop with
  | round hworked =>
    have hturn := advance_round p q place
    by_cases hready : place.worker.hasTurn place.tickDue = true
    · rw [if_pos hready] at hturn
      rw [loopTurn_eq rfl hturn]
      have hable : place.Keeps name turns .ready := { hplace with
        able := fun _ => hready
        finished := fun hover => nomatch hplace.finished hover }
      exact ⟨turns, .ready, h.replace hable (.ready hworked) rfl id, nofun⟩
    · rw [if_neg hready] at hturn
      rw [loopTurn_eq rfl hturn]
      exact ⟨turns, .idle, h.replace hplace (.round hworked) rfl id, nofun⟩
  | ready hworked =>
    obtain ⟨turn, t, htake, ht, haccepted, hover, hown⟩ := hplace.take
    have hturn := Fiber.advance_step q Workplace.takeTurn (goOn p) place
    rw [htake] at hturn
    rw [loopTurn_eq rfl hturn]
    have hstands : Stands p meanwhile own turns (.chosen turn) (goOn p (some turn)) t.own :=
      .chosen turn (hown ▸ hworked)
    exact ⟨turns, .chosen turn, h.replace ht hstands haccepted fun h' => hover ▸ h', nofun⟩
  | chosen turn hworked =>
    have hturn : (goOn p (some turn)).advance q place
        = (goOnWith turn (p.run turn), place.note (.began turn)) := by
      rw [goOn_some, Fiber.advance_step]
    have hresult : (goOn p (some turn)).result? = none := by rw [goOn_some]; rfl
    rw [loopTurn_eq hresult hturn]
    exact ⟨turns, .busy turn, h.replace hplace.begin (.busy turn _ hworked .start)
      (Workplace.accepted_began place turn) id, nofun⟩
  | busy turn work hworked hgot =>
    have hresult := result?_goOnWith turn work
    cases hwork : work.result? with
    | none =>
      rw [loopTurn_eq hresult (advance_goOnWith q place hwork)]
      have hown : Workplace.Meantime place { place with own := (work.advance q place.own).2 } :=
        .of_eq rfl rfl rfl id
      exact ⟨turns, .busy turn,
        h.replace (hplace.meantime hown) (.busy turn _ hworked (.turn q hgot)) rfl id, nofun⟩
    | some value =>
      obtain rfl := Fiber.eq_done_of_result? hwork
      rw [loopTurn_eq hresult (advance_goOnWith_done q place turn)]
      have haccepted := Workplace.accepted_ended place turn
      have hdone : Worked p meanwhile own (turns ++ [turn]) place.own :=
        hworked.turn (hgot.runs (.ended () place.own))
      cases turn with
      | handle command =>
        exact ⟨_, .idle, h.replace (hplace.end_of_goesOn rfl) (.rested hdone) haccepted id, nofun⟩
      | tick =>
        exact ⟨_, .idle, h.replace (hplace.end_of_goesOn rfl) (.rested hdone) haccepted id, nofun⟩
      | stop =>
        exact ⟨turns, .finished, h.replace hplace.end_stop (.finished hdone) haccepted id, nofun⟩
  | rested hworked => exact ⟨turns, .idle, h.replace hplace (.round hworked) rfl id, nofun⟩
  | finished hworked =>
    have hover : Workplace.Keeps name { place with isOver := true } turns .finished :=
      { hplace with finished := fun _ => rfl }
    refine ⟨turns, .finished, h.replace hover (.finished hworked) rfl fun _ => rfl, ?_⟩
    intro _
    exact ⟨rfl, rfl⟩

/-- A turn of whoever submits keeps to the protocol. -/
theorem Keeps.submitTurn (h : s.Keeps p name meanwhile own turns spot) (index : Nat) (q : Place) :
    (s.submitTurn index q).Keeps p name meanwhile own turns spot := by
  rw [Shift.submitTurn]
  split
  · next x hx =>
    obtain ⟨hf, hlater, hown, more, hsubmitted, haccepted⟩ :=
      Submission.advance_keeps (h.submitting x (List.mem_of_getElem? hx)) q s.place
    refine ⟨h.place.meantime hlater, hown ▸ h.loop, ?_, ?_, ?_⟩
    · intro y hy
      rcases List.mem_or_eq_of_mem_set hy with hy | rfl
      · exact h.submitting y hy
      · exact hf
    · rw [haccepted]
      exact (h.accepted.append_right more).trans (perm_submitted_set hx hsubmitted).symm
    · intro f hf
      exact (h.stopping f hf).mono (hlater.isOver_eq ▸ ·)
  · exact h

/-- A turn of whoever stops keeps to the protocol. -/
theorem Keeps.stopTurn (h : s.Keeps p name meanwhile own turns spot) (index : Nat) (q : Place) :
    (s.stopTurn index q).Keeps p name meanwhile own turns spot := by
  rw [Shift.stopTurn, Fiber.advanceAt]
  split
  · next f hf =>
    obtain ⟨hstopping, hplace⟩ := (h.stopping f (List.mem_of_getElem? hf)).advance q
    have hlater : Workplace.Meantime s.place (f.advance q s.place).2 := by
      rcases hplace with hplace | hplace
      · rw [hplace]
        exact .refl _
      · rw [hplace]
        exact .askToStop _
    have haccepted : (f.advance q s.place).2.accepted = s.place.accepted := by
      rcases hplace with hplace | hplace
      · rw [hplace]
      · rw [hplace]
        rfl
    have hown : (f.advance q s.place).2.own = s.place.own := by
      rcases hplace with hplace | hplace
      · rw [hplace]
      · rw [hplace]
        rfl
    refine ⟨h.place.meantime hlater, hown ▸ h.loop, h.submitting, haccepted ▸ h.accepted, ?_⟩
    intro g hg
    rw [hlater.isOver_eq]
    rcases List.mem_or_eq_of_mem_set hg with hg | rfl
    · exact h.stopping g hg
    · exact hstopping
  · exact h

/-- Each move keeps what was written down, and a loop that is finished stays so. -/
theorem Keeps.move (h : s.Keeps p name meanwhile own turns spot) (m : Move κ τ)
    (hothers : m.IsPermitted meanwhile s.place.own) :
    ∃ turns' spot', (s.move p m).Keeps p name meanwhile own turns' spot' ∧
      Follows turns spot turns' spot' := by
  have hsame : Follows turns spot turns spot := by
    intro hspot
    exact ⟨rfl, hspot⟩
  cases m with
  | submit command =>
    have hsubmitting : ∀ x ∈ s.submissions ++ [Submission.begin command],
        Submitting x.command x.fiber :=
      List.forall_mem_append.mpr ⟨h.submitting, List.forall_mem_singleton.mpr .beginning⟩
    have haccepted : s.place.accepted.Perm
        ((s.submissions ++ [Submission.begin command]).filterMap Submission.submitted?) := by
      have hnone : (Submission.begin command : Submission κ τ).submitted? = none := rfl
      rw [List.filterMap_append, List.filterMap_cons_none hnone, List.filterMap_nil,
        List.append_nil]
      exact h.accepted
    exact ⟨turns, spot, ⟨h.place, h.loop, hsubmitting, haccepted, h.stopping⟩, hsame⟩
  | stop =>
    have hstopping : ∀ f ∈ s.stops ++ [host.stop], Stopping s.place.isOver f :=
      List.forall_mem_append.mpr ⟨h.stopping, List.forall_mem_singleton.mpr .beginning⟩
    exact ⟨turns, spot, ⟨h.place, h.loop, h.submitting, h.accepted, hstopping⟩, hsame⟩
  | submitTurn index q => exact ⟨turns, spot, h.submitTurn index q, hsame⟩
  | stopTurn index q => exact ⟨turns, spot, h.stopTurn index q, hsame⟩
  | loopTurn q => exact h.loopTurn q
  | fallDue =>
    have hlater : Workplace.Meantime s.place { s.place with tickDue := true } :=
      .of_eq rfl rfl rfl fun _ => rfl
    exact ⟨turns, spot, h.replace (h.place.meantime hlater) h.loop rfl id, hsame⟩
  | meanwhile now choice own' =>
    have hlater : Workplace.Meantime s.place
        { s.place with now := now, choice := choice, own := own' } := .of_eq rfl rfl rfl id
    have hloop := h.loop.wait p hothers
    exact ⟨turns, spot, h.replace (h.place.meantime hlater) hloop rfl id, hsame⟩

/-- Any moves keep to the protocol, and the turns that were begun remain as they were. -/
theorem Keeps.run (h : s.Keeps p name meanwhile own turns spot) (moves : List (Move κ τ))
    (hothers : Respects p meanwhile s moves) :
    ∃ turns' spot', (s.run p moves).Keeps p name meanwhile own turns' spot' ∧
      Follows turns spot turns' spot' := by
  induction moves generalizing s turns spot with
  | nil =>
    refine ⟨turns, spot, h, ?_⟩
    intro hspot
    exact ⟨rfl, hspot⟩
  | cons m rest ih =>
    obtain ⟨turns', spot', h', hfollows⟩ := h.move m hothers.1
    obtain ⟨turns'', spot'', h'', hfollows'⟩ := ih h' hothers.2
    refine ⟨turns'', spot'', h'', ?_⟩
    intro hspot
    obtain ⟨rfl, hspot'⟩ := hfollows hspot
    exact hfollows' hspot'

/-- A worker keeps to the protocol at the beginning. -/
theorem keeps_start (p : Periodic (Fiber τ) κ) (name : String) (periodMs now : Nat)
    (meanwhile : τ → τ → Prop) (own : τ) :
    (start p name periodMs now own).Keeps p name meanwhile own [] .idle where
  place := {
    name_eq := rfl
    unstopped := nofun
    doings_eq := rfl
    accepted_eq := rfl
    asked := nofun
    able := nofun
    finished := nofun }
  loop := .round .start
  submitting := nofun
  accepted := .refl _
  stopping := nofun

/-! ## What follows -/

/-- What was begun is what ended and what is being worked on. -/
theorem Keeps.begun_eq (h : s.Keeps p name meanwhile own turns spot) :
    s.place.begun = turns ++ spot.begun := by
  rw [Workplace.begun, h.place.doings_eq, List.filterMap_append, Mark.filterMap_begun?_ofTurns,
    Spot.begun]

/-- Commands are handled in the order in which they were accepted. -/
theorem Keeps.handled_prefix (h : s.Keeps p name meanwhile own turns spot) :
    s.place.handled <+: s.place.accepted := by
  have hbegun : turns ++ spot.begun <+: turns ++ spot.taken :=
    (List.prefix_append_right_inj turns).mpr spot.begun_prefix_taken
  rw [Workplace.handled, h.begun_eq, h.place.accepted_eq]
  exact (hbegun.filterMap _).trans (List.prefix_append _ _)

/-- Each turn ends before the next one begins. -/
theorem Keeps.doings_prefix (h : s.Keeps p name meanwhile own turns spot) :
    s.place.doings <+: Mark.ofTurns s.place.begun := by
  rw [h.begun_eq, h.place.doings_eq, Mark.ofTurns_append]
  exact (List.prefix_append_right_inj _).mpr spot.marks_prefix_ofTurns

/-- The loop is finished when somebody who stopped the worker is done. -/
theorem Keeps.finished_of_stopped (h : s.Keeps p name meanwhile own turns spot)
    (hdone : .done () ∈ s.stops) : spot = .finished := by
  cases h.stopping _ hdone with
  | ended hover => exact h.place.finished hover

/-- The work did what is written down of it. -/
theorem Keeps.tied (h : s.Keeps p name meanwhile own turns spot) :
    Tied p meanwhile own s.place.doings s.place.own := by
  have hloop := h.loop
  rw [h.place.doings_eq]
  obtain ⟨place, loop, submissions, stops⟩ := s
  cases hloop with
  | round hworked | ready hworked | chosen turn hworked | rested hworked =>
    change Tied p meanwhile own (Mark.ofTurns turns ++ []) _
    rw [List.append_nil]
    exact .between hworked
  | busy turn work hworked hgot => exact .during hworked hgot
  | finished hworked =>
    have hmarks : Mark.ofTurns turns ++ Spot.finished.marks
        = Mark.ofTurns (turns ++ [.stop]) := (Mark.ofTurns_append turns [.stop]).symm
    rw [hmarks]
    exact .between hworked

/-- A worker under any schedule, whatever its work is.  Commands are handled in the order in
which they were accepted, each at most once, and those accepted are those whose submits ended
with success.  Each turn ends before the next one begins, and between its marks its work runs
once, from its start to its end; the state that the work is about changes in no other way but as
others may change it.  When somebody who stopped the worker is done, then the last turn was to
stop, and it was the only one of its kind; nothing is taken up later, and no submit has success
that begins later. -/
theorem keeps_protocol (p : Periodic (Fiber τ) κ) (name : String) (periodMs now : Nat) (own : τ)
    (moves : List (Move κ τ)) :
    let s := run p (start p name periodMs now own) moves
    s.place.handled <+: s.place.accepted ∧
      s.place.accepted.Perm (s.submissions.filterMap Submission.submitted?) ∧
      s.place.doings <+: Mark.ofTurns s.place.begun ∧
      (∀ meanwhile : τ → τ → Prop, Respects p meanwhile (start p name periodMs now own) moves →
        Tied p meanwhile own s.place.doings s.place.own) ∧
      (.done () ∈ s.stops →
        (∃ turns, .stop ∉ turns ∧
          ∀ later, (run p s later).place.doings = Mark.ofTurns (turns ++ [.stop])) ∧
        ∀ later command q, (host.submit command).advance q (run p s later).place
          = (.done (.error (.notRunning name)), (run p s later).place)) := by
  intro s
  obtain ⟨turns, spot, h, -⟩ := (keeps_start p name periodMs now (fun _ _ => True) own).run moves
    (respects_any p _ moves)
  refine ⟨h.handled_prefix, h.accepted, h.doings_prefix, ?_, ?_⟩
  · intro meanwhile hothers
    obtain ⟨_, _, hkeeps, -⟩ := (keeps_start p name periodMs now meanwhile own).run moves hothers
    exact hkeeps.tied
  intro hdone
  obtain rfl := h.finished_of_stopped hdone
  have hlater : ∀ later, (run p s later).Keeps p name (fun _ _ => True) own turns .finished := by
    intro later
    obtain ⟨turns', spot', h', hfollows⟩ := h.run later (respects_any p s later)
    obtain ⟨rfl, rfl⟩ := hfollows rfl
    exact h'
  refine ⟨⟨turns, h.place.unstopped, ?_⟩, ?_⟩
  · intro later
    rw [(hlater later).place.doings_eq, Mark.ofTurns_append]
    rfl
  · intro later command q
    have hplace := (hlater later).place
    rw [advance_submit, if_pos (hplace.asked (List.mem_singleton.mpr rfl)), hplace.name_eq]

/-- Work that adds the numbers it is given. -/
def adding : Periodic (Fiber Nat) Nat where
  handle n := Fiber.change (· + n)
  tick := .done ()
  stop := .done ()

/-- Two numbers are submitted, and somebody stops the worker.  The loop still takes up the first
number, as it happens to choose it, and then stops. -/
def stoppedBetween : List (Move Nat Nat) :=
  List.flatten [
    [.submit 2, .submit 3],
    .replicate 3 (.submitTurn 0 .here),
    .replicate 3 (.submitTurn 1 .here),
    [.stop, .stopTurn 0 .here, .meanwhile 0 1 0],
    .replicate 6 (.loopTurn .here),
    [.meanwhile 0 0 2],
    .replicate 6 (.loopTurn .here),
    [.stopTurn 0 .here]]

theorem stopped_between_commands :
    let s := run adding (start adding "adder" 60000 0 0) stoppedBetween
    s.place.accepted = [2, 3] ∧ s.place.handled = [2] ∧ s.place.own = 2 ∧
      Tied adding Eq 0 s.place.doings 2 ∧ .done () ∈ s.stops ∧
      (∃ turns, .stop ∉ turns ∧
        ∀ later, (run adding s later).place.doings = Mark.ofTurns (turns ++ [.stop])) ∧
      ∀ later command q, (host.submit command).advance q (run adding s later).place
        = (.done (.error (.notRunning "adder")), (run adding s later).place) := by
  intro s
  have hstopped : .done () ∈ s.stops := by
    have hstops : s.stops = [.done ()] := rfl
    rw [hstops]
    exact List.mem_singleton.mpr rfl
  have hothers : Respects adding Eq (start adding "adder" 60000 0 0) stoppedBetween := by
    repeat' constructor
  obtain ⟨-, -, -, htied, hlater⟩ := keeps_protocol adding "adder" 60000 0 0 stoppedBetween
  exact ⟨rfl, rfl, rfl, htied Eq hothers, hstopped, hlater hstopped⟩

end Shift

end ServiceMesh
