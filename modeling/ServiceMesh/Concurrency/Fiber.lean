/-!
# Fibers

A fiber is a computation over a shared state that may have to wait.  It is a tree:
its nodes change the state in one atomic section, wait for a condition on the
state, run two fibers side by side, or run two fibers against each other and drop
the one that loses.

`Fiber.poll` runs a fiber as far as it goes without waiting.  Between two polls the
state may change in any way, so whatever holds of a fiber under all interleavings
is a statement about its sections.
-/

namespace ServiceMesh

/-- A computation over states `σ` that may wait, and in the end gives an `α`. -/
inductive Fiber (σ : Type) : Type → Type 1 where
  /-- It is over. -/
  | done {α : Type} (value : α) : Fiber σ α
  /-- Changes the state in one section and goes on. -/
  | step {α β : Type} (section_ : σ → β × σ) (next : β → Fiber σ α) : Fiber σ α
  /-- Waits until the state is as it should be. -/
  | await {α : Type} (ready : σ → Bool) (next : Fiber σ α) : Fiber σ α
  /-- Runs two fibers until both are over.  The first goes first. -/
  | both {α β γ : Type} (first : Fiber σ β) (second : Fiber σ γ) (next : β → γ → Fiber σ α) :
      Fiber σ α
  /-- Runs two fibers until one is over, and drops the other. -/
  | race {α β γ : Type} (first : Fiber σ β) (second : Fiber σ γ) (next : β ⊕ γ → Fiber σ α) :
      Fiber σ α
  /-- Runs a fiber, and puts the state in order when it is over or dropped. -/
  | guarded {α β : Type} (release : σ → σ) (body : Fiber σ β) (next : β → Fiber σ α) : Fiber σ α

namespace Fiber

variable {σ α β γ : Type}

/-- Goes on with another fiber when the first is over. -/
def bind : {α β : Type} → Fiber σ α → (α → Fiber σ β) → Fiber σ β
  | _, _, done value, f => f value
  | _, _, step section_ next, f => step section_ fun b => bind (next b) f
  | _, _, await ready next, f => await ready (bind next f)
  | _, _, both first second next, f => both first second fun b c => bind (next b c) f
  | _, _, race first second next, f => race first second fun r => bind (next r) f
  | _, _, guarded release body next, f => guarded release body fun b => bind (next b) f

instance : Monad (Fiber σ) where
  pure := done
  bind := bind

/-- One atomic section. -/
def atomically (section_ : σ → α × σ) : Fiber σ α := step section_ done

/-- One atomic section without a result. -/
def change (f : σ → σ) : Fiber σ Unit := step (fun s => ((), f s)) done

/-- Reads the state. -/
def read (f : σ → α) : Fiber σ α := step (fun s => (f s, s)) done

/-- Waits for a condition. -/
def until_ (ready : σ → Bool) : Fiber σ Unit := await ready (done ())

/-- Runs fibers side by side, in order, until all are over. -/
def all : List (Fiber σ α) → Fiber σ (List α)
  | [] => done []
  | x :: rest => both x (all rest) fun a as => done (a :: as)

/-- Runs a fiber with a release. -/
def guarding (release : σ → σ) (body : Fiber σ α) : Fiber σ α := guarded release body done

/-- Gives the value of a fiber that is over. -/
def result? : {α : Type} → Fiber σ α → Option α
  | _, done value => some value
  | _, _ => none

/-- Puts the state in order after a fiber that will not go on. -/
def drop : {α : Type} → Fiber σ α → σ → σ
  | _, both first second _, s => drop second (drop first s)
  | _, race first second _, s => drop second (drop first s)
  | _, guarded release body _, s => release (drop body s)
  | _, _, s => s

/-- Whether a poll would get anywhere. -/
def isReady : {α : Type} → Fiber σ α → σ → Bool
  | _, done _, _ => false
  | _, step .., _ => true
  | _, await ready _, s => ready s
  | _, both first second _, s => isReady first s || isReady second s
  | _, race first second _, s => isReady first s || isReady second s
  | _, guarded _ body _, s => isReady body s

/-- Runs a fiber as far as it goes without waiting. -/
def poll : {α : Type} → Fiber σ α → σ → Fiber σ α × σ
  | _, done value, s => (done value, s)
  | _, step section_ next, s =>
      let r := section_ s
      poll (next r.1) r.2
  | _, await ready next, s => if ready s then poll next s else (await ready next, s)
  | _, both first second next, s =>
      let f := poll first s
      let g := poll second f.2
      match result? f.1, result? g.1 with
      | some b, some c => poll (next b c) g.2
      | _, _ => (both f.1 g.1 next, g.2)
  | _, race first second next, s =>
      let f := poll first s
      match result? f.1 with
      | some b => poll (next (.inl b)) (drop second f.2)
      | none =>
          let g := poll second f.2
          match result? g.1 with
          | some c => poll (next (.inr c)) (drop f.1 g.2)
          | none => (race f.1 g.1 next, g.2)
  | _, guarded release body next, s =>
      let f := poll body s
      match result? f.1 with
      | some b => poll (next b) (release f.2)
      | none => (guarded release f.1 next, f.2)

@[simp] theorem poll_done (value : α) (s : σ) :
    poll (done value) s = (done value, s) := rfl

@[simp] theorem poll_atomically (f : σ → α × σ) (s : σ) :
    poll (atomically f) s = (done (f s).1, (f s).2) := rfl

@[simp] theorem poll_await_of_not_ready {ready : σ → Bool} {next : Fiber σ α} {s : σ}
    (h : ready s = false) : poll (await ready next) s = (await ready next, s) := by
  simp [poll, h]

end Fiber

end ServiceMesh
