import Mathlib.Logic.Relation
import ServiceMesh.Proofs.Concurrency.Courses
import ServiceMesh.Proofs.Concurrency.Promptness

/-!
# Runs from start to end

A fiber *runs* from a state to its end by turns, taken at any places and in any order, while
the state may change between two turns by what happens meanwhile (`Fiber.Runs`).  A run that is
under way has *got* the fiber somewhere (`Fiber.Gets`).  A run of two fibers one after the other
is a run of the first and then one of the second (`Runs.of_bind`).  What a fiber heeds holds at
the end of each of its runs (`Heeds.runs`), and a prompt fiber has a run (`Prompt.runs`).
-/

namespace ServiceMesh

namespace Fiber

open Relation (ReflTransGen)

variable {σ α β γ : Type} {meanwhile : σ → σ → Prop}

/-- A fiber gets from a state to its end with a value, and leaves a state. -/
inductive Runs (meanwhile : σ → σ → Prop) : Fiber σ α → σ → α → σ → Prop
  | ended (a : α) (s : σ) : Runs meanwhile (done a) s a s
  | turn {f : Fiber σ α} {s t : σ} {a : α} (p : Place)
      (rest : Runs meanwhile (advance p f s).1 (advance p f s).2 a t) : Runs meanwhile f s a t
  | wait {f : Fiber σ α} {s s' t : σ} {a : α} (change : meanwhile s s')
      (rest : Runs meanwhile f s' a t) : Runs meanwhile f s a t

namespace Runs

theorem advances {places : List Place} {f : Fiber σ α} {s t : σ} {a : α}
    (h : Runs meanwhile (Fiber.advances places f s).1 (Fiber.advances places f s).2 a t) :
    Runs meanwhile f s a t := by
  induction places generalizing f s with
  | nil => exact h
  | cons p rest ih => exact .turn p (ih h)

/-- A poll is the beginning of a run. -/
theorem poll {f : Fiber σ α} {s t : σ} {a : α}
    (h : Runs meanwhile (Fiber.poll f s).1 (Fiber.poll f s).2 a t) : Runs meanwhile f s a t := by
  obtain ⟨places, hplaces⟩ := exists_advances_eq_poll f s
  rw [← hplaces] at h
  exact h.advances

/-- A poll that gets to the end is a run. -/
theorem of_poll {f : Fiber σ α} {s t : σ} {a : α} (h : Fiber.poll f s = (done a, t)) :
    Runs meanwhile f s a t := by
  have hrun : Runs meanwhile (Fiber.poll f s).1 (Fiber.poll f s).2 a t := by
    rw [h]
    exact .ended a t
  exact hrun.poll

/-- What happens before the first turn is part of a run. -/
theorem waits {f : Fiber σ α} {s s' t : σ} {a : α} (hlater : ReflTransGen meanwhile s s')
    (h : Runs meanwhile f s' a t) : Runs meanwhile f s a t := by
  induction hlater using ReflTransGen.head_induction_on with
  | refl => exact h
  | head change _ ih => exact .wait change ih

/-! ## What a run is made of -/

theorem of_done {a b : α} {s t : σ} (h : Runs meanwhile (done a) s b t) :
    a = b ∧ ReflTransGen meanwhile s t := by
  generalize hf : (done a : Fiber σ α) = f at h
  induction h with
  | ended b s =>
    cases hf
    exact ⟨rfl, .refl⟩
  | turn p rest ih =>
    subst hf
    rw [advance_done] at ih
    exact ih rfl
  | wait change rest ih =>
    obtain ⟨hab, hlater⟩ := ih hf
    exact ⟨hab, hlater.head change⟩

theorem of_step {section_ : σ → β × σ} {next : β → Fiber σ α} {s t : σ} {a : α}
    (h : Runs meanwhile (step section_ next) s a t) :
    ∃ u, ReflTransGen meanwhile s u ∧
      Runs meanwhile (next (section_ u).1) (section_ u).2 a t := by
  generalize hf : step section_ next = f at h
  induction h with
  | ended b s => cases hf
  | @turn f s t a p rest ih =>
    subst hf
    rw [advance_step] at rest
    exact ⟨s, .refl, rest⟩
  | wait change rest ih =>
    obtain ⟨u, hlater, hnext⟩ := ih hf
    exact ⟨u, hlater.head change, hnext⟩

theorem of_atomically {section_ : σ → α × σ} {s t : σ} {a : α}
    (h : Runs meanwhile (atomically section_) s a t) :
    ∃ u, ReflTransGen meanwhile s u ∧ (section_ u).1 = a ∧
      ReflTransGen meanwhile (section_ u).2 t := by
  obtain ⟨u, hlater, hnext⟩ := of_step h
  exact ⟨u, hlater, of_done hnext⟩

/-- A turn of two fibers one after the other is one of the first, as long as it is not
over. -/
theorem advance_bind {f : Fiber σ α} (g : α → Fiber σ β) (hf : result? f = none) (p : Place)
    (s : σ) : advance p (f >>= g) s = ((advance p f s).1 >>= g, (advance p f s).2) := by
  cases f with
  | done value => cases hf
  | step section_ next =>
    rw [advance_step]
    exact advance_step p section_ (fun b => next b >>= g) s
  | await ready next =>
    rw [advance_await]
    refine (advance_await p ready (next >>= g) s).trans ?_
    split
    · rfl
    · rfl
  | both first second next =>
    change advance p (both first second fun b c => next b c >>= g) s = _
    cases p with
    | here =>
      simp only [advance]
      split
      · rfl
      · rfl
    | first q => rfl
    | second q => rfl
  | race first second next =>
    change advance p (race first second fun r => next r >>= g) s = _
    cases p with
    | here =>
      simp only [advance]
      split
      · rfl
      · rfl
      · rfl
    | first q => rfl
    | second q => rfl
  | guarded release body next =>
    change advance p (guarded release body fun b => next b >>= g) s = _
    cases p with
    | here =>
      simp only [advance]
      split
      · rfl
      · rfl
    | first q => rfl
    | second q => rfl

/-- A run of two fibers one after the other is a run of the first, and then one of the
second. -/
theorem of_bind {f : Fiber σ α} {g : α → Fiber σ β} {s t : σ} {b : β}
    (h : Runs meanwhile (f >>= g) s b t) :
    ∃ a u, Runs meanwhile f s a u ∧ Runs meanwhile (g a) u b t := by
  generalize hfg : f >>= g = h' at h
  induction h generalizing f with
  | ended b s =>
    cases f with
    | done a =>
      have hga : g a = done b := hfg
      exact ⟨a, s, .ended a s, hga ▸ .ended b s⟩
    | step section_ next => cases hfg
    | await ready next => cases hfg
    | both first second next => cases hfg
    | race first second next => cases hfg
    | guarded release body next => cases hfg
  | @turn f' s t b p rest ih =>
    subst hfg
    cases hf : result? f with
    | none =>
      rw [advance_bind g hf] at ih
      obtain ⟨a, u, hfirst, hsecond⟩ := ih rfl
      exact ⟨a, u, .turn p hfirst, hsecond⟩
    | some a =>
      obtain rfl := eq_done_of_result? hf
      exact ⟨a, s, .ended a s, .turn p rest⟩
  | wait change rest ih =>
    obtain ⟨a, u, hfirst, hsecond⟩ := ih hfg
    exact ⟨a, u, .wait change hfirst, hsecond⟩

end Runs

/-! ## Runs under way -/

/-- A fiber gets from a state to what is left of it, and leaves a state. -/
inductive Gets (meanwhile : σ → σ → Prop) (f : Fiber σ α) (s : σ) : Fiber σ α → σ → Prop
  | start : Gets meanwhile f s f s
  | turn {g : Fiber σ α} {t : σ} (p : Place) (before : Gets meanwhile f s g t) :
      Gets meanwhile f s (advance p g t).1 (advance p g t).2
  | wait {g : Fiber σ α} {t t' : σ} (before : Gets meanwhile f s g t) (change : meanwhile t t') :
      Gets meanwhile f s g t'

/-- A run of what is left is the rest of a run. -/
theorem Gets.runs {f g : Fiber σ α} {s t u : σ} {a : α} (h : Gets meanwhile f s g t)
    (hrest : Runs meanwhile g t a u) : Runs meanwhile f s a u := by
  induction h with
  | start => exact hrest
  | turn p before ih => exact ih (.turn p hrest)
  | wait before change ih => exact ih (.wait change hrest)

/-! ## What holds at the end -/

/-- What is kept by all that happens meanwhile holds later. -/
theorem kept_meanwhile {I : σ → Prop} (hmeanwhile : ∀ s t, meanwhile s t → I s → I t) {s t : σ}
    (h : ReflTransGen meanwhile s t) (hs : I s) : I t := by
  induction h with
  | refl => exact hs
  | tail _ hlast ih => exact hmeanwhile _ _ hlast ih

/-- What is said of the end of a fiber holds at the end of each of its runs. -/
theorem Heeds.runs {C : Course σ} {f : Fiber σ α} {post : α → σ → Prop} {s t : σ} {a : α}
    (hmeanwhile : ∀ s t, meanwhile s t → C.Inv s → C.Inv t ∧ C.Later s t)
    (hpost : ∀ a, C.Stable (post a)) (hs : C.Inv s) (hf : Heeds C f post s)
    (h : Runs meanwhile f s a t) : C.Inv t ∧ post a t := by
  induction h with
  | ended a s => exact ⟨hs, hf⟩
  | turn p rest ih =>
    obtain ⟨hs', -, hf'⟩ := hf.advance hpost p hs
    exact ih hs' hf'
  | wait change rest ih =>
    obtain ⟨hs', hlater⟩ := hmeanwhile _ _ change hs
    exact ih hs' (hf.later hpost hlater hs')

/-- The invariant of a fiber holds at the end of each of its runs, and so does what is said of
its value. -/
theorem Abides.runs {Inv : σ → Prop} {V : α → Prop} {f : Fiber σ α} {s t : σ} {a : α}
    (hmeanwhile : ∀ s t, meanwhile s t → Inv s → Inv t) (hf : Abides Inv f V) (hs : Inv s)
    (h : Runs meanwhile f s a t) : Inv t ∧ V a :=
  (hf s hs).runs (fun s t change hs => ⟨hmeanwhile s t change hs, trivial⟩)
    (fun _ => stable_const _) hs h

/-- A prompt fiber has a run. -/
theorem Prompt.runs {I : σ → Prop} {f : Fiber σ α} (hf : Prompt I f) {s : σ} (hs : I s) :
    ∃ a t, Runs meanwhile f s a t ∧ I t := by
  obtain ⟨a, t, hpoll, ht⟩ := hf s hs
  exact ⟨a, t, .of_poll hpoll, ht⟩

end Fiber

end ServiceMesh
