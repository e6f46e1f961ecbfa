import ServiceMesh.Concurrency.Fiber

/-!
# One section at a time

Fibers that run side by side take turns at the boundaries of their sections.  Here a
turn is made explicit: `Fiber.advance` runs a single section, at a chosen `Place` of
the tree, and leaves every other part as it is.  A schedule is a list of turns.

A poll is one such schedule (`Fiber.exists_advances_eq_poll`): it takes all the turns
that a fiber can take without waiting.  What holds under every schedule of turns
therefore holds however the polls of several fibers are ordered.
-/

namespace ServiceMesh

/-- A place in the tree of a fiber. -/
inductive Place where
  /-- The root. -/
  | here
  /-- A place in the first part, or in the part that is guarded. -/
  | first (inner : Place)
  /-- A place in the second part. -/
  | second (inner : Place)
deriving DecidableEq, Repr

namespace Fiber

variable {σ α β γ : Type}

/-- Takes one turn at a place.  A turn at a place that has nothing to do changes
nothing. -/
def advance : {α : Type} → Place → Fiber σ α → σ → Fiber σ α × σ
  | _, _, done value, s => (done value, s)
  | _, _, step section_ next, s => (next (section_ s).1, (section_ s).2)
  | _, _, await ready next, s => if ready s then (next, s) else (await ready next, s)
  | _, .here, both first second next, s =>
      match result? first, result? second with
      | some b, some c => (next b c, s)
      | _, _ => (both first second next, s)
  | _, .first p, both first second next, s =>
      (both (advance p first s).1 second next, (advance p first s).2)
  | _, .second p, both first second next, s =>
      (both first (advance p second s).1 next, (advance p second s).2)
  | _, .here, race first second next, s =>
      match result? first, result? second with
      | some b, _ => (next (.inl b), drop second s)
      | none, some c => (next (.inr c), drop first s)
      | none, none => (race first second next, s)
  | _, .first p, race first second next, s =>
      (race (advance p first s).1 second next, (advance p first s).2)
  | _, .second p, race first second next, s =>
      (race first (advance p second s).1 next, (advance p second s).2)
  | _, .here, guarded release body next, s =>
      match result? body with
      | some b => (next b, release s)
      | none => (guarded release body next, s)
  | _, .first p, guarded release body next, s =>
      (guarded release (advance p body s).1 next, (advance p body s).2)
  | _, .second _, guarded release body next, s => (guarded release body next, s)

@[simp] theorem advance_done (p : Place) (value : α) (s : σ) :
    advance p (done value) s = (done value, s) := by
  cases p with
  | here => rfl
  | first q => rfl
  | second q => rfl

@[simp] theorem advance_step (p : Place) (section_ : σ → β × σ) (next : β → Fiber σ α) (s : σ) :
    advance p (step section_ next) s = (next (section_ s).1, (section_ s).2) := by
  cases p with
  | here => rfl
  | first q => rfl
  | second q => rfl

theorem advance_await (p : Place) (ready : σ → Bool) (next : Fiber σ α) (s : σ) :
    advance p (await ready next) s = if ready s then (next, s) else (await ready next, s) := by
  cases p with
  | here => rfl
  | first q => rfl
  | second q => rfl

/-- Takes turns one after the other. -/
def advances : List Place → Fiber σ α → σ → Fiber σ α × σ
  | [], f, s => (f, s)
  | p :: rest, f, s => advances rest (advance p f s).1 (advance p f s).2

theorem eq_done_of_result? {f : Fiber σ α} {a : α} (h : result? f = some a) : f = done a := by
  cases f with
  | done value =>
    cases h
    rfl
  | step section_ next => cases h
  | await ready next => cases h
  | both first second next => cases h
  | race first second next => cases h
  | guarded release body next => cases h

/-- One of several fibers takes a turn. -/
def advanceAt (index : Nat) (p : Place) (fs : List (Fiber σ α)) (s : σ) : List (Fiber σ α) × σ :=
  match fs[index]? with
  | some f => (fs.set index (advance p f s).1, (advance p f s).2)
  | none => (fs, s)

theorem advanceAt_cons_succ (index : Nat) (p : Place) (f : Fiber σ α) (fs : List (Fiber σ α))
    (s : σ) : advanceAt (index + 1) p (f :: fs) s
      = (f :: (advanceAt index p fs s).1, (advanceAt index p fs s).2) := by
  unfold advanceAt
  rw [List.getElem?_cons_succ]
  cases fs[index]? with
  | none => rfl
  | some g => rfl

/-! ## Polls are schedules -/

theorem advances_append (ps qs : List Place) (f : Fiber σ α) (s : σ) :
    advances (ps ++ qs) f s = advances qs (advances ps f s).1 (advances ps f s).2 := by
  induction ps generalizing f s with
  | nil => rfl
  | cons p rest ih => exact ih _ _

theorem advances_both_first (ps : List Place) (f : Fiber σ β) (g : Fiber σ γ)
    (next : β → γ → Fiber σ α) (s : σ) :
    advances (ps.map .first) (both f g next) s
      = (both (advances ps f s).1 g next, (advances ps f s).2) := by
  induction ps generalizing f s with
  | nil => rfl
  | cons p rest ih => exact ih _ _

theorem advances_both_second (ps : List Place) (f : Fiber σ β) (g : Fiber σ γ)
    (next : β → γ → Fiber σ α) (s : σ) :
    advances (ps.map .second) (both f g next) s
      = (both f (advances ps g s).1 next, (advances ps g s).2) := by
  induction ps generalizing g s with
  | nil => rfl
  | cons p rest ih => exact ih _ _

theorem advances_race_first (ps : List Place) (f : Fiber σ β) (g : Fiber σ γ)
    (next : β ⊕ γ → Fiber σ α) (s : σ) :
    advances (ps.map .first) (race f g next) s
      = (race (advances ps f s).1 g next, (advances ps f s).2) := by
  induction ps generalizing f s with
  | nil => rfl
  | cons p rest ih => exact ih _ _

theorem advances_race_second (ps : List Place) (f : Fiber σ β) (g : Fiber σ γ)
    (next : β ⊕ γ → Fiber σ α) (s : σ) :
    advances (ps.map .second) (race f g next) s
      = (race f (advances ps g s).1 next, (advances ps g s).2) := by
  induction ps generalizing g s with
  | nil => rfl
  | cons p rest ih => exact ih _ _

theorem advances_guarded (ps : List Place) (release : σ → σ) (body : Fiber σ β)
    (next : β → Fiber σ α) (s : σ) :
    advances (ps.map .first) (guarded release body next) s
      = (guarded release (advances ps body s).1 next, (advances ps body s).2) := by
  induction ps generalizing body s with
  | nil => rfl
  | cons p rest ih => exact ih _ _

/-- A poll is a schedule of turns. -/
theorem exists_advances_eq_poll (f : Fiber σ α) (s : σ) :
    ∃ places, advances places f s = poll f s := by
  induction f generalizing s with
  | done value => exact ⟨[], rfl⟩
  | step section_ next ih =>
    obtain ⟨ps, hps⟩ := ih (section_ s).1 (section_ s).2
    exact ⟨.here :: ps, hps⟩
  | await ready next ih =>
    cases hr : ready s with
    | false => exact ⟨[], by simp [advances, poll, hr]⟩
    | true =>
      obtain ⟨ps, hps⟩ := ih s
      exact ⟨.here :: ps, by simp [advances, advance, poll, hr, hps]⟩
  | both first second next ihf ihg ihn =>
    obtain ⟨ps, hps⟩ := ihf s
    obtain ⟨qs, hqs⟩ := ihg (poll first s).2
    have hturns : advances (ps.map .first ++ qs.map .second) (both first second next) s
        = (both (poll first s).1 (poll second (poll first s).2).1 next,
            (poll second (poll first s).2).2) := by
      rw [advances_append, advances_both_first, hps, advances_both_second, hqs]
    cases hb : result? (poll first s).1 with
    | none => exact ⟨_, by rw [hturns]; simp [poll, hb]⟩
    | some b =>
      cases hc : result? (poll second (poll first s).2).1 with
      | none => exact ⟨_, by rw [hturns]; simp [poll, hb, hc]⟩
      | some c =>
        obtain ⟨rs, hrs⟩ := ihn b c (poll second (poll first s).2).2
        refine ⟨(ps.map .first ++ qs.map .second) ++ .here :: rs, ?_⟩
        rw [advances_append, hturns]
        simp [advances, advance, poll, hb, hc, hrs]
  | race first second next ihf ihg ihn =>
    obtain ⟨ps, hps⟩ := ihf s
    cases hb : result? (poll first s).1 with
    | some b =>
      obtain ⟨rs, hrs⟩ := ihn (.inl b) (drop second (poll first s).2)
      refine ⟨ps.map .first ++ .here :: rs, ?_⟩
      rw [advances_append, advances_race_first, hps]
      simp [advances, advance, poll, hb, hrs]
    | none =>
      obtain ⟨qs, hqs⟩ := ihg (poll first s).2
      have hturns : advances (ps.map .first ++ qs.map .second) (race first second next) s
          = (race (poll first s).1 (poll second (poll first s).2).1 next,
              (poll second (poll first s).2).2) := by
        rw [advances_append, advances_race_first, hps, advances_race_second, hqs]
      cases hc : result? (poll second (poll first s).2).1 with
      | none => exact ⟨_, by rw [hturns]; simp [poll, hb, hc]⟩
      | some c =>
        obtain ⟨rs, hrs⟩ := ihn (.inr c) (drop (poll first s).1 (poll second (poll first s).2).2)
        refine ⟨(ps.map .first ++ qs.map .second) ++ .here :: rs, ?_⟩
        rw [advances_append, hturns]
        simp [advances, advance, poll, hb, hc, hrs]
  | guarded release body next ihb ihn =>
    obtain ⟨ps, hps⟩ := ihb s
    cases hb : result? (poll body s).1 with
    | none =>
      refine ⟨ps.map .first, ?_⟩
      rw [advances_guarded, hps]
      simp [poll, hb]
    | some b =>
      obtain ⟨rs, hrs⟩ := ihn b (release (poll body s).2)
      refine ⟨ps.map .first ++ .here :: rs, ?_⟩
      rw [advances_append, advances_guarded, hps]
      simp [advances, advance, poll, hb, hrs]

end Fiber

end ServiceMesh
