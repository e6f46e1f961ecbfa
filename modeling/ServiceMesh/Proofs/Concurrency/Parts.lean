import ServiceMesh.Proofs.Concurrency.Courses
import ServiceMesh.Proofs.Concurrency.Promptness

/-!
# Fibers on a part of a state

A `Part` of a state can be read and replaced.  `Fiber.within` runs a fiber that knows the
part alone on the whole state, and leaves everything else as it is.  What the fiber does is
the same: its polls and turns are those on the part (`poll_within`, `advance_within`), it is
prompt if it was (`Prompt.within`), and it heeds the course that it heeded (`Heeds.within`).
-/

namespace ServiceMesh

/-- A part of a state. -/
structure Part (σ τ : Type) where
  /-- Reads the part. -/
  get : σ → τ
  /-- Replaces the part. -/
  set : τ → σ → σ
  get_set : ∀ x s, get (set x s) = x
  set_get : ∀ s, set (get s) s = s
  set_set : ∀ x y s, set y (set x s) = set y s

attribute [simp] Part.get_set Part.set_get Part.set_set

/-- The course of a whole state whose part keeps a course, with what is said of the rest. -/
def Course.within {σ τ : Type} (P : Part σ τ) (J : σ → Prop) (C : Course τ) : Course σ where
  Inv s := C.Inv (P.get s) ∧ J s
  Later s t := C.Later (P.get s) (P.get t)
  refl s := C.refl (P.get s)
  trans h h' := C.trans h h'

namespace Fiber

variable {σ τ α β : Type} (P : Part σ τ)

/-- Runs a fiber on a part of the state. -/
def within : {α : Type} → Fiber τ α → Fiber σ α
  | _, done value => done value
  | _, step section_ next =>
      step (fun s => ((section_ (P.get s)).1, P.set (section_ (P.get s)).2 s)) fun b =>
        within (next b)
  | _, await ready next => await (fun s => ready (P.get s)) (within next)
  | _, both first second next => both (within first) (within second) fun b c => within (next b c)
  | _, race first second next => race (within first) (within second) fun r => within (next r)
  | _, guarded release body next =>
      guarded (fun s => P.set (release (P.get s)) s) (within body) fun b => within (next b)

/-! ## Polls and turns -/

@[simp] theorem result?_within (f : Fiber τ α) : result? (within P f) = result? f := by
  cases f <;> rfl

theorem drop_within (f : Fiber τ α) (s : σ) :
    drop (within P f) s = P.set (drop f (P.get s)) s := by
  induction f generalizing s with
  | done value => exact (P.set_get s).symm
  | step section_ next _ => exact (P.set_get s).symm
  | await ready next _ => exact (P.set_get s).symm
  | both first second next ihf ihg _ => simp only [within, drop, ihf, ihg, P.get_set, P.set_set]
  | race first second next ihf ihg _ => simp only [within, drop, ihf, ihg, P.get_set, P.set_set]
  | guarded release body next ihb _ => simp only [within, drop, ihb, P.get_set, P.set_set]

/-- A poll on a part of the state is a poll, with the rest left as it is. -/
theorem poll_within (f : Fiber τ α) (s : σ) :
    poll (within P f) s = (within P (poll f (P.get s)).1, P.set (poll f (P.get s)).2 s) := by
  induction f generalizing s with
  | done value => simp [within]
  | step section_ next ih => simp [within, poll, ih]
  | await ready next ih =>
    simp only [within, poll]
    split
    · exact ih s
    · simp [within]
  | both first second next ihf ihg ihn =>
    simp only [within, poll, ihf, ihg, result?_within, P.get_set, P.set_set]
    split
    · simp [ihn]
    · rfl
  | race first second next ihf ihg ihn =>
    simp only [within, poll, ihf, ihg, result?_within, drop_within, P.get_set, P.set_set]
    split
    · simp [ihn]
    · split
      · simp [ihn]
      · rfl
  | guarded release body next ihb ihn =>
    simp only [within, poll, ihb, result?_within, P.get_set, P.set_set]
    split
    · simp [ihn]
    · rfl

/-- A turn on a part of the state is a turn, with the rest left as it is. -/
theorem advance_within (p : Place) (f : Fiber τ α) (s : σ) :
    advance p (within P f) s
      = (within P (advance p f (P.get s)).1, P.set (advance p f (P.get s)).2 s) := by
  induction f generalizing p s with
  | done value => simp [within]
  | step section_ next _ => simp [within]
  | await ready next _ =>
    simp only [within, advance_await]
    split
    · simp
    · simp [within]
  | both first second next ihf ihg _ =>
    cases p with
    | here =>
      simp only [within, advance, result?_within]
      split
      · simp
      · simp [within]
    | first q => simp only [within, advance, ihf]
    | second q => simp only [within, advance, ihg]
  | race first second next ihf ihg _ =>
    cases p with
    | here =>
      simp only [within, advance, result?_within, drop_within]
      split
      · rfl
      · rfl
      · simp [within]
    | first q => simp only [within, advance, ihf]
    | second q => simp only [within, advance, ihg]
  | guarded release body next ihb _ =>
    cases p with
    | here =>
      simp only [within, advance, result?_within]
      split
      · rfl
      · simp [within]
    | first q => simp only [within, advance, ihb]
    | second q => simp [within, advance]

/-- What does not wait on a part of the state does not wait on the whole. -/
theorem Prompt.within {I : τ → Prop} {J : σ → Prop} {f : Fiber τ α} (hf : Prompt I f)
    (hJ : ∀ x s, J s → J (P.set x s)) : Prompt (fun s => I (P.get s) ∧ J s) (f.within P) := by
  intro s hs
  obtain ⟨a, x, hpoll, hx⟩ := hf (P.get s) hs.1
  refine ⟨a, P.set x s, ?_, ?_, hJ x s hs.2⟩
  · rw [poll_within, hpoll]
    rfl
  · rw [P.get_set]
    exact hx

/-! ## Courses -/

variable {C : Course τ} {J : σ → Prop}

theorem stable_within {Q : τ → Prop} (hQ : C.Stable Q) :
    (C.within P J).Stable fun s => Q (P.get s) := by
  intro s t hlater ht hs
  exact hQ (P.get s) (P.get t) hlater ht.1 hs

/-- A replacement of the part that keeps its course keeps that of the whole. -/
theorem keeps_within {x : τ} {s : σ} (hJ : J (P.set x s)) (hx : C.Inv x)
    (hlater : C.Later (P.get s) x) :
    (C.within P J).Inv (P.set x s) ∧ (C.within P J).Later s (P.set x s) := by
  refine ⟨⟨?_, hJ⟩, ?_⟩
  · rw [P.get_set]
    exact hx
  · change C.Later (P.get s) (P.get (P.set x s))
    rw [P.get_set]
    exact hlater

/-- A fiber on a part of the state heeds what it heeds, and leaves the rest alone. -/
theorem Heeds.within {f : Fiber τ α} {post : α → τ → Prop} {s : σ}
    (hJ : ∀ x s, J s → J (P.set x s)) (hf : Heeds C f post (P.get s)) :
    Heeds (C.within P J) (f.within P) (fun a t => post a (P.get t)) s := by
  induction f generalizing s with
  | done value => exact hf
  | step section_ next ih =>
    intro t hlater ht
    obtain ⟨hinv, hlater', hnext⟩ := hf (P.get t) hlater ht.1
    obtain ⟨hinv', hlater'⟩ := keeps_within P (hJ _ t ht.2) hinv hlater'
    refine ⟨hinv', hlater', ih _ ?_⟩
    rw [P.get_set]
    exact hnext
  | await ready next ih =>
    intro t hlater ht hready
    exact ih (hf (P.get t) hlater ht.1 hready)
  | both first second next ihf ihg ihn =>
    obtain ⟨Q, R, hQ, hR, hfirst, hsecond, hnext⟩ := hf
    refine ⟨_, _, fun b => stable_within P (hQ b), fun c => stable_within P (hR c), ihf hfirst,
      ihg hsecond, ?_⟩
    intro b c t hlater ht hb hc
    exact ihn b c (hnext b c (P.get t) hlater ht.1 hb hc)
  | race first second next ihf ihg ihn =>
    obtain ⟨Q, R, hQ, hR, hfirst, hsecond, hwon, hlost⟩ := hf
    refine ⟨_, _, fun b => stable_within P (hQ b), fun c => stable_within P (hR c), ihf hfirst,
      ihg hsecond, ?_, ?_⟩
    · intro b t hlater ht hb
      exact ihn _ (hwon b (P.get t) hlater ht.1 hb)
    · intro c t hlater ht hc
      exact ihn _ (hlost c (P.get t) hlater ht.1 hc)
  | guarded release body next ihb ihn =>
    obtain ⟨hrelease, Q, hQ, hbody, hnext⟩ := hf
    refine ⟨?_, _, fun b => stable_within P (hQ b), ihb hbody, ?_⟩
    · intro t hlater ht
      obtain ⟨hinv, hlater'⟩ := hrelease (P.get t) hlater ht.1
      exact keeps_within P (hJ _ t ht.2) hinv hlater'
    · intro b t hlater ht hb
      refine ihn b ?_
      rw [P.get_set]
      exact hnext b (P.get t) hlater ht.1 hb

end Fiber

end ServiceMesh
