import ServiceMesh.Proofs.Concurrency.Cooperation
import ServiceMesh.Proofs.Concurrency.Interleaving

/-!
# The course of a shared state

A `Course` says what every section leaves in force, and which states may come after which.
`Fiber.Heeds` is the run of a fiber while others take turns between any two of its sections:
each section keeps the course if the others do, and what is said of the end holds when the
fiber is over.  It is defined along the tree and composed along it (`Heeds.bind`,
`Heeds.all`).  One turn leaves a fiber that heeds a course heeding it (`Heeds.advance`), and
so does a poll (`Heeds.poll`).

Many facts need no more than an invariant and what is said of the values.  `Fiber.Abides` is
`Heeds` for these.
-/

namespace ServiceMesh

/-- What sections keep, and which states come after which. -/
structure Course (σ : Type) where
  Inv : σ → Prop
  Later : σ → σ → Prop
  refl : ∀ s, Later s s
  trans : ∀ {s t u}, Later s t → Later t u → Later s u

namespace Course

variable {σ : Type}

/-- What stays as it is while others take turns. -/
def Stable (C : Course σ) (Q : σ → Prop) : Prop := ∀ s t, C.Later s t → C.Inv t → Q s → Q t

/-- The course of an invariant. -/
def ofInv (Inv : σ → Prop) : Course σ where
  Inv := Inv
  Later _ _ := True
  refl _ := trivial
  trans _ _ := trivial

/-- The course of an invariant under which something may come to hold, and holds from then
on. -/
def since (J I : σ → Prop) : Course σ where
  Inv := J
  Later s t := I s → I t
  refl _ := id
  trans h h' := h' ∘ h

end Course

namespace Fiber

variable {σ α β γ : Type} {C : Course σ}

theorem bind_assoc (f : Fiber σ α) (g : α → Fiber σ β) (h : β → Fiber σ γ) :
    f >>= g >>= h = f >>= fun a => g a >>= h := by
  induction f with
  | done value => rfl
  | step section_ next ih => exact congrArg (step section_) (funext fun b => ih b g)
  | await ready next ih => exact congrArg (await ready) (ih g)
  | both first second next _ _ ihn =>
    exact congrArg (both first second) (funext fun b => funext fun c => ihn b c g)
  | race first second next _ _ ihn =>
    exact congrArg (race first second) (funext fun r => ihn r g)
  | guarded release body next _ ihn =>
    exact congrArg (guarded release body) (funext fun b => ihn b g)

/-- A fiber that goes on with no more than its value is the fiber. -/
theorem bind_done (f : Fiber σ α) : f >>= done = f := by
  induction f with
  | done value => rfl
  | step section_ next ih => exact congrArg (step section_) (funext ih)
  | await ready next ih => exact congrArg (await ready) ih
  | both first second next _ _ ihn =>
    exact congrArg (both first second) (funext fun b => funext fun c => ihn b c)
  | race first second next _ _ ihn => exact congrArg (race first second) (funext ihn)
  | guarded release body next _ ihn => exact congrArg (guarded release body) (funext ihn)

/-- A fiber keeps a course from a state on, and ends as it should. -/
def Heeds (C : Course σ) : {α : Type} → Fiber σ α → (α → σ → Prop) → σ → Prop
  | _, done a, post, s => post a s
  | _, step section_ next, post, s =>
      ∀ t, C.Later s t → C.Inv t →
        C.Inv (section_ t).2 ∧ C.Later t (section_ t).2 ∧
          Heeds C (next (section_ t).1) post (section_ t).2
  | _, await ready next, post, s =>
      ∀ t, C.Later s t → C.Inv t → ready t = true → Heeds C next post t
  | _, @both _ _ β γ first second next, post, s =>
      ∃ (Q : β → σ → Prop) (R : γ → σ → Prop), (∀ b, C.Stable (Q b)) ∧ (∀ c, C.Stable (R c)) ∧
        Heeds C first Q s ∧ Heeds C second R s ∧
        ∀ b c t, C.Later s t → C.Inv t → Q b t → R c t → Heeds C (next b c) post t
  | _, @race _ _ β γ first second next, post, s =>
      ∃ (Q : β → σ → Prop) (R : γ → σ → Prop), (∀ b, C.Stable (Q b)) ∧ (∀ c, C.Stable (R c)) ∧
        Heeds C first Q s ∧ Heeds C second R s ∧
        (∀ b t, C.Later s t → C.Inv t → Q b t → Heeds C (next (.inl b)) post t) ∧
        ∀ c t, C.Later s t → C.Inv t → R c t → Heeds C (next (.inr c)) post t
  | _, @guarded _ _ β release body next, post, s =>
      (∀ t, C.Later s t → C.Inv t → C.Inv (release t) ∧ C.Later t (release t)) ∧
        ∃ Q : β → σ → Prop, (∀ b, C.Stable (Q b)) ∧ Heeds C body Q s ∧
          ∀ b t, C.Later s t → C.Inv t → Q b t → Heeds C (next b) post (release t)

/-- What does not depend on the state is stable. -/
theorem stable_const (p : Prop) : C.Stable fun _ => p := by
  intro _ _ _ _ hp
  exact hp

/-! ## Others take turns -/

/-- A fiber that heeds a course from a state on heeds it from later states on. -/
theorem Heeds.later {f : Fiber σ α} {post : α → σ → Prop} {s t : σ} (hf : Heeds C f post s)
    (hpost : ∀ a, C.Stable (post a)) (hlater : C.Later s t) (ht : C.Inv t) :
    Heeds C f post t := by
  induction f generalizing s t with
  | done value => exact hpost value s t hlater ht hf
  | step section_ next _ =>
    intro u hu
    exact hf u (C.trans hlater hu)
  | await ready next _ =>
    intro u hu
    exact hf u (C.trans hlater hu)
  | both first second next ihf ihg _ =>
    obtain ⟨Q, R, hQ, hR, hfirst, hsecond, hnext⟩ := hf
    refine ⟨Q, R, hQ, hR, ihf hfirst hQ hlater ht, ihg hsecond hR hlater ht, ?_⟩
    intro b c u hu
    exact hnext b c u (C.trans hlater hu)
  | race first second next ihf ihg _ =>
    obtain ⟨Q, R, hQ, hR, hfirst, hsecond, hwon, hlost⟩ := hf
    refine ⟨Q, R, hQ, hR, ihf hfirst hQ hlater ht, ihg hsecond hR hlater ht, ?_, ?_⟩
    · intro b u hu
      exact hwon b u (C.trans hlater hu)
    · intro c u hu
      exact hlost c u (C.trans hlater hu)
  | guarded release body next ihb _ =>
    obtain ⟨hrelease, Q, hQ, hbody, hnext⟩ := hf
    refine ⟨fun u hu => hrelease u (C.trans hlater hu), Q, hQ, ihb hbody hQ hlater ht, ?_⟩
    intro b u hu
    exact hnext b u (C.trans hlater hu)

/-- A fiber that ends as it should ends as it may. -/
theorem Heeds.mono {f : Fiber σ α} {post post' : α → σ → Prop} {s : σ} (hs : C.Inv s)
    (hf : Heeds C f post s)
    (hpost : ∀ a t, C.Later s t → C.Inv t → post a t → post' a t) : Heeds C f post' s := by
  induction f generalizing s with
  | done value => exact hpost value s (C.refl s) hs hf
  | step section_ next ih =>
    intro t hlater ht
    obtain ⟨ht', hlater', hnext⟩ := hf t hlater ht
    refine ⟨ht', hlater', ih _ ht' hnext ?_⟩
    intro a u hu
    exact hpost a u (C.trans hlater (C.trans hlater' hu))
  | await ready next ih =>
    intro t hlater ht hready
    apply ih ht (hf t hlater ht hready)
    intro a u hu
    exact hpost a u (C.trans hlater hu)
  | both first second next _ _ ihn =>
    obtain ⟨Q, R, hQ, hR, hfirst, hsecond, hnext⟩ := hf
    refine ⟨Q, R, hQ, hR, hfirst, hsecond, ?_⟩
    intro b c t hlater ht hb hc
    apply ihn b c ht (hnext b c t hlater ht hb hc)
    intro a u hu
    exact hpost a u (C.trans hlater hu)
  | race first second next _ _ ihn =>
    obtain ⟨Q, R, hQ, hR, hfirst, hsecond, hwon, hlost⟩ := hf
    refine ⟨Q, R, hQ, hR, hfirst, hsecond, ?_, ?_⟩
    · intro b t hlater ht hb
      apply ihn _ ht (hwon b t hlater ht hb)
      intro a u hu
      exact hpost a u (C.trans hlater hu)
    · intro c t hlater ht hc
      apply ihn _ ht (hlost c t hlater ht hc)
      intro a u hu
      exact hpost a u (C.trans hlater hu)
  | guarded release body next _ ihn =>
    obtain ⟨hrelease, Q, hQ, hbody, hnext⟩ := hf
    refine ⟨hrelease, Q, hQ, hbody, ?_⟩
    intro b t hlater ht hb
    obtain ⟨ht', hlater'⟩ := hrelease t hlater ht
    apply ihn b ht' (hnext b t hlater ht hb)
    intro a u hu
    exact hpost a u (C.trans hlater (C.trans hlater' hu))

/-! ## Composition -/

/-- What heeds a course up to where the rest of it does heeds the course. -/
theorem Heeds.bind {f : Fiber σ α} {g : α → Fiber σ β} {post : β → σ → Prop} {s : σ}
    (hf : Heeds C f (fun a t => Heeds C (g a) post t) s) : Heeds C (f >>= g) post s := by
  induction f generalizing s with
  | done value => exact hf
  | step section_ next ih =>
    intro t hlater ht
    obtain ⟨ht', hlater', hnext⟩ := hf t hlater ht
    exact ⟨ht', hlater', ih _ hnext⟩
  | await ready next ih =>
    intro t hlater ht hready
    exact ih (hf t hlater ht hready)
  | both first second next _ _ ihn =>
    obtain ⟨Q, R, hQ, hR, hfirst, hsecond, hnext⟩ := hf
    refine ⟨Q, R, hQ, hR, hfirst, hsecond, ?_⟩
    intro b c t hlater ht hb hc
    exact ihn b c (hnext b c t hlater ht hb hc)
  | race first second next _ _ ihn =>
    obtain ⟨Q, R, hQ, hR, hfirst, hsecond, hwon, hlost⟩ := hf
    refine ⟨Q, R, hQ, hR, hfirst, hsecond, ?_, ?_⟩
    · intro b t hlater ht hb
      exact ihn _ (hwon b t hlater ht hb)
    · intro c t hlater ht hc
      exact ihn _ (hlost c t hlater ht hc)
  | guarded release body next _ ihn =>
    obtain ⟨hrelease, Q, hQ, hbody, hnext⟩ := hf
    refine ⟨hrelease, Q, hQ, hbody, ?_⟩
    intro b t hlater ht hb
    exact ihn b (hnext b t hlater ht hb)

/-- One fiber after the other, where what is said of the end of the first is said of what
becomes of it before the second begins. -/
theorem Heeds.andThen {f : Fiber σ α} {g : α → Fiber σ β} {Q : α → σ → Prop}
    {post : β → σ → Prop} {s : σ} (hs : C.Inv s) (hf : Heeds C f Q s)
    (hg : ∀ a t, C.Later s t → C.Inv t → Q a t → Heeds C (g a) post t) :
    Heeds C (f >>= g) post s := Heeds.bind (hf.mono hs hg)

/-- Fibers side by side end with what each of them ends with. -/
theorem Heeds.all {f : β → Fiber σ α} {Q : β → σ → Prop} (hQ : ∀ b, C.Stable (Q b))
    {bs : List β} {s : σ} (hf : ∀ b ∈ bs, Heeds C (f b) (fun _ => Q b) s) :
    Heeds C (Fiber.all (bs.map f)) (fun _ t => ∀ b ∈ bs, Q b t) s := by
  induction bs with
  | nil =>
    intro b hb
    cases hb
  | cons b rest ih =>
    have hfirst := hf b List.mem_cons_self
    have hrest := ih fun c hc => hf c (List.mem_cons_of_mem _ hc)
    refine ⟨_, _, fun _ => hQ b, ?_, hfirst, hrest, ?_⟩
    · intro _ t u hlater hu h c hc
      exact hQ c t u hlater hu (h c hc)
    · intro _ _ t _ _ hb hall c hc
      rcases List.mem_cons.mp hc with rfl | hc
      · exact hb
      · exact hall c hc

/-- Fibers side by side end with values of which the same is said. -/
theorem Heeds.gather {Q : α → σ → Prop} (hQ : ∀ a, C.Stable (Q a)) {fs : List (Fiber σ α)} {s : σ}
    (hf : ∀ f ∈ fs, Heeds C f Q s) : Heeds C (Fiber.all fs) (fun as t => ∀ a ∈ as, Q a t) s := by
  induction fs with
  | nil =>
    intro a ha
    cases ha
  | cons f rest ih =>
    have hfirst := hf f List.mem_cons_self
    have hrest := ih fun g hg => hf g (List.mem_cons_of_mem _ hg)
    refine ⟨_, _, hQ, ?_, hfirst, hrest, ?_⟩
    · intro as t u hlater hu h a ha
      exact hQ a t u hlater hu (h a ha)
    · intro _ _ t _ _ ha hall b hb
      rcases List.mem_cons.mp hb with rfl | hb
      · exact ha
      · exact hall b hb

/-! ## Turns -/

/-- What a fiber does when it is dropped keeps the course. -/
theorem Heeds.drop {f : Fiber σ α} {post : α → σ → Prop} {s t : σ} (hf : Heeds C f post s)
    (hst : C.Later s t) (ht : C.Inv t) :
    C.Inv (Fiber.drop f t) ∧ C.Later t (Fiber.drop f t) := by
  induction f generalizing s t with
  | done value => exact ⟨ht, C.refl t⟩
  | step section_ next _ => exact ⟨ht, C.refl t⟩
  | await ready next _ => exact ⟨ht, C.refl t⟩
  | both first second next ihf ihg _ =>
    obtain ⟨Q, R, -, -, hfirst, hsecond, -⟩ := hf
    obtain ⟨ht1, hlater1⟩ := ihf hfirst hst ht
    obtain ⟨ht2, hlater2⟩ := ihg hsecond (C.trans hst hlater1) ht1
    exact ⟨ht2, C.trans hlater1 hlater2⟩
  | race first second next ihf ihg _ =>
    obtain ⟨Q, R, -, -, hfirst, hsecond, -, -⟩ := hf
    obtain ⟨ht1, hlater1⟩ := ihf hfirst hst ht
    obtain ⟨ht2, hlater2⟩ := ihg hsecond (C.trans hst hlater1) ht1
    exact ⟨ht2, C.trans hlater1 hlater2⟩
  | guarded release body next ihb _ =>
    obtain ⟨hrelease, Q, -, hbody, -⟩ := hf
    obtain ⟨ht1, hlater1⟩ := ihb hbody hst ht
    obtain ⟨ht2, hlater2⟩ := hrelease _ (C.trans hst hlater1) ht1
    exact ⟨ht2, C.trans hlater1 hlater2⟩

/-- A turn of a fiber keeps the course, and leaves the fiber heeding it. -/
theorem Heeds.advance {f : Fiber σ α} {post : α → σ → Prop} (hpost : ∀ a, C.Stable (post a))
    (p : Place) {s : σ} (hs : C.Inv s) (hf : Heeds C f post s) :
    C.Inv (Fiber.advance p f s).2 ∧ C.Later s (Fiber.advance p f s).2 ∧
      Heeds C (Fiber.advance p f s).1 post (Fiber.advance p f s).2 := by
  induction f generalizing p s with
  | done value =>
    rw [advance_done]
    exact ⟨hs, C.refl s, hf⟩
  | step section_ next _ =>
    rw [advance_step]
    exact hf s (C.refl s) hs
  | await ready next _ =>
    rw [advance_await]
    split
    · next hready => exact ⟨hs, C.refl s, hf s (C.refl s) hs hready⟩
    · exact ⟨hs, C.refl s, hf⟩
  | both first second next ihf ihg _ =>
    have hwhole := hf
    obtain ⟨Q, R, hQ, hR, hfirst, hsecond, hnext⟩ := hf
    cases p with
    | here =>
      simp only [Fiber.advance]
      split
      · next b c hb hc =>
        rw [eq_done_of_result? hb] at hfirst
        rw [eq_done_of_result? hc] at hsecond
        exact ⟨hs, C.refl s, hnext b c s (C.refl s) hs hfirst hsecond⟩
      · exact ⟨hs, C.refl s, hwhole⟩
    | first q =>
      obtain ⟨hs', hlater, hfirst'⟩ := ihf hQ q hs hfirst
      refine ⟨hs', hlater, Q, R, hQ, hR, hfirst', hsecond.later hR hlater hs', ?_⟩
      intro b c t ht
      exact hnext b c t (C.trans hlater ht)
    | second q =>
      obtain ⟨hs', hlater, hsecond'⟩ := ihg hR q hs hsecond
      refine ⟨hs', hlater, Q, R, hQ, hR, hfirst.later hQ hlater hs', hsecond', ?_⟩
      intro b c t ht
      exact hnext b c t (C.trans hlater ht)
  | race first second next ihf ihg _ =>
    have hwhole := hf
    obtain ⟨Q, R, hQ, hR, hfirst, hsecond, hwon, hlost⟩ := hf
    cases p with
    | here =>
      simp only [Fiber.advance]
      split
      · next _ b hb =>
        rw [eq_done_of_result? hb] at hfirst
        obtain ⟨hs', hlater⟩ := hsecond.drop (C.refl s) hs
        exact ⟨hs', hlater, hwon b _ hlater hs' (hQ b s _ hlater hs' hfirst)⟩
      · next c _ hc =>
        rw [eq_done_of_result? hc] at hsecond
        obtain ⟨hs', hlater⟩ := hfirst.drop (C.refl s) hs
        exact ⟨hs', hlater, hlost c _ hlater hs' (hR c s _ hlater hs' hsecond)⟩
      · exact ⟨hs, C.refl s, hwhole⟩
    | first q =>
      obtain ⟨hs', hlater, hfirst'⟩ := ihf hQ q hs hfirst
      refine ⟨hs', hlater, Q, R, hQ, hR, hfirst', hsecond.later hR hlater hs', ?_, ?_⟩
      · intro b t ht
        exact hwon b t (C.trans hlater ht)
      · intro c t ht
        exact hlost c t (C.trans hlater ht)
    | second q =>
      obtain ⟨hs', hlater, hsecond'⟩ := ihg hR q hs hsecond
      refine ⟨hs', hlater, Q, R, hQ, hR, hfirst.later hQ hlater hs', hsecond', ?_, ?_⟩
      · intro b t ht
        exact hwon b t (C.trans hlater ht)
      · intro c t ht
        exact hlost c t (C.trans hlater ht)
  | guarded release body next ihb _ =>
    have hwhole := hf
    obtain ⟨hrelease, Q, hQ, hbody, hnext⟩ := hf
    cases p with
    | here =>
      simp only [Fiber.advance]
      split
      · next b hb =>
        rw [eq_done_of_result? hb] at hbody
        obtain ⟨hs', hlater⟩ := hrelease s (C.refl s) hs
        exact ⟨hs', hlater, hnext b s (C.refl s) hs hbody⟩
      · exact ⟨hs, C.refl s, hwhole⟩
    | first q =>
      obtain ⟨hs', hlater, hbody'⟩ := ihb hQ q hs hbody
      refine ⟨hs', hlater, fun t ht => hrelease t (C.trans hlater ht), Q, hQ, hbody', ?_⟩
      intro b t ht
      exact hnext b t (C.trans hlater ht)
    | second q => exact ⟨hs, C.refl s, hwhole⟩

/-- Advancing at several places keeps to the course, and so does what is left. -/
theorem Heeds.advances {f : Fiber σ α} {post : α → σ → Prop} (hpost : ∀ a, C.Stable (post a))
    (places : List Place) {s : σ} (hs : C.Inv s) (hf : Heeds C f post s) :
    C.Inv (Fiber.advances places f s).2 ∧ C.Later s (Fiber.advances places f s).2 ∧
      Heeds C (Fiber.advances places f s).1 post (Fiber.advances places f s).2 := by
  induction places generalizing f s with
  | nil => exact ⟨hs, C.refl s, hf⟩
  | cons p rest ih =>
    obtain ⟨hs', hlater, hf'⟩ := hf.advance hpost p hs
    obtain ⟨hs'', hlater', hf''⟩ := ih hs' hf'
    exact ⟨hs'', C.trans hlater hlater', hf''⟩

/-- A poll keeps the course, and leaves the fiber heeding it. -/
theorem Heeds.poll {f : Fiber σ α} {post : α → σ → Prop} (hpost : ∀ a, C.Stable (post a))
    {s : σ} (hs : C.Inv s) (hf : Heeds C f post s) :
    C.Inv (Fiber.poll f s).2 ∧ C.Later s (Fiber.poll f s).2 ∧
      Heeds C (Fiber.poll f s).1 post (Fiber.poll f s).2 := by
  obtain ⟨places, hplaces⟩ := exists_advances_eq_poll f s
  rw [← hplaces]
  exact hf.advances hpost places hs

/-! ## Several fibers -/

/-- All of several fibers heed a course, and end as it is said of each. -/
def AllHeed (C : Course σ) (fs : List (Fiber σ α)) (Q : Nat → σ → Prop) (s : σ) : Prop :=
  ∀ k f, fs[k]? = some f → Heeds C f (fun _ => Q k) s

variable {Q : Nat → σ → Prop}

theorem AllHeed.nil {s : σ} : AllHeed C ([] : List (Fiber σ α)) Q s := by
  intro k f hf
  cases hf

/-- Several fibers that heed a course still do when others have moved on. -/
theorem AllHeed.later {fs : List (Fiber σ α)} {s t : σ} (hfs : AllHeed C fs Q s)
    (hQ : ∀ k, C.Stable (Q k)) (hlater : C.Later s t) (ht : C.Inv t) : AllHeed C fs Q t := by
  intro k f hf
  exact (hfs k f hf).later (fun _ => hQ k) hlater ht

/-- One more fiber may start if it heeds the course. -/
theorem AllHeed.start {fs : List (Fiber σ α)} {f : Fiber σ α} {s : σ} (hfs : AllHeed C fs Q s)
    (hf : Heeds C f (fun _ => Q fs.length) s) : AllHeed C (fs ++ [f]) Q s := by
  intro k g hg
  rcases Nat.lt_or_ge k fs.length with hk | hk
  · rw [List.getElem?_append_left hk] at hg
    exact hfs k g hg
  · rw [List.getElem?_append_right hk, List.getElem?_singleton] at hg
    split at hg
    · next hzero =>
      cases hg
      rw [Nat.le_antisymm (Nat.sub_eq_zero_iff_le.mp hzero) hk]
      exact hf
    · cases hg

/-- One of several fibers is replaced by what became of it. -/
theorem AllHeed.set {fs : List (Fiber σ α)} {f : Fiber σ α} {s t : σ} (hfs : AllHeed C fs Q s)
    (hQ : ∀ k, C.Stable (Q k)) (hlater : C.Later s t) (ht : C.Inv t) {index : Nat}
    (hf : Heeds C f (fun _ => Q index) t) : AllHeed C (fs.set index f) Q t := by
  intro k g hg
  rw [List.getElem?_set] at hg
  split at hg
  · next hk =>
    split at hg
    · cases hg
      rw [← hk]
      exact hf
    · cases hg
  · exact hfs.later hQ hlater ht k g hg

/-- A turn of one of several fibers keeps the course. -/
theorem AllHeed.advanceAt {fs : List (Fiber σ α)} {s : σ} (hfs : AllHeed C fs Q s)
    (hQ : ∀ k, C.Stable (Q k)) (hs : C.Inv s) (index : Nat) (p : Place) :
    C.Inv (Fiber.advanceAt index p fs s).2 ∧ C.Later s (Fiber.advanceAt index p fs s).2 ∧
      AllHeed C (Fiber.advanceAt index p fs s).1 Q (Fiber.advanceAt index p fs s).2 := by
  unfold Fiber.advanceAt
  split
  · next f hf =>
    obtain ⟨hs', hlater, hf'⟩ := (hfs index f hf).advance (fun _ => hQ index) p hs
    exact ⟨hs', hlater, hfs.set hQ hlater hs' hf'⟩
  · exact ⟨hs, C.refl s, hfs⟩

/-- A poll of one of several fibers keeps the course. -/
theorem AllHeed.pollAt {fs : List (Fiber σ α)} {s : σ} (hfs : AllHeed C fs Q s)
    (hQ : ∀ k, C.Stable (Q k)) (hs : C.Inv s) (index : Nat) :
    C.Inv (Fiber.pollAt index fs s).2 ∧ C.Later s (Fiber.pollAt index fs s).2 ∧
      AllHeed C (Fiber.pollAt index fs s).1 Q (Fiber.pollAt index fs s).2 := by
  unfold Fiber.pollAt
  split
  · next f hf =>
    obtain ⟨hs', hlater, hf'⟩ := (hfs index f hf).poll (fun _ => hQ index) hs
    exact ⟨hs', hlater, hfs.set hQ hlater hs' hf'⟩
  · exact ⟨hs, C.refl s, hfs⟩

/-! ## Invariants -/

/-- A fiber keeps an invariant, whatever others do that keep it, and ends with a value of
which something is said. -/
def Abides (Inv : σ → Prop) (f : Fiber σ α) (V : α → Prop) : Prop :=
  ∀ s, Inv s → Heeds (.ofInv Inv) f (fun a _ => V a) s

variable {Inv : σ → Prop} {V V' : α → Prop}

theorem Abides.pure {a : α} (ha : V a) : Abides Inv (pure a) V := fun _ _ => ha

theorem Abides.step {section_ : σ → β × σ} {next : β → Fiber σ α}
    (h : ∀ s, Inv s → Inv (section_ s).2 ∧ Abides Inv (next (section_ s).1) V) :
    Abides Inv (step section_ next) V := by
  intro _ _ t _ ht
  obtain ⟨ht', hnext⟩ := h t ht
  exact ⟨ht', trivial, hnext _ ht'⟩

theorem Abides.await {ready : σ → Bool} {next : Fiber σ α} (h : Abides Inv next V) :
    Abides Inv (await ready next) V := by
  intro _ _ t _ ht _
  exact h t ht

theorem Abides.both {first : Fiber σ β} {second : Fiber σ γ} {next : β → γ → Fiber σ α}
    {Q : β → Prop} {R : γ → Prop} (hfirst : Abides Inv first Q) (hsecond : Abides Inv second R)
    (hnext : ∀ b c, Q b → R c → Abides Inv (next b c) V) :
    Abides Inv (both first second next) V := by
  intro s hs
  refine ⟨_, _, fun b => stable_const (Q b), fun c => stable_const (R c), hfirst s hs,
    hsecond s hs, ?_⟩
  intro b c t _ ht hb hc
  exact hnext b c hb hc t ht

theorem Abides.race {first : Fiber σ β} {second : Fiber σ γ} {next : β ⊕ γ → Fiber σ α}
    {Q : β → Prop} {R : γ → Prop} (hfirst : Abides Inv first Q) (hsecond : Abides Inv second R)
    (hwon : ∀ b, Q b → Abides Inv (next (.inl b)) V)
    (hlost : ∀ c, R c → Abides Inv (next (.inr c)) V) :
    Abides Inv (race first second next) V := by
  intro s hs
  refine ⟨_, _, fun b => stable_const (Q b), fun c => stable_const (R c), hfirst s hs,
    hsecond s hs, ?_, ?_⟩
  · intro b t _ ht hb
    exact hwon b hb t ht
  · intro c t _ ht hc
    exact hlost c hc t ht

theorem Abides.guarded {release : σ → σ} {body : Fiber σ β} {next : β → Fiber σ α}
    {Q : β → Prop} (hrelease : ∀ s, Inv s → Inv (release s)) (hbody : Abides Inv body Q)
    (hnext : ∀ b, Q b → Abides Inv (next b) V) : Abides Inv (guarded release body next) V := by
  intro s hs
  refine ⟨fun t _ ht => ⟨hrelease t ht, trivial⟩, _, fun b => stable_const (Q b), hbody s hs, ?_⟩
  intro b t _ ht hb
  exact hnext b hb _ (hrelease t ht)

/-- What abides up to a result with which the rest abides is abiding. -/
theorem Abides.bind {f : Fiber σ β} {g : β → Fiber σ α} {Q : β → Prop} (hf : Abides Inv f Q)
    (hg : ∀ b, Q b → Abides Inv (g b) V) : Abides Inv (f >>= g) V := by
  intro s hs
  exact Heeds.bind ((hf s hs).mono hs fun b t _ ht hb => hg b hb t ht)

/-- A weaker claim on the result holds of what abides. -/
theorem Abides.mono {f : Fiber σ α} (hf : Abides Inv f V) (h : ∀ a, V a → V' a) :
    Abides Inv f V' := by
  intro s hs
  apply (hf s hs).mono hs
  intro a _ _ _
  exact h a

/-- Several fibers at once abide if each of them does. -/
theorem Abides.all {fs : List (Fiber σ α)} (hfs : ∀ f ∈ fs, Abides Inv f V) :
    Abides Inv (Fiber.all fs) fun _ => True := by
  induction fs with
  | nil => exact .pure trivial
  | cons f rest ih =>
    have hrest := ih fun g hg => hfs g (List.mem_cons_of_mem _ hg)
    refine .both (hfs f List.mem_cons_self) hrest ?_
    intro _ _ _ _
    exact .pure trivial

/-- One poll of what abides keeps the invariant. -/
theorem Abides.poll {f : Fiber σ α} {s : σ} (hf : Abides Inv f V) (hs : Inv s) :
    Inv (Fiber.poll f s).2 :=
  ((hf s hs).poll (fun _ => stable_const (C := Course.ofInv Inv) _) hs).1

/-! ## Fibers of which nothing is said -/

/-- A fiber keeps a course from every state on. -/
def Tame (C : Course σ) (f : Fiber σ α) : Prop :=
  ∀ s, C.Inv s → Heeds C f (fun _ _ => True) s

theorem Tame.pure (a : α) : Tame C (pure a : Fiber σ α) := fun _ _ => trivial

theorem Tame.step {section_ : σ → β × σ} {next : β → Fiber σ α}
    (h : ∀ s, C.Inv s → C.Inv (section_ s).2 ∧ C.Later s (section_ s).2)
    (hnext : ∀ b, Tame C (next b)) : Tame C (step section_ next) := by
  intro _ _ t _ ht
  obtain ⟨ht', hlater⟩ := h t ht
  exact ⟨ht', hlater, hnext _ _ ht'⟩

theorem Tame.await {ready : σ → Bool} {next : Fiber σ α} (h : Tame C next) :
    Tame C (await ready next) := by
  intro _ _ t _ ht _
  exact h t ht

theorem Tame.guarded {release : σ → σ} {body : Fiber σ β} {next : β → Fiber σ α}
    (hrelease : ∀ s, C.Inv s → C.Inv (release s) ∧ C.Later s (release s))
    (hbody : Tame C body) (hnext : ∀ b, Tame C (next b)) :
    Tame C (guarded release body next) := by
  intro s hs
  refine ⟨fun t _ => hrelease t, fun _ _ => True, fun _ => stable_const True, hbody s hs, ?_⟩
  intro b t _ ht _
  exact hnext b _ (hrelease t ht).1

/-- What is tame followed by what is tame is tame. -/
theorem Tame.bind {f : Fiber σ β} {g : β → Fiber σ α} (hf : Tame C f)
    (hg : ∀ b, Tame C (g b)) : Tame C (f >>= g) := by
  intro s hs
  apply (hf s hs).andThen hs
  intro b t _ ht _
  exact hg b t ht

/-- Several tame fibers at once are tame. -/
theorem Tame.all {fs : List (Fiber σ α)} (hfs : ∀ f ∈ fs, Tame C f) : Tame C (Fiber.all fs) := by
  induction fs with
  | nil => exact .pure []
  | cons f rest ih =>
    intro s hs
    have hfirst := hfs f List.mem_cons_self s hs
    have hrest := ih (fun g hg => hfs g (List.mem_cons_of_mem _ hg)) s hs
    refine ⟨_, _, ?_, ?_, hfirst, hrest, fun _ _ _ _ _ _ _ => trivial⟩
    · intro _
      exact stable_const True
    · intro _
      exact stable_const True

/-- What is stable holds at the end if it holds at the start. -/
theorem Tame.heeds {f : Fiber σ α} (hf : Tame C f) {P : σ → Prop} (hP : C.Stable P) {s : σ}
    (hs : C.Inv s) (h : P s) : Heeds C f (fun _ => P) s := by
  apply (hf s hs).mono hs
  intro _ t hlater ht _
  exact hP s t hlater ht h

end Fiber

end ServiceMesh
