import ServiceMesh.Proofs.Concurrency.Courses

/-!
# What polls leave of a fiber

A fiber *spares* an invariant if each of its sections keeps it, whatever the values between
them.  Few fibers do: what a section may do depends on what was read before.

A fiber that was begun before an invariant came into force may have read what does not go with
it any more.  But fibers are polled, so the invariant comes into force between two polls, when
what is left of the fiber waits for something.  A fiber is *prepared* for an invariant if what
is left of it at any time keeps the invariant from then on (`Prepared.poll`), but for some
leftovers that are excepted.  Which these are is a parameter: whatever contains an excepted
leftover is to be one.
-/

namespace ServiceMesh

namespace Fiber

variable {σ α β γ : Type} {I J T : σ → Prop}

/-! ## Sections that spare an invariant -/

/-- Every section keeps an invariant, whatever the values before it. -/
def Spares (I : σ → Prop) : {α : Type} → Fiber σ α → Prop
  | _, done _ => True
  | _, step section_ next => (∀ s, I s → I (section_ s).2) ∧ ∀ b, Spares I (next b)
  | _, await _ next => Spares I next
  | _, both first second next => Spares I first ∧ Spares I second ∧ ∀ b c, Spares I (next b c)
  | _, race first second next => Spares I first ∧ Spares I second ∧ ∀ r, Spares I (next r)
  | _, guarded release body next =>
      (∀ s, I s → I (release s)) ∧ Spares I body ∧ ∀ b, Spares I (next b)

theorem Spares.bind {f : Fiber σ α} {g : α → Fiber σ β} (hf : Spares I f)
    (hg : ∀ a, Spares I (g a)) : Spares I (f >>= g) := by
  induction f with
  | done value => exact hg value
  | step section_ next ih =>
    constructor
    · exact hf.1
    · intro b
      exact ih b (hf.2 b) hg
  | await ready next ih => exact ih hf hg
  | both first second next _ _ ihn =>
    refine ⟨hf.1, hf.2.1, ?_⟩
    intro b c
    exact ihn b c (hf.2.2 b c) hg
  | race first second next _ _ ihn =>
    refine ⟨hf.1, hf.2.1, ?_⟩
    intro r
    exact ihn r (hf.2.2 r) hg
  | guarded release body next _ ihn =>
    refine ⟨hf.1, hf.2.1, ?_⟩
    intro b
    exact ihn b (hf.2.2 b) hg

theorem Spares.all {fs : List (Fiber σ α)} (hfs : ∀ f ∈ fs, Spares I f) :
    Spares I (Fiber.all fs) := by
  induction fs with
  | nil => trivial
  | cons f rest ih =>
    have hrest := ih fun g hg => hfs g (List.mem_cons_of_mem _ hg)
    refine ⟨hfs f List.mem_cons_self, hrest, ?_⟩
    intro _ _
    exact trivial

theorem Spares.abides {f : Fiber σ α} (hf : Spares I f) : Abides I f fun _ => True := by
  induction f with
  | done value => exact .pure trivial
  | step section_ next ih =>
    refine .step ?_
    intro s hs
    exact ⟨hf.1 s hs, ih _ (hf.2 _)⟩
  | await ready next ih => exact .await (ih hf)
  | both first second next ihf ihg ihn =>
    refine .both (ihf hf.1) (ihg hf.2.1) ?_
    intro b c _ _
    exact ihn b c (hf.2.2 b c)
  | race first second next ihf ihg ihn =>
    refine .race (ihf hf.1) (ihg hf.2.1) (fun b _ => ihn _ (hf.2.2 (.inl b))) ?_
    intro c _
    exact ihn _ (hf.2.2 (.inr c))
  | guarded release body next ihb ihn =>
    refine .guarded hf.1 (ihb hf.2.1) ?_
    intro b _
    exact ihn b (hf.2.2 b)

theorem Spares.heeds {f : Fiber σ α} (hJ : Spares J f) (hI : Spares I f) (s : σ) :
    Heeds (.since J I) f (fun _ _ => True) s := by
  have htrue : ∀ β : Type, ∀ b : β, (Course.since J I).Stable ((fun _ _ => True) b) := by
    intro _ _
    exact stable_const True
  induction f generalizing s with
  | done value => trivial
  | step section_ next ih =>
    intro t _ ht
    exact ⟨hJ.1 t ht, hI.1 t, ih _ (hJ.2 _) (hI.2 _) _⟩
  | await ready next ih =>
    intro t _ _ _
    exact ih hJ hI t
  | both first second next ihf ihg ihn =>
    refine ⟨_, _, htrue _, htrue _, ihf hJ.1 hI.1 s, ihg hJ.2.1 hI.2.1 s, ?_⟩
    intro b c t _ _ _ _
    exact ihn b c (hJ.2.2 b c) (hI.2.2 b c) t
  | race first second next ihf ihg ihn =>
    refine ⟨_, _, htrue _, htrue _, ihf hJ.1 hI.1 s, ihg hJ.2.1 hI.2.1 s, ?_, ?_⟩
    · intro b t _ _ _
      exact ihn _ (hJ.2.2 _) (hI.2.2 _) t
    · intro c t _ _ _
      exact ihn _ (hJ.2.2 _) (hI.2.2 _) t
  | guarded release body next ihb ihn =>
    refine ⟨fun t _ ht => ⟨hJ.1 t ht, hI.1 t⟩, _, htrue _, ihb hJ.2.1 hI.2.1 s, ?_⟩
    intro b t _ _ _
    exact ihn b (hJ.2.2 b) (hI.2.2 b) _

/-- What follows sections that spare an invariant, and what holds or not, is run from some
later state. -/
theorem Spares.heeds_bind {f : Fiber σ α} {g : α → Fiber σ β} {post : β → σ → Prop}
    (hJ : Spares J f) (hI : Spares I f) {s : σ} (hs : J s)
    (hg : ∀ a t, J t → Heeds (.since J I) (g a) post t) :
    Heeds (.since J I) (f >>= g) post s :=
  Heeds.bind ((hJ.heeds hI s).mono hs fun a t _ ht _ => hg a t ht)

/-- Sections that spare what holds leave it as it is. -/
theorem Spares.heeds_of {f : Fiber σ α} (hJ : Spares J f) (hI : Spares I f) {s : σ} (hs : J s)
    (hheld : I s) : Heeds (.since J I) f (fun _ t => I t) s := by
  apply (hJ.heeds hI s).mono hs
  intro _ _ hlater _ _
  exact hlater hheld

/-! ## Leftovers -/

/-- Leftovers that stay what they are in a greater fiber. -/
structure Contextual (A : ⦃α : Type⦄ → Fiber σ α → Prop) : Prop where
  bind : ∀ {α β : Type} {f : Fiber σ α} {g : α → Fiber σ β}, A f → A (f >>= g)
  first : ∀ {α β γ : Type} {f : Fiber σ β} {g : Fiber σ γ} {next : β → γ → Fiber σ α},
    A f → A (both f g next)
  second : ∀ {α β γ : Type} {f : Fiber σ β} {g : Fiber σ γ} {next : β → γ → Fiber σ α},
    A g → A (both f g next)

/-- No leftover is excepted. -/
def Never : ⦃α : Type⦄ → Fiber σ α → Prop := fun _ _ => False

theorem contextual_never : Contextual (@Never σ) := ⟨id, id, id⟩

/-- What polls leave of a fiber while `T` holds keeps an invariant from then on, unless it is
excepted.  `U` is said of values that it ends with before, and `V` of those that it ends with
afterwards. -/
def Prepared (T I : σ → Prop) : {α : Type} → Fiber σ α →
    (A : ⦃β : Type⦄ → Fiber σ β → Prop) → (U V : α → Prop) → Prop
  | _, done value, _, U, _ => U value
  | _, step section_ next, A, U, V =>
      ∀ s, T s → T (section_ s).2 ∧ Prepared T I (next (section_ s).1) A U V
  | _, await ready next, A, U, V =>
      (A (await ready next) ∨ Abides I (await ready next) V) ∧ Prepared T I next A U V
  | _, @both _ _ β γ first second next, A, U, V =>
      ∃ (U₁ V₁ : β → Prop) (U₂ V₂ : γ → Prop),
        Prepared T I first A U₁ V₁ ∧ Prepared T I second A U₂ V₂ ∧
        (∀ b c, U₁ b → U₂ c → Prepared T I (next b c) A U V) ∧
        ((∀ f g, A (both f g next)) ∨
          ∀ b c, U₁ b ∨ V₁ b → U₂ c ∨ V₂ c → Abides I (next b c) V)
  | _, @race _ _ β γ first second next, A, U, V =>
      ∃ (U₁ V₁ : β → Prop) (U₂ V₂ : γ → Prop),
        Prepared T I first Never U₁ V₁ ∧ Prepared T I second Never U₂ V₂ ∧
        (∀ b, U₁ b → Prepared T I (next (.inl b)) A U V) ∧
        (∀ c, U₂ c → Prepared T I (next (.inr c)) A U V) ∧
        ((∀ f g, A (race f g next)) ∨
          (∀ b, V₁ b → Abides I (next (.inl b)) V) ∧ ∀ c, V₂ c → Abides I (next (.inr c)) V)
  | _, @guarded _ _ β release body next, A, U, V =>
      (∀ s, T s → T (release s)) ∧ (∀ s, I s → I (release s)) ∧
        ∃ U₁ V₁ : β → Prop, Prepared T I body Never U₁ V₁ ∧
          (∀ b, U₁ b → Prepared T I (next b) A U V) ∧
          ((∀ f, A (guarded release f next)) ∨ ∀ b, V₁ b → Abides I (next b) V)

variable {A : ⦃β : Type⦄ → Fiber σ β → Prop} {U V : α → Prop}

theorem Prepared.bind {f : Fiber σ α} {g : α → Fiber σ β} {U' V' : β → Prop}
    (hA : Contextual A) (hf : Prepared T I f A U V)
    (hbefore : ∀ a, U a → Prepared T I (g a) A U' V') (hafter : ∀ a, V a → Abides I (g a) V') :
    Prepared T I (f >>= g) A U' V' := by
  induction f with
  | done value => exact hbefore value hf
  | step section_ next ih =>
    intro s hs
    obtain ⟨hs', hnext⟩ := hf s hs
    exact ⟨hs', ih _ hnext hbefore hafter⟩
  | await ready next ih =>
    obtain ⟨hwaits, hnext⟩ := hf
    refine ⟨hwaits.imp (fun h => hA.bind h) ?_, ih hnext hbefore hafter⟩
    intro h
    exact h.bind hafter
  | both first second next _ _ ihn =>
    obtain ⟨U₁, V₁, U₂, V₂, hfirst, hsecond, hnext, hend⟩ := hf
    refine ⟨U₁, V₁, U₂, V₂, hfirst, hsecond, ?_, ?_⟩
    · intro b c hb hc
      exact ihn b c (hnext b c hb hc) hbefore hafter
    · apply hend.imp (fun h f' g' => hA.bind (h f' g'))
      intro h b c hb hc
      exact (h b c hb hc).bind hafter
  | race first second next _ _ ihn =>
    obtain ⟨U₁, V₁, U₂, V₂, hfirst, hsecond, hwon, hlost, hend⟩ := hf
    refine ⟨U₁, V₁, U₂, V₂, hfirst, hsecond, ?_, ?_, ?_⟩
    · intro b hb
      exact ihn _ (hwon b hb) hbefore hafter
    · intro c hc
      exact ihn _ (hlost c hc) hbefore hafter
    · apply hend.imp (fun h f' g' => hA.bind (h f' g'))
      intro h
      constructor
      · intro b hb
        exact (h.1 b hb).bind hafter
      · intro c hc
        exact (h.2 c hc).bind hafter
  | guarded release body next _ ihn =>
    obtain ⟨hT, hI, U₁, V₁, hbody, hnext, hend⟩ := hf
    refine ⟨hT, hI, U₁, V₁, hbody, ?_, ?_⟩
    · intro b hb
      exact ihn b (hnext b hb) hbefore hafter
    · apply hend.imp (fun h f' => hA.bind (h f'))
      intro h b hb
      exact (h b hb).bind hafter

/-- What is left before an excepted end is excepted. -/
theorem Prepared.bind_excepted {f : Fiber σ α} {g : α → Fiber σ β} {U' V' : β → Prop}
    (hg : ∀ f', A (f' >>= g)) (hf : Prepared T I f A U V)
    (hbefore : ∀ a, U a → Prepared T I (g a) A U' V') : Prepared T I (f >>= g) A U' V' := by
  induction f with
  | done value => exact hbefore value hf
  | step section_ next ih =>
    intro s hs
    obtain ⟨hs', hnext⟩ := hf s hs
    exact ⟨hs', ih _ hg hnext hbefore⟩
  | await ready next ih => exact ⟨.inl (hg (await ready next)), ih hg hf.2 hbefore⟩
  | both first second next _ _ ihn =>
    obtain ⟨U₁, V₁, U₂, V₂, hfirst, hsecond, hnext, -⟩ := hf
    refine ⟨U₁, V₁, U₂, V₂, hfirst, hsecond, ?_, .inl ?_⟩
    · intro b c hb hc
      exact ihn b c hg (hnext b c hb hc) hbefore
    · intro f' g'
      exact hg (both f' g' next)
  | race first second next _ _ ihn =>
    obtain ⟨U₁, V₁, U₂, V₂, hfirst, hsecond, hwon, hlost, -⟩ := hf
    refine ⟨U₁, V₁, U₂, V₂, hfirst, hsecond, ?_, ?_, .inl ?_⟩
    · intro b hb
      exact ihn _ hg (hwon b hb) hbefore
    · intro c hc
      exact ihn _ hg (hlost c hc) hbefore
    · intro f' g'
      exact hg (race f' g' next)
  | guarded release body next _ ihn =>
    obtain ⟨hT, hI, U₁, V₁, hbody, hnext, -⟩ := hf
    refine ⟨hT, hI, U₁, V₁, hbody, ?_, .inl ?_⟩
    · intro b hb
      exact ihn b hg (hnext b hb) hbefore
    · intro f'
      exact hg (guarded release f' next)

theorem Prepared.all {fs : List (Fiber σ α)}
    (hfs : ∀ f ∈ fs, Prepared T I f A (fun _ => True) fun _ => True) :
    Prepared T I (Fiber.all fs) A (fun _ => True) fun _ => True := by
  induction fs with
  | nil => trivial
  | cons f rest ih =>
    have hrest := ih fun g hg => hfs g (List.mem_cons_of_mem _ hg)
    refine ⟨_, _, _, _, hfs f List.mem_cons_self, hrest, fun _ _ _ _ => trivial, .inr ?_⟩
    intro _ _ _ _
    exact .pure trivial

/-- A fiber whose sections spare what is to be kept is prepared. -/
theorem Spares.prepared {f : Fiber σ α} (hT : Spares T f) (hI : Spares I f) :
    Prepared T I f A (fun _ => True) fun _ => True := by
  induction f generalizing A with
  | done value => trivial
  | step section_ next ih =>
    intro s hs
    exact ⟨hT.1 s hs, ih _ (hT.2 _) (hI.2 _)⟩
  | await ready next ih => exact ⟨.inr hI.abides, ih hT hI⟩
  | both first second next ihf ihg ihn =>
    refine ⟨_, _, _, _, ihf hT.1 hI.1, ihg hT.2.1 hI.2.1, ?_,
      .inr ?_⟩
    · intro b c _ _
      exact ihn b c (hT.2.2 b c) (hI.2.2 b c)
    · intro b c _ _
      exact (hI.2.2 b c).abides
  | race first second next ihf ihg ihn =>
    refine ⟨_, _, _, _, ihf hT.1 hI.1, ihg hT.2.1 hI.2.1, ?_, ?_,
      .inr ⟨?_, ?_⟩⟩
    · intro b _
      exact ihn _ (hT.2.2 _) (hI.2.2 _)
    · intro c _
      exact ihn _ (hT.2.2 _) (hI.2.2 _)
    · intro b _
      exact (hI.2.2 _).abides
    · intro c _
      exact (hI.2.2 _).abides
  | guarded release body next ihb ihn =>
    refine ⟨hT.1, hI.1, _, _, ihb hT.2.1 hI.2.1, ?_, .inr ?_⟩
    · intro b _
      exact ihn b (hT.2.2 b) (hI.2.2 b)
    · intro b _
      exact (hI.2.2 b).abides

/-! ## Polls -/

theorem Prepared.drop {f : Fiber σ α} (hf : Prepared T I f A U V) {s : σ} (hs : T s) :
    T (Fiber.drop f s) := by
  induction f generalizing A s with
  | done value => exact hs
  | step section_ next _ => exact hs
  | await ready next _ => exact hs
  | both first second next ihf ihg _ =>
    obtain ⟨U₁, V₁, U₂, V₂, hfirst, hsecond, -⟩ := hf
    exact ihg hsecond (ihf hfirst hs)
  | race first second next ihf ihg _ =>
    obtain ⟨U₁, V₁, U₂, V₂, hfirst, hsecond, -⟩ := hf
    exact ihg hsecond (ihf hfirst hs)
  | guarded release body next ihb _ =>
    obtain ⟨hT, -, U₁, V₁, hbody, -⟩ := hf
    exact hT _ (ihb hbody hs)

/-- What a poll leaves is excepted, or keeps the invariant from then on. -/
def Left (I : σ → Prop) (A : ⦃β : Type⦄ → Fiber σ β → Prop) (f : Fiber σ α) (V : α → Prop) :
    Prop := A f ∨ Abides I f V

theorem left_of_prepared {f : Fiber σ α} (hf : Prepared T I f A U V)
    (hleft : result? f = none → Left I A f V) : Left I A f fun a => U a ∨ V a := by
  cases hresult : result? f with
  | none =>
    apply (hleft hresult).imp_right
    intro h
    apply h.mono
    intro _
    exact .inr
  | some a =>
    rw [eq_done_of_result? hresult] at hf ⊢
    exact .inr (.pure (.inl hf))

/-- A poll leaves a prepared fiber prepared, and what it leaves of it goes with the
invariant. -/
theorem Prepared.poll {f : Fiber σ α} (hA : Contextual A) (hf : Prepared T I f A U V) {s : σ}
    (hs : T s) :
    T (Fiber.poll f s).2 ∧ Prepared T I (Fiber.poll f s).1 A U V ∧
      (result? (Fiber.poll f s).1 = none → Left I A (Fiber.poll f s).1 V) := by
  induction f generalizing A s with
  | done value =>
    refine ⟨hs, hf, ?_⟩
    intro hwaits
    cases hwaits
  | step section_ next ih =>
    obtain ⟨hs', hnext⟩ := hf s hs
    exact ih _ hA hnext hs'
  | await ready next ih =>
    obtain ⟨hwaits, hnext⟩ := hf
    simp only [Fiber.poll]
    split
    · exact ih hA hnext hs
    · refine ⟨hs, ⟨hwaits, hnext⟩, ?_⟩
      intro _
      exact hwaits
  | both first second next ihf ihg ihn =>
    obtain ⟨U₁, V₁, U₂, V₂, hfirst, hsecond, hnext, hend⟩ := hf
    obtain ⟨hs1, hfirst', hleft1⟩ := ihf hA hfirst hs
    obtain ⟨hs2, hsecond', hleft2⟩ := ihg hA hsecond hs1
    simp only [Fiber.poll]
    split
    · next b c hb hc =>
      rw [eq_done_of_result? hb] at hfirst'
      rw [eq_done_of_result? hc] at hsecond'
      exact ihn b c hA (hnext b c hfirst' hsecond') hs2
    · refine ⟨hs2, ⟨U₁, V₁, U₂, V₂, hfirst', hsecond', hnext, hend⟩, ?_⟩
      intro _
      rcases hend with hexcepted | hend
      · exact .inl (hexcepted _ _)
      rcases left_of_prepared hfirst' hleft1 with hexcepted | hfirstAbides
      · exact .inl (hA.first hexcepted)
      · rcases left_of_prepared hsecond' hleft2 with hexcepted | hsecondAbides
        · exact .inl (hA.second hexcepted)
        · exact .inr (.both hfirstAbides hsecondAbides hend)
  | race first second next ihf ihg ihn =>
    obtain ⟨U₁, V₁, U₂, V₂, hfirst, hsecond, hwon, hlost, hend⟩ := hf
    obtain ⟨hs1, hfirst', hleft1⟩ := ihf contextual_never hfirst hs
    simp only [Fiber.poll]
    split
    · next b hb =>
      rw [eq_done_of_result? hb] at hfirst'
      exact ihn _ hA (hwon b hfirst') (hsecond.drop hs1)
    · next hb =>
      obtain ⟨hs2, hsecond', hleft2⟩ := ihg contextual_never hsecond hs1
      split
      · next c hc =>
        rw [eq_done_of_result? hc] at hsecond'
        exact ihn _ hA (hlost c hsecond') (hfirst'.drop hs2)
      · next hc =>
        refine ⟨hs2, ⟨U₁, V₁, U₂, V₂, hfirst', hsecond', hwon, hlost, hend⟩, ?_⟩
        intro _
        apply hend.imp (fun h => h _ _)
        intro h
        exact .race ((hleft1 hb).resolve_left id) ((hleft2 hc).resolve_left id) h.1 h.2
  | guarded release body next ihb ihn =>
    obtain ⟨hT, hI, U₁, V₁, hbody, hnext, hend⟩ := hf
    obtain ⟨hs1, hbody', hleft⟩ := ihb contextual_never hbody hs
    simp only [Fiber.poll]
    split
    · next b hb =>
      rw [eq_done_of_result? hb] at hbody'
      exact ihn b hA (hnext b hbody') (hT _ hs1)
    · next hb =>
      refine ⟨hs1, ⟨hT, hI, U₁, V₁, hbody', hnext, hend⟩, ?_⟩
      intro _
      apply hend.imp (fun h => h _)
      intro h
      exact .guarded hI ((hleft hb).resolve_left id) h

end Fiber

end ServiceMesh
