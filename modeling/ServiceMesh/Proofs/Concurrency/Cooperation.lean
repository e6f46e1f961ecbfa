import ServiceMesh.Proofs.Concurrency.Interleaving

/-!
# Fibers that take turns

On one thread a fiber runs until it has to wait, and nobody comes in between: a turn is a
poll.  What holds when a fiber waits need not hold in the middle of its turn.

An `Etiquette` says what holds of the shared state at *rest*, while nobody runs, given what
the fibers have in hand.  It also says which states are *later* than others, so that a fiber
may count on what it once saw as long as it stays so later (`Etiquette.Stable`).

`Fiber.Goes` is the run of a fiber from one state, in the middle of a turn or not.  Where
the fiber waits the state is at rest, and from there it goes on from any later state at
rest.  A fiber that goes leaves a state at rest after its turn, and still goes
(`Fiber.Goes.poll`).  Among several fibers each turn of one leaves all of them going
(`Fiber.AllGo.pollAt`).
-/

namespace ServiceMesh

/-- What holds between the turns of fibers. -/
structure Etiquette (σ η : Type) where
  /-- What holds of the state at rest while `held` is in hand. -/
  Rest : (held : List η) → σ → Prop
  /-- There may be less in hand than is said. -/
  mono : ∀ {held more s}, held ⊆ more → Rest held s → Rest more s
  /-- One state may come after another. -/
  Later : σ → σ → Prop
  refl : ∀ s, Later s s
  trans : ∀ {s t u}, Later s t → Later t u → Later s u

namespace Etiquette

variable {σ η : Type}

/-- What stays as it is later. -/
def Stable (E : Etiquette σ η) (Q : σ → Prop) : Prop := ∀ s t, E.Later s t → Q s → Q t

variable (E : Etiquette σ η)

theorem swap {held held' others : List η} {s : σ}
    (h : E.Rest (held ++ (held' ++ others)) s) : E.Rest (held' ++ (held ++ others)) s :=
  E.mono (List.perm_append_comm_assoc held held' others).subset h

end Etiquette

namespace Fiber

variable {σ η α β γ : Type}

/-- A fiber that never leaves the state but at rest, and has nothing in hand. -/
def Calm (E : Etiquette σ η) : {α : Type} → Fiber σ α → Prop
  | _, done _ => True
  | _, step section_ next =>
      ∀ s others, E.Rest others s →
        E.Rest others (section_ s).2 ∧ E.Later s (section_ s).2 ∧ Calm E (next (section_ s).1)
  | _, await _ next => Calm E next
  | _, both first second next => Calm E first ∧ Calm E second ∧ ∀ b c, Calm E (next b c)
  | _, race first second next => Calm E first ∧ Calm E second ∧ ∀ r, Calm E (next r)
  | _, guarded .. => False

/-- A fiber goes on from a state, and ends as it should. -/
def Goes (E : Etiquette σ η) :
    {α : Type} → Fiber σ α → (α → List η → σ → Prop) → List η → σ → Prop
  | _, done a, post, others, s => post a others s
  | _, step section_ next, post, others, s =>
      E.Later s (section_ s).2 ∧ Goes E (next (section_ s).1) post others (section_ s).2
  | _, await ready next, post, others, s =>
      E.Rest others s ∧
        ∀ t o, E.Later s t → E.Rest o t → ready t = true → Goes E next post o t
  | _, @both _ _ β γ first second next, post, others, s =>
      ∃ (heldFirst heldSecond : List η) (Q : β → σ → Prop) (R : γ → σ → Prop),
        (∀ b, E.Stable (Q b)) ∧ (∀ c, E.Stable (R c)) ∧
        E.Rest (heldFirst ++ (heldSecond ++ others)) s ∧
        (∀ t o, E.Later s t → E.Rest (heldFirst ++ o) t →
          Goes E first (fun b o t => E.Rest o t ∧ Q b t) o t) ∧
        (∀ t o, E.Later s t → E.Rest (heldSecond ++ o) t →
          Goes E second (fun c o t => E.Rest o t ∧ R c t) o t) ∧
        ∀ b c t o, E.Later s t → E.Rest o t → Q b t → R c t → Goes E (next b c) post o t
  | _, race first second next, post, others, s =>
      E.Rest others s ∧ Calm E first ∧ Calm E second ∧
        ∀ r t o, E.Later s t → E.Rest o t → Goes E (next r) post o t
  | _, @guarded _ _ β release body next, post, others, s =>
      ∃ (heldBody kept : List η) (Q : β → σ → Prop), (∀ b, E.Stable (Q b)) ∧
        E.Rest (heldBody ++ (kept ++ others)) s ∧
        (∀ t o, E.Later s t → E.Rest (heldBody ++ o) t →
          Goes E body (fun b o t => E.Rest o t ∧ Q b t) o t) ∧
        ∀ b t o, E.Later s t → E.Rest (kept ++ o) t → Q b t →
          E.Later t (release t) ∧ Goes E (next b) post o (release t)

/-- What a turn leaves: the end, or a fiber that waits with something in hand and goes on
from every later state at rest. -/
def Leaves (E : Etiquette σ η) (f : Fiber σ α) (post : α → List η → σ → Prop) (others : List η)
    (s : σ) : Prop :=
  match result? f with
  | some a => post a others s
  | none => ∃ held, E.Rest (held ++ others) s ∧
      ∀ t o, E.Later s t → E.Rest (held ++ o) t → Goes E f post o t

variable {E : Etiquette σ η}

/-! ## Calm fibers -/

theorem Calm.drop {f : Fiber σ α} (hf : Calm E f) (s : σ) : Fiber.drop f s = s := by
  induction f generalizing s with
  | done value => rfl
  | step section_ next _ => rfl
  | await ready next _ => rfl
  | both first second next ihf ihg _ =>
    simp only [Fiber.drop, ihf hf.1, ihg hf.2.1]
  | race first second next ihf ihg _ =>
    simp only [Fiber.drop, ihf hf.1, ihg hf.2.1]
  | guarded release body next _ _ => exact hf.elim

/-- A turn of a calm fiber leaves it calm, and the state at rest.  A calm fiber that loses a race
has nothing to put in order. -/
theorem Calm.poll {f : Fiber σ α} (hf : Calm E f) {s : σ} {others : List η}
    (hs : E.Rest others s) :
    E.Rest others (poll f s).2 ∧ E.Later s (poll f s).2 ∧ Calm E (poll f s).1 := by
  induction f generalizing s with
  | done value => exact ⟨hs, E.refl s, trivial⟩
  | step section_ next ih =>
    obtain ⟨hs', hlater, hnext⟩ := hf s others hs
    obtain ⟨hs'', hlater', hcalm⟩ := ih _ hnext hs'
    exact ⟨hs'', E.trans hlater hlater', hcalm⟩
  | await ready next ih =>
    unfold Fiber.poll
    split
    · exact ih hf hs
    · exact ⟨hs, E.refl s, hf⟩
  | both first second next ihf ihg ihn =>
    obtain ⟨hfirst, hsecond, hnext⟩ := hf
    obtain ⟨hs1, hlater1, hfirst1⟩ := ihf hfirst hs
    obtain ⟨hs2, hlater2, hsecond2⟩ := ihg hsecond hs1
    have hlater := E.trans hlater1 hlater2
    simp only [Fiber.poll]
    split
    · next b c _ _ =>
      obtain ⟨hs3, hlater3, hcalm⟩ := ihn b c (hnext b c) hs2
      exact ⟨hs3, E.trans hlater hlater3, hcalm⟩
    · exact ⟨hs2, hlater, hfirst1, hsecond2, hnext⟩
  | race first second next ihf ihg ihn =>
    obtain ⟨hfirst, hsecond, hnext⟩ := hf
    obtain ⟨hs1, hlater1, hfirst1⟩ := ihf hfirst hs
    obtain ⟨hs2, hlater2, hsecond2⟩ := ihg hsecond hs1
    have hlater := E.trans hlater1 hlater2
    simp only [Fiber.poll, hsecond.drop, hfirst1.drop]
    split
    · obtain ⟨hs3, hlater3, hcalm⟩ := ihn _ (hnext _) hs1
      exact ⟨hs3, E.trans hlater1 hlater3, hcalm⟩
    · split
      · obtain ⟨hs3, hlater3, hcalm⟩ := ihn _ (hnext _) hs2
        exact ⟨hs3, E.trans hlater hlater3, hcalm⟩
      · exact ⟨hs2, hlater, hfirst1, hsecond2, hnext⟩
  | guarded release body next _ _ => exact hf.elim

theorem Calm.bind {f : Fiber σ α} (hf : Calm E f) {g : α → Fiber σ β} (hg : ∀ a, Calm E (g a)) :
    Calm E (f >>= g) := by
  induction f with
  | done value => exact hg value
  | step section_ next ih =>
    intro s others hs
    obtain ⟨hs', hlater, hnext⟩ := hf s others hs
    exact ⟨hs', hlater, ih _ hnext hg⟩
  | await ready next ih => exact ih hf hg
  | both first second next _ _ ihn =>
    refine ⟨hf.1, hf.2.1, ?_⟩
    intro b c
    exact ihn b c (hf.2.2 b c) hg
  | race first second next _ _ ihn =>
    refine ⟨hf.1, hf.2.1, ?_⟩
    intro r
    exact ihn r (hf.2.2 r) hg
  | guarded release body next _ _ => exact hf.elim

theorem Calm.all {fs : List (Fiber σ α)} (hfs : ∀ f ∈ fs, Calm E f) : Calm E (Fiber.all fs) := by
  induction fs with
  | nil => exact trivial
  | cons f rest ih =>
    refine ⟨hfs f List.mem_cons_self, ih fun g hg => hfs g (List.mem_cons_of_mem _ hg), ?_⟩
    intro _ _
    exact trivial

theorem stable_true : E.Stable fun _ => True := fun _ _ _ _ => trivial

/-- A calm fiber goes from every state at rest to a state at rest. -/
theorem Calm.goes {f : Fiber σ α} (hf : Calm E f) {Q : σ → Prop} (hQ : E.Stable Q) {s : σ}
    {others : List η} (hs : E.Rest others s) (hq : Q s) :
    Goes E f (fun _ o t => E.Rest o t ∧ Q t) others s := by
  induction f generalizing s others Q with
  | done value => exact ⟨hs, hq⟩
  | step section_ next ih =>
    obtain ⟨hs', hlater, hnext⟩ := hf s others hs
    exact ⟨hlater, ih _ hnext hQ hs' (hQ _ _ hlater hq)⟩
  | await ready next ih =>
    constructor
    · exact hs
    · intro t o hlater ht _
      exact ih hf hQ ht (hQ _ _ hlater hq)
  | both first second next ihf ihg ihn =>
    refine ⟨[], [], _, _, fun _ => stable_true, fun _ => stable_true, hs, ?_, ?_, ?_⟩
    · intro t o _ ht
      exact ihf hf.1 stable_true ht trivial
    · intro t o _ ht
      exact ihg hf.2.1 stable_true ht trivial
    · intro b c t o hlater ht _ _
      exact ihn b c (hf.2.2 b c) hQ ht (hQ _ _ hlater hq)
  | race first second next _ _ ihn =>
    refine ⟨hs, hf.1, hf.2.1, ?_⟩
    intro r t o hlater ht
    exact ihn r (hf.2.2 r) hQ ht (hQ _ _ hlater hq)
  | guarded release body next _ _ => exact hf.elim

/-! ## Composition -/

theorem Goes.bind {f : Fiber σ α} {g : α → Fiber σ β} {post : β → List η → σ → Prop}
    {others : List η} {s : σ} (hf : Goes E f (fun a o t => Goes E (g a) post o t) others s) :
    Goes E (f >>= g) post others s := by
  induction f generalizing s others with
  | done value => exact hf
  | step section_ next ih => exact ⟨hf.1, ih _ hf.2⟩
  | await ready next ih =>
    constructor
    · exact hf.1
    · intro t o hlater ht hready
      exact ih (hf.2 t o hlater ht hready)
  | both first second next _ _ ihn =>
    obtain ⟨heldFirst, heldSecond, Q, R, hQ, hR, hs, hfirst, hsecond, hnext⟩ := hf
    refine ⟨heldFirst, heldSecond, Q, R, hQ, hR, hs, hfirst, hsecond, ?_⟩
    intro b c t o hlater ht hb hc
    exact ihn b c (hnext b c t o hlater ht hb hc)
  | race first second next _ _ ihn =>
    refine ⟨hf.1, hf.2.1, hf.2.2.1, ?_⟩
    intro r t o hlater ht
    exact ihn r (hf.2.2.2 r t o hlater ht)
  | guarded release body next _ ihn =>
    obtain ⟨heldBody, kept, Q, hQ, hs, hbody, hnext⟩ := hf
    refine ⟨heldBody, kept, Q, hQ, hs, hbody, ?_⟩
    intro b t o hlater ht hb
    obtain ⟨hrelease, hgoes⟩ := hnext b t o hlater ht hb
    exact ⟨hrelease, ihn b hgoes⟩

/-- A fiber that ends as it should ends as it may. -/
theorem Goes.mono {f : Fiber σ α} {post post' : α → List η → σ → Prop} {others : List η} {s : σ}
    (hf : Goes E f post others s) (hpost : ∀ a o t, post a o t → post' a o t) :
    Goes E f post' others s := by
  induction f generalizing s others with
  | done value => exact hpost _ _ _ hf
  | step section_ next ih => exact ⟨hf.1, ih _ hf.2 hpost⟩
  | await ready next ih =>
    constructor
    · exact hf.1
    · intro t o hlater ht hready
      exact ih (hf.2 t o hlater ht hready) hpost
  | both first second next _ _ ihn =>
    obtain ⟨heldFirst, heldSecond, Q, R, hQ, hR, hs, hfirst, hsecond, hnext⟩ := hf
    refine ⟨heldFirst, heldSecond, Q, R, hQ, hR, hs, hfirst, hsecond, ?_⟩
    intro b c t o hlater ht hb hc
    exact ihn b c (hnext b c t o hlater ht hb hc) hpost
  | race first second next _ _ ihn =>
    refine ⟨hf.1, hf.2.1, hf.2.2.1, ?_⟩
    intro r t o hlater ht
    exact ihn r (hf.2.2.2 r t o hlater ht) hpost
  | guarded release body next _ ihn =>
    obtain ⟨heldBody, kept, Q, hQ, hs, hbody, hnext⟩ := hf
    refine ⟨heldBody, kept, Q, hQ, hs, hbody, ?_⟩
    intro b t o hlater ht hb
    obtain ⟨hrelease, hgoes⟩ := hnext b t o hlater ht hb
    exact ⟨hrelease, ihn b hgoes hpost⟩

/-! ## Turns -/

theorem Leaves.of_done {a : α} {post : α → List η → σ → Prop} {others : List η} {s : σ}
    (h : Leaves E (done a) post others s) : post a others s := h

theorem Leaves.of_waiting {f : Fiber σ α} {post : α → List η → σ → Prop} {others : List η}
    {s : σ} (hnone : result? f = none) (h : Leaves E f post others s) :
    ∃ held, E.Rest (held ++ others) s ∧
      ∀ t o, E.Later s t → E.Rest (held ++ o) t → Goes E f post o t := by
  unfold Leaves at h
  rw [hnone] at h
  exact h

/-- What a part leaves goes on from every later state at rest.  A part that is over has
nothing in hand. -/
theorem Leaves.resume {f : Fiber σ α} {Q : α → σ → Prop} (hQ : ∀ a, E.Stable (Q a))
    {others : List η} {s : σ} (h : Leaves E f (fun a o t => E.Rest o t ∧ Q a t) others s) :
    ∃ held, E.Rest (held ++ others) s ∧ (∀ a, result? f = some a → held = [] ∧ Q a s) ∧
      ∀ t o, E.Later s t → E.Rest (held ++ o) t →
        Goes E f (fun a o t => E.Rest o t ∧ Q a t) o t := by
  cases hresult : result? f with
  | some a =>
    rw [eq_done_of_result? hresult] at h ⊢
    obtain ⟨hs, ha⟩ := h.of_done
    refine ⟨[], hs, ?_, fun t o hlater ht => ⟨ht, hQ a _ _ hlater ha⟩⟩
    intro a' ha'
    cases ha'
    exact ⟨rfl, ha⟩
  | none =>
    obtain ⟨held, hs, hresume⟩ := h.of_waiting hresult
    refine ⟨held, hs, ?_, hresume⟩
    intro a ha
    cases ha

/-- After a turn a fiber is over as it should be, or it waits at rest. -/
theorem Goes.poll {f : Fiber σ α} {post : α → List η → σ → Prop} {others : List η} {s : σ}
    (hf : Goes E f post others s) :
    E.Later s (poll f s).2 ∧ Leaves E (poll f s).1 post others (poll f s).2 := by
  induction f generalizing s others with
  | done value => exact ⟨E.refl s, hf⟩
  | step section_ next ih =>
    obtain ⟨hlater, hleaves⟩ := ih _ hf.2
    exact ⟨E.trans hf.1 hlater, hleaves⟩
  | await ready next ih =>
    obtain ⟨hs, hnext⟩ := hf
    unfold Fiber.poll
    split
    · next hready => exact ih (hnext s others (E.refl s) hs hready)
    · refine ⟨E.refl s, [], hs, fun t o hlater ht => ⟨ht, ?_⟩⟩
      intro u o' hlater'
      exact hnext u o' (E.trans hlater hlater')
  | both first second next ihf ihg ihn =>
    obtain ⟨heldFirst, heldSecond, Q, R, hQ, hR, hs, hfirst, hsecond, hnext⟩ := hf
    obtain ⟨hlater1, hleaves1⟩ := ihf (hfirst s _ (E.refl s) hs)
    obtain ⟨held1, hs1, hover1, hresume1⟩ := hleaves1.resume hQ
    obtain ⟨hlater2, hleaves2⟩ := ihg (hsecond _ _ hlater1 (E.swap hs1))
    obtain ⟨held2, hs2, hover2, hresume2⟩ := hleaves2.resume hR
    have hlater := E.trans hlater1 hlater2
    simp only [Fiber.poll]
    split
    · next b c hb hc =>
      obtain ⟨rfl, hq⟩ := hover1 b hb
      obtain ⟨rfl, hr⟩ := hover2 c hc
      have hgoes := hnext b c _ others hlater hs2 (hQ b _ _ hlater2 hq) hr
      obtain ⟨hlater3, hleaves3⟩ := ihn b c hgoes
      exact ⟨E.trans hlater hlater3, hleaves3⟩
    · refine ⟨hlater, held1 ++ held2, ?_, ?_⟩
      · rw [List.append_assoc]
        exact E.swap hs2
      · intro t o hlater' ht
        rw [List.append_assoc] at ht
        refine ⟨held1, held2, Q, R, hQ, hR, ht, ?_, ?_, ?_⟩
        · intro u o' h
          exact hresume1 u o' (E.trans hlater2 (E.trans hlater' h))
        · intro u o' h
          exact hresume2 u o' (E.trans hlater' h)
        · intro b c u o' h
          exact hnext b c u o' (E.trans hlater (E.trans hlater' h))
  | race first second next ihf ihg ihn =>
    obtain ⟨hs, hfirst, hsecond, hnext⟩ := hf
    obtain ⟨hs1, hlater1, hfirst1⟩ := hfirst.poll hs
    obtain ⟨hs2, hlater2, hsecond2⟩ := hsecond.poll hs1
    have hlater := E.trans hlater1 hlater2
    simp only [Fiber.poll, hsecond.drop, hfirst1.drop]
    split
    · obtain ⟨hlater3, hleaves3⟩ := ihn _ (hnext _ _ others hlater1 hs1)
      exact ⟨E.trans hlater1 hlater3, hleaves3⟩
    · split
      · obtain ⟨hlater3, hleaves3⟩ := ihn _ (hnext _ _ others hlater hs2)
        exact ⟨E.trans hlater hlater3, hleaves3⟩
      · refine ⟨hlater, [], hs2, fun t o hlater' ht => ⟨ht, hfirst1, hsecond2, ?_⟩⟩
        intro r u o' h
        exact hnext r u o' (E.trans hlater (E.trans hlater' h))
  | guarded release body next ihb ihn =>
    obtain ⟨heldBody, kept, Q, hQ, hs, hbody, hnext⟩ := hf
    obtain ⟨hlater1, hleaves1⟩ := ihb (hbody s _ (E.refl s) hs)
    obtain ⟨held1, hs1, hover1, hresume1⟩ := hleaves1.resume hQ
    simp only [Fiber.poll]
    split
    · next b hb =>
      obtain ⟨rfl, hq⟩ := hover1 b hb
      obtain ⟨hrelease, hgoes⟩ := hnext b _ others hlater1 hs1 hq
      obtain ⟨hlater2, hleaves2⟩ := ihn b hgoes
      exact ⟨E.trans hlater1 (E.trans hrelease hlater2), hleaves2⟩
    · refine ⟨hlater1, held1 ++ kept, ?_, ?_⟩
      · rw [List.append_assoc]
        exact hs1
      · intro t o hlater' ht
        rw [List.append_assoc] at ht
        refine ⟨held1, kept, Q, hQ, ht, ?_, ?_⟩
        · intro u o' h
          exact hresume1 u o' (E.trans hlater' h)
        · intro b u o' h
          exact hnext b u o' (E.trans hlater1 (E.trans hlater' h))

/-! ## Several fibers -/

/-- A fiber that goes from every state at rest to a state at rest. -/
def Polite (E : Etiquette σ η) (f : Fiber σ α) : Prop :=
  ∀ s others, E.Rest others s → Goes E f (fun _ o t => E.Rest o t) others s

theorem Calm.polite {f : Fiber σ α} (hf : Calm E f) : Polite E f := by
  intro _ _ hs
  apply (hf.goes stable_true hs trivial).mono
  intro _ _ _ h
  exact h.1

/-- A section that leaves the state at rest may come first. -/
theorem Polite.step {section_ : σ → β × σ} {next : β → Fiber σ α}
    (hsection : ∀ s others, E.Rest others s →
      E.Rest others (section_ s).2 ∧ E.Later s (section_ s).2)
    (hnext : ∀ b, Polite E (next b)) : Polite E (step section_ next) := by
  intro s others hs
  obtain ⟨hs', hlater⟩ := hsection s others hs
  exact ⟨hlater, hnext _ _ _ hs'⟩

/-- A polite fiber may be guarded by a release that leaves the state at rest. -/
theorem Polite.guarded {release : σ → σ} {body : Fiber σ β} {next : β → Fiber σ α}
    (hrelease : ∀ s others, E.Rest others s → E.Rest others (release s) ∧ E.Later s (release s))
    (hbody : Polite E body) (hnext : ∀ b, Polite E (next b)) :
    Polite E (guarded release body next) := by
  intro s others hs
  refine ⟨[], [], _, fun _ => stable_true, hs, ?_, ?_⟩
  · intro t o _ ht
    apply (hbody t o ht).mono
    intro _ _ _ h
    exact ⟨h, trivial⟩
  · intro b t o _ ht _
    obtain ⟨ht', hlater⟩ := hrelease t o ht
    exact ⟨hlater, hnext b _ _ ht'⟩

/-- A polite fiber may be waited for. -/
theorem Polite.await {ready : σ → Bool} {next : Fiber σ α} (hnext : Polite E next) :
    Polite E (await ready next) := by
  intro _ _ hs
  constructor
  · exact hs
  · intro t o _ ht _
    exact hnext t o ht

theorem Polite.bind {f : Fiber σ α} (hf : Polite E f) {g : α → Fiber σ β}
    (hg : ∀ a, Polite E (g a)) : Polite E (f >>= g) := by
  intro s others hs
  exact Goes.bind ((hf s others hs).mono fun a o t ht => hg a t o ht)

theorem Polite.all {fs : List (Fiber σ α)} (hfs : ∀ f ∈ fs, Polite E f) :
    Polite E (Fiber.all fs) := by
  induction fs with
  | nil =>
    intro _ _ hs
    exact hs
  | cons f rest ih =>
    have hf := hfs f List.mem_cons_self
    have hrest := ih fun g hg => hfs g (List.mem_cons_of_mem _ hg)
    refine fun s others hs => ⟨[], [], _, _, fun _ => stable_true, fun _ => stable_true, hs,
      ?_, ?_, ?_⟩
    · intro t o _ ht
      apply (hf t o ht).mono
      intro _ _ _ h
      exact ⟨h, trivial⟩
    · intro t o _ ht
      apply (hrest t o ht).mono
      intro _ _ _ h
      exact ⟨h, trivial⟩
    · intro _ _ _ _ _ ht _ _
      exact ht

/-- One of several fibers takes a turn. -/
def pollAt (index : Nat) (fs : List (Fiber σ α)) (s : σ) : List (Fiber σ α) × σ :=
  match fs[index]? with
  | some f => (fs.set index (poll f s).1, (poll f s).2)
  | none => (fs, s)

theorem pollAt_cons_succ (index : Nat) (f : Fiber σ α) (fs : List (Fiber σ α)) (s : σ) :
    pollAt (index + 1) (f :: fs) s = (f :: (pollAt index fs s).1, (pollAt index fs s).2) := by
  unfold pollAt
  rw [List.getElem?_cons_succ]
  cases fs[index]? with
  | none => rfl
  | some g => rfl

/-- Fibers that go from every later state at rest, with `held` in hand among them.  Those
that are over have nothing in hand. -/
inductive AllGo (E : Etiquette σ η) : List (Fiber σ α) → List η → σ → Prop where
  | nil {s : σ} : AllGo E [] [] s
  | cons {f : Fiber σ α} {fs : List (Fiber σ α)} {held rest : List η} {s : σ}
      (hover : ∀ a, result? f = some a → held = [])
      (hf : ∀ t o, E.Later s t → E.Rest (held ++ o) t → Goes E f (fun _ o t => E.Rest o t) o t)
      (hfs : AllGo E fs rest s) : AllGo E (f :: fs) (held ++ rest) s

theorem AllGo.later {fs : List (Fiber σ α)} {held : List η} {s t : σ} (hfs : AllGo E fs held s)
    (h : E.Later s t) : AllGo E fs held t := by
  induction hfs with
  | nil => exact .nil
  | cons hover hf _ ih =>
    refine .cons hover ?_ (ih h)
    intro u o hlater
    exact hf u o (E.trans h hlater)

/-- A polite fiber may join the others. -/
theorem AllGo.start {fs : List (Fiber σ α)} {held : List η} {s : σ} (hfs : AllGo E fs held s)
    {f : Fiber σ α} (hf : Polite E f) : AllGo E (fs ++ [f]) held s := by
  induction hfs with
  | nil => exact .cons (fun _ _ => rfl) (fun t o _ ht => hf t o ht) .nil
  | cons hover hg _ ih => exact .cons hover hg ih

/-- A turn of one fiber leaves all of them going, and the state at rest. -/
theorem AllGo.pollAt {fs : List (Fiber σ α)} {held : List η} {s : σ} (hfs : AllGo E fs held s)
    (index : Nat) {others : List η} (hs : E.Rest (held ++ others) s) :
    E.Later s (Fiber.pollAt index fs s).2 ∧
      ∃ held', E.Rest (held' ++ others) (Fiber.pollAt index fs s).2 ∧
        AllGo E (Fiber.pollAt index fs s).1 held' (Fiber.pollAt index fs s).2 := by
  induction hfs generalizing index others with
  | @nil s => exact ⟨E.refl s, [], hs, .nil⟩
  | @cons f fs held rest s hover hf hfs ih =>
    rw [List.append_assoc] at hs
    cases index with
    | zero =>
      have hgoes : Goes E f (fun _ o t => E.Rest o t ∧ True) (rest ++ others) s :=
        (hf s _ (E.refl s) hs).mono fun _ _ _ h => ⟨h, trivial⟩
      obtain ⟨hlater, hleaves⟩ := hgoes.poll
      obtain ⟨held', hs', hover', hresume⟩ := hleaves.resume fun _ => stable_true
      refine ⟨hlater, held' ++ rest, ?_, .cons (fun a ha => (hover' a ha).1) ?_ (hfs.later hlater)⟩
      · rw [List.append_assoc]
        exact hs'
      · intro t o h ht
        apply (hresume t o h ht).mono
        intro _ _ _ h
        exact h.1
    | succ index =>
      obtain ⟨hlater, rest', hs', hfs'⟩ := ih index (E.swap hs)
      rw [pollAt_cons_succ]
      refine ⟨hlater, held ++ rest', ?_, .cons hover ?_ hfs'⟩
      · rw [List.append_assoc]
        exact E.swap hs'
      · intro t o h
        exact hf t o (E.trans hlater h)

/-- When all fibers are over, nothing is in hand. -/
theorem AllGo.over {fs : List (Fiber σ α)} {held : List η} {s : σ} (hfs : AllGo E fs held s)
    (hover : ∀ f ∈ fs, (result? f).isSome) : held = [] := by
  induction hfs with
  | nil => rfl
  | cons hnone _ _ ih =>
    obtain ⟨a, ha⟩ := Option.isSome_iff_exists.mp (hover _ List.mem_cons_self)
    rw [hnone a ha, ih fun g hg => hover g (List.mem_cons_of_mem _ hg)]
    rfl

end Fiber

end ServiceMesh
