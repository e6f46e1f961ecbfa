import ServiceMesh.Proofs.Concurrency.Interleaving

/-!
# Disciplines of shared state

Fibers over a shared state may have things *in hand*: things that the state has not
accounted for yet, and of which a later section takes care.  A `Custody` says how a
fiber can have a thing in hand at all: its next section settles it, or the value that
it ended with carries it to whoever waits for that value (`Fiber.InHand`).  A
`Discipline` says in addition what holds of the state while things are in hand.

`Fiber.Keeps` says that a fiber keeps a discipline, whatever the others have in hand
and whatever they do between its sections.  It is defined along the tree and composed
along it (`Keeps.bind`, `Keeps.all`).  A turn of one fiber among several preserves it
(`Keeping.advanceAt`), and whatever is in hand is in the hand of some fiber
(`Keeping.inHand`).
-/

namespace ServiceMesh

/-- How a fiber can have a thing in hand. -/
structure Custody (σ η : Type) where
  /-- A section takes care of a thing. -/
  settles : η → ⦃β : Type⦄ → (σ → β × σ) → Prop
  /-- A value carries a thing. -/
  carries : η → ⦃α : Type⦄ → α → Prop

/-- What holds of a shared state while things are in hand. -/
structure Discipline (σ η : Type) extends Custody σ η where
  /-- What holds of the state while `held` is in hand. -/
  Inv : (held : List η) → σ → Prop
  /-- There may be less in hand than is said. -/
  mono : ∀ {held more s}, held ⊆ more → Inv held s → Inv more s

theorem Discipline.mono_left (D : Discipline σ η) {held more others : List η} {s : σ}
    (h : held ⊆ more) (hs : D.Inv (held ++ others) s) : D.Inv (more ++ others) s :=
  D.mono (List.append_subset.mpr
    ⟨List.subset_append_of_subset_left others h, List.subset_append_right more others⟩) hs

theorem Discipline.swap (D : Discipline σ η) {held held' others : List η} {s : σ}
    (hs : D.Inv (held ++ (held' ++ others)) s) : D.Inv (held' ++ (held ++ others)) s :=
  D.mono (List.perm_append_comm_assoc held held' others).subset hs

namespace Fiber

/-- A fiber has a thing in hand: one of its next sections settles it, or a part that is
over carries it. -/
inductive InHand {σ η : Type} (C : Custody σ η) (e : η) : {α : Type} → Fiber σ α → Prop where
  | value {α : Type} {a : α} (h : C.carries e a) : InHand C e (done a)
  | section_ {α β : Type} {f : σ → β × σ} {next : β → Fiber σ α} (h : C.settles e f) :
      InHand C e (step f next)
  | first {α β γ : Type} {f : Fiber σ β} {g : Fiber σ γ} {next : β → γ → Fiber σ α}
      (h : InHand C e f) : InHand C e (both f g next)
  | second {α β γ : Type} {f : Fiber σ β} {g : Fiber σ γ} {next : β → γ → Fiber σ α}
      (h : InHand C e g) : InHand C e (both f g next)
  | inside {α β : Type} {release : σ → σ} {body : Fiber σ β} {next : β → Fiber σ α}
      (h : InHand C e body) : InHand C e (guarded release body next)

variable {σ η α β γ : Type} {D : Discipline σ η}

/-- A fiber that never has anything in hand and may be dropped at any point. -/
def Steady (D : Discipline σ η) : {α : Type} → Fiber σ α → Prop
  | _, done _ => True
  | _, step section_ next =>
      ∀ s others, D.Inv others s →
        D.Inv others (section_ s).2 ∧ Steady D (next (section_ s).1)
  | _, await _ next => Steady D next
  | _, both first second next =>
      Steady D first ∧ Steady D second ∧ ∀ b c, Steady D (next b c)
  | _, race first second next =>
      Steady D first ∧ Steady D second ∧ ∀ r, Steady D (next r)
  | _, guarded release body next =>
      (∀ s others, D.Inv others s → D.Inv others (release s)) ∧
        Steady D body ∧ ∀ b, Steady D (next b)

/-- A fiber keeps a discipline that starts with `held` in hand and ends with `left` of
its value. -/
def Keeps (D : Discipline σ η) : {α : Type} → Fiber σ α → List η → (α → List η) → Prop
  | _, done value, held, left => held ⊆ left value ∧ ∀ e ∈ held, D.carries e value
  | _, step section_ next, held, left =>
      (∀ e ∈ held, D.settles e section_) ∧
        ∀ s others, D.Inv (held ++ others) s →
          ∃ held', D.Inv (held' ++ others) (section_ s).2 ∧
            Keeps D (next (section_ s).1) held' left
  | _, await _ next, held, left => held = [] ∧ Keeps D next [] left
  | _, both first second next, held, left =>
      ∃ heldFirst leftFirst heldSecond leftSecond, held ⊆ heldFirst ++ heldSecond ∧
        Keeps D first heldFirst leftFirst ∧ Keeps D second heldSecond leftSecond ∧
        ∀ b c, Keeps D (next b c) (leftFirst b ++ leftSecond c) left
  | _, race first second next, held, left =>
      held = [] ∧ Steady D first ∧ Steady D second ∧ ∀ r, Keeps D (next r) [] left
  | _, guarded release body next, held, left =>
      (∀ s others, D.Inv others s → D.Inv others (release s)) ∧
        ∃ leftBody, Keeps D body held leftBody ∧ ∀ b, Keeps D (next b) (leftBody b) left

/-! ## Steady fibers -/

theorem Steady.drop {f : Fiber σ α} (hf : Steady D f) {s : σ} {others : List η}
    (hs : D.Inv others s) : D.Inv others (drop f s) := by
  induction f generalizing s with
  | done value => exact hs
  | step section_ next _ => exact hs
  | await ready next _ => exact hs
  | both first second next ihf ihg _ => exact ihg hf.2.1 (ihf hf.1 hs)
  | race first second next ihf ihg _ => exact ihg hf.2.1 (ihf hf.1 hs)
  | guarded release body next ihb _ => exact hf.1 _ _ (ihb hf.2.1 hs)

/-- A turn leaves a steady fiber steady. -/
theorem Steady.advance {f : Fiber σ α} (hf : Steady D f) (p : Place) {s : σ} {others : List η}
    (hs : D.Inv others s) : D.Inv others (advance p f s).2 ∧ Steady D (advance p f s).1 := by
  induction f generalizing p s with
  | done value =>
    rw [advance_done]
    exact ⟨hs, hf⟩
  | step section_ next _ =>
    rw [advance_step]
    exact hf s others hs
  | await ready next _ =>
    rw [advance_await]
    split
    · exact ⟨hs, hf⟩
    · exact ⟨hs, hf⟩
  | both first second next ihf ihg _ =>
    obtain ⟨hfirst, hsecond, hnext⟩ := hf
    cases p with
    | here =>
      simp only [Fiber.advance]
      split
      · exact ⟨hs, hnext _ _⟩
      · exact ⟨hs, hfirst, hsecond, hnext⟩
    | first q =>
      obtain ⟨hs', hfirst'⟩ := ihf hfirst q hs
      exact ⟨hs', hfirst', hsecond, hnext⟩
    | second q =>
      obtain ⟨hs', hsecond'⟩ := ihg hsecond q hs
      exact ⟨hs', hfirst, hsecond', hnext⟩
  | race first second next ihf ihg _ =>
    obtain ⟨hfirst, hsecond, hnext⟩ := hf
    cases p with
    | here =>
      simp only [Fiber.advance]
      split
      · exact ⟨hsecond.drop hs, hnext _⟩
      · exact ⟨hfirst.drop hs, hnext _⟩
      · exact ⟨hs, hfirst, hsecond, hnext⟩
    | first q =>
      obtain ⟨hs', hfirst'⟩ := ihf hfirst q hs
      exact ⟨hs', hfirst', hsecond, hnext⟩
    | second q =>
      obtain ⟨hs', hsecond'⟩ := ihg hsecond q hs
      exact ⟨hs', hfirst, hsecond', hnext⟩
  | guarded release body next ihb _ =>
    obtain ⟨hrelease, hbody, hnext⟩ := hf
    cases p with
    | here =>
      simp only [Fiber.advance]
      split
      · exact ⟨hrelease _ _ hs, hnext _⟩
      · exact ⟨hs, hrelease, hbody, hnext⟩
    | first q =>
      obtain ⟨hs', hbody'⟩ := ihb hbody q hs
      exact ⟨hs', hrelease, hbody', hnext⟩
    | second q => exact ⟨hs, hrelease, hbody, hnext⟩

theorem Steady.bind {f : Fiber σ α} (hf : Steady D f) {g : α → Fiber σ β}
    (hg : ∀ a, Steady D (g a)) : Steady D (f >>= g) := by
  induction f with
  | done value => exact hg value
  | step section_ next ih =>
    intro s others hs
    obtain ⟨hs', hnext⟩ := hf s others hs
    exact ⟨hs', ih _ hnext hg⟩
  | await ready next ih => exact ih hf hg
  | both first second next _ _ ihn =>
    refine ⟨hf.1, hf.2.1, ?_⟩
    intro b c
    exact ihn b c (hf.2.2 b c) hg
  | race first second next _ _ ihn =>
    refine ⟨hf.1, hf.2.1, ?_⟩
    intro r
    exact ihn r (hf.2.2 r) hg
  | guarded release body next _ ihn =>
    refine ⟨hf.1, hf.2.1, ?_⟩
    intro b
    exact ihn b (hf.2.2 b) hg

theorem Steady.keeps {f : Fiber σ α} (hf : Steady D f) : Keeps D f [] fun _ => [] := by
  induction f with
  | done value => exact ⟨List.nil_subset _, by simp⟩
  | step section_ next ih =>
    refine ⟨by simp, ?_⟩
    intro s others hs
    obtain ⟨hs', hnext⟩ := hf s others hs
    exact ⟨[], hs', ih _ hnext⟩
  | await ready next ih => exact ⟨rfl, ih hf⟩
  | both first second next ihf ihg ihn =>
    refine ⟨[], _, [], _, List.nil_subset _, ihf hf.1, ihg hf.2.1, ?_⟩
    intro b c
    exact ihn b c (hf.2.2 b c)
  | race first second next _ _ ihn =>
    refine ⟨rfl, hf.1, hf.2.1, ?_⟩
    intro r
    exact ihn r (hf.2.2 r)
  | guarded release body next ihb ihn =>
    refine ⟨hf.1, _, ihb hf.2.1, ?_⟩
    intro b
    exact ihn b (hf.2.2 b)

/-! ## Composition -/

/-- A fiber that may start with more in hand may start with less. -/
theorem Keeps.anti {f : Fiber σ α} {held less : List η} {left : α → List η}
    (hf : Keeps D f held left) (hless : less ⊆ held) : Keeps D f less left := by
  induction f generalizing held less with
  | done value =>
    constructor
    · exact List.Subset.trans hless hf.1
    · intro e he
      exact hf.2 e (hless he)
  | step section_ next _ =>
    refine ⟨fun e he => hf.1 e (hless he), ?_⟩
    intro s others hs
    exact hf.2 s others (D.mono_left hless hs)
  | await ready next _ =>
    obtain ⟨rfl, hnext⟩ := hf
    exact ⟨List.subset_nil.mp hless, hnext⟩
  | both first second next _ _ _ =>
    obtain ⟨heldFirst, leftFirst, heldSecond, leftSecond, hheld, hrest⟩ := hf
    exact ⟨heldFirst, leftFirst, heldSecond, leftSecond, List.Subset.trans hless hheld, hrest⟩
  | race first second next _ _ _ =>
    obtain ⟨rfl, hrest⟩ := hf
    exact ⟨List.subset_nil.mp hless, hrest⟩
  | guarded release body next ihb _ =>
    obtain ⟨hrelease, leftBody, hbody, hnext⟩ := hf
    exact ⟨hrelease, leftBody, ihb hbody hless, hnext⟩

theorem Keeps.bind {f : Fiber σ α} {g : α → Fiber σ β} {held : List η} {between : α → List η}
    {left : β → List η} (hf : Keeps D f held between)
    (hg : ∀ a, Keeps D (g a) (between a) left) : Keeps D (f >>= g) held left := by
  induction f generalizing held with
  | done value => exact (hg value).anti hf.1
  | step section_ next ih =>
    refine ⟨hf.1, ?_⟩
    intro s others hs
    obtain ⟨held', hs', hnext⟩ := hf.2 s others hs
    exact ⟨held', hs', ih _ hnext hg⟩
  | await ready next ih => exact ⟨hf.1, ih hf.2 hg⟩
  | both first second next _ _ ihn =>
    obtain ⟨heldFirst, leftFirst, heldSecond, leftSecond, hheld, hfirst, hsecond, hnext⟩ := hf
    refine ⟨heldFirst, leftFirst, heldSecond, leftSecond, hheld, hfirst, hsecond, ?_⟩
    intro b c
    exact ihn b c (hnext b c) hg
  | race first second next _ _ ihn =>
    refine ⟨hf.1, hf.2.1, hf.2.2.1, ?_⟩
    intro r
    exact ihn r (hf.2.2.2 r) hg
  | guarded release body next _ ihn =>
    obtain ⟨hrelease, leftBody, hbody, hnext⟩ := hf
    refine ⟨hrelease, leftBody, hbody, ?_⟩
    intro b
    exact ihn b (hnext b) hg

/-- Fibers side by side end with all that each of them ends with, if a list of values
carries what its members carry. -/
theorem Keeps.all {fs : List (Fiber σ α)} {left : α → List η}
    (hcarries : ∀ (as : List α), ∀ e ∈ as.flatMap left, D.carries e as)
    (hfs : ∀ f ∈ fs, Keeps D f [] left) :
    Keeps D (Fiber.all fs) [] fun as => as.flatMap left := by
  induction fs with
  | nil => exact ⟨List.nil_subset _, by simp⟩
  | cons f rest ih =>
    have hf := hfs f (List.mem_cons_self ..)
    have hrest := ih fun g hg => hfs g (List.mem_cons_of_mem _ hg)
    refine ⟨[], left, [], _, List.nil_subset _, hf, hrest, ?_⟩
    intro a as
    exact ⟨List.Subset.refl _, hcarries (a :: as)⟩

/-! ## Turns -/

/-- A turn leaves a fiber that keeps a discipline keeping it. -/
theorem Keeps.advance {f : Fiber σ α} {held : List η} {left : α → List η}
    (hf : Keeps D f held left) (p : Place) {s : σ} {others : List η}
    (hs : D.Inv (held ++ others) s) :
    ∃ held', D.Inv (held' ++ others) (Fiber.advance p f s).2 ∧
      Keeps D (Fiber.advance p f s).1 held' left := by
  induction f generalizing p s held others with
  | done value =>
    rw [advance_done]
    exact ⟨held, hs, hf⟩
  | step section_ next _ =>
    rw [advance_step]
    exact hf.2 s others hs
  | await ready next _ =>
    obtain ⟨rfl, hnext⟩ := hf
    rw [advance_await]
    split
    · exact ⟨[], hs, hnext⟩
    · exact ⟨[], hs, rfl, hnext⟩
  | both first second next ihf ihg _ =>
    obtain ⟨heldFirst, leftFirst, heldSecond, leftSecond, hheld, hfirst, hsecond, hnext⟩ := hf
    have hboth : D.Inv (heldFirst ++ (heldSecond ++ others)) s := by
      rw [← List.append_assoc]
      exact D.mono_left hheld hs
    cases p with
    | here =>
      simp only [Fiber.advance]
      split
      · next b c hb hc =>
        rw [eq_done_of_result? hb] at hfirst
        rw [eq_done_of_result? hc] at hsecond
        refine ⟨_, ?_, hnext b c⟩
        rw [List.append_assoc]
        exact D.swap (D.mono_left hsecond.1 (D.swap (D.mono_left hfirst.1 hboth)))
      · exact ⟨held, hs, heldFirst, leftFirst, heldSecond, leftSecond, hheld, hfirst, hsecond,
          hnext⟩
    | first q =>
      obtain ⟨held', hs', hfirst'⟩ := ihf hfirst q hboth
      refine ⟨held' ++ heldSecond, ?_, held', leftFirst, heldSecond, leftSecond,
        List.Subset.refl _, hfirst', hsecond, hnext⟩
      rw [List.append_assoc]
      exact hs'
    | second q =>
      obtain ⟨held', hs', hsecond'⟩ := ihg hsecond q (D.swap hboth)
      refine ⟨heldFirst ++ held', ?_, heldFirst, leftFirst, held', leftSecond,
        List.Subset.refl _, hfirst, hsecond', hnext⟩
      rw [List.append_assoc]
      exact D.swap hs'
  | race first second next _ _ _ =>
    obtain ⟨rfl, hfirst, hsecond, hnext⟩ := hf
    cases p with
    | here =>
      simp only [Fiber.advance]
      split
      · exact ⟨[], hsecond.drop hs, hnext _⟩
      · exact ⟨[], hfirst.drop hs, hnext _⟩
      · exact ⟨[], hs, rfl, hfirst, hsecond, hnext⟩
    | first q =>
      obtain ⟨hs', hfirst'⟩ := hfirst.advance q hs
      exact ⟨[], hs', rfl, hfirst', hsecond, hnext⟩
    | second q =>
      obtain ⟨hs', hsecond'⟩ := hsecond.advance q hs
      exact ⟨[], hs', rfl, hfirst, hsecond', hnext⟩
  | guarded release body next ihb _ =>
    obtain ⟨hrelease, leftBody, hbody, hnext⟩ := hf
    cases p with
    | here =>
      simp only [Fiber.advance]
      split
      · next b hb =>
        rw [eq_done_of_result? hb] at hbody
        exact ⟨_, hrelease _ _ (D.mono_left hbody.1 hs), hnext b⟩
      · exact ⟨held, hs, hrelease, leftBody, hbody, hnext⟩
    | first q =>
      obtain ⟨held', hs', hbody'⟩ := ihb hbody q hs
      exact ⟨held', hs', hrelease, leftBody, hbody', hnext⟩
    | second q => exact ⟨held, hs, hrelease, leftBody, hbody, hnext⟩

/-- What is in hand is in the hand of some part of the fiber. -/
theorem Keeps.inHand {f : Fiber σ α} {held : List η} {left : α → List η}
    (hf : Keeps D f held left) {e : η} (he : e ∈ held) : InHand D.toCustody e f := by
  induction f generalizing held with
  | done value => exact .value (hf.2 e he)
  | step section_ next _ => exact .section_ (hf.1 e he)
  | await ready next _ =>
    obtain ⟨rfl, _⟩ := hf
    cases he
  | both first second next ihf ihg _ =>
    obtain ⟨heldFirst, leftFirst, heldSecond, leftSecond, hheld, hfirst, hsecond, hnext⟩ := hf
    rcases List.mem_append.mp (hheld he) with h | h
    · exact .first (ihf hfirst h)
    · exact .second (ihg hsecond h)
  | race first second next _ _ _ =>
    obtain ⟨rfl, _⟩ := hf
    cases he
  | guarded release body next ihb _ =>
    obtain ⟨hrelease, leftBody, hbody, hnext⟩ := hf
    exact .inside (ihb hbody he)

/-- Fibers that keep a discipline with `held` in hand among them, and end with nothing. -/
inductive Keeping (D : Discipline σ η) : List (Fiber σ α) → List η → Prop where
  | nil : Keeping D [] []
  | cons {f : Fiber σ α} {fs : List (Fiber σ α)} {held rest : List η}
      (hf : Keeps D f held fun _ => []) (hfs : Keeping D fs rest) :
      Keeping D (f :: fs) (held ++ rest)

/-- A fiber that starts with nothing in hand may join the others. -/
theorem Keeping.start {fs : List (Fiber σ α)} {held : List η} (hfs : Keeping D fs held)
    {f : Fiber σ α} (hf : Keeps D f [] fun _ => []) : Keeping D (fs ++ [f]) held := by
  induction hfs with
  | nil => exact .cons hf .nil
  | cons hg _ ih => exact .cons hg ih

/-- A turn of one fiber leaves all of them keeping the discipline. -/
theorem Keeping.advanceAt {fs : List (Fiber σ α)} {held : List η} (hfs : Keeping D fs held)
    (index : Nat) (p : Place) {s : σ} {others : List η} (hs : D.Inv (held ++ others) s) :
    ∃ held', D.Inv (held' ++ others) (Fiber.advanceAt index p fs s).2 ∧
      Keeping D (Fiber.advanceAt index p fs s).1 held' := by
  induction hfs generalizing index others with
  | nil => exact ⟨[], hs, .nil⟩
  | @cons f fs held rest hf hfs ih =>
    rw [List.append_assoc] at hs
    cases index with
    | zero =>
      obtain ⟨held', hs', hf'⟩ := hf.advance p hs
      exact ⟨held' ++ rest, by rw [List.append_assoc]; exact hs', .cons hf' hfs⟩
    | succ index =>
      obtain ⟨rest', hs', hfs'⟩ := ih index (D.swap hs)
      rw [advanceAt_cons_succ]
      exact ⟨held ++ rest', by rw [List.append_assoc]; exact D.swap hs', .cons hf hfs'⟩

/-- What is in hand is in the hand of some fiber. -/
theorem Keeping.inHand {fs : List (Fiber σ α)} {held : List η} (hfs : Keeping D fs held) {e : η}
    (he : e ∈ held) : ∃ f ∈ fs, InHand D.toCustody e f := by
  induction hfs with
  | nil => cases he
  | @cons f fs held rest hf _ ih =>
    rcases List.mem_append.mp he with h | h
    · exact ⟨f, List.mem_cons_self .., hf.inHand h⟩
    · obtain ⟨g, hg, hin⟩ := ih h
      exact ⟨g, List.mem_cons_of_mem _ hg, hin⟩

end Fiber

end ServiceMesh
