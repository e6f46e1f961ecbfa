import ServiceMesh.Proofs.Concurrency.Cooperation

/-!
# Fibers that do not wait

A fiber is *prompt* in some states if one poll from such a state goes to its end, and gets to such
a state again.  Promptness is kept by every way of composing fibers but waiting: a race is prompt
if its first fiber is, since that one is polled first and the other is dropped.

Several prompt fibers are all over when each of them was polled, in whatever order
(`Fiber.over_pollsAt`).
-/

namespace ServiceMesh

namespace Fiber

variable {σ α β γ : Type} {I : σ → Prop}

/-- One poll goes to the end. -/
def Prompt (I : σ → Prop) (f : Fiber σ α) : Prop :=
  ∀ s, I s → ∃ a t, poll f s = (done a, t) ∧ I t

/-- A poll that gets to the end of the first fiber goes on with the second. -/
theorem poll_bind {f : Fiber σ α} (g : α → Fiber σ β) {a : α} {s t : σ}
    (h : poll f s = (done a, t)) : poll (f >>= g) s = poll (g a) t := by
  induction f generalizing s with
  | done value =>
    cases h
    rfl
  | step section_ next ih => exact ih _ g h
  | await ready next ih =>
    change poll (await ready (next >>= g)) s = _
    simp only [poll] at h ⊢
    split at h
    · next hready =>
      rw [if_pos hready]
      exact ih g h
    · cases h
  | both first second next _ _ ihn =>
    change poll (both first second fun b c => next b c >>= g) s = _
    simp only [poll] at h ⊢
    split at h
    · next b c _ _ => exact ihn b c g h
    · cases h
  | race first second next _ _ ihn =>
    change poll (race first second fun r => next r >>= g) s = _
    simp only [poll] at h ⊢
    split at h
    · exact ihn _ g h
    · split at h
      · exact ihn _ g h
      · cases h
  | guarded release body next _ ihn =>
    change poll (guarded release body fun b => next b >>= g) s = _
    simp only [poll] at h ⊢
    split at h
    · exact ihn _ g h
    · cases h

/-! ## Composition -/

theorem Prompt.done (a : α) : Prompt I (done a) := by
  intro s hs
  exact ⟨a, s, rfl, hs⟩

theorem Prompt.pure (a : α) : Prompt I (pure a) := .done a

theorem Prompt.step {section_ : σ → β × σ} {next : β → Fiber σ α}
    (h : ∀ s, I s → I (section_ s).2) (hnext : ∀ b, Prompt I (next b)) :
    Prompt I (step section_ next) := by
  intro s hs
  exact hnext _ _ (h s hs)

theorem Prompt.atomically {f : σ → α × σ} (h : ∀ s, I s → I (f s).2) :
    Prompt I (Fiber.atomically f) := .step h .done

theorem Prompt.await {ready : σ → Bool} {next : Fiber σ α} (hready : ∀ s, I s → ready s = true)
    (hnext : Prompt I next) : Prompt I (await ready next) := by
  intro s hs
  simp only [poll, hready s hs, if_true]
  exact hnext s hs

theorem Prompt.both {first : Fiber σ β} {second : Fiber σ γ} {next : β → γ → Fiber σ α}
    (hfirst : Prompt I first) (hsecond : Prompt I second) (hnext : ∀ b c, Prompt I (next b c)) :
    Prompt I (both first second next) := by
  intro s hs
  obtain ⟨b, t, hb, ht⟩ := hfirst s hs
  obtain ⟨c, u, hc, hu⟩ := hsecond t ht
  simp only [poll, hb, hc, result?]
  exact hnext b c u hu

theorem Prompt.race {first : Fiber σ β} {second : Fiber σ γ} {next : β ⊕ γ → Fiber σ α}
    (hfirst : Prompt I first) (hdrop : ∀ s, second.drop s = s)
    (hnext : ∀ b, Prompt I (next (.inl b))) : Prompt I (race first second next) := by
  intro s hs
  obtain ⟨b, t, hb, ht⟩ := hfirst s hs
  simp only [poll, hb, result?, hdrop]
  exact hnext b t ht

theorem Prompt.bind {f : Fiber σ α} {g : α → Fiber σ β} (hf : Prompt I f)
    (hg : ∀ a, Prompt I (g a)) : Prompt I (f >>= g) := by
  intro s hs
  obtain ⟨a, t, ha, ht⟩ := hf s hs
  rw [poll_bind g ha]
  exact hg a t ht

theorem Prompt.all {fs : List (Fiber σ α)} (hfs : ∀ f ∈ fs, Prompt I f) :
    Prompt I (Fiber.all fs) := by
  induction fs with
  | nil => exact .done []
  | cons f rest ih =>
    have hrest := ih fun g hg => hfs g (List.mem_cons_of_mem _ hg)
    refine .both (hfs f List.mem_cons_self) hrest ?_
    intro _ _
    exact .done _

/-! ## Several fibers -/

/-- Some of several fibers are polled, one after the other. -/
def pollsAt : List Nat → List (Fiber σ α) → σ → List (Fiber σ α) × σ
  | [], fs, s => (fs, s)
  | index :: rest, fs, s => pollsAt rest (pollAt index fs s).1 (pollAt index fs s).2

/-- A prompt fiber that is polled is over, and the others are as they were. -/
theorem Prompt.pollAt {fs : List (Fiber σ α)} (hfs : ∀ f ∈ fs, Prompt I f) {s : σ} (hs : I s)
    (index : Nat) : I (Fiber.pollAt index fs s).2 ∧
      ∀ k g, (Fiber.pollAt index fs s).1[k]? = some g →
        (k = index ∧ ∃ a, g = .done a) ∨ (k ≠ index ∧ fs[k]? = some g) := by
  unfold Fiber.pollAt
  split
  · next f hf =>
    obtain ⟨a, t, ha, ht⟩ := hfs f (List.mem_of_getElem? hf) s hs
    rw [ha]
    refine ⟨ht, ?_⟩
    intro k g hg
    rw [List.getElem?_set] at hg
    split at hg
    · next hk =>
      split at hg
      · cases hg
        exact .inl ⟨hk.symm, a, rfl⟩
      · cases hg
    · next hk => exact .inr ⟨Ne.symm hk, hg⟩
  · next hnone =>
    refine ⟨hs, fun k g hg => .inr ⟨?_, hg⟩⟩
    rintro rfl
    rw [hnone] at hg
    cases hg

/-- Prompt fibers are over when each of them had its turn. -/
theorem over_pollsAt {order : List Nat} {fs : List (Fiber σ α)} (hfs : ∀ f ∈ fs, Prompt I f)
    (hturn : ∀ k f, fs[k]? = some f → k ∈ order ∨ (result? f).isSome) {s : σ} (hs : I s) :
    I (pollsAt order fs s).2 ∧ ∀ f ∈ (pollsAt order fs s).1, (result? f).isSome := by
  induction order generalizing fs s with
  | nil =>
    refine ⟨hs, ?_⟩
    intro f hf
    obtain ⟨k, hk⟩ := List.mem_iff_getElem?.mp hf
    exact (hturn k f hk).resolve_left List.not_mem_nil
  | cons index rest ih =>
    obtain ⟨hs', hpolled⟩ := Prompt.pollAt hfs hs index
    refine ih ?_ ?_ hs'
    · intro g hg
      obtain ⟨k, hk⟩ := List.mem_iff_getElem?.mp hg
      rcases hpolled k g hk with ⟨-, a, rfl⟩ | ⟨-, hk⟩
      · exact .done a
      · exact hfs g (List.mem_of_getElem? hk)
    · intro k g hg
      rcases hpolled k g hg with ⟨-, a, rfl⟩ | ⟨hk, hg⟩
      · exact .inr rfl
      · apply (hturn k g hg).imp_left
        intro hmem
        exact (List.mem_cons.mp hmem).resolve_left hk

end Fiber

end ServiceMesh
