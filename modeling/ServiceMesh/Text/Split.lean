/-!
# Cutting text at separators

`cut?` splits a list at the first separator and `cutLast?` at the last one.
Joining the two parts with the separator gives the list back
(`append_of_cut?`, `append_of_cutLast?`), and the part that was searched through
holds no separator.
-/

namespace ServiceMesh.Text

/-- The parts before and after the first `sep`. -/
def cut? (sep : Char) : List Char → Option (List Char × List Char)
  | [] => none
  | c :: rest =>
      if c = sep then some ([], rest)
      else (cut? sep rest).map fun p => (c :: p.1, p.2)

/-- The parts before and after the last `sep`. -/
def cutLast? (sep : Char) : List Char → Option (List Char × List Char)
  | [] => none
  | c :: rest =>
      match cutLast? sep rest with
      | some p => some (c :: p.1, p.2)
      | none => if c = sep then some ([], rest) else none

/-- The parts between separators, one more than there are separators. -/
def splitAll (sep : Char) : List Char → List (List Char)
  | [] => [[]]
  | c :: rest =>
      if c = sep then [] :: splitAll sep rest
      else match splitAll sep rest with
        | [] => [[c]]
        | part :: parts => (c :: part) :: parts

theorem cut?_eq_none_iff {sep : Char} {s : List Char} : cut? sep s = none ↔ sep ∉ s := by
  induction s with
  | nil => simp [cut?]
  | cons c rest ih =>
    by_cases h : c = sep
    · simp [cut?, h]
    · have h' : sep ≠ c := fun e => h e.symm
      simp [cut?, h, h', ih]

theorem append_of_cut? {sep : Char} {s a b : List Char} (h : cut? sep s = some (a, b)) :
    s = a ++ sep :: b ∧ sep ∉ a := by
  induction s generalizing a b with
  | nil => simp [cut?] at h
  | cons c rest ih =>
    by_cases hc : c = sep
    · simp only [cut?, hc, if_true, Option.some.injEq, Prod.mk.injEq] at h
      obtain ⟨rfl, rfl⟩ := h
      simp [hc]
    · simp only [cut?, hc, if_false, Option.map_eq_some_iff, Prod.mk.injEq, Prod.exists] at h
      obtain ⟨a', b', hrest, rfl, rfl⟩ := h
      obtain ⟨e, hn⟩ := ih hrest
      have hc' : sep ≠ c := fun e => hc e.symm
      exact ⟨by rw [e]; rfl, by simp [hc', hn]⟩

theorem cut?_append {sep : Char} {a b : List Char} (h : sep ∉ a) :
    cut? sep (a ++ sep :: b) = some (a, b) := by
  induction a with
  | nil => simp [cut?]
  | cons c rest ih =>
    have hc : c ≠ sep := fun e => h (e ▸ List.mem_cons_self ..)
    have hr : sep ∉ rest := fun e => h (List.mem_cons_of_mem _ e)
    simp [cut?, hc, ih hr]

theorem cutLast?_eq_none_iff {sep : Char} {s : List Char} : cutLast? sep s = none ↔ sep ∉ s := by
  induction s with
  | nil => simp [cutLast?]
  | cons c rest ih =>
    cases hr : cutLast? sep rest with
    | some p =>
      have hm : sep ∈ rest := Decidable.byContradiction fun hn => by rw [ih.mpr hn] at hr; cases hr
      simp [cutLast?, hr, hm]
    | none =>
      have hm : sep ∉ rest := ih.mp hr
      by_cases h : c = sep
      · simp [cutLast?, hr, h]
      · have h' : sep ≠ c := fun e => h e.symm
        simp [cutLast?, hr, h, h', hm]

theorem append_of_cutLast? {sep : Char} {s a b : List Char} (h : cutLast? sep s = some (a, b)) :
    s = a ++ sep :: b ∧ sep ∉ b := by
  induction s generalizing a b with
  | nil => simp [cutLast?] at h
  | cons c rest ih =>
    cases hr : cutLast? sep rest with
    | some p =>
      obtain ⟨p₁, p₂⟩ := p
      simp only [cutLast?, hr, Option.some.injEq, Prod.mk.injEq] at h
      obtain ⟨rfl, rfl⟩ := h
      obtain ⟨e, hn⟩ := ih hr
      exact ⟨by rw [e]; rfl, hn⟩
    | none =>
      have hm : sep ∉ rest := cutLast?_eq_none_iff.mp hr
      by_cases hc : c = sep
      · simp only [cutLast?, hr, hc, if_true, Option.some.injEq, Prod.mk.injEq] at h
        obtain ⟨rfl, rfl⟩ := h
        exact ⟨by simp [hc], hm⟩
      · simp [cutLast?, hr, hc] at h

theorem cutLast?_append {sep : Char} {a b : List Char} (h : sep ∉ b) :
    cutLast? sep (a ++ sep :: b) = some (a, b) := by
  induction a with
  | nil => simp [cutLast?, cutLast?_eq_none_iff.mpr h]
  | cons c rest ih => simp [cutLast?, ih]

end ServiceMesh.Text
