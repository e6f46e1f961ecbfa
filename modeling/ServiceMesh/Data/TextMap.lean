/-!
# Maps kept sorted by text keys

A `TextMap` is a finite map from strings whose rows stand in the order of their
keys, by code point.  The order is part of the type, so two maps with the same
rows are equal and every listing of a map is the sorted one.
-/

namespace ServiceMesh

/-- A finite map from strings, in the order of its keys. -/
structure TextMap (ν : Type u) where
  /-- The rows. -/
  entries : List (String × ν)
  /-- Each key comes before the keys of later rows. -/
  sorted : entries.Pairwise fun a b => a.1 < b.1

namespace TextMap

variable {ν : Type u}

/-- The map without rows. -/
def empty : TextMap ν := ⟨[], .nil⟩

instance : Inhabited (TextMap ν) := ⟨empty⟩

theorem ext_entries {m n : TextMap ν} (h : m.entries = n.entries) : m = n := by
  cases m; cases n; cases h; rfl

instance [DecidableEq ν] : DecidableEq (TextMap ν) := fun m n =>
  if h : m.entries = n.entries then .isTrue (ext_entries h)
  else .isFalse fun e => h (e ▸ rfl)

instance [Repr ν] : Repr (TextMap ν) := ⟨fun m p => reprPrec m.entries p⟩

/-- Puts a row into its place, in front of the first greater key. -/
def put (k : String) (v : ν) : List (String × ν) → List (String × ν)
  | [] => [(k, v)]
  | (k', v') :: rest =>
      if k < k' then (k, v) :: (k', v') :: rest
      else if k = k' then (k, v) :: rest
      else (k', v') :: put k v rest

theorem mem_put {k : String} {v : ν} {e : String × ν} {rows : List (String × ν)}
    (h : e ∈ put k v rows) : e.1 = k ∨ e ∈ rows := by
  induction rows with
  | nil => exact Or.inl (by simp [put] at h; rw [h])
  | cons x rest ih =>
    obtain ⟨k', v'⟩ := x
    simp only [put] at h
    split at h
    · cases List.mem_cons.mp h with
      | inl he => exact Or.inl (by rw [he])
      | inr hr => exact Or.inr hr
    · split at h
      · cases List.mem_cons.mp h with
        | inl he => exact Or.inl (by rw [he])
        | inr hr => exact Or.inr (List.mem_cons_of_mem _ hr)
      · cases List.mem_cons.mp h with
        | inl he => exact Or.inr (he ▸ List.mem_cons_self ..)
        | inr hr => exact (ih hr).imp id (List.mem_cons_of_mem _)

/-- A key that is neither smaller nor equal is greater. -/
theorem lt_of_not {a b : String} (h : ¬ a < b) (hne : ¬ a = b) : b < a := by
  have hle : b ≤ a := String.not_lt.mp h
  exact Decidable.byContradiction fun hn => hne (String.le_antisymm (String.not_lt.mp hn) hle)

theorem put_sorted (k : String) (v : ν) {rows : List (String × ν)}
    (h : rows.Pairwise fun a b => a.1 < b.1) : (put k v rows).Pairwise fun a b => a.1 < b.1 := by
  induction rows with
  | nil => exact List.pairwise_singleton ..
  | cons x rest ih =>
    obtain ⟨k', v'⟩ := x
    obtain ⟨hx, hr⟩ := List.pairwise_cons.mp h
    simp only [put]
    split
    · next hlt =>
      refine List.pairwise_cons.mpr ⟨fun e he => ?_, h⟩
      cases List.mem_cons.mp he with
      | inl h' => exact h' ▸ hlt
      | inr h' => exact String.lt_trans hlt (hx e h')
    · next hlt =>
      split
      · next heq => exact List.pairwise_cons.mpr ⟨fun e he => heq ▸ hx e he, hr⟩
      · next hne =>
        refine List.pairwise_cons.mpr ⟨fun e he => ?_, ih hr⟩
        cases mem_put he with
        | inl h' => exact h' ▸ lt_of_not hlt hne
        | inr h' => exact hx e h'

/-- Gives `k` the value `v`. -/
def insert (m : TextMap ν) (k : String) (v : ν) : TextMap ν :=
  ⟨put k v m.entries, put_sorted k v m.sorted⟩

/-- The map of a list of rows, later rows winning. -/
def ofList (rows : List (String × ν)) : TextMap ν :=
  rows.foldl (fun m e => m.insert e.1 e.2) empty

end TextMap

end ServiceMesh
