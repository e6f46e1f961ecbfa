import ServiceMesh.Data.Dict

/-!
# Keys and values of keyed tables

A table that is built by insertions lists each of its keys once.  For such a table the
listing of values is the range of the look-up (`Dict.mem_values_iff`), and a value that
carries its own key is listed once (`Dict.nodup_values_map`).

A table whose values are sets of ids, kept as lists, is an *index*.  `Dict.Sets` says
that no key of an index has an empty set and that no set lists an id twice.

Keys that are texts are shown sorted and each once (`Text.pairwise_lt_eraseDups`).
-/

namespace ServiceMesh

namespace Dict

variable {κ : Type u} {ν : Type v} [DecidableEq κ]

/-! ## Keys -/

theorem map_fst_put (k : κ) (v : ν) (rows : List (κ × ν)) :
    (put k v rows).map Prod.fst
      = if k ∈ rows.map Prod.fst then rows.map Prod.fst else rows.map Prod.fst ++ [k] := by
  induction rows with
  | nil => rfl
  | cons e rest ih =>
    obtain ⟨k', v'⟩ := e
    by_cases hk : k' = k
    · subst hk
      simp [put]
    · have hk' : ¬ k = k' := by
        intro h
        exact hk h.symm
      simp only [put, hk, if_false, List.map_cons, ih, List.mem_cons, hk', false_or]
      split <;> rfl

theorem keys_insert (d : Dict κ ν) (k : κ) (v : ν) :
    (d.insert k v).keys = if k ∈ d.keys then d.keys else d.keys ++ [k] :=
  map_fst_put k v d.entries

/-- An insertion keeps every key listed once. -/
theorem nodup_keys_insert {d : Dict κ ν} (h : d.keys.Nodup) (k : κ) (v : ν) :
    (d.insert k v).keys.Nodup := by
  rw [keys_insert]
  split
  · exact h
  · next hk =>
    refine List.nodup_append.mpr ⟨h, by simp, ?_⟩
    intro a ha b hb hab
    rw [List.mem_singleton.mp hb] at hab
    exact hk (hab ▸ ha)

/-- An erasure keeps every key listed once. -/
theorem nodup_keys_erase {d : Dict κ ν} (h : d.keys.Nodup) (k : κ) : (d.erase k).keys.Nodup :=
  (List.Sublist.map Prod.fst List.filter_sublist).nodup h

omit [DecidableEq κ] in
theorem eq_empty_of_keys {d : Dict κ ν} (h : d.keys = []) : d = empty :=
  congrArg Dict.mk (List.map_eq_nil_iff.mp h)

theorem mem_keys_iff (d : Dict κ ν) (k : κ) : k ∈ d.keys ↔ ∃ v, d.get? k = some v := by
  constructor
  · intro hk
    cases hg : d.get? k with
    | none => exact absurd hk ((get?_eq_none_iff d k).mp hg)
    | some v => exact ⟨v, rfl⟩
  · rintro ⟨v, hv⟩
    exact mem_keys_of_get? hv

/-! ## Rows and values -/

theorem find_of_mem {k : κ} {v : ν} {rows : List (κ × ν)} (hd : (rows.map Prod.fst).Nodup)
    (h : (k, v) ∈ rows) : find k rows = some v := by
  induction rows with
  | nil => cases h
  | cons e rest ih =>
    obtain ⟨k', v'⟩ := e
    obtain ⟨hnew, hrest⟩ := List.nodup_cons.mp hd
    rcases List.mem_cons.mp h with he | hr
    · cases he
      simp [find]
    · have hne : ¬ k' = k := by
        intro hk
        subst hk
        have hmem := List.mem_map_of_mem (f := Prod.fst) hr
        exact hnew hmem
      simp only [find, hne, if_false]
      exact ih hrest hr

/-- A table that lists its keys once holds exactly the rows that the look-up finds. -/
theorem mem_entries_iff {d : Dict κ ν} (hd : d.keys.Nodup) (k : κ) (v : ν) :
    (k, v) ∈ d.entries ↔ d.get? k = some v :=
  ⟨find_of_mem hd, mem_of_find⟩

theorem mem_values_of_get? {d : Dict κ ν} {k : κ} {v : ν} (h : d.get? k = some v) : v ∈ d.values :=
  List.mem_map_of_mem (f := Prod.snd) (mem_of_find h)

/-- A table that lists its keys once holds exactly the values that the look-up finds. -/
theorem mem_values_iff {d : Dict κ ν} (hd : d.keys.Nodup) (v : ν) :
    v ∈ d.values ↔ ∃ k, d.get? k = some v := by
  constructor
  · intro hv
    obtain ⟨⟨k, v'⟩, he, rfl⟩ := List.mem_map.mp hv
    exact ⟨k, (mem_entries_iff hd k v').mp he⟩
  · rintro ⟨k, hk⟩
    exact mem_values_of_get? hk

/-- Values that carry their own key are listed once. -/
theorem nodup_values_map {d : Dict κ ν} (hd : d.keys.Nodup) (f : ν → κ)
    (hf : ∀ k v, d.get? k = some v → f v = k) : (d.values.map f).Nodup := by
  have hkeys : d.values.map f = d.keys := by
    unfold values keys
    rw [List.map_map]
    apply List.map_congr_left
    intro e he
    exact hf e.1 e.2 ((mem_entries_iff hd e.1 e.2).mp he)
  rw [hkeys]
  exact hd

/-- The values are what the look-up finds for the keys, in their order. -/
theorem map_values_eq {β : Type w} {d : Dict κ ν} (hd : d.keys.Nodup) (f : ν → β) :
    d.values.map (fun v => some (f v)) = d.keys.map fun k => (d.get? k).map f := by
  unfold values keys
  rw [List.map_map, List.map_map]
  apply List.map_congr_left
  intro e he
  have hget : d.get? e.1 = some e.2 := (mem_entries_iff hd e.1 e.2).mp he
  rw [Function.comp_apply, Function.comp_apply, hget]
  rfl

/-! ## Changes of one value -/

theorem get?_alter (d : Dict κ ν) (k j : κ) (f : Option ν → Option ν) :
    (d.alter k f).get? j = if k = j then f (d.get? k) else d.get? j := by
  unfold alter
  cases hf : f (d.get? k) with
  | none => simp [get?_erase]
  | some v => simp [get?_insert]

theorem get?_modify (d : Dict κ ν) (k j : κ) (f : ν → ν) :
    (d.modify k f).get? j = if k = j then (d.get? k).map f else d.get? j := by
  unfold modify
  cases hg : d.get? k with
  | none =>
    by_cases hk : k = j
    · simp [← hk, hg]
    · simp [hk]
  | some v => simp [get?_insert]

theorem get?_map (d : Dict κ ν) {β : Type w} (f : ν → β) (k : κ) :
    (d.map f).get? k = (d.get? k).map f := by
  obtain ⟨rows⟩ := d
  induction rows with
  | nil => rfl
  | cons e rest ih =>
    obtain ⟨k', v⟩ := e
    simp only [map, get?, List.map_cons, find] at ih ⊢
    split
    · rfl
    · exact ih

/-! ## Changes that change nothing -/

/-- To give a key the value that it has changes nothing. -/
theorem insert_eq_self {d : Dict κ ν} {k : κ} {v : ν} (h : d.get? k = some v) :
    d.insert k v = d := by
  have hrows : ∀ rows : List (κ × ν), find k rows = some v → put k v rows = rows := by
    intro rows
    induction rows with
    | nil => intro h; cases h
    | cons e rest ih =>
      intro h
      obtain ⟨k', v'⟩ := e
      by_cases hk : k' = k
      · simp only [find, hk, if_true, Option.some.injEq] at h
        simp [put, hk, h]
      · simp only [find, hk, if_false] at h
        simp [put, hk, ih h]
  exact congrArg Dict.mk (hrows d.entries h)

@[simp] theorem insert_insert_self (d : Dict κ ν) (k : κ) (v : ν) :
    (d.insert k v).insert k v = d.insert k v := insert_eq_self (get?_insert_self d k v)

/-- To erase a key that has no value changes nothing. -/
theorem erase_eq_self {d : Dict κ ν} {k : κ} (h : d.get? k = none) : d.erase k = d := by
  refine congrArg Dict.mk (List.filter_eq_self.mpr ?_)
  intro e he
  have hne : e.1 ≠ k := fun hk => (get?_eq_none_iff d k).mp h (hk ▸ List.mem_map_of_mem he)
  simpa using hne

@[simp] theorem erase_erase_self (d : Dict κ ν) (k : κ) : (d.erase k).erase k = d.erase k :=
  erase_eq_self (get?_erase_self d k)

theorem get?_foldl_erase (ks : List κ) : ∀ (d : Dict κ ν) (j : κ),
    (ks.foldl erase d).get? j = if j ∈ ks then none else d.get? j := by
  induction ks with
  | nil => intro d j; simp
  | cons k rest ih =>
    intro d j
    rw [List.foldl_cons, ih, get?_erase]
    by_cases hj : k = j
    · simp [hj]
    · simp [hj, Ne.symm hj]

theorem foldl_erase_eq_self {ks : List κ} {d : Dict κ ν} (h : ∀ k ∈ ks, d.get? k = none) :
    ks.foldl erase d = d := by
  induction ks with
  | nil => rfl
  | cons k rest ih =>
    rw [List.foldl_cons, erase_eq_self (h k List.mem_cons_self)]
    apply ih
    intro k' hk'
    exact h k' (List.mem_cons_of_mem _ hk')

/-! ## Indices -/

/-- No key of an index has an empty set, and no set lists an id twice. -/
def Sets {α : Type w} (d : Dict κ (List α)) : Prop :=
  ∀ k ids, d.get? k = some ids → ids ≠ [] ∧ ids.Nodup

theorem sets_empty {α : Type w} : Sets (empty : Dict κ (List α)) := by
  intro k ids h
  cases h

theorem Sets.nodup_getD {α : Type w} {d : Dict κ (List α)} (h : d.Sets) (k : κ) :
    (d.getD k []).Nodup := by
  unfold getD
  cases hg : d.get? k with
  | none => exact List.nodup_nil
  | some ids => exact (h k ids hg).2

end Dict

/-! ## Sorted listings -/

namespace Text

/-- Texts that are sorted stand in order. -/
theorem pairwise_le_mergeSort (ts : List String) :
    (ts.mergeSort fun a b => decide (a ≤ b)).Pairwise (· ≤ ·) := by
  have htrans (a b c : String) (hab : decide (a ≤ b) = true) (hbc : decide (b ≤ c) = true) :
      decide (a ≤ c) = true := by
    rw [decide_eq_true_eq] at hab hbc ⊢
    exact String.le_trans hab hbc
  have htotal (a b : String) : (decide (a ≤ b) || decide (b ≤ a)) = true := by
    rw [Bool.or_eq_true, decide_eq_true_eq, decide_eq_true_eq]
    exact String.le_total a b
  exact (List.pairwise_mergeSort htrans htotal ts).imp of_decide_eq_true

/-- Sorted texts that are freed of repetitions are in strict order: each of them stands once,
behind all smaller ones. -/
theorem pairwise_lt_eraseDups {ts : List String} (h : ts.Pairwise (· ≤ ·)) :
    ts.eraseDups.Pairwise (· < ·) := by
  induction hlength : ts.length using Nat.strongRecOn generalizing ts with
  | ind k ih =>
    cases ts with
    | nil => exact List.Pairwise.nil
    | cons t rest =>
      obtain ⟨hfirst, hrest⟩ := List.pairwise_cons.mp h
      have hlt : (rest.filter fun u => !u == t).length < k := by
        rw [← hlength]
        exact Nat.lt_succ_of_le (List.length_filter_le _ _)
      rw [List.eraseDups_cons]
      refine List.pairwise_cons.mpr ⟨?_, ih _ hlt (hrest.filter _) rfl⟩
      intro u hu
      obtain ⟨hu, hne⟩ := List.mem_filter.mp (List.mem_eraseDups.mp hu)
      apply Std.lt_of_le_of_ne (hfirst u hu)
      intro heq
      simp [heq] at hne

end Text

end ServiceMesh
