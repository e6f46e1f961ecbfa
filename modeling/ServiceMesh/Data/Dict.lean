/-!
# Keyed tables

A `Dict` maps keys to values and keeps its keys in the order in which they were
first put in.  Putting a known key replaces its value in place, so that order
does not move.  Every table of the mesh that is looked up by name, id or hash is
a `Dict`: the reader of a listing sees arrival order, never an accident of
hashing.

`get?` is the view.  The lemmas below say what `insert`, `erase` and `ofList`
do to it.
-/

namespace ServiceMesh

/-- A table from keys to values, oldest key first. -/
structure Dict (κ : Type u) (ν : Type v) where
  /-- The rows, oldest key first. -/
  entries : List (κ × ν) := []
deriving Repr

namespace Dict

variable {κ : Type u} {ν : Type v} {μ : Type w}

instance : Inhabited (Dict κ ν) := ⟨⟨[]⟩⟩

/-- The table without rows. -/
def empty : Dict κ ν := ⟨[]⟩

/-- The keys, oldest first. -/
def keys (d : Dict κ ν) : List κ := d.entries.map (·.1)

/-- The values, in the order of their keys. -/
def values (d : Dict κ ν) : List ν := d.entries.map (·.2)

/-- How many keys there are. -/
def size (d : Dict κ ν) : Nat := d.entries.length

/-- Whether there is no key. -/
def isEmpty (d : Dict κ ν) : Bool := d.entries.isEmpty

section Lookup

variable [DecidableEq κ]

/-- The value of a key in a list of rows. -/
def find (k : κ) : List (κ × ν) → Option ν
  | [] => none
  | (k', v) :: rest => if k' = k then some v else find k rest

/-- Replaces the value of `k`, or appends a row for it. -/
def put (k : κ) (v : ν) : List (κ × ν) → List (κ × ν)
  | [] => [(k, v)]
  | (k', v') :: rest => if k' = k then (k', v) :: rest else (k', v') :: put k v rest

/-- The value of a key. -/
def get? (d : Dict κ ν) (k : κ) : Option ν := find k d.entries

/-- Whether a key has a value. -/
def contains (d : Dict κ ν) (k : κ) : Bool := (d.get? k).isSome

/-- The value of a key, or `v` if it has none. -/
def getD (d : Dict κ ν) (k : κ) (v : ν) : ν := (d.get? k).getD v

/-- Gives `k` the value `v`. -/
def insert (d : Dict κ ν) (k : κ) (v : ν) : Dict κ ν := ⟨put k v d.entries⟩

/-- Drops a key. -/
def erase (d : Dict κ ν) (k : κ) : Dict κ ν := ⟨d.entries.filter fun e => e.1 ≠ k⟩

/-- Sets a key to what `f` makes of its value, or drops it. -/
def alter (d : Dict κ ν) (k : κ) (f : Option ν → Option ν) : Dict κ ν :=
  match f (d.get? k) with
  | some v => d.insert k v
  | none => d.erase k

/-- Changes the value of a key that has one. -/
def modify (d : Dict κ ν) (k : κ) (f : ν → ν) : Dict κ ν :=
  match d.get? k with
  | some v => d.insert k (f v)
  | none => d

/-- The table of a list of rows, later rows winning. -/
def ofList (rows : List (κ × ν)) : Dict κ ν := rows.foldl (fun d e => d.insert e.1 e.2) empty

end Lookup

/-- Drops the rows that do not pass `p`. -/
def filter (d : Dict κ ν) (p : κ → ν → Bool) : Dict κ ν := ⟨d.entries.filter fun e => p e.1 e.2⟩

/-- Changes every value. -/
def map (d : Dict κ ν) (f : ν → μ) : Dict κ μ := ⟨d.entries.map fun e => (e.1, f e.2)⟩

/-! ## What the operations do to a lookup -/

section Laws

variable [DecidableEq κ]

@[simp] theorem get?_empty (k : κ) : (empty : Dict κ ν).get? k = none := rfl

theorem find_put (k j : κ) (v : ν) (rows : List (κ × ν)) :
    find j (put k v rows) = if k = j then some v else find j rows := by
  induction rows with
  | nil => rfl
  | cons e rest ih =>
    obtain ⟨k', v'⟩ := e
    by_cases hk : k' = k
    · subst hk
      by_cases hj : k' = j <;> simp [put, find, hj]
    · by_cases hj : k' = j
      · subst hj
        have : ¬ k = k' := fun h => hk h.symm
        simp [put, find, hk, this]
      · simp [put, find, hk, hj, ih]

/-- An insertion changes the lookup of its key and of no other. -/
theorem get?_insert (d : Dict κ ν) (k j : κ) (v : ν) :
    (d.insert k v).get? j = if k = j then some v else d.get? j := find_put k j v d.entries

@[simp] theorem get?_insert_self (d : Dict κ ν) (k : κ) (v : ν) :
    (d.insert k v).get? k = some v := by simp [get?_insert]

theorem get?_insert_of_ne (d : Dict κ ν) {k j : κ} (h : k ≠ j) (v : ν) :
    (d.insert k v).get? j = d.get? j := by simp [get?_insert, h]

/-- An erasure empties the lookup of its key and of no other. -/
theorem get?_erase (d : Dict κ ν) (k j : κ) :
    (d.erase k).get? j = if k = j then none else d.get? j := by
  obtain ⟨rows⟩ := d
  induction rows with
  | nil => simp [erase, get?, find]
  | cons e rest ih =>
    obtain ⟨k', v'⟩ := e
    simp only [erase, get?] at ih ⊢
    by_cases hk : k' = k
    · subst hk
      simp only [ne_eq, not_true_eq_false, decide_false, Bool.false_eq_true, not_false_eq_true,
        List.filter_cons_of_neg, ih, find]
      by_cases hj : k' = j <;> simp [hj]
    · simp only [ne_eq, hk, not_false_eq_true, decide_true, List.filter_cons_of_pos, find, ih]
      by_cases hj : k' = j
      · have : ¬ k = j := fun h => hk (hj.trans h.symm)
        simp [hj, this]
      · simp [hj]

@[simp] theorem get?_erase_self (d : Dict κ ν) (k : κ) : (d.erase k).get? k = none := by
  simp [get?_erase]

theorem get?_erase_of_ne (d : Dict κ ν) {k j : κ} (h : k ≠ j) :
    (d.erase k).get? j = d.get? j := by simp [get?_erase, h]

theorem mem_of_find {k : κ} {v : ν} {rows : List (κ × ν)} (h : find k rows = some v) :
    (k, v) ∈ rows := by
  induction rows with
  | nil => simp [find] at h
  | cons e rest ih =>
    obtain ⟨k', v'⟩ := e
    by_cases hk : k' = k
    · subst hk
      simp only [find, if_true, Option.some.injEq] at h
      subst h
      exact List.mem_cons_self ..
    · simp only [find, hk, if_false] at h
      exact List.mem_cons_of_mem _ (ih h)

/-- A key with a value is listed. -/
theorem mem_keys_of_get? {d : Dict κ ν} {k : κ} {v : ν} (h : d.get? k = some v) : k ∈ d.keys :=
  List.mem_map_of_mem (f := Prod.fst) (mem_of_find h)

/-- A key without a value is not listed. -/
theorem get?_eq_none_iff (d : Dict κ ν) (k : κ) : d.get? k = none ↔ k ∉ d.keys := by
  obtain ⟨rows⟩ := d
  induction rows with
  | nil => simp [get?, find, keys]
  | cons e rest ih =>
    obtain ⟨k', v'⟩ := e
    simp only [get?, keys] at ih ⊢
    by_cases hk : k' = k
    · subst hk; simp [find]
    · have hk' : k ≠ k' := fun h => hk h.symm
      simp [find, hk, hk', ih]

end Laws

end Dict

end ServiceMesh
