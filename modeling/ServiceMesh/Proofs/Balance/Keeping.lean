import ServiceMesh.Proofs.Balance.Nearest

/-!
# Keeping some candidates

When only the candidates at some positions are kept, they move up, but their order stays
(`HashRing.rank_mono`).  Whoever is nearest among all is nearest among those who are kept, so
a fingerprint whose owner is kept stays with it: `HashRing.kept_owner_stays`.
-/

namespace ServiceMesh

namespace HashRing

/-- The candidates at the positions that are kept, in their order. -/
def keepAt (keep : Nat → Bool) (candidates : List String) : List String :=
  (candidates.zipIdx.filter fun e => keep e.2).map (·.1)

/-- How many positions before a position are kept. -/
def rank (keep : Nat → Bool) (i : Nat) : Nat := (List.range i).countP keep

theorem keepAt_cons (keep : Nat → Bool) (c : String) (rest : List String) :
    keepAt keep (c :: rest)
      = (if keep 0 then [c] else []) ++ keepAt (fun i => keep (i + 1)) rest := by
  have hshift : rest.zipIdx 1 = rest.zipIdx.map fun e => (e.1, e.2 + 1) := List.zipIdx_succ
  have hrest : ((rest.zipIdx 1).filter fun e => keep e.2).map (·.1)
      = keepAt (fun i => keep (i + 1)) rest := by
    rw [hshift, List.filter_map, List.map_map]
    rfl
  rw [keepAt, List.zipIdx_cons, List.filter_cons]
  split <;> simp [hrest]

theorem rank_succ (keep : Nat → Bool) (i : Nat) :
    rank keep (i + 1) = (if keep 0 then 1 else 0) + rank (fun i => keep (i + 1)) i := by
  rw [rank, List.range_succ_eq_map, List.countP_cons, List.countP_map, Nat.add_comm]
  rfl

theorem rank_mono (keep : Nat → Bool) {i j : Nat} (h : i ≤ j) : rank keep i ≤ rank keep j :=
  (List.range_sublist.mpr h).countP_le

/-- A candidate that is kept gets the position that its rank says. -/
theorem getElem?_rank {keep : Nat → Bool} {i : Nat} (h : keep i = true)
    (candidates : List String) : (keepAt keep candidates)[rank keep i]? = candidates[i]? := by
  induction candidates generalizing keep i with
  | nil => rfl
  | cons c rest ih =>
    rw [keepAt_cons]
    cases i with
    | zero => simp [rank, h]
    | succ i =>
      have hrest : (keepAt (fun i => keep (i + 1)) rest)[rank (fun i => keep (i + 1)) i]?
          = rest[i]? := ih h
      rw [rank_succ, List.getElem?_cons_succ, ← hrest]
      split <;> simp [Nat.add_comm 1]

/-- What is left at a position was kept there. -/
theorem exists_rank_eq {keep : Nat → Bool} {candidates : List String} {j : Nat} {d : String}
    (h : (keepAt keep candidates)[j]? = some d) : ∃ i, keep i = true ∧ rank keep i = j := by
  induction candidates generalizing keep j with
  | nil => cases h
  | cons c rest ih =>
    rw [keepAt_cons] at h
    split at h
    · next hkeep =>
      cases j with
      | zero => exact ⟨0, hkeep, rfl⟩
      | succ j =>
        obtain ⟨i, hi, hrank⟩ := ih (by simpa using h)
        exact ⟨i + 1, hi, by rw [rank_succ, if_pos hkeep, hrank, Nat.add_comm]⟩
    · next hkeep =>
      obtain ⟨i, hi, hrank⟩ := ih (by simpa using h)
      exact ⟨i + 1, hi, by rw [rank_succ, if_neg hkeep, hrank, Nat.zero_add]⟩

/-- Who is nearest among all is nearest among those who are kept. -/
theorem Nearest.kept {fingerprint : Bytes} {candidates : List String} {i : Nat}
    (h : Nearest fingerprint candidates i) {keep : Nat → Bool} (hkeep : keep i = true) :
    Nearest fingerprint (keepAt keep candidates) (rank keep i) := by
  obtain ⟨c, hc, hleast⟩ := h
  refine ⟨c, (getElem?_rank hkeep candidates).trans hc, fun j d hd => ?_⟩
  obtain ⟨i', hkeep', rfl⟩ := exists_rank_eq hd
  rw [getElem?_rank hkeep'] at hd
  have hfirst := hleast i' d hd
  have hmono := rank_mono keep (i := i) (j := i')
  simp only [Prod.Lex.toLex_le_toLex] at hfirst ⊢
  exact hfirst.imp_right (And.imp_right hmono)

/-- A fingerprint whose owner is kept stays where it is: the owner among those who are kept is the
same candidate, at the position that it has among them.  So taking candidates out only moves the
fingerprints that they owned.  Whoever owns a fingerprint among those who are kept is outdone only
by a candidate that is not kept, so putting candidates in, anywhere in the list, only moves
fingerprints to them. -/
theorem kept_owner_stays (fingerprint : Bytes) (candidates : List String) (keep : Nat → Bool) :
    (∀ i, (build candidates).locate fingerprint = some i → keep i = true →
      (build (keepAt keep candidates)).locate fingerprint = some (rank keep i) ∧
        (keepAt keep candidates)[rank keep i]? = candidates[i]?) ∧
    (∀ j, (build (keepAt keep candidates)).locate fingerprint = some j →
      ∃ i, (build candidates).locate fingerprint = some i ∧ (keep i = true → rank keep i = j)) := by
  have hstays : ∀ i, (build candidates).locate fingerprint = some i → keep i = true →
      (build (keepAt keep candidates)).locate fingerprint = some (rank keep i) := by
    intro i hi hkeep
    exact locate_eq_some_iff.mpr ((locate_eq_some_iff.mp hi).kept hkeep)
  constructor
  · intro i hi hkeep
    exact ⟨hstays i hi hkeep, getElem?_rank hkeep candidates⟩
  · intro j hj
    have hne : candidates ≠ [] := by
      rintro rfl
      obtain ⟨c, hc, -⟩ := nearest_of_locate hj
      cases hc
    obtain ⟨i, hi⟩ := exists_locate hne fingerprint
    refine ⟨i, hi, ?_⟩
    intro hkeep
    exact Option.some.inj ((hstays i hi hkeep).symm.trans hj)

/-- Of two candidates with one name the first is nearest. -/
theorem nearest_twice : Nearest [107] ["a", "b", "b"] 1 := by
  have hnearer : distance [107] "b" < distance [107] "a" := by decide +kernel
  refine ⟨"b", rfl, ?_⟩
  intro j d hd
  rw [Prod.Lex.toLex_le_toLex]
  match j, hd with
  | 0, hd =>
    cases hd
    exact .inl hnearer
  | 1, hd =>
    cases hd
    exact .inr ⟨rfl, Nat.le_refl 1⟩
  | 2, hd =>
    cases hd
    exact .inr ⟨rfl, by decide⟩

/-- The owner stays when the candidate in front of it goes. -/
theorem owner_outlasts_first :
    let candidates := ["a", "b", "b"]
    let keep : Nat → Bool := fun i => i != 0
    (build candidates).locate [107] = some 1 ∧ keep 1 = true ∧
      (build (keepAt keep candidates)).locate [107] = some 0 ∧
      (keepAt keep candidates)[0]? = some "b" := by
  intro candidates keep
  have howner : (build candidates).locate [107] = some 1 := locate_eq_some_iff.mpr nearest_twice
  obtain ⟨hstays, hsame⟩ := (kept_owner_stays [107] candidates keep).1 1 howner rfl
  exact ⟨howner, rfl, hstays, hsame⟩

end HashRing

end ServiceMesh
