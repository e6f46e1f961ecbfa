import Mathlib.Data.Prod.Lex
import ServiceMesh.Proofs.Balance.Choice

/-!
# The nearest candidate

The points of a ring stand in ascending order, so the owner of a place owns the point that is
*ahead* of all others, going round from the place (`HashRing.owner_ahead`).  Which of two
points is ahead is decided by their places; only points at one place are decided by the
positions of their owners.

Going round from the place of a fingerprint, each candidate is as far away as its first point.
The owner of the place is the candidate that is nearest, and of several that are equally near
the one that is listed first (`HashRing.locate_eq_some_iff`).  This says nothing of sorting, of
searching or of going round at the end, and it compares candidates two at a time.  So whoever is
nearest among some candidates is nearest among fewer of them, and two lists can only differ in who
is nearest as far as they differ in their candidates or in the order of these
(`HashRing.Nearest.stays`).
-/

namespace ServiceMesh

namespace HashRing

/-! ## The order of points -/

theorem before_iff (p q : UInt32 × Nat) :
    before p q = true ↔ p.1 < q.1 ∨ p.1 = q.1 ∧ p.2 ≤ q.2 := by
  simp only [before, Bool.or_eq_true, Bool.and_eq_true, decide_eq_true_eq, beq_iff_eq]

theorem before_total (p q : UInt32 × Nat) : (before p q || before q p) = true := by
  rw [Bool.or_eq_true, before_iff, before_iff, UInt32.lt_iff_toNat_lt, UInt32.lt_iff_toNat_lt,
    ← UInt32.toNat_inj, ← UInt32.toNat_inj]
  omega

theorem before_trans (p q r : UInt32 × Nat) (h1 : before p q = true) (h2 : before q r = true) :
    before p r = true := by
  rw [before_iff, UInt32.lt_iff_toNat_lt, ← UInt32.toNat_inj] at *
  omega

theorem before_refl (p : UInt32 × Nat) : before p p = true :=
  (before_iff p p).mpr (.inr ⟨rfl, Nat.le_refl _⟩)

theorem sorted_points (candidates : List String) :
    (build candidates).points.Pairwise fun p q => before p q = true :=
  List.pairwise_mergeSort before_trans before_total _

/-- The points are those of the candidates, each with the position of its owner. -/
theorem mem_points {candidates : List String} {p : UInt32 × Nat} :
    p ∈ (build candidates).points
      ↔ ∃ c, candidates[p.2]? = some c ∧ ∃ r < pointsPerCandidate, point c r = p.1 := by
  rw [build, (List.mergeSort_perm _ _).mem_iff, List.mem_flatMap]
  constructor
  · rintro ⟨⟨c, i⟩, he, hp⟩
    obtain ⟨r, hr, rfl⟩ := List.mem_map.mp hp
    exact ⟨c, List.mem_zipIdx_iff_getElem?.mp he, r, List.mem_range.mp hr, rfl⟩
  · rintro ⟨c, hc, r, hr, hpoint⟩
    refine ⟨(c, p.2), List.mem_zipIdx_iff_getElem?.mpr hc, List.mem_map.mpr ⟨r, ?_, ?_⟩⟩
    · exact List.mem_range.mpr hr
    · exact Prod.ext hpoint rfl

/-! ## Going round -/

/-- Going round from a place, the one point is met no later than the other. -/
structure Ahead (place : UInt32) (p q : UInt32 × Nat) : Prop where
  /-- The points from the place on come first. -/
  round : place ≤ q.1 → place ≤ p.1
  /-- On the same side of the place, the order of points decides. -/
  before : (place ≤ p.1 → place ≤ q.1) → HashRing.before p q = true

/-- The first element of a sorted list that has a property comes before all that have it. -/
theorem before_of_find? {points : List (UInt32 × Nat)}
    (hsorted : points.Pairwise fun p q => before p q = true) {has : UInt32 × Nat → Bool}
    {p : UInt32 × Nat} (h : points.find? has = some p) {q : UInt32 × Nat} (hq : q ∈ points)
    (hhas : has q = true) : before p q = true := by
  obtain ⟨-, earlier, later, rfl, hearlier⟩ := List.find?_eq_some_iff_append.mp h
  rcases List.mem_append.mp hq with hq | hq
  · have hnot := hearlier q hq
    rw [hhas] at hnot
    cases hnot
  · rcases List.mem_cons.mp hq with rfl | hq
    · exact before_refl q
    · exact (List.pairwise_cons.mp (List.pairwise_append.mp hsorted).2.1).1 q hq

/-- The owner of a place owns a point that is ahead of all points.  It is the first point at the
place or after it, or else the first of all. -/
theorem owner_ahead {candidates : List String} {place : UInt32} {i : Nat}
    (h : (build candidates).owner place = some i) :
    ∃ p ∈ (build candidates).points, p.2 = i ∧
      ∀ q ∈ (build candidates).points, Ahead place p q := by
  have hsorted := sorted_points candidates
  obtain ⟨p, hp, rfl⟩ := Option.map_eq_some_iff.mp h
  rcases Option.or_eq_some_iff.mp hp with hfind | ⟨hnone, hhead⟩
  · have hplace : place ≤ p.1 := by simpa using List.find?_some hfind
    refine ⟨p, List.mem_of_find?_eq_some hfind, rfl, fun q hq => ⟨fun _ => hplace, ?_⟩⟩
    intro hside
    exact before_of_find? hsorted hfind hq (decide_eq_true (hside hplace))
  · have hafter := List.find?_eq_none.mp hnone
    refine ⟨p, List.mem_of_mem_head? hhead, rfl, fun q hq => ⟨?_, ?_⟩⟩
    · intro hplace
      exact absurd (decide_eq_true hplace) (hafter q hq)
    · intro _
      obtain ⟨rest, hrest⟩ := List.head?_eq_some_iff.mp hhead
      rw [hrest] at hsorted hq
      rcases List.mem_cons.mp hq with rfl | hq
      · exact before_refl q
      · exact (List.pairwise_cons.mp hsorted).1 q hq

/-! ## Distances -/

/-- The way round the ring from a place to a point. -/
def gap (place point : UInt32) : Nat := (point - place).toNat

/-- The ways round the ring from a fingerprint to the points of a candidate. -/
def gaps (fingerprint : Bytes) (candidate : String) : List Nat :=
  (List.range pointsPerCandidate).map fun r =>
    gap (Hash.murmur3 fingerprint seed) (point candidate r)

theorem gaps_ne_nil (fingerprint : Bytes) (candidate : String) :
    gaps fingerprint candidate ≠ [] := by
  simp [gaps, pointsPerCandidate]

/-- The way round the ring from a fingerprint to the first point of a candidate. -/
def distance (fingerprint : Bytes) (candidate : String) : Nat :=
  (gaps fingerprint candidate).min (gaps_ne_nil fingerprint candidate)

theorem distance_le (fingerprint : Bytes) (candidate : String) {r : Nat}
    (hr : r < pointsPerCandidate) :
    distance fingerprint candidate ≤ gap (Hash.murmur3 fingerprint seed) (point candidate r) :=
  List.min_le_of_mem (List.mem_map.mpr ⟨r, List.mem_range.mpr hr, rfl⟩)

theorem exists_gap_eq_distance (fingerprint : Bytes) (candidate : String) :
    ∃ r < pointsPerCandidate,
      gap (Hash.murmur3 fingerprint seed) (point candidate r) = distance fingerprint candidate := by
  have hmem : distance fingerprint candidate ∈ gaps fingerprint candidate := List.min_mem _
  obtain ⟨r, hr, hgap⟩ := List.mem_map.mp hmem
  exact ⟨r, List.mem_range.mp hr, hgap⟩

/-- A point that is ahead of another is nearer, or as near with an owner that is no later. -/
theorem Ahead.gap_le {place : UInt32} {p q : UInt32 × Nat} (h : Ahead place p q) :
    toLex (gap place p.1, p.2) ≤ toLex (gap place q.1, q.2) := by
  have hround := h.round
  have hbefore := h.before
  have hp := p.1.toNat_lt
  have hq := q.1.toNat_lt
  have hplace := place.toNat_lt
  rw [before_iff] at hbefore
  rw [Prod.Lex.toLex_le_toLex]
  simp only [gap, UInt32.toNat_sub]
  rw [UInt32.lt_iff_toNat_lt, ← UInt32.toNat_inj] at hbefore
  rw [UInt32.le_iff_toNat_le, UInt32.le_iff_toNat_le] at hround hbefore
  omega

/-! ## Owners -/

/-- The candidate at the position is nearest, and the first of those that are. -/
def Nearest (fingerprint : Bytes) (candidates : List String) (i : Nat) : Prop :=
  ∃ c, candidates[i]? = some c ∧ ∀ j d, candidates[j]? = some d →
    toLex (distance fingerprint c, i) ≤ toLex (distance fingerprint d, j)

theorem Nearest.unique {fingerprint : Bytes} {candidates : List String} {i j : Nat}
    (hi : Nearest fingerprint candidates i) (hj : Nearest fingerprint candidates j) : i = j := by
  obtain ⟨c, hc, hleast⟩ := hi
  obtain ⟨d, hd, hleast'⟩ := hj
  have heq := le_antisymm (hleast j d hd) (hleast' i c hc)
  exact (Prod.ext_iff.mp (toLex.injective heq)).2

theorem nearest_of_locate {fingerprint : Bytes} {candidates : List String} {i : Nat}
    (h : (build candidates).locate fingerprint = some i) : Nearest fingerprint candidates i := by
  obtain ⟨p, hp, rfl, hahead⟩ := owner_ahead h
  obtain ⟨c, hc, r, hr, hpoint⟩ := mem_points.mp hp
  refine ⟨c, hc, ?_⟩
  intro j d hd
  obtain ⟨s, hs, hgap⟩ := exists_gap_eq_distance fingerprint d
  have hfirst := (hahead (point d s, j) (mem_points.mpr ⟨d, hd, s, hs, rfl⟩)).gap_le
  have hle := distance_le fingerprint c hr
  simp only [Prod.Lex.toLex_le_toLex, hgap] at hfirst ⊢
  rw [hpoint] at hle
  omega

/-- A place among candidates has an owner. -/
theorem exists_locate {candidates : List String} (hne : candidates ≠ []) (fingerprint : Bytes) :
    ∃ i, (build candidates).locate fingerprint = some i := by
  obtain ⟨i, hi, -⟩ := (sound_build candidates).locate hne fingerprint
  exact ⟨i, hi⟩

/-- A fingerprint belongs to the nearest candidate. -/
theorem locate_eq_some_iff {fingerprint : Bytes} {candidates : List String} {i : Nat} :
    (build candidates).locate fingerprint = some i ↔ Nearest fingerprint candidates i := by
  constructor
  · exact nearest_of_locate
  · intro h
    have hne : candidates ≠ [] := by
      rintro rfl
      obtain ⟨c, hc, -⟩ := h
      cases hc
    obtain ⟨j, hj⟩ := exists_locate hne fingerprint
    rw [hj, h.unique (nearest_of_locate hj)]

/-- Who is nearest in each of two lists, and is listed in the other one too, is no further back
than the other where it is nearest. -/
theorem Nearest.stays {xs ys : List String} {fingerprint : Bytes} {i i' j j' : Nat} {c d : String}
    (hx : Nearest fingerprint xs i) (hy : Nearest fingerprint ys j) (hxc : xs[i]? = some c)
    (hxd : xs[i']? = some d) (hyd : ys[j]? = some d) (hyc : ys[j']? = some c) :
    i ≤ i' ∧ j ≤ j' := by
  obtain ⟨c', hc', hleast⟩ := hx
  obtain ⟨d', hd', hleast'⟩ := hy
  cases hc'.symm.trans hxc
  cases hd'.symm.trans hyd
  have hcd := hleast i' d hxd
  have hdc := hleast' j' c hyc
  simp only [Prod.Lex.toLex_le_toLex] at hcd hdc
  omega

end HashRing

end ServiceMesh
