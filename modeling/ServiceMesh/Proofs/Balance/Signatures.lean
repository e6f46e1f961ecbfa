import Mathlib.Data.List.Induction
import Mathlib.Data.Set.Function
import ServiceMesh.Proofs.Balance.Keeping
import ServiceMesh.Proofs.Balance.Owners

/-!
# Rings known by a signature

Two things make the choice by ring quick.  The owner of a place is found by halving the points,
which is right because they stand in order (`HashRing.search_build`).  And a kept ring is taken for
a list of candidates without comparing the lists, if the ring was built for as many candidates and
a signature of them is the same.

A signature may collide, so the second is right only as far as the signature tells apart the lists
that the balancer meets.  All rings it keeps were built for lists that it met
(`RingBalancer.within_after`), so then each is the ring of the list at hand.  Whatever was asked of
the balancer before, a fingerprint goes to the nearest candidate: `RingBalancer.pick_nearest`.
-/

namespace ServiceMesh

/-! ## Halving -/

/-- The first position at which a test fails, found by halving the positions between `low` and
`high`.  The test should hold before `low`, fail from `high` on, and not hold again once it
failed. -/
def turnBetween (test : Nat → Bool) (low high : Nat) : Nat :=
  if low < high then
    let middle := (low + high) / 2
    if test middle then turnBetween test (middle + 1) high else turnBetween test low middle
  else low
termination_by high - low

theorem turnBetween_spec {test : Nat → Bool}
    (hturn : ∀ i j, i ≤ j → test j = true → test i = true) (low high : Nat)
    (hlow : ∀ i < low, test i = true) (hhigh : ∀ i, high ≤ i → test i = false) :
    (∀ i < turnBetween test low high, test i = true) ∧
      test (turnBetween test low high) = false := by
  fun_induction turnBetween test low high with
  | case1 low high hlt middle htest ih =>
    refine ih ?_ hhigh
    intro i hi
    exact hturn i middle (Nat.le_of_lt_succ hi) htest
  | case2 low high hlt middle htest ih =>
    apply ih hlow
    intro i hi
    apply Bool.eq_false_iff.mpr
    intro hi'
    exact htest (hturn middle i hi hi')
  | case3 low high hle => exact ⟨hlow, hhigh low (Nat.not_lt.mp hle)⟩

namespace HashRing

/-- Whether the point at a position stands before a place. -/
def standsBefore (ring : HashRing) (place : UInt32) (i : Nat) : Bool :=
  ring.points[i]?.any fun p => p.1 < place

/-- The position of the candidate to which a fingerprint belongs, found by halving. -/
def search (ring : HashRing) (fingerprint : Bytes) : Option Nat :=
  let place := Hash.murmur3 fingerprint seed
  let turn := turnBetween (ring.standsBefore place) 0 ring.points.length
  (ring.points[turn]?.or ring.points.head?).map (·.2)

/-- The points before a place are the first ones. -/
theorem standsBefore_of_le (candidates : List String) (place : UInt32) (i j : Nat) (hij : i ≤ j)
    (hj : (build candidates).standsBefore place j = true) :
    (build candidates).standsBefore place i = true := by
  obtain ⟨q, hq, hplace⟩ := (Option.any_eq_true _ _).mp hj
  obtain ⟨hjlt, rfl⟩ := List.getElem?_eq_some_iff.mp hq
  have hilt := Nat.lt_of_le_of_lt hij hjlt
  refine (Option.any_eq_true _ _).mpr ⟨_, List.getElem?_eq_getElem hilt, ?_⟩
  rcases Nat.eq_or_lt_of_le hij with rfl | hlt
  · exact hplace
  · have hbefore := List.pairwise_iff_getElem.mp (sorted_points candidates) i j hilt hjlt hlt
    rw [before_iff, UInt32.lt_iff_toNat_lt, ← UInt32.toNat_inj] at hbefore
    rw [decide_eq_true_eq, UInt32.lt_iff_toNat_lt] at hplace ⊢
    omega

/-- Halving finds the first point that does not stand before the place. -/
theorem getElem?_turnBetween (candidates : List String) (place : UInt32) :
    let points := (build candidates).points
    points[turnBetween ((build candidates).standsBefore place) 0 points.length]?
      = points.find? fun p => place ≤ p.1 := by
  intro points
  have hend : ∀ i, points.length ≤ i → (build candidates).standsBefore place i = false := by
    intro i hi
    rw [standsBefore, List.getElem?_eq_none hi]
    rfl
  obtain ⟨hbefore, hturn⟩ := turnBetween_spec (standsBefore_of_le candidates place) 0
    points.length (fun i hi => absurd hi (Nat.not_lt_zero i)) hend
  generalize turnBetween ((build candidates).standsBefore place) 0 points.length = turn at *
  have hpassed : ∀ i (hi : i < points.length), i < turn → ¬place ≤ points[i].1 := by
    intro i hi hlt
    obtain ⟨p, hp, hplace⟩ := (Option.any_eq_true _ _).mp (hbefore i hlt)
    cases (List.getElem?_eq_getElem hi).symm.trans hp
    exact UInt32.not_le.mpr (of_decide_eq_true hplace)
  by_cases hlt : turn < points.length
  · rw [List.getElem?_eq_getElem hlt]
    have hplace := (Option.any_eq_false _ _).mp hturn _ (List.getElem?_eq_getElem hlt)
    refine (List.find?_eq_some_iff_getElem.mpr ⟨?_, turn, hlt, rfl, fun i hi => ?_⟩).symm
    · exact decide_eq_true (UInt32.not_lt.mp (of_decide_eq_false hplace))
    · simpa using hpassed i (Nat.lt_trans hi hlt) hi
  · have hle := Nat.not_lt.mp hlt
    rw [List.getElem?_eq_none hle]
    refine (List.find?_eq_none.mpr fun p hp => ?_).symm
    obtain ⟨i, hi, rfl⟩ := List.getElem_of_mem hp
    simpa using hpassed i hi (Nat.lt_of_lt_of_le hi hle)

/-- Halving finds the owner. -/
theorem search_build (candidates : List String) (fingerprint : Bytes) :
    (build candidates).search fingerprint = (build candidates).locate fingerprint := by
  simp only [search, locate, owner, getElem?_turnBetween]

/-- Whether a ring passes for that of some candidates: it was built for as many, and their
signatures are the same. -/
def passes (signature : List String → UInt64) (ring : HashRing) (candidates : List String) : Bool :=
  ring.candidates.length == candidates.length
    && signature ring.candidates == signature candidates

end HashRing

/-! ## Keeping rings under a signature -/

namespace RingBalancer

section Signature

variable (signature : List String → UInt64)

/-- The ring for the candidates, the one kept if it passes for theirs. -/
def ringBySignature (b : RingBalancer) (hash : UInt32) (candidates : List String) : HashRing :=
  match b.rings.get? hash with
  | some ring => if ring.passes signature candidates then ring else .build candidates
  | none => .build candidates

/-- Picks as `pick` does, but takes kept rings by their signature and finds owners by halving. -/
def pickBySignature (b : RingBalancer) (hash : UInt32) (fingerprint : Option Bytes)
    (candidates : List String) : Option String × RingBalancer :=
  if candidates.isEmpty then (none, b)
  else match fingerprint with
    | some (x :: xs) =>
        let ring := b.ringBySignature signature hash candidates
        ((ring.search (x :: xs)).bind fun i => candidates[i]?,
          { b with rings := b.rings.insert hash ring })
    | _ =>
        let (choice, fallback) := b.fallback.pick hash candidates
        (choice, { b with fallback := fallback })

end Signature

/-- A balancer each of whose rings is that of its candidates, which are among some lists. -/
def Within (lists : Set (List String)) : RingBalancer → Prop :=
  Keeps fun ring => ring = .build ring.candidates ∧ ring.candidates ∈ lists

variable {lists : Set (List String)} {b : RingBalancer} {signature : List String → UInt64}

theorem Within.ringBySignature (h : b.Within lists) (hash : UInt32) {candidates : List String}
    (hmem : candidates ∈ lists) :
    let ring := b.ringBySignature signature hash candidates
    ring = .build ring.candidates ∧ ring.candidates ∈ lists := by
  unfold RingBalancer.ringBySignature
  split
  · next ring hring =>
    split
    · exact h hash ring hring
    · exact ⟨rfl, hmem⟩
  · exact ⟨rfl, hmem⟩

/-- If the signature tells the lists apart, the ring that is taken for a list is its ring. -/
theorem Within.ringBySignature_eq (h : b.Within lists) (hsignature : Set.InjOn signature lists)
    (hash : UInt32) {candidates : List String} (hmem : candidates ∈ lists) :
    b.ringBySignature signature hash candidates = .build candidates := by
  unfold RingBalancer.ringBySignature
  split
  · next ring hring =>
    split
    · next hpasses =>
      obtain ⟨hbuilt, hring⟩ := h hash ring hring
      rw [HashRing.passes, Bool.and_eq_true, beq_iff_eq, beq_iff_eq] at hpasses
      rw [hbuilt, hsignature hring hmem hpasses.2]
    · rfl
  · rfl

theorem Within.pickBySignature (h : b.Within lists) (hash : UInt32) (fingerprint : Option Bytes)
    {candidates : List String} (hmem : candidates ∈ lists) :
    (b.pickBySignature signature hash fingerprint candidates).2.Within lists := by
  unfold RingBalancer.pickBySignature
  split
  · exact h
  · split
    · exact Keeps.insert h hash (h.ringBySignature hash hmem)
    · exact h

/-- If the signature tells the lists apart, a fingerprint is put where its home is. -/
theorem Within.pick_eq (h : b.Within lists) (hsignature : Set.InjOn signature lists) (hash : UInt32)
    {fingerprint : Bytes} (hne : fingerprint ≠ []) {candidates : List String}
    (hcandidates : candidates ≠ []) (hmem : candidates ∈ lists) :
    (b.pickBySignature signature hash (some fingerprint) candidates).1
      = HashRing.home fingerprint candidates := by
  obtain ⟨x, xs, rfl⟩ := List.exists_cons_of_ne_nil hne
  rw [RingBalancer.pickBySignature, if_neg (by simpa using hcandidates)]
  simp only [h.ringBySignature_eq hsignature hash hmem, HashRing.search_build]
  rfl

/-! ## Histories -/

/-- What is asked of a balancer. -/
inductive Request where
  /-- To pick a candidate. -/
  | pick (hash : UInt32) (fingerprint : Option Bytes) (candidates : List String)
  /-- To drop the ring of a routing hash. -/
  | invalidate (hash : UInt32)

/-- A way to pick a candidate. -/
abbrev Picking := RingBalancer → UInt32 → Option Bytes → List String → Option String × RingBalancer

/-- What a request leaves of a balancer. -/
def Request.serve (picking : Picking) (b : RingBalancer) : Request → RingBalancer
  | pick hash fingerprint candidates => (picking b hash fingerprint candidates).2
  | invalidate hash => b.invalidate hash

/-- A new balancer after some requests. -/
def after (picking : Picking) (history : List Request) : RingBalancer :=
  history.foldl (Request.serve picking) {}

/-- The lists of candidates that a history has. -/
def met (history : List Request) : Set (List String) :=
  {candidates | ∃ hash fingerprint, .pick hash fingerprint candidates ∈ history}

theorem faithful_serve {b : RingBalancer} (h : b.Faithful) (request : Request) :
    (request.serve RingBalancer.pick b).Faithful := by
  cases request with
  | pick hash fingerprint candidates => exact h.pick hash fingerprint candidates
  | invalidate hash => exact h.invalidate hash

/-- A balancer that compares lists keeps faithful rings, whatever is asked of it. -/
theorem faithful_after (history : List Request) :
    (after RingBalancer.pick history).Faithful := by
  induction history using List.reverseRecOn with
  | nil => exact faithful_new
  | append_singleton history request ih =>
    rw [after, List.foldl_append]
    exact faithful_serve ih request

theorem Within.serve (h : b.Within lists) (request : Request) (hmet : met [request] ⊆ lists) :
    (request.serve (RingBalancer.pickBySignature signature) b).Within lists := by
  cases request with
  | pick hash fingerprint candidates =>
    exact h.pickBySignature hash fingerprint
      (hmet ⟨hash, fingerprint, List.mem_singleton.mpr rfl⟩)
  | invalidate hash => exact Keeps.invalidate h hash

/-- A balancer that goes by signatures keeps rings of lists that it met. -/
theorem within_after (history : List Request) (hmet : met history ⊆ lists) :
    (after (RingBalancer.pickBySignature signature) history).Within lists := by
  induction history using List.reverseRecOn with
  | nil => exact keeps_new _
  | append_singleton history request ih =>
    rw [after, List.foldl_append]
    refine Within.serve (ih ?_) request ?_
    · rintro candidates ⟨hash, fingerprint, hmem⟩
      exact hmet ⟨hash, fingerprint, List.mem_append_left _ hmem⟩
    · rintro candidates ⟨hash, fingerprint, hmem⟩
      exact hmet ⟨hash, fingerprint, List.mem_append_right _ hmem⟩

/-- For a fingerprint that says something and some candidates there is one position, that of the
nearest candidate, whose candidate is picked under every routing hash and after every history: by
a balancer that compares lists, and by one that goes by signatures and halves the ring, if the
signature tells apart the lists that it met and the list at hand. -/
theorem pick_nearest {fingerprint : Bytes} {candidates : List String}
    (hfingerprint : fingerprint ≠ []) (hcandidates : candidates ≠ []) :
    ∃ i c, HashRing.Nearest fingerprint candidates i ∧ candidates[i]? = some c ∧
      (∀ history hash, ((after RingBalancer.pick history).pick hash (some fingerprint)
        candidates).1 = some c) ∧
      ∀ (signature : List String → UInt64) history hash,
        Set.InjOn signature (insert candidates (met history)) →
        ((after (RingBalancer.pickBySignature signature) history).pickBySignature signature hash
          (some fingerprint) candidates).1 = some c := by
  obtain ⟨i, hi⟩ := HashRing.exists_locate hcandidates fingerprint
  have hnearest := HashRing.nearest_of_locate hi
  obtain ⟨c, hc, -⟩ := id hnearest
  have hhome : HashRing.home fingerprint candidates = some c := by
    rw [HashRing.home, hi, Option.bind_some, hc]
  refine ⟨i, c, hnearest, hc, ?_, ?_⟩
  · intro history hash
    rw [(faithful_after history).pick_eq hash hfingerprint, hhome]
  · intro signature history hash hsignature
    have hwithin : (after (RingBalancer.pickBySignature signature) history).Within
        (insert candidates (met history)) := within_after history (Set.subset_insert _ _)
    rw [hwithin.pick_eq hsignature hash hfingerprint hcandidates (Set.mem_insert _ _), hhome]

namespace Sample

/-- A signature of lists. -/
def digest (candidates : List String) : UInt64 :=
  (Hash.murmur3 (utf8 (",".intercalate candidates)) 0).toUInt64

/-- A list that is as long as the next one. -/
def earlier : List String := ["b", "a", "b"]

def current : List String := ["a", "b", "b"]

/-- The ring of one list is kept when the other is asked for. -/
def history : List Request :=
  [.pick 7 (some [107]) current, .invalidate 7, .pick 7 none current, .pick 7 (some [108]) earlier]

theorem met_history {candidates : List String} (h : candidates ∈ insert current (met history)) :
    candidates = current ∨ candidates = earlier := by
  rcases h with rfl | ⟨hash, fingerprint, hmem⟩
  · exact .inl rfl
  · simp only [history, List.mem_cons, List.not_mem_nil, or_false, Request.pick.injEq,
      reduceCtorEq, false_or] at hmem
    rcases hmem with ⟨-, -, rfl⟩ | ⟨-, -, rfl⟩ | ⟨-, -, rfl⟩
    · exact .inl rfl
    · exact .inl rfl
    · exact .inr rfl

theorem digest_injOn : Set.InjOn digest (insert current (met history)) := by
  have hdiffer : digest current ≠ digest earlier := by decide +kernel
  intro xs hxs ys hys heq
  rcases met_history hxs with rfl | rfl <;> rcases met_history hys with rfl | rfl
  · rfl
  · exact absurd heq hdiffer
  · exact absurd heq.symm hdiffer
  · rfl

end Sample

open Sample in
/-- The ring of an earlier list of the same length is not taken for that of the list at hand. -/
theorem nearest_picked_beside_stale_ring :
    ([107] : Bytes) ≠ [] ∧ current ≠ [] ∧ Set.InjOn digest (insert current (met history)) ∧
      ((after RingBalancer.pick history).pick 7 (some [107]) current).1 = some "b" ∧
      ((after (RingBalancer.pickBySignature digest) history).pickBySignature digest 7
        (some [107]) current).1 = some "b" := by
  have hfingerprint : ([107] : Bytes) ≠ [] := by decide
  have hcandidates : current ≠ [] := by decide
  obtain ⟨i, c, hi, hc, hplain, hsigned⟩ := pick_nearest hfingerprint hcandidates
  obtain rfl : i = 1 := hi.unique HashRing.nearest_twice
  cases hc
  exact ⟨hfingerprint, hcandidates, digest_injOn, hplain history 7,
    hsigned digest history 7 digest_injOn⟩

end RingBalancer

end ServiceMesh
