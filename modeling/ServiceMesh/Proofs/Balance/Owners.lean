import ServiceMesh.Proofs.Balance.Nearest

/-!
# Owners on rings

Two rings agree as far as they can.  If the home of a fingerprint among some candidates
is also a candidate for another ring, and the home there is also a candidate here, then each
comes no later than the other where it is the home.  In lists that have an order of their own,
such as that of ids, they are one candidate (`HashRing.home_stays`).

A balancer that changes its rings only by building and dropping them keeps *faithful* rings:
each is the ring of the candidates that it was built for.  Such a balancer puts a fingerprint
where its home is, whatever it went through (`RingBalancer.Faithful.pick_eq`).
-/

namespace ServiceMesh

namespace HashRing

/-! ## Homes -/

/-- The candidate to which a fingerprint belongs. -/
def home (fingerprint : Bytes) (candidates : List String) : Option String :=
  ((build candidates).locate fingerprint).bind fun i => candidates[i]?

/-- If each of the homes among two lists is a candidate in both, and the lists have a common
order in which nothing comes both before and after another, then the homes are one. -/
theorem home_stays {xs ys : List String} {fingerprint : Bytes} {c d : String}
    (hx : home fingerprint xs = some c) (hy : home fingerprint ys = some d) (hxd : d ∈ xs)
    (hyc : c ∈ ys) {le : String → String → Prop} (hxs : xs.Pairwise le) (hys : ys.Pairwise le)
    (hanti : le c d → le d c → c = d) : c = d := by
  obtain ⟨i, hi, hic⟩ := Option.bind_eq_some_iff.mp hx
  obtain ⟨j, hj, hjd⟩ := Option.bind_eq_some_iff.mp hy
  obtain ⟨i', hid⟩ := List.mem_iff_getElem?.mp hxd
  obtain ⟨j', hjc⟩ := List.mem_iff_getElem?.mp hyc
  have horder {zs : List String} (hzs : zs.Pairwise le) {k k' : Nat} {a b : String}
      (ha : zs[k]? = some a) (hb : zs[k']? = some b) (hk : k ≤ k') : a = b ∨ le a b := by
    obtain ⟨hlt, rfl⟩ := List.getElem?_eq_some_iff.mp ha
    obtain ⟨hlt', rfl⟩ := List.getElem?_eq_some_iff.mp hb
    rcases Nat.eq_or_lt_of_le hk with rfl | hk
    · exact .inl rfl
    · exact .inr (List.pairwise_iff_getElem.mp hzs k k' hlt hlt' hk)
  obtain ⟨hi', hj'⟩ := (nearest_of_locate hi).stays (nearest_of_locate hj) hic hid hjd hjc
  rcases horder hxs hic hid hi' with heq | hcd
  · exact heq
  · rcases horder hys hjd hjc hj' with heq | hdc
    · exact heq.symm
    · exact hanti hcd hdc

end HashRing

/-! ## Balancers that keep rings -/

namespace RingBalancer

/-- A balancer each of whose rings is that of its candidates. -/
def Faithful (b : RingBalancer) : Prop :=
  ∀ hash ring, b.rings.get? hash = some ring → ring = .build ring.candidates

theorem faithful_new : ({} : RingBalancer).Faithful :=
  keeps_new fun ring => ring = .build ring.candidates

variable {b : RingBalancer}

/-- The ring that is used for candidates is theirs. -/
theorem Faithful.ringFor (h : b.Faithful) (hash : UInt32) (candidates : List String) :
    b.ringFor hash candidates = .build candidates := by
  unfold RingBalancer.ringFor
  split
  · rename_i ring hring
    split
    · rename_i hfits
      have hcandidates : ring.candidates = candidates := beq_iff_eq.mp hfits
      rw [h hash ring hring, hcandidates]
    · rfl
  · rfl

/-- A fingerprint that says something is put where its home is. -/
theorem Faithful.pick_eq (h : b.Faithful) (hash : UInt32) {fingerprint : Bytes}
    (hne : fingerprint ≠ []) (candidates : List String) :
    (b.pick hash (some fingerprint) candidates).1 = HashRing.home fingerprint candidates := by
  obtain ⟨x, xs, rfl⟩ := List.exists_cons_of_ne_nil hne
  unfold pick
  split
  · rename_i hempty
    rw [List.isEmpty_iff.mp hempty]
    unfold HashRing.home
    simp only [List.getElem?_nil, Option.bind_fun_none]
  · simp only [locate, h.ringFor]
    rfl

theorem Faithful.pick (h : b.Faithful) (hash : UInt32) (fingerprint : Option Bytes)
    (candidates : List String) : (b.pick hash fingerprint candidates).2.Faithful := by
  unfold RingBalancer.pick
  split
  · exact h
  · split
    · have hring : b.ringFor hash candidates = .build (b.ringFor hash candidates).candidates := by
        rw [h.ringFor]
        rfl
      exact Keeps.insert h hash hring
    · exact h

theorem Faithful.invalidate (h : b.Faithful) (hash : UInt32) : (b.invalidate hash).Faithful :=
  Keeps.invalidate h hash

end RingBalancer

end ServiceMesh
