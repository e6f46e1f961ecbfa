import ServiceMesh.Proofs.Dict
import ServiceMesh.Routes.Change

/-!
# Every balancer chooses a candidate

A *choice* among candidates is one of them, and there is none only if there are no
candidates.  Each strategy makes a choice, from whatever it knows by then
(`Balancer.choice_pick`).

Only rings could fail to.  A ring answers with a position, so a ring that is used for a
list must be *sound*: its points name positions of the list, and there are points if the
list is not empty.  A ring that was built is sound (`HashRing.sound_build`), and a balancer
keeps its rings sound whatever happens to it.  Soundness only depends on how many
candidates there are, so it is no matter whether the ring was built for the list at hand
or for another one of its length that was taken for it.
-/

namespace ServiceMesh

/-- A choice among candidates. -/
inductive Choice (candidates : List String) : Option String → Prop where
| picked {c : String} (h : c ∈ candidates) :
  Choice candidates (some c)
| nothing (h : candidates = []) :
  Choice candidates none

namespace Choice

variable {candidates : List String}

theorem of_nil : Choice [] none := .nothing rfl

/-- A position within the list is a choice. -/
theorem of_lt {i : Nat} (h : i < candidates.length) : Choice candidates candidates[i]? := by
  rw [List.getElem?_eq_getElem h]
  exact .picked (List.getElem_mem h)

/-- Whatever takes one of the candidates makes a choice. -/
theorem of_isSome {choice : Option String} (hs : choice.isSome)
    (hm : ∀ c, choice = some c → c ∈ candidates) : Choice candidates choice := by
  cases choice with
  | none => cases hs
  | some c => exact .picked (hm c rfl)

end Choice

/-! ## Turns, chance and latency -/

/-- Taking turns chooses among the candidates. -/
theorem RoundRobin.choice_pick (b : RoundRobin) (hash : UInt32) (candidates : List String) :
    Choice candidates (b.pick hash candidates).1 := by
  cases candidates with
  | nil => exact .of_nil
  | cons x rest =>
    refine .of_isSome (b.pick_isSome hash x rest) ?_
    intro c
    exact b.pick_mem hash _ c

/-- A position that is drawn and reduced to the length of the list is a choice. -/
theorem choice_draw (n : Nat) (candidates : List String) :
    Choice candidates candidates[n % candidates.length]? := by
  cases candidates with
  | nil => exact .of_nil
  | cons x rest => exact .of_lt (Nat.mod_lt n (Nat.succ_pos _))

namespace Weighted

/-- The search stops at a candidate, or goes on with it or the best so far as the best. -/
theorem cheapest_cons (b : Weighted) (prior : Float) (best : Option (String × Float)) (c : String)
    (rest : List String) :
    b.cheapest prior best (c :: rest) = some c ∨
      ∃ p, (p.1 = c ∨ best = some p) ∧
        b.cheapest prior best (c :: rest) = b.cheapest prior (some p) rest := by
  simp only [cheapest]
  split
  · exact .inl rfl
  · right
    split
    · exact ⟨_, .inl rfl, rfl⟩
    · generalize (ite ((b.statsOf c).samples = 0) _ _ : Float) = cost
      split
      · exact ⟨_, .inl rfl, rfl⟩
      · exact ⟨_, .inr rfl, rfl⟩

/-- Once some candidate was seen, the search ends with a candidate of the list or with the
best that was known before. -/
theorem cheapest_of_some (b : Weighted) (prior : Float) (candidates : List String) :
    ∀ p : String × Float, ∃ c, b.cheapest prior (some p) candidates = some c ∧
      (c ∈ candidates ∨ c = p.1) := by
  induction candidates with
  | nil =>
    intro p
    exact ⟨p.1, rfl, .inr rfl⟩
  | cons x rest ih =>
    intro p
    rcases b.cheapest_cons prior (some p) x rest with hx | ⟨q, hq, heq⟩
    · exact ⟨x, hx, .inl List.mem_cons_self⟩
    · obtain ⟨c, hc, hmem⟩ := ih q
      refine ⟨c, heq.trans hc, ?_⟩
      rcases hmem with hmem | rfl
      · exact .inl (List.mem_cons_of_mem x hmem)
      · rcases hq with rfl | hpq
        · exact .inl List.mem_cons_self
        · cases hpq
          exact .inr rfl

/-- The cheapest is among the candidates. -/
theorem choice_cheapest (b : Weighted) (prior : Float) (candidates : List String) :
    Choice candidates (b.cheapest prior none candidates) := by
  cases candidates with
  | nil => exact .of_nil
  | cons x rest =>
    rcases b.cheapest_cons prior none x rest with hx | ⟨p, hp, heq⟩
    · rw [hx]
      exact .picked List.mem_cons_self
    · obtain rfl : p.1 = x := hp.resolve_right fun h => by cases h
      obtain ⟨c, hc, hmem⟩ := b.cheapest_of_some prior rest p
      rw [heq, hc]
      exact .picked (List.mem_cons.mpr hmem.symm)

/-- Choosing by latency chooses among the candidates, also when it explores. -/
theorem choice_pick (b : Weighted) (draw : Draw) (candidates : List String) :
    Choice candidates (b.pick draw candidates) := by
  unfold pick
  split
  · exact .of_nil
  · exact .picked List.mem_cons_self
  · split
    · exact choice_draw draw.whole candidates
    · exact b.choice_cheapest _ candidates

end Weighted

/-! ## Rings -/

namespace HashRing

/-- A ring whose points name candidates, and that has points if it has candidates. -/
structure Sound (ring : HashRing) : Prop where
  positions : ∀ p ∈ ring.points, p.2 < ring.candidates.length
  points : ring.candidates ≠ [] → ring.points ≠ []

/-- The points of a candidate carry its position. -/
theorem mem_pointsOf {c : String} {i : Nat} {p : UInt32 × Nat} (h : p ∈ pointsOf c i) :
    p.2 = i := by
  obtain ⟨r, -, rfl⟩ := List.mem_map.mp h
  rfl

/-- Every point of a ring that was built is of one of its candidates.  The first point of the
first candidate is there. -/
theorem sound_build (candidates : List String) : (build candidates).Sound := by
  constructor
  · intro p hp
    obtain ⟨⟨c, i⟩, he, hp⟩ := List.mem_flatMap.mp ((List.mergeSort_perm _ _).mem_iff.mp hp)
    rw [mem_pointsOf hp]
    exact (List.mem_zipIdx' he).1
  · intro hne hpoints
    cases candidates with
    | nil => exact hne rfl
    | cons c rest =>
      have hp : (point c 0, 0) ∈ (build (c :: rest)).points := by
        refine (List.mergeSort_perm _ _).mem_iff.mpr (List.mem_flatMap.mpr ⟨(c, 0), ?_, ?_⟩)
        · exact List.mem_cons_self
        · exact List.mem_map.mpr ⟨0, List.mem_range.mpr (by decide), rfl⟩
      rw [hpoints] at hp
      cases hp

/-- Where a sound ring with candidates puts a fingerprint there is a candidate. -/
theorem Sound.locate {ring : HashRing} (h : ring.Sound) (hne : ring.candidates ≠ [])
    (fingerprint : Bytes) :
    ∃ i, ring.locate fingerprint = some i ∧ i < ring.candidates.length := by
  unfold HashRing.locate owner
  cases hp : (ring.points.find? fun p => Hash.murmur3 fingerprint seed ≤ p.1).or
      ring.points.head? with
  | none =>
    rw [Option.or_eq_none_iff, List.head?_eq_none_iff] at hp
    exact absurd hp.2 (h.points hne)
  | some p =>
    refine ⟨p.2, rfl, h.positions p ?_⟩
    rcases Option.or_eq_some_iff.mp hp with hfind | ⟨-, hhead⟩
    · exact List.mem_of_find?_eq_some hfind
    · exact List.mem_of_mem_head? hhead

end HashRing

namespace RingBalancer

/-- A balancer all of whose rings have a property. -/
def Keeps (has : HashRing → Prop) (b : RingBalancer) : Prop :=
  ∀ hash ring, b.rings.get? hash = some ring → has ring

section Keeps

variable {has : HashRing → Prop} {b : RingBalancer}

/-- Without rings every ring has what is asked for. -/
theorem keeps_new (has : HashRing → Prop) : ({} : RingBalancer).Keeps has := by
  intro hash ring h
  cases h

/-- One more ring that has what is asked for is kept. -/
theorem Keeps.insert (h : b.Keeps has) (hash : UInt32) {ring : HashRing} (hring : has ring) :
    ({ b with rings := b.rings.insert hash ring } : RingBalancer).Keeps has := by
  intro hash' ring' hget
  simp only [Dict.get?_insert] at hget
  split at hget
  · cases hget
    exact hring
  · exact h hash' ring' hget

/-- Dropping a ring keeps what the others have. -/
theorem Keeps.invalidate (h : b.Keeps has) (hash : UInt32) : (b.invalidate hash).Keeps has := by
  intro hash' ring hget
  simp only [RingBalancer.invalidate, Dict.get?_erase] at hget
  split at hget
  · cases hget
  · exact h hash' ring hget

end Keeps

/-- A balancer all of whose rings are sound. -/
def Sound (b : RingBalancer) : Prop := ∀ hash ring, b.rings.get? hash = some ring → ring.Sound

theorem sound_new : ({} : RingBalancer).Sound := keeps_new HashRing.Sound

variable {b : RingBalancer}

/-- The ring that is used for candidates is sound and has as many. -/
theorem Sound.ringFor (h : b.Sound) (hash : UInt32) (candidates : List String) :
    (b.ringFor hash candidates).Sound
      ∧ (b.ringFor hash candidates).candidates.length = candidates.length := by
  unfold RingBalancer.ringFor
  split
  · rename_i ring hring
    split
    · rename_i hfits
      exact ⟨h hash ring hring, congrArg List.length (beq_iff_eq.mp hfits)⟩
    · exact ⟨HashRing.sound_build candidates, rfl⟩
  · exact ⟨HashRing.sound_build candidates, rfl⟩

/-- A sound balancer of rings chooses among the candidates. -/
theorem Sound.choice_pick (h : b.Sound) (hash : UInt32) (fingerprint : Option Bytes)
    (candidates : List String) : Choice candidates (b.pick hash fingerprint candidates).1 := by
  unfold pick
  split
  · rename_i hempty
    exact .nothing (List.isEmpty_iff.mp hempty)
  · rename_i hne
    split
    · rename_i x xs
      obtain ⟨hring, hlength⟩ := h.ringFor hash candidates
      have hcandidates : (b.ringFor hash candidates).candidates ≠ [] := by
        intro hnil
        rw [hnil] at hlength
        exact hne (List.isEmpty_iff.mpr (List.eq_nil_of_length_eq_zero hlength.symm))
      obtain ⟨i, hi, hlt⟩ := hring.locate hcandidates (x :: xs)
      simp only [RingBalancer.locate, hi, Option.bind_some]
      exact .of_lt (hlength ▸ hlt)
    · exact b.fallback.choice_pick hash candidates

/-- A choice leaves the balancer of rings sound. -/
theorem Sound.pick (h : b.Sound) (hash : UInt32) (fingerprint : Option Bytes)
    (candidates : List String) : (b.pick hash fingerprint candidates).2.Sound := by
  unfold RingBalancer.pick
  split
  · exact h
  · split
    · exact Keeps.insert h hash (h.ringFor hash candidates).1
    · exact h

theorem Sound.invalidate (h : b.Sound) (hash : UInt32) : (b.invalidate hash).Sound :=
  Keeps.invalidate h hash

end RingBalancer

/-! ## Balancers -/

namespace Balancer

/-- A balancer whose rings, if it has any, are sound. -/
def Sound : Balancer → Prop
  | consistentHash state => state.Sound
  | _ => True

/-- A balancer of any strategy is sound at the beginning. -/
theorem sound_ofStrategy (strategy : Strategy) (exploration : Float) :
    (ofStrategy strategy exploration).Sound := by
  cases strategy with
  | consistentHash => exact RingBalancer.sound_new
  | roundRobin => trivial
  | random => trivial
  | weightedStats => trivial

variable {b : Balancer}

/-- From candidates a balancer picks one, whatever it knows and whatever is drawn. -/
theorem Sound.choice_pick (h : b.Sound) (draw : Draw) (hash : UInt32)
    (fingerprint : Option Bytes) (candidates : List String) :
    Choice candidates (b.pick draw hash fingerprint candidates).1 := by
  cases b with
  | roundRobin state => exact state.choice_pick hash candidates
  | random => exact choice_draw draw.whole candidates
  | consistentHash state => exact RingBalancer.Sound.choice_pick h hash fingerprint candidates
  | weighted state => exact state.choice_pick draw candidates

theorem Sound.pick (h : b.Sound) (draw : Draw) (hash : UInt32) (fingerprint : Option Bytes)
    (candidates : List String) : (b.pick draw hash fingerprint candidates).2.Sound := by
  cases b with
  | consistentHash state => exact RingBalancer.Sound.pick h hash fingerprint candidates
  | roundRobin state => trivial
  | random => trivial
  | weighted state => trivial

/-- Counting a call that starts leaves a balancer sound. -/
theorem Sound.start (h : b.Sound) (candidate : String) : (b.start candidate).Sound := by
  cases b with
  | consistentHash state => exact h
  | roundRobin state => trivial
  | random => trivial
  | weighted state => trivial

/-- Recording how a call ended leaves a balancer sound. -/
theorem Sound.record (h : b.Sound) (candidate : String) (latencyMs : Float) (success : Bool) :
    (b.record candidate latencyMs success).Sound := by
  cases b with
  | consistentHash state => exact h
  | roundRobin state => trivial
  | random => trivial
  | weighted state => trivial

/-- Forgetting a candidate leaves a balancer sound. -/
theorem Sound.evict (h : b.Sound) (candidate : String) : (b.evict candidate).Sound := by
  cases b with
  | consistentHash state => exact h
  | roundRobin state => trivial
  | random => trivial
  | weighted state => trivial

theorem Sound.invalidate (h : b.Sound) (hash : UInt32) : (b.invalidate hash).Sound := by
  cases b with
  | consistentHash state => exact RingBalancer.Sound.invalidate h hash
  | roundRobin state => trivial
  | random => trivial
  | weighted state => trivial

/-- A change of the routes leaves a balancer sound. -/
theorem Sound.observe (h : b.Sound) (change : RouteChange) : (b.observe change).Sound := by
  have hfold : ∀ (ls : List Locator) (b : Balancer), b.Sound →
      (ls.foldl (fun b l => b.invalidate l.hash) b).Sound := by
    intro ls
    induction ls with
    | nil =>
      intro b hb
      exact hb
    | cons l rest ih =>
      intro b hb
      exact ih _ (hb.invalidate l.hash)
  unfold Balancer.observe
  split
  · exact (hfold _ _ h).evict _
  · exact hfold _ _ h

end Balancer

end ServiceMesh
