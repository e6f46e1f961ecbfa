import Mathlib.Data.List.Rotate
import ServiceMesh.Balance.Balancer

/-!
# Every position gets its turn

Two strategies give turns: the one that only gives turns, and consistent hashing for calls
without a fingerprint.  Both count the turns of each routing hash, and never count back.

A counter drifts with every list that was at hand before, so a row of turns over one list of
candidates begins anywhere in the list.  From there it goes once around: as many turns in a row
as the list is long give each of its positions once (`Balancer.each_position_once`), unless the
counter runs over on the way.  What else is asked of the balancer between these turns is of no
account, be it turns of other hashes, calls with a fingerprint, calls without candidates, or
news of candidates and of calls.
-/

namespace ServiceMesh

/-! ## One counter -/

namespace RoundRobin

/-- How many turns a hash has had, modulo `2^64`. -/
def counter (b : RoundRobin) (hash : UInt32) : UInt64 := b.counters.getD hash 0

theorem counter_advance (b : RoundRobin) (hash other : UInt32) :
    (b.advance hash).counter other
      = if hash = other then b.counter other + 1 else b.counter other := by
  unfold counter advance Dict.getD
  rw [Dict.get?_insert]
  split
  · next heq =>
    subst heq
    rfl
  · rfl

/-- Candidates are given by the counter of their hash, and no other counter moves. -/
theorem pick_of_ne_nil (b : RoundRobin) (hash : UInt32) {candidates : List String}
    (hne : candidates ≠ []) :
    b.pick hash candidates
      = (candidates[(b.counter hash).toNat % candidates.length]?, b.advance hash) := by
  cases candidates with
  | nil => exact absurd rfl hne
  | cons c rest => rfl

end RoundRobin

/-! ## What is asked of a balancer -/

/-- What is asked of a balancer, or told to it. -/
inductive Use where
  /-- To pick a candidate. -/
  | pick (draw : Draw) (hash : UInt32) (fingerprint : Option Bytes) (candidates : List String)
  /-- That a call started. -/
  | start (candidate : String)
  /-- That a call completed. -/
  | record (candidate : String) (latencyMs : Float) (success : Bool)
  /-- That a candidate left for good. -/
  | evict (candidate : String)
  /-- That the candidates behind a routing hash changed. -/
  | invalidate (hash : UInt32)

namespace Use

/-- What a use leaves of a balancer. -/
def apply (b : Balancer) : Use → Balancer
  | pick draw hash fingerprint candidates => (b.pick draw hash fingerprint candidates).2
  | start candidate => b.start candidate
  | record candidate latencyMs success => b.record candidate latencyMs success
  | evict candidate => b.evict candidate
  | invalidate hash => b.invalidate hash

/-- The candidate that is picked. -/
def answer (b : Balancer) : Use → Option String
  | pick draw hash fingerprint candidates => (b.pick draw hash fingerprint candidates).1
  | _ => none

/-- The candidates that take turns under a hash, if the use is a turn of that hash.  Without
candidates nobody takes a turn, and neither does a call that sticks to a candidate. -/
def turn? (strategy : Strategy) (hash : UInt32) : Use → Option (List String)
  | pick _ under fingerprint candidates =>
      if under = hash ∧ candidates ≠ [] ∧
          (strategy = .consistentHash → fingerprint.getD [] = []) then
        some candidates
      else none
  | _ => none

end Use

namespace Balancer

/-- A balancer after some uses. -/
def after (b : Balancer) (uses : List Use) : Balancer := uses.foldl Use.apply b

/-- The turns of a hash: for each the candidates that took it. -/
def turns (strategy : Strategy) (hash : UInt32) (uses : List Use) : List (List String) :=
  uses.filterMap (Use.turn? strategy hash)

/-- What the turns of a hash give. -/
def given (strategy : Strategy) (hash : UInt32) : Balancer → List Use → List (Option String)
  | _, [] => []
  | b, use :: rest =>
      match use.turn? strategy hash with
      | some _ => use.answer b :: given strategy hash (use.apply b) rest
      | none => given strategy hash (use.apply b) rest

/-! ## One turn -/

/-- The counters of a balancer. -/
def counters : Balancer → RoundRobin
  | roundRobin state => state
  | consistentHash state => state.fallback
  | _ => {}

/-- How many turns a hash has had, modulo `2^64`. -/
def counter (b : Balancer) (hash : UInt32) : UInt64 := b.counters.counter hash

/-- The strategies that give turns. -/
def GivesTurns (strategy : Strategy) : Prop := strategy = .roundRobin ∨ strategy = .consistentHash

@[simp] theorem strategy_apply (b : Balancer) (use : Use) :
    (use.apply b).strategy = b.strategy := by
  cases use with
  | pick draw hash fingerprint candidates => exact strategy_pick b draw hash fingerprint candidates
  | start candidate => cases b <;> rfl
  | record candidate latencyMs success => cases b <;> rfl
  | evict candidate => cases b <;> rfl
  | invalidate hash => cases b <;> rfl

/-- A pick with no fingerprint, or with an empty one, takes a turn. -/
theorem pick_fallback (state : RingBalancer) (hash : UInt32) {fingerprint : Option Bytes}
    (hfingerprint : fingerprint.getD [] = []) {candidates : List String}
    (hne : candidates ≠ []) :
    state.pick hash fingerprint candidates
      = ((state.fallback.pick hash candidates).1,
          { state with fallback := (state.fallback.pick hash candidates).2 }) := by
  unfold RingBalancer.pick
  rw [if_neg (by simpa using hne)]
  cases fingerprint with
  | none => rfl
  | some bytes =>
    cases bytes with
    | nil => rfl
    | cons x xs => cases hfingerprint

/-- A pick that sticks to a candidate leaves the turns alone. -/
theorem fallback_pick (state : RingBalancer) (hash : UInt32) {fingerprint : Option Bytes}
    (hfingerprint : fingerprint.getD [] ≠ []) (candidates : List String) :
    (state.pick hash fingerprint candidates).2.fallback = state.fallback := by
  unfold RingBalancer.pick
  split
  · rfl
  · split
    · rfl
    · next hno =>
      cases fingerprint with
      | none => exact absurd rfl hfingerprint
      | some bytes =>
        cases bytes with
        | nil => exact absurd rfl hfingerprint
        | cons x xs => exact absurd rfl (hno x xs)

variable {b : Balancer} {use : Use} {hash : UInt32} {candidates : List String}

/-- A turn gives the position to which the counter of its hash points, and is counted. -/
theorem turn_taken (hb : GivesTurns b.strategy)
    (hturn : use.turn? b.strategy hash = some candidates) :
    use.answer b = candidates[(b.counter hash).toNat % candidates.length]? ∧
      (use.apply b).counter hash = b.counter hash + 1 := by
  cases use with
  | pick draw under fingerprint listed =>
    simp only [Use.turn?] at hturn
    split at hturn
    · next hcond =>
      obtain ⟨rfl, hne, hplain⟩ := hcond
      cases hturn
      have hadvance (state : RoundRobin) : (state.advance under).counter under
          = state.counter under + 1 := by
        rw [RoundRobin.counter_advance, if_pos rfl]
      cases b with
      | roundRobin state =>
        simp only [Use.answer, Use.apply, pick, RoundRobin.pick_of_ne_nil state under hne]
        exact ⟨rfl, hadvance state⟩
      | consistentHash state =>
        simp only [Use.answer, Use.apply, pick, pick_fallback state under (hplain rfl) hne,
          RoundRobin.pick_of_ne_nil state.fallback under hne]
        exact ⟨rfl, hadvance state.fallback⟩
      | random => cases hb <;> contradiction
      | weighted state => cases hb <;> contradiction
    · cases hturn
  | start candidate => cases hturn
  | record candidate latencyMs success => cases hturn
  | evict candidate => cases hturn
  | invalidate under => cases hturn

/-- What is not a turn of a hash is not counted for it. -/
theorem turn_passed (hturn : use.turn? b.strategy hash = none) :
    (use.apply b).counter hash = b.counter hash := by
  cases use with
  | pick draw under fingerprint listed =>
    simp only [Use.turn?] at hturn
    split at hturn
    · cases hturn
    · next hcond =>
      have hkept (state : RoundRobin) (h : under ≠ hash ∨ listed = []) :
          (state.pick under listed).2.counter hash = state.counter hash := by
        cases listed with
        | nil => rfl
        | cons c rest =>
          have hne : under ≠ hash := h.resolve_right (List.cons_ne_nil c rest)
          change (state.advance under).counter hash = _
          rw [RoundRobin.counter_advance, if_neg hne]
      cases b with
      | random => rfl
      | weighted state => rfl
      | roundRobin state =>
        refine hkept state ?_
        by_cases hunder : under = hash
        · exact Or.inr (Decidable.byContradiction fun hne => hcond ⟨hunder, hne, nofun⟩)
        · exact Or.inl hunder
      | consistentHash state =>
        change RoundRobin.counter (state.pick under fingerprint listed).2.fallback hash = _
        by_cases hplain : fingerprint.getD [] = []
        · by_cases hne : listed = []
          · subst hne
            rfl
          · rw [pick_fallback state under hplain hne]
            refine hkept state.fallback (Or.inl ?_)
            intro hunder
            exact hcond ⟨hunder, hne, fun _ => hplain⟩
        · rw [fallback_pick state under hplain listed]
          rfl
  | start candidate => cases b <;> rfl
  | record candidate latencyMs success => cases b <;> rfl
  | evict candidate => cases b <;> rfl
  | invalidate under => cases b <;> rfl

/-! ## Turns one after the other -/

/-- The counter of a hash counts its turns. -/
theorem counter_after (hb : GivesTurns b.strategy) (hash : UInt32) (uses : List Use) :
    (b.after uses).strategy = b.strategy ∧
      (b.after uses).counter hash
        = b.counter hash + UInt64.ofNat (turns b.strategy hash uses).length := by
  induction uses generalizing b with
  | nil => exact ⟨rfl, (UInt64.add_zero _).symm⟩
  | cons use rest ih =>
    rw [← strategy_apply b use] at hb
    obtain ⟨hstrategy, hcounter⟩ := ih hb
    rw [strategy_apply] at hb hstrategy hcounter
    refine ⟨hstrategy, hcounter.trans ?_⟩
    unfold turns
    cases hturn : use.turn? b.strategy hash with
    | some listed =>
      rw [(turn_taken hb hturn).2, List.filterMap_cons_some hturn, List.length_cons,
        UInt64.ofNat_add, UInt64.add_assoc]
      exact congrArg (b.counter hash + ·) (UInt64.add_comm _ _)
    | none => rw [turn_passed hturn, List.filterMap_cons_none hturn]

/-- A row of turns over one list goes around from where the counter points. -/
theorem given_eq (hb : GivesTurns b.strategy) {n k : Nat}
    (hcounter : b.counter hash = UInt64.ofNat n) (hbound : n + k ≤ UInt64.size) {window : List Use}
    (hturns : turns b.strategy hash window = List.replicate k candidates) :
    given b.strategy hash b window
      = (List.range k).map fun i => candidates[(n + i) % candidates.length]? := by
  induction window generalizing b n k with
  | nil =>
    cases k with
    | zero => rfl
    | succ k => cases hturns
  | cons use rest ih =>
    unfold turns at hturns
    cases hturn : use.turn? b.strategy hash with
    | none =>
      rw [List.filterMap_cons_none hturn, ← strategy_apply b use] at hturns
      rw [← turn_passed hturn] at hcounter
      have hrest := ih (b := use.apply b) (by rwa [strategy_apply]) hcounter hbound hturns
      rw [strategy_apply] at hrest
      simp only [given, hturn]
      exact hrest
    | some listed =>
      rw [List.filterMap_cons_some hturn] at hturns
      cases k with
      | zero => cases hturns
      | succ k =>
        rw [List.replicate_succ, List.cons.injEq] at hturns
        obtain ⟨rfl, hturns⟩ := hturns
        obtain ⟨hanswer, hcount⟩ := turn_taken hb hturn
        have hnext : (use.apply b).counter hash = UInt64.ofNat (n + 1) := by
          rw [hcount, hcounter, UInt64.ofNat_add]
          rfl
        have hpoints : (b.counter hash).toNat = n := by
          rw [hcounter]
          exact UInt64.toNat_ofNat_of_lt' (by omega)
        rw [← strategy_apply b use] at hturns
        have hrest := ih (b := use.apply b) (by rwa [strategy_apply]) hnext (by omega) hturns
        rw [strategy_apply] at hrest
        simp only [given, hturn, hanswer, hpoints, hrest, List.range_succ_eq_map, List.map_cons,
          List.map_map, Nat.add_zero]
        refine congrArg (_ :: ·) (List.map_congr_left ?_)
        intro i _
        rw [Function.comp_apply, Nat.succ_eq_add_one, Nat.add_comm i 1, Nat.add_assoc]

/-- The positions from some turn on, once around. -/
theorem map_rotate (n : Nat) (candidates : List String) :
    (List.range candidates.length).map (fun i => candidates[(n + i) % candidates.length]?)
      = ((List.range candidates.length).rotate n).map fun i => candidates[i]? := by
  apply List.ext_getElem (by simp)
  intro i hi _
  simp only [List.getElem_map, List.getElem_range, List.getElem_rotate, List.length_range,
    Nat.add_comm i n]

/-- As many turns of a hash in a row over one list as the list is long give each position of
the list once, whatever was asked of the balancer before and whatever else is asked of it
between the turns, as long as the hash has no more than `2^64` turns. -/
theorem each_position_once {strategy : Strategy} (hstrategy : GivesTurns strategy)
    (exploration : Float) {before window : List Use}
    (hturns : turns strategy hash window = List.replicate candidates.length candidates)
    (hbound : (turns strategy hash before).length + candidates.length ≤ UInt64.size) :
    ∃ positions : List Nat, positions.Perm (List.range candidates.length) ∧
      given strategy hash ((ofStrategy strategy exploration).after before) window
        = positions.map fun i => candidates[i]? := by
  have hnew := strategy_ofStrategy strategy exploration
  have hzero : (ofStrategy strategy exploration).counter hash = 0 := by
    rcases hstrategy with rfl | rfl <;> rfl
  obtain ⟨hsame, hcounter⟩ :=
    counter_after (b := ofStrategy strategy exploration) (by rwa [hnew]) hash before
  rw [hnew] at hsame hcounter
  rw [hzero, UInt64.zero_add] at hcounter
  rw [← hsame] at hturns
  have hgiven := given_eq (by rwa [hsame]) hcounter hbound hturns
  rw [hsame, map_rotate] at hgiven
  exact ⟨_, List.rotate_perm _ _, hgiven⟩

/-- Two turns over two candidates after one over three, with other uses between them. -/
theorem each_position_once_interleaved :
    ∃ positions : List Nat, positions.Perm (List.range ["tcp://a:1", "tcp://b:1"].length) ∧
      given .consistentHash 7
          ((ofStrategy .consistentHash 0.0).after
            [.pick {} 7 none ["tcp://a:1", "tcp://b:1", "tcp://c:1"], .pick {} 7 none []])
          [.pick {} 7 none ["tcp://a:1", "tcp://b:1"],
            .pick {} 7 (some [104, 105]) ["tcp://a:1", "tcp://b:1"],
            .pick {} 8 none ["tcp://a:1"], .invalidate 7,
            .pick {} 7 (some []) ["tcp://a:1", "tcp://b:1"]]
        = positions.map fun i => ["tcp://a:1", "tcp://b:1"][i]? :=
  each_position_once (Or.inr rfl) 0.0 (by decide) (by decide)

end Balancer

end ServiceMesh
