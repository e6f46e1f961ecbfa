import Mathlib.Logic.Relation
import ServiceMesh.Proofs.Balance.Choice
import ServiceMesh.Proofs.Balance.Statistics

/-!
# A burst over new candidates

A balancer by latency that does not explore picks the first candidate that was never called, if
there is one, whatever was measured of those before it (`Weighted.pick_of_untried`).  The costs
decide only once all were called.

In a `Burst` every pick is followed by the start of a call to the picked candidate, and calls
that started complete at any time.  A candidate was called as soon as its call has started, and
no completion makes it one that was never called.  So at any time the candidates that were never
called are those whose calls have not started (`Burst.Spreading`), and the first picks are the
candidates in order: `Burst.picks_in_order`.
-/

namespace ServiceMesh

namespace Weighted

/-- No call to a candidate was ever counted. -/
def Untried (b : Weighted) (candidate : String) : Prop :=
  (b.statsOf candidate).samples = 0 ∧ (b.statsOf candidate).outstanding = 0

section

variable {b : Weighted} {c d : String}

theorem untried_start : (b.start c).Untried d ↔ c ≠ d ∧ b.Untried d := by
  unfold Untried
  rw [statsOf_start]
  split
  · next hcd => exact iff_of_false (fun h => Nat.succ_ne_zero _ h.2) fun h => h.1 hcd
  · next hcd => exact (and_iff_right hcd).symm

theorem untried_record {latencyMs : Float} {success : Bool} :
    (b.record c latencyMs success).Untried d ↔ c ≠ d ∧ b.Untried d := by
  unfold Untried
  rw [statsOf_record]
  split
  · next hcd => exact iff_of_false (fun h => Nat.succ_ne_zero _ h.1) fun h => h.1 hcd
  · next hcd => exact (and_iff_right hcd).symm

variable {tried rest : List String}

/-- The search ends at a candidate that was never called, if all before it were. -/
theorem cheapest_append (htried : ∀ x ∈ tried, ¬b.Untried x) (hc : b.Untried c) (prior : Float) :
    ∀ best, b.cheapest prior best (tried ++ c :: rest) = some c := by
  induction tried with
  | nil =>
    intro best
    rw [List.nil_append, cheapest]
    exact if_pos hc
  | cons x tried ih =>
    intro best
    have hx : ¬((b.statsOf x).samples = 0 ∧ (b.statsOf x).outstanding = 0) :=
      htried x List.mem_cons_self
    have hrest := ih fun y hy => htried y (List.mem_cons_of_mem x hy)
    simp only [List.cons_append, cheapest, hx, if_false]
    split
    · exact hrest _
    · exact hrest _

/-- Without exploration the first candidate that was never called is picked. -/
theorem pick_of_untried (hgreedy : b.exploration = 0) (htried : ∀ x ∈ tried, ¬b.Untried x)
    (hc : b.Untried c) {draw : Draw} (hdraw : ¬draw.unit < 0) :
    b.pick draw (tried ++ c :: rest) = some c := by
  unfold Weighted.pick
  split
  · next hnil => simp at hnil
  · next x hsingle =>
    obtain ⟨rfl, hx⟩ | ⟨-, hnil⟩ := List.append_eq_singleton_iff.mp hsingle
    · cases hx
      rfl
    · cases hnil
  · rw [hgreedy, if_neg hdraw]
    exact cheapest_append htried hc _ none

end

end Weighted

/-- A balancer in use, and what it has picked so far. -/
structure Burst where
  balancer : Balancer
  /-- The picked candidates to which calls have started, in order. -/
  started : List String := []
  /-- The candidate that was picked last, if the call to it is yet to start. -/
  awaited : Option String := none

namespace Burst

open Relation (ReflTransGen)

/-- A new balancer by latency that does not explore. -/
def new : Burst where
  balancer := .ofStrategy .weightedStats 0

/-- All candidates that were picked, in order. -/
def picked (s : Burst) : List String := s.started ++ s.awaited.toList

/-- What may happen next.  A pick waits until the call to the candidate before it has started. -/
inductive Step (candidates : List String) : Burst → Burst → Prop
  | pick {s : Burst} {draw : Draw} {c : String} (hash : UInt32) (fingerprint : Option Bytes)
      (hdraw : ¬draw.unit < 0) (hidle : s.awaited = none)
      (hpick : (s.balancer.pick draw hash fingerprint candidates).1 = some c) :
      Step candidates s
        { s with
          balancer := (s.balancer.pick draw hash fingerprint candidates).2
          awaited := some c }
  | start {s : Burst} {c : String} (hawaited : s.awaited = some c) :
      Step candidates s ⟨s.balancer.start c, s.started ++ [c], none⟩
  | record {s : Burst} {c : String} (hstarted : c ∈ s.started) (latencyMs : Float)
      (success : Bool) :
      Step candidates s { s with balancer := s.balancer.record c latencyMs success }

/-- The balancer does not explore, the candidates that were called are those whose calls have
started, and the first picks were the candidates in order. -/
structure Spreading (candidates : List String) (s : Burst) : Prop where
  balancer : ∃ b, s.balancer = .weighted b ∧ b.exploration = 0 ∧
    ∀ c, b.Untried c ↔ c ∉ s.started
  inOrder : s.picked.take candidates.length = candidates.take s.picked.length

variable {candidates : List String} {s t : Burst}

theorem picked_of_idle (hidle : s.awaited = none) : s.picked = s.started := by
  simp [picked, hidle]

theorem spreading_new (candidates : List String) : new.Spreading candidates where
  balancer := ⟨_, rfl, rfl, fun _ => iff_of_true ⟨rfl, rfl⟩ List.not_mem_nil⟩
  inOrder := List.take_nil

/-- Before all candidates were picked, the next pick is the next candidate. -/
theorem Spreading.pick (h : s.Spreading candidates) (hnodup : candidates.Nodup)
    (hidle : s.awaited = none) (hleft : s.started.length < candidates.length) {draw : Draw}
    (hdraw : ¬draw.unit < 0) (hash : UInt32) (fingerprint : Option Bytes) :
    (s.balancer.pick draw hash fingerprint candidates).1 = candidates[s.started.length]? := by
  obtain ⟨b, hb, hgreedy, huntried⟩ := h.balancer
  have hstarted : s.started = candidates.take s.started.length := by
    have horder := h.inOrder
    rwa [picked_of_idle hidle, List.take_of_length_le (Nat.le_of_lt hleft)] at horder
  have hcut : candidates = s.started ++
      candidates[s.started.length] :: candidates.drop (s.started.length + 1) := by
    conv_lhs => rw [← List.take_append_drop s.started.length candidates, ← hstarted]
    rw [List.drop_eq_getElem_cons hleft]
  have hnew : candidates[s.started.length] ∉ s.started := by
    intro hmem
    exact (List.nodup_append.mp (hcut ▸ hnodup)).2.2 _ hmem _ List.mem_cons_self rfl
  rw [hb, List.getElem?_eq_getElem hleft]
  show b.pick draw candidates = _
  conv_lhs => rw [hcut]
  exact Weighted.pick_of_untried hgreedy (fun x hx hx' => (huntried x).mp hx' hx)
    ((huntried _).mpr hnew) hdraw

theorem Spreading.step (h : s.Spreading candidates) (hnodup : candidates.Nodup)
    (hstep : Step candidates s t) : t.Spreading candidates := by
  obtain ⟨b, hb, hgreedy, huntried⟩ := h.balancer
  cases hstep with
  | @pick draw c hash fingerprint hdraw hidle hpick =>
    have horder := h.inOrder
    rw [picked_of_idle hidle] at horder
    refine ⟨⟨b, by rw [hb]; rfl, hgreedy, huntried⟩, ?_⟩
    show (s.started ++ [c]).take candidates.length = candidates.take (s.started ++ [c]).length
    rw [List.length_append, List.length_singleton]
    rcases Nat.lt_or_ge s.started.length candidates.length with hleft | hall
    · rw [h.pick hnodup hidle hleft hdraw] at hpick
      rw [List.take_of_length_le (by rwa [List.length_append]), List.take_add_one, hpick, ← horder,
        List.take_of_length_le (Nat.le_of_lt hleft)]
      rfl
    · rw [List.take_append_of_le_length hall, horder, List.take_of_length_le hall,
        List.take_of_length_le (Nat.le_succ_of_le hall)]
  | @start c hawaited =>
    refine ⟨⟨b.start c, by rw [hb]; rfl, hgreedy, fun d => ?_⟩, ?_⟩
    · rw [Weighted.untried_start, huntried]
      simp [eq_comm, and_comm]
    · have hpicked : s.picked = s.started ++ [c] := by simp [picked, hawaited]
      have horder := h.inOrder
      rw [hpicked] at horder
      simpa [picked] using horder
  | @record c hstarted latencyMs success =>
    refine ⟨⟨b.record c latencyMs success, by rw [hb]; rfl, hgreedy, fun d => ?_⟩, h.inOrder⟩
    rw [Weighted.untried_record, huntried]
    apply and_iff_right_of_imp
    intro hd
    exact ne_of_mem_of_not_mem hstarted hd

theorem Spreading.run (hnodup : candidates.Nodup) (hrun : ReflTransGen (Step candidates) new s) :
    s.Spreading candidates := by
  induction hrun with
  | refl => exact spreading_new candidates
  | tail _ hstep ih => exact ih.step hnodup hstep

/-- As many picks as there are candidates are the candidates in order, whatever calls completed
meanwhile and however.  A pick that is due always succeeds. -/
theorem picks_in_order (hnodup : candidates.Nodup)
    (hrun : ReflTransGen (Step candidates) new s) :
    s.picked.take candidates.length = candidates.take s.picked.length ∧
    (candidates ≠ [] → ∀ draw hash fingerprint,
      ∃ c ∈ candidates, (s.balancer.pick draw hash fingerprint candidates).1 = some c) := by
  have hspreading := Spreading.run hnodup hrun
  refine ⟨hspreading.inOrder, ?_⟩
  intro hne draw hash fingerprint
  obtain ⟨b, hb, -, -⟩ := hspreading.balancer
  have hchoice : Choice candidates (s.balancer.pick draw hash fingerprint candidates).1 := by
    rw [hb]
    exact b.choice_pick draw candidates
  generalize (s.balancer.pick draw hash fingerprint candidates).1 = choice at hchoice ⊢
  cases hchoice with
  | picked hc => exact ⟨_, hc, rfl⟩
  | nothing hnil => exact absurd hnil hne

/-- Three new candidates are picked in order, though the call to the first has failed by then. -/
theorem three_picked_in_order :
    ["x", "y", "z"].Nodup ∧
    ∃ s, ReflTransGen (Step ["x", "y", "z"]) new s ∧ s.picked = ["x", "y", "z"] := by
  have hnodup : ["x", "y", "z"].Nodup := by decide
  have hdraw : ¬(default : Draw).unit < 0 := by decide
  have hpick {s : Burst} (h : ReflTransGen (Step ["x", "y", "z"]) new s)
      (hidle : s.awaited = none) :
      ∃ c b, ReflTransGen (Step ["x", "y", "z"]) new ⟨b, s.started, some c⟩ := by
    obtain ⟨-, hgo⟩ := picks_in_order hnodup h
    obtain ⟨c, -, hc⟩ := hgo (List.cons_ne_nil _ _) default 0 none
    exact ⟨c, _, h.tail (.pick 0 none hdraw hidle hc)⟩
  obtain ⟨x, _, hx⟩ := hpick .refl rfl
  have hfailed := (hx.tail (.start rfl)).tail (.record List.mem_cons_self 2.5 false)
  obtain ⟨y, _, hy⟩ := hpick hfailed rfl
  obtain ⟨z, _, hz⟩ := hpick (hy.tail (.start rfl)) rfl
  obtain ⟨horder, -⟩ := picks_in_order hnodup hz
  exact ⟨hnodup, _, hz, horder⟩

end Burst

end ServiceMesh
