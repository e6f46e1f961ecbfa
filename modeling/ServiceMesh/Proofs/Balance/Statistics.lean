import Mathlib.Data.List.Induction
import ServiceMesh.Balance.Balancer
import ServiceMesh.Proofs.Dict

/-!
# Of whom a balancer keeps statistics

A balancer by latency is told three things, by whoever it balances for: that a call to a
candidate started, that one completed, and that candidates are gone (`Note`).  What starts a
call and what completes one enters the candidate if it is not known, and what says that it is
gone drops it (`Balancer.isSome_hear`).  The calls in flight to a candidate are never fewer
than its statistics count (`Balancer.Covered.hear`).

A `Reporter` tells its balancer at each step one of these things, and tells that a candidate
is gone exactly when it is.  A call that starts or completes after its candidate is gone enters
the candidate again, and nobody takes it out.  So the statistics of candidates that are gone
are exactly those of candidates that were called when they were gone already, and have not
come back since: `Reporter.isSome_run_iff`.
-/

namespace ServiceMesh

/-! ## What is known of a candidate -/

namespace Weighted

variable (b : Weighted) (c d : String)

theorem statsOf_start :
    (b.start c).statsOf d = if c = d then (b.statsOf c).start else b.statsOf d := by
  unfold start statsOf Dict.getD
  rw [Dict.get?_insert]
  split
  · rfl
  · rfl

theorem statsOf_record (latencyMs : Float) (success : Bool) :
    (b.record c latencyMs success).statsOf d
      = if c = d then (b.statsOf c).record latencyMs success else b.statsOf d := by
  unfold record statsOf Dict.getD
  rw [Dict.get?_insert]
  split
  · rfl
  · rfl

theorem get?_foldl_evict (gone : List String) :
    (gone.foldl evict b).stats.get? d = if d ∈ gone then none else b.stats.get? d := by
  rw [← Dict.get?_foldl_erase]
  congr 1
  induction gone generalizing b with
  | nil => rfl
  | cons x rest ih => exact ih (b.evict x)

end Weighted

/-! ## What a balancer is told -/

/-- What a balancer is told of candidates. -/
inductive Note where
  /-- A call started. -/
  | started (candidate : String)
  /-- A call completed. -/
  | completed (candidate : String) (latencyMs : Float) (success : Bool)
  /-- Candidates are gone. -/
  | left (gone : List String)

namespace Note

/-- The candidate of the call that started or completed. -/
def called? : Note → Option String
  | started c => some c
  | completed c _ _ => some c
  | left _ => none

/-- The candidates that are gone. -/
def gone : Note → List String
  | left gone => gone
  | _ => []

theorem called?_of_mem_gone {n : Note} {c : String} (h : c ∈ n.gone) : n.called? = none := by
  cases n with
  | left gone => rfl
  | started d => cases h
  | completed d latencyMs success => cases h

/-- The candidates of the calls in flight, each as often as there are calls to it. -/
def flights (inFlight : List String) : Note → List String
  | started c => c :: inFlight
  | completed c _ _ => inFlight.erase c
  | left _ => inFlight

end Note

namespace Balancer

/-- The balancer once it was told. -/
def hear (b : Balancer) : Note → Balancer
  | .started c => b.start c
  | .completed c latencyMs success => b.record c latencyMs success
  | .left gone => gone.foldl evict b

theorem foldl_evict_weighted (gone : List String) :
    ∀ state : Weighted,
      gone.foldl evict (weighted state) = weighted (gone.foldl Weighted.evict state) := by
  induction gone with
  | nil =>
    intro _
    rfl
  | cons c rest ih =>
    intro state
    exact ih (state.evict c)

variable {b : Balancer}

theorem eq_weighted (h : b.strategy = .weightedStats) : ∃ state, b = weighted state := by
  cases b with
  | weighted state => exact ⟨state, rfl⟩
  | roundRobin state => cases h
  | random => cases h
  | consistentHash state => cases h

theorem strategy_hear (h : b.strategy = .weightedStats) (n : Note) :
    (b.hear n).strategy = .weightedStats := by
  obtain ⟨state, rfl⟩ := eq_weighted h
  cases n with
  | started c => rfl
  | completed c latencyMs success => rfl
  | left gone =>
    rw [hear, foldl_evict_weighted]
    rfl

/-- There are statistics of a candidate after a note exactly if the note is of a call to it, or
there were before and the candidate is not gone. -/
theorem isSome_hear (h : b.strategy = .weightedStats) (n : Note) (c : String) :
    ((b.hear n).statsOf? c).isSome
      ↔ n.called? = some c ∨ (b.statsOf? c).isSome ∧ c ∉ n.gone := by
  obtain ⟨state, rfl⟩ := eq_weighted h
  cases n with
  | started d =>
    simp only [hear, start, statsOf?, Weighted.start, Dict.get?_insert, Note.called?, Note.gone]
    split
    · simp [*]
    · simp [*]
  | completed d latencyMs success =>
    simp only [hear, record, statsOf?, Weighted.record, Dict.get?_insert, Note.called?, Note.gone]
    split
    · simp [*]
    · simp [*]
  | left gone =>
    simp only [hear, foldl_evict_weighted, statsOf?, Weighted.get?_foldl_evict, Note.called?,
      Note.gone]
    split
    · simp [*]
    · simp [*]

/-- No more calls to each candidate are counted than are in flight. -/
def Covered (b : Balancer) (inFlight : List String) : Prop :=
  ∀ c stats, b.statsOf? c = some stats → stats.outstanding ≤ inFlight.count c

theorem Covered.hear {inFlight : List String} (h : b.strategy = .weightedStats)
    (hb : b.Covered inFlight) (n : Note) : (b.hear n).Covered (n.flights inFlight) := by
  obtain ⟨state, rfl⟩ := eq_weighted h
  have hcount (c : String) : (state.statsOf c).outstanding ≤ inFlight.count c := by
    unfold Weighted.statsOf Dict.getD
    cases hc : state.stats.get? c with
    | none => exact Nat.zero_le _
    | some stats => exact hb c stats hc
  intro c stats hstats
  cases n with
  | started d =>
    simp only [Balancer.hear, start, statsOf?, Weighted.start, Dict.get?_insert] at hstats
    split at hstats
    · next hd =>
      cases hstats
      subst hd
      rw [Note.flights, List.count_cons_self]
      exact Nat.succ_le_succ (hcount d)
    · next hd =>
      rw [Note.flights, List.count_cons_of_ne hd]
      exact hb c stats hstats
  | completed d latencyMs success =>
    simp only [Balancer.hear, record, statsOf?, Weighted.record, Dict.get?_insert] at hstats
    split at hstats
    · next hd =>
      cases hstats
      subst hd
      rw [Note.flights, List.count_erase_self]
      exact Nat.sub_le_sub_right (hcount d) 1
    · next hd =>
      rw [Note.flights, List.count_erase_of_ne (Ne.symm hd)]
      exact hb c stats hstats
  | left gone =>
    simp only [Balancer.hear, foldl_evict_weighted, statsOf?, Weighted.get?_foldl_evict] at hstats
    split at hstats
    · cases hstats
    · exact hb c stats hstats

end Balancer

/-! ## Whoever tells it -/

/-- Something that tells a balancer what happens to its candidates. -/
structure Reporter (σ μ : Type) where
  /-- What becomes of it by a move. -/
  step : σ → μ → σ
  /-- The balancer. -/
  balancer : σ → Balancer
  /-- A candidate is there. -/
  Here : σ → String → Prop
  /-- What is told of a move. -/
  note : σ → μ → Note
  hears : ∀ {s}, (balancer s).strategy = .weightedStats →
    ∀ m, balancer (step s m) = (balancer s).hear (note s m)
  gone_iff : ∀ s m c, c ∈ (note s m).gone ↔ Here s c ∧ ¬Here (step s m) c

namespace Reporter

variable {σ μ : Type} (R : Reporter σ μ)

/-- What becomes of it by moves one after the other. -/
def run (s : σ) (moves : List μ) : σ := moves.foldl R.step s

/-- What is told of moves one after the other. -/
def notes (s : σ) : List μ → List Note
  | [] => []
  | m :: rest => R.note s m :: notes (R.step s m) rest

/-- The candidates of the calls in flight after moves. -/
def inFlight (s : σ) (moves : List μ) : List String := (R.notes s moves).foldl Note.flights []

/-- A call to a candidate started or completed when the candidate was gone, and the candidate
has not come back since. -/
def CalledGone (s : σ) (moves : List μ) (c : String) : Prop :=
  ∃ k m, moves[k]? = some m ∧ (R.note (R.run s (moves.take k)) m).called? = some c ∧
    ∀ i, k ≤ i → ¬R.Here (R.run s (moves.take i)) c

section

variable {R}

theorem run_concat (s : σ) (moves : List μ) (m : μ) :
    R.run s (moves ++ [m]) = R.step (R.run s moves) m := List.foldl_append

theorem notes_concat (moves : List μ) (m : μ) :
    ∀ s, R.notes s (moves ++ [m]) = R.notes s moves ++ [R.note (R.run s moves) m] := by
  induction moves with
  | nil =>
    intro _
    rfl
  | cons first rest ih =>
    intro s
    exact congrArg (R.note s first :: ·) (ih (R.step s first))

theorem inFlight_concat (s : σ) (moves : List μ) (m : μ) :
    R.inFlight s (moves ++ [m]) = (R.note (R.run s moves) m).flights (R.inFlight s moves) := by
  rw [inFlight, notes_concat, List.foldl_append]
  rfl

variable {s : σ} (hs : (R.balancer s).strategy = .weightedStats)

include hs

theorem strategy_run (moves : List μ) : (R.balancer (R.run s moves)).strategy = .weightedStats := by
  induction moves using List.reverseRecOn with
  | nil => exact hs
  | append_singleton moves m ih =>
    rw [run_concat, R.hears ih]
    exact Balancer.strategy_hear ih _

/-- Never are more calls counted than are in flight. -/
theorem covered_run (hnew : ∀ c, (R.balancer s).statsOf? c = none) (moves : List μ) :
    (R.balancer (R.run s moves)).Covered (R.inFlight s moves) := by
  induction moves using List.reverseRecOn with
  | nil =>
    intro c stats h
    cases (hnew c).symm.trans h
  | append_singleton moves m ih =>
    rw [run_concat, inFlight_concat, R.hears (strategy_run hs moves)]
    exact ih.hear (strategy_run hs moves) _

omit hs in
/-- A candidate that is gone after a move was called when it was gone, if it was away before the
move too, and was called by the move or so before it. -/
theorem calledGone_concat {moves : List μ} {m : μ} {c : String}
    (hgone : ¬R.Here (R.run s (moves ++ [m])) c) :
    R.CalledGone s (moves ++ [m]) c ↔ ¬R.Here (R.run s moves) c ∧
      ((R.note (R.run s moves) m).called? = some c ∨ R.CalledGone s moves c) := by
  have hshort {i : Nat} (hi : i ≤ moves.length) : (moves ++ [m]).take i = moves.take i :=
    List.take_append_of_le_length hi
  have hlong {i : Nat} (hi : moves.length < i) : (moves ++ [m]).take i = moves ++ [m] :=
    List.take_of_length_le (by simpa [Nat.succ_le_iff] using hi)
  constructor
  · rintro ⟨k, m', hm', hcalled, haway⟩
    have hk : k ≤ moves.length := by
      obtain ⟨hlt, -⟩ := List.getElem?_eq_some_iff.mp hm'
      simpa [Nat.lt_succ_iff] using hlt
    have hbefore := haway moves.length hk
    rw [hshort (Nat.le_refl _), List.take_length] at hbefore
    refine ⟨hbefore, ?_⟩
    rw [hshort hk] at hcalled
    rcases Nat.eq_or_lt_of_le hk with rfl | hlt
    · left
      rw [List.getElem?_concat_length] at hm'
      cases hm'
      rwa [List.take_length] at hcalled
    · right
      rw [List.getElem?_append_left hlt] at hm'
      refine ⟨k, m', hm', hcalled, ?_⟩
      intro i hi
      rcases Nat.le_total i moves.length with hle | hle
      · rw [← hshort hle]
        exact haway i hi
      · rw [List.take_of_length_le hle]
        exact hbefore
  · rintro ⟨hbefore, hcalled | ⟨k, m', hm', hcalled, haway⟩⟩
    · refine ⟨moves.length, m, List.getElem?_concat_length, ?_, fun i hi => ?_⟩
      · rwa [hshort (Nat.le_refl _), List.take_length]
      · rcases Nat.eq_or_lt_of_le hi with rfl | hlt
        · rwa [hshort (Nat.le_refl _), List.take_length]
        · rwa [hlong hlt]
    · obtain ⟨hlt, -⟩ := List.getElem?_eq_some_iff.mp hm'
      refine ⟨k, m', (List.getElem?_append_left hlt).trans hm', ?_, fun i hi => ?_⟩
      · rwa [hshort (Nat.le_of_lt hlt)]
      · rcases Nat.lt_or_ge moves.length i with hlong' | hle
        · rwa [hlong hlong']
        · rw [hshort hle]
          exact haway i hi

/-- The candidates that are gone and of which there are statistics are those that were called when
they were gone.  A move by which a candidate leaves is no call to it. -/
theorem isSome_run_iff (hnew : ∀ c, (R.balancer s).statsOf? c = none) (moves : List μ)
    {c : String} (hgone : ¬R.Here (R.run s moves) c) :
    ((R.balancer (R.run s moves)).statsOf? c).isSome ↔ R.CalledGone s moves c := by
  induction moves using List.reverseRecOn with
  | nil =>
    refine iff_of_false ?_ ?_
    · intro h
      rw [run, List.foldl_nil, hnew c] at h
      cases h
    · rintro ⟨k, m, hm, -⟩
      cases hm
  | append_singleton moves m ih =>
    rw [calledGone_concat hgone, run_concat, R.hears (strategy_run hs moves),
      Balancer.isSome_hear (strategy_run hs moves)]
    rw [run_concat] at hgone
    by_cases hhere : R.Here (R.run s moves) c
    · have hleft := (R.gone_iff _ m c).mpr ⟨hhere, hgone⟩
      refine iff_of_false ?_ fun h => h.1 hhere
      rintro (hcalled | ⟨-, hstays⟩)
      · rw [Note.called?_of_mem_gone hleft] at hcalled
        cases hcalled
      · exact hstays hleft
    · have hstays : c ∉ (R.note (R.run s moves) m).gone := by
        intro hleft
        exact hhere ((R.gone_iff _ m c).mp hleft).1
      rw [ih hhere]
      constructor
      · intro h
        exact ⟨hhere, h.imp_right And.left⟩
      · intro h
        apply h.2.imp_right
        intro hcalled
        exact ⟨hcalled, hstays⟩

/-- No calls are counted, and of the candidates that are gone there are statistics exactly if
they were called when they were gone. -/
def Follows (R : Reporter σ μ) (s : σ) (moves : List μ) : Prop :=
  (∀ c stats, (R.balancer (R.run s moves)).statsOf? c = some stats → stats.outstanding = 0) ∧
  ∀ c, ¬R.Here (R.run s moves) c →
    (((R.balancer (R.run s moves)).statsOf? c).isSome ↔ R.CalledGone s moves c)

/-- While no call is in flight, the statistics follow the candidates. -/
theorem follows (hnew : ∀ c, (R.balancer s).statsOf? c = none) {moves : List μ}
    (hidle : R.inFlight s moves = []) : R.Follows s moves := by
  refine ⟨?_, fun c => isSome_run_iff hs hnew moves⟩
  intro c stats hstats
  have hcovered := covered_run hs hnew moves c stats hstats
  rw [hidle] at hcovered
  exact Nat.le_zero.mp hcovered

end

end Reporter

end ServiceMesh
