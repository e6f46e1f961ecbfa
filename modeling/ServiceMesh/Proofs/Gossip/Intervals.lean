import Mathlib.Algebra.Ring.Nat
import ServiceMesh.Proofs.Gossip.Heartbeats

/-!
# The intervals between heartbeats

An accrual detector keeps the latest intervals between the heartbeats of a peer, and their sum.
The clock that the heartbeats are timed by may be set back, and a heartbeat that seems to come
before the latest one counts as an interval of zero.  So each interval says how far the largest
time so far has moved (`Heartbeats.gaps`), and the sum of those kept says how far it has moved
since the oldest of them began (`Heartbeats.sum_take_gaps`): it is at most the largest time.

The sum is kept up to date by one subtraction and one addition for each heartbeat.  That it is
what the intervals add up to is part of the invariant `Heartbeats.Follows`, which each heartbeat
keeps.  It follows that the subtraction stays at or above zero, and that the addition stays within
64 bits if the times do (`Detector.interval_sums_safe`).
-/

namespace ServiceMesh

namespace Heartbeats

/-! ## Intervals -/

/-- How far each heartbeat moved the largest time, for heartbeats at these times.  The latest
comes first.  The first heartbeat of all moved nothing. -/
def gaps : List Nat → List Nat
  | [] => []
  | now :: earlier =>
      match earlier.max? with
      | some last => (now - last) :: gaps earlier
      | none => []

theorem gaps_cons {earlier : List Nat} {last : Nat} (now : Nat) (h : earlier.max? = some last) :
    gaps (now :: earlier) = (now - last) :: gaps earlier := by
  rw [gaps, h]

theorem length_gaps (times : List Nat) : (gaps times).length = times.length - 1 := by
  induction times with
  | nil => rfl
  | cons now earlier ih =>
    cases hlast : earlier.max? with
    | none =>
      obtain rfl := List.max?_eq_none_iff.mp hlast
      rfl
    | some last =>
      have hpos : 0 < earlier.length := by
        apply List.length_pos_iff.mpr
        intro hnil
        simp [hnil] at hlast
      rw [gaps_cons now hlast, List.length_cons, ih, List.length_cons]
      omega

/-- The intervals of the last heartbeats say how far these moved the largest time. -/
theorem sum_take_gaps {times : List Nat} {k first last : Nat} (hlast : times.max? = some last)
    (hfirst : (times.drop k).max? = some first) : ((gaps times).take k).sum + first = last := by
  induction times generalizing k last with
  | nil => simp at hlast
  | cons now earlier ih =>
    cases k with
    | zero =>
      cases hfirst.symm.trans hlast
      simp
    | succ k =>
      rw [List.drop_succ_cons] at hfirst
      obtain ⟨before, hbefore⟩ : ∃ before, earlier.max? = some before := by
        apply Option.ne_none_iff_exists'.mp
        intro hnone
        simp [List.max?_eq_none_iff.mp hnone] at hfirst
      have hsum := ih hbefore hfirst
      have hmax : last = max now before := by
        simpa [hbefore, eq_comm] using hlast
      rw [gaps_cons now hbefore, List.take_succ_cons, List.sum_cons]
      omega

/-! ## One heartbeat -/

/-- What is kept of a history when a new interval comes. -/
def makeRoom (window : Nat) (h : Heartbeats) : Heartbeats :=
  if window ≤ h.intervals.length then h.dropOldest else h

theorem intervals_record (h : Heartbeats) (window now : Nat) :
    (h.record window now).intervals = (h.makeRoom window).intervals ++ [now - h.lastMs] := rfl

theorem sum_record (h : Heartbeats) (window now : Nat) :
    (h.record window now).sum = (h.makeRoom window).sum + (now - h.lastMs) := rfl

theorem lastMs_record (h : Heartbeats) (window now : Nat) :
    (h.record window now).lastMs = max now h.lastMs := rfl

theorem intervals_dropOldest (h : Heartbeats) : h.dropOldest.intervals = h.intervals.tail := by
  unfold dropOldest
  split
  · next hnil => rw [hnil, List.tail_nil]
  · next hcons => rw [hcons, List.tail_cons]

theorem sum_dropOldest {h : Heartbeats} (hsum : h.sum = h.intervals.sum) :
    h.dropOldest.sum = h.dropOldest.intervals.sum := by
  rw [intervals_dropOldest]
  unfold dropOldest
  split
  · next hnil => rw [hsum, hnil, List.tail_nil]
  · next oldest rest hcons =>
    rw [hcons, List.sum_cons] at hsum
    rw [hcons, List.tail_cons]
    exact Nat.sub_eq_of_eq_add (by omega)

/-- What a detector knows of a peer that was heard at these times, the latest first, if it keeps
so many intervals. -/
structure Follows (window : Nat) (times : List Nat) (h : Heartbeats) : Prop where
  /-- The time kept is the largest. -/
  latest : times.max? = some h.lastMs
  /-- The intervals kept are the latest.  One is kept even if the window is empty. -/
  kept : h.intervals.reverse = (gaps times).take (max window 1)
  /-- The sum kept is that of the intervals kept. -/
  sum : h.sum = h.intervals.sum

namespace Follows

variable {window : Nat} {times : List Nat} {h : Heartbeats}

theorem length_le (hf : Follows window times h) : h.intervals.length ≤ max window 1 := by
  rw [← List.length_reverse, hf.kept]
  exact List.length_take_le _ _

/-- Once there is room, the intervals kept are the latest but for one place in the window. -/
theorem makeRoom_kept (hf : Follows window times h) :
    (h.makeRoom window).intervals.reverse = (gaps times).take (max window 1 - 1) := by
  have hlength : h.intervals.length = min (max window 1) (gaps times).length := by
    rw [← List.length_reverse, hf.kept, List.length_take]
  unfold makeRoom
  split
  · next hfull =>
    rw [intervals_dropOldest, ← List.dropLast_reverse, hf.kept]
    rcases Nat.eq_zero_or_pos (gaps times).length with hnone | hsome
    · simp [List.eq_nil_of_length_eq_zero hnone]
    · rw [List.dropLast_eq_take, List.take_take, List.length_take]
      congr 1
      omega
  · next hroom =>
    rw [hf.kept, List.take_of_length_le (by omega), List.take_of_length_le (by omega)]

theorem sum_makeRoom (hf : Follows window times h) :
    (h.makeRoom window).sum = (h.makeRoom window).intervals.sum := by
  unfold makeRoom
  split
  · exact sum_dropOldest hf.sum
  · exact hf.sum

/-- Each heartbeat keeps the invariant. -/
theorem record (hf : Follows window times h) (now : Nat) :
    Follows window (now :: times) (h.record window now) where
  latest := by
    rw [List.max?_cons, hf.latest, lastMs_record]
    rfl
  kept := by
    obtain ⟨places, hplaces⟩ : ∃ places, max window 1 = places + 1 :=
      Nat.exists_eq_add_one.mpr (by omega)
    rw [intervals_record, List.reverse_append, hf.makeRoom_kept, gaps_cons now hf.latest, hplaces,
      List.take_succ_cons]
    rfl
  sum := by
    rw [sum_record, intervals_record, hf.sum_makeRoom, List.sum_append, List.sum_singleton]

theorem first (window now : Nat) : Follows window [now] { lastMs := now } where
  latest := rfl
  kept := List.take_nil.symm
  sum := rfl

end Follows

/-! ## All heartbeats -/

/-- What a detector knows of a peer that was heard at these times, the latest first. -/
def after (window : Nat) : List Nat → Option Heartbeats
  | [] => none
  | now :: earlier =>
      some (match after window earlier with
        | some h => h.record window now
        | none => { lastMs := now })

theorem after_eq_none_iff (window : Nat) (times : List Nat) :
    after window times = none ↔ times = [] := by
  cases times with
  | nil => simp [after]
  | cons now earlier => simp [after]

theorem follows_after {window : Nat} {times : List Nat} {h : Heartbeats}
    (hafter : after window times = some h) : Follows window times h := by
  induction times generalizing h with
  | nil => cases hafter
  | cons now earlier ih =>
    cases hearlier : after window earlier with
    | none =>
      obtain rfl := (after_eq_none_iff window earlier).mp hearlier
      cases hafter
      exact .first window now
    | some before =>
      rw [after, hearlier] at hafter
      cases hafter
      exact (ih hearlier).record now

/-- The sum says how far the largest time moved since the oldest interval kept began. -/
theorem sum_eq_sub {window : Nat} {times : List Nat} {h : Heartbeats}
    (hafter : after window times = some h) :
    ∃ before, after window (times.drop h.intervals.length) = some before ∧
      before.lastMs ≤ h.lastMs ∧ h.sum = h.lastMs - before.lastMs := by
  have hf := follows_after hafter
  have hkept : h.intervals.reverse = (gaps times).take h.intervals.length := by
    have hprefix : h.intervals.reverse <+: gaps times := hf.kept ▸ List.take_prefix _ _
    rw [← List.length_reverse]
    exact List.prefix_iff_eq_take.mp hprefix
  have hlt : h.intervals.length < times.length := by
    have hpos : 0 < times.length := by
      apply List.length_pos_iff.mpr
      intro hnil
      cases hafter.symm.trans ((after_eq_none_iff window times).mpr hnil)
    have hle := congrArg List.length hkept
    rw [List.length_reverse, List.length_take, length_gaps] at hle
    omega
  obtain ⟨before, hbefore⟩ :
      ∃ before, after window (times.drop h.intervals.length) = some before := by
    apply Option.ne_none_iff_exists'.mp
    intro hnone
    have hnil := List.drop_eq_nil_iff.mp ((after_eq_none_iff window _).mp hnone)
    omega
  have hsum := sum_take_gaps hf.latest (follows_after hbefore).latest
  rw [← hkept, List.sum_reverse, ← hf.sum] at hsum
  exact ⟨before, hbefore, by omega, by omega⟩

/-! ## Within 64 bits -/

/-- A heartbeat takes no more off the sum than it holds, and makes no sum that is too large for 64
bits. -/
structure RecordsInWord (h : Heartbeats) (window now : Nat) : Prop where
  /-- The interval that makes room for the new one is at most the sum. -/
  drops : ∀ oldest ∈ h.intervals.head?, window ≤ h.intervals.length → oldest ≤ h.sum
  /-- What is left of the sum and the new interval fit 64 bits. -/
  adds : (h.makeRoom window).sum + (now - h.lastMs) < 2 ^ 64

theorem recordsInWord {window : Nat} {times : List Nat} {h : Heartbeats} {now : Nat}
    (hafter : after window times = some h) (hword : ∀ time ∈ times, time < 2 ^ 64)
    (hnow : now < 2 ^ 64) : h.RecordsInWord window now where
  drops oldest holdest _ := by
    obtain ⟨rest, hcons⟩ := List.head?_eq_some_iff.mp holdest
    rw [(follows_after hafter).sum, hcons, List.sum_cons]
    exact Nat.le_add_right _ _
  adds := by
    have hrecord : after window (now :: times) = some (h.record window now) := by
      rw [after, hafter]
    obtain ⟨before, -, -, hsum⟩ := sum_eq_sub hrecord
    have hlast : h.lastMs < 2 ^ 64 := hword _ (List.max?_mem (follows_after hafter).latest)
    rw [← sum_record, hsum, lastMs_record]
    omega

end Heartbeats

/-! ## Detectors -/

namespace Detector

/-- What an accrual detector knows of a peer. -/
def history? (d : Detector) (peer : String) : Option Heartbeats :=
  match d with
  | accrual _ heard => heard.get? peer
  | _ => none

/-- An accrual detector that was told some signs knows of each peer what the times at which it was
heard make of it. -/
theorem foldl_tell_accrual (settings : AccrualSettings) (signs : List Sign) :
    ∃ heard, signs.foldl tell (ofAccrual settings) = accrual settings heard ∧
      ∀ peer, heard.get? peer = Heartbeats.after settings.window (times signs peer) := by
  induction signs using List.reverseRecOn with
  | nil =>
    refine ⟨.empty, rfl, ?_⟩
    intro _
    rfl
  | append_singleton signs sign ih =>
    obtain ⟨heard, htold, hafter⟩ := ih
    rw [List.foldl_append, htold]
    cases sign with
    | heard other now =>
      refine ⟨_, rfl, ?_⟩
      intro peer
      rw [times_heard, Dict.get?_insert]
      split
      · next hpeer =>
        subst hpeer
        rw [hafter]
        rfl
      · exact hafter peer
    | forgotten other =>
      refine ⟨_, rfl, ?_⟩
      intro peer
      rw [times_forgotten, Dict.get?_erase]
      split
      · rfl
      · exact hafter peer

/-- An accrual detector knows of a peer what the times at which it was heard make of it.  Of the
intervals it keeps the latest, as many as its window allows and one in any case.  Their sum, which
it keeps too, says how far the largest time moved since the oldest of them began.  So the next
heartbeat takes no more off the sum than it holds, and makes no sum that is too large for 64 bits.
The peer may be heard at any times, in any order, and others may be heard and forgotten in
between. -/
theorem interval_sums_safe (settings : AccrualSettings) (signs : List Sign) (peer : String)
    (hword : ∀ time ∈ times signs peer, time < 2 ^ 64) :
    let d := signs.foldl tell (ofAccrual settings)
    let heard := times signs peer
    d.history? peer = Heartbeats.after settings.window heard ∧
    (d.history? peer = none ↔ heard = []) ∧
    ∀ h, d.history? peer = some h →
      heard.max? = some h.lastMs ∧
      h.intervals.reverse = (Heartbeats.gaps heard).take (max settings.window 1) ∧
      h.intervals.length ≤ max settings.window 1 ∧
      h.sum = h.intervals.sum ∧
      (∃ before, Heartbeats.after settings.window (heard.drop h.intervals.length) = some before ∧
        before.lastMs ≤ h.lastMs ∧ h.sum = h.lastMs - before.lastMs) ∧
      ∀ now < 2 ^ 64, h.RecordsInWord settings.window now ∧
        (d.heartbeat peer now).history? peer = some (h.record settings.window now) := by
  intro d heard
  obtain ⟨histories, htold, hafter⟩ := foldl_tell_accrual settings signs
  have hd : d = accrual settings histories := htold
  have hhistory : d.history? peer = Heartbeats.after settings.window heard := by
    rw [hd]
    exact hafter peer
  have hnone : d.history? peer = none ↔ heard = [] := by
    rw [hhistory]
    exact Heartbeats.after_eq_none_iff settings.window heard
  refine ⟨hhistory, hnone, ?_⟩
  intro h hh
  have hheard := hhistory.symm.trans hh
  have hf := Heartbeats.follows_after hheard
  refine ⟨hf.latest, hf.kept, hf.length_le, hf.sum, Heartbeats.sum_eq_sub hheard, ?_⟩
  intro now hnow
  refine ⟨Heartbeats.recordsInWord hheard hword hnow, ?_⟩
  have hget : histories.get? peer = some h := (hafter peer).trans hheard
  rw [hd]
  simp only [heartbeat, history?, Dict.get?_insert_self, hget]

/-- A peer that was heard again at an earlier time than before, and at last at the largest time of
64 bits.  Of its three intervals two are kept. -/
theorem interval_sums_setBack :
    let signs : List Sign := [.heard "b2" 5000, .heard "b3" 7000, .heard "b2" 4000,
      .heard "b2" 9000, .heard "b2" 18446744073709551615]
    ∃ h, (signs.foldl tell (ofAccrual { window := 2 })).history? "b2" = some h ∧
      h.lastMs = 18446744073709551615 ∧ h.intervals = [4000, 18446744073709542615] ∧
      h.sum = 18446744073709546615 ∧ h.RecordsInWord 2 6000 := by
  intro signs
  have htimes : times signs "b2" = [18446744073709551615, 9000, 4000, 5000] := by decide
  obtain ⟨-, hnone, hsome⟩ := interval_sums_safe { window := 2 } signs "b2" (by rw [htimes]; decide)
  obtain ⟨h, hh⟩ := Option.ne_none_iff_exists'.mp (mt hnone.mp (by rw [htimes]; decide))
  obtain ⟨hlast, hkept, -, hsum, -, hnext⟩ := hsome h hh
  rw [htimes] at hlast hkept
  have hintervals : h.intervals = [4000, 18446744073709542615] := by
    rw [← List.reverse_reverse h.intervals, hkept]
    rfl
  refine ⟨h, hh, (Option.some.inj hlast).symm, hintervals, ?_, (hnext 6000 (by decide)).1⟩
  rw [hsum, hintervals]
  rfl

end Detector

end ServiceMesh
