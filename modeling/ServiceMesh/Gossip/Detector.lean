import ServiceMesh.Data.Dict

/-!
# Failure detectors

A detector hears heartbeats and says which peers are available.  Three kinds share
one interface.

* The *accrual* detector scores silence against the intervals heard so far.  The
  score `phi` is the negated decimal logarithm of the chance that a heartbeat comes
  still later, the intervals taken as normally distributed and the normal
  distribution approximated by a logistic curve.
* The *deadline* detector gives a peer a fixed time.
* The *scripted* detector is told which peers are down, and keeps a journal.

Unknown peers are available under all of them.
-/

namespace ServiceMesh

/-- The greater of two floats; a float that is no number gives way. -/
def greaterFloat (x y : Float) : Float :=
  if x.isNaN then y else if y.isNaN then x else if x < y then y else x

/-- A number of milliseconds, within 64 bits, as a float. -/
def floatOfMs (n : Nat) : Float := (UInt64.ofNat n).toFloat

/-! ## Accrual -/

/-- Settings of the accrual detector. -/
structure AccrualSettings where
  /-- The score from which a peer is down. -/
  threshold : Float := 8.0
  /-- How many intervals are kept. -/
  window : Nat := 100
  /-- The least standard deviation assumed. -/
  minStdDevMs : Float := 100.0
  /-- Silence that always counts as failure. -/
  acceptablePauseMs : Nat := 5000
  /-- The interval assumed before two are known. -/
  firstIntervalMs : Nat := 1000

/-- The heartbeats of one peer. -/
structure Heartbeats where
  /-- The time of the latest heartbeat. -/
  lastMs : Nat
  /-- The intervals kept, oldest first. -/
  intervals : List Nat := []
  /-- The sum of the intervals kept. -/
  sum : Nat := 0
  /-- The sum of their squares. -/
  sumOfSquares : Float := 0.0

namespace Heartbeats

/-- The square of an interval. -/
def square (interval : Nat) : Float := floatOfMs interval * floatOfMs interval

/-- Drops the oldest interval. -/
def dropOldest (h : Heartbeats) : Heartbeats :=
  match h.intervals with
  | [] => h
  | old :: rest =>
      { h with
        intervals := rest
        sum := h.sum - old
        sumOfSquares := h.sumOfSquares - square old }

/-- Keeps a new interval. -/
def push (h : Heartbeats) (interval : Nat) : Heartbeats :=
  { h with
    intervals := h.intervals ++ [interval]
    sum := h.sum + interval
    sumOfSquares := h.sumOfSquares + square interval }

/-- Hears a heartbeat.  One that comes from the past counts as an interval of zero. -/
def record (h : Heartbeats) (window now : Nat) : Heartbeats :=
  let kept := if window ≤ h.intervals.length then h.dropOldest else h
  { kept.push (now - h.lastMs) with lastMs := max now h.lastMs }

/-- The mean of the intervals and their standard deviation. -/
def distribution (h : Heartbeats) (settings : AccrualSettings) : Float × Float :=
  if h.intervals.length < 2 then
    let first := floatOfMs settings.firstIntervalMs
    (first, greaterFloat (first / 4.0) settings.minStdDevMs)
  else
    let n := floatOfMs h.intervals.length
    let mean := floatOfMs h.sum / n
    let variance := greaterFloat (h.sumOfSquares / n - mean * mean) 0.0
    (mean, greaterFloat variance.sqrt settings.minStdDevMs)

end Heartbeats

/-- The least positive normal float. -/
def leastPositive : Float := Float.ofBits 0x0010000000000000

/-- The score of a silence. -/
def accrualScore (silence mean stdDev : Float) : Float :=
  let y := (silence - mean) / stdDev
  let e := (-y * (1.5976 + 0.070566 * y * y)).exp
  let later := if silence > mean then e / (1.0 + e) else 1.0 - 1.0 / (1.0 + e)
  Float.neg (greaterFloat later leastPositive).log10

/-- The float above all others. -/
def infinity : Float := 1.0 / 0.0

/-! ## The three kinds -/

/-- A failure detector and what it heard. -/
inductive Detector where
  | accrual (settings : AccrualSettings) (heard : Dict String Heartbeats)
  | deadline (timeoutMs : Nat) (lastSeen : Dict String Nat)
  | scripted (down journal : List String)

namespace Detector

/-- An accrual detector that heard nothing. -/
def ofAccrual (settings : AccrualSettings) : Detector := accrual settings .empty

/-- A deadline detector that heard nothing.  A peer has at least one millisecond. -/
def ofDeadline (timeoutMs : Nat) : Detector := deadline (max timeoutMs 1) .empty

/-- Hears a heartbeat. -/
def heartbeat (d : Detector) (peer : String) (now : Nat) : Detector :=
  match d with
  | accrual settings heard =>
      accrual settings (heard.insert peer (match heard.get? peer with
        | some h => h.record settings.window now
        | none => { lastMs := now }))
  | deadline timeoutMs lastSeen =>
      deadline timeoutMs (lastSeen.insert peer (max (lastSeen.getD peer now) now))
  | scripted down journal => scripted down (journal ++ ["heartbeat " ++ peer])

/-- Forgets a peer. -/
def forget (d : Detector) (peer : String) : Detector :=
  match d with
  | accrual settings heard => accrual settings (heard.erase peer)
  | deadline timeoutMs lastSeen => deadline timeoutMs (lastSeen.erase peer)
  | scripted down journal => scripted down (journal ++ ["forget " ++ peer])

/-- How much a peer is suspected. -/
def phi (d : Detector) (peer : String) (now : Nat) : Float :=
  match d with
  | accrual settings heard =>
      match heard.get? peer with
      | none => 0.0
      | some h =>
          let silence := now - h.lastMs
          if settings.acceptablePauseMs < silence then infinity
          else
            let (mean, stdDev) := h.distribution settings
            accrualScore (floatOfMs silence) mean stdDev
  | deadline timeoutMs lastSeen =>
      match lastSeen.get? peer with
      | none => 0.0
      | some last => floatOfMs (now - last) / floatOfMs timeoutMs
  | scripted down _ => if peer ∈ down then infinity else 0.0

/-- Whether a peer counts as alive. -/
def isAvailable (d : Detector) (peer : String) (now : Nat) : Bool :=
  match d with
  | accrual settings _ => d.phi peer now < settings.threshold
  | deadline timeoutMs lastSeen =>
      match lastSeen.get? peer with
      | none => true
      | some last => decide (now - last ≤ timeoutMs)
  | scripted down _ => peer ∉ down

/-- Names the peers that are down, if the detector goes by a script. -/
def script (d : Detector) (down : List String) : Detector :=
  match d with
  | scripted _ journal => scripted down journal
  | other => other

/-- The journal of a detector that keeps one. -/
def journal? : Detector → Option (List String)
  | scripted _ journal => some journal
  | _ => none

/-- Starts a new journal. -/
def clearJournal : Detector → Detector
  | scripted down _ => scripted down []
  | other => other

end Detector

end ServiceMesh
