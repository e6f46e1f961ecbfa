import ServiceMesh.Data.Dict

/-!
# Choosing by measured latency

Each candidate has a smoothed latency, a smoothed failure rate and a count of calls
in flight.  The candidate with the lowest predicted response time is chosen.  A
candidate that was never measured is chosen at once while it is idle; once it has
calls in flight it is priced at the mean latency of the measured candidates, so a
burst spreads over new candidates.  A share of the choices explores at random.
-/

namespace ServiceMesh

/-- One random draw: a number from 0 up to 1, and a whole number. -/
structure Draw where
  /-- The number that decides whether a choice explores. -/
  unit : Float := 0.0
  /-- The number that decides where it goes. -/
  whole : Nat := 0

instance : Inhabited Draw := ⟨{}⟩

/-- What is known about a candidate. -/
structure CandidateStats where
  /-- The smoothed latency in milliseconds. -/
  latencyMs : Float := 0.0
  /-- The smoothed share of failures. -/
  failureRate : Float := 0.0
  /-- The calls in flight.  The number stands for the calls themselves; a counter of 32 bits
  agrees with it while fewer than `2 ^ 32` calls are in flight at once, and wraps there. -/
  outstanding : Nat := 0
  /-- The calls completed.  Only whether there are any is read, and a counter of 64 bits, which
  wraps to 0 at `2 ^ 64`, agrees with that until then. -/
  samples : Nat := 0

namespace CandidateStats

instance : Inhabited CandidateStats := ⟨{}⟩

/-- The weight of a new sample. -/
def smoothing : Float := 0.3

/-- How much a failure rate of one adds to the cost. -/
def failurePenalty : Float := 10.0

/-- The predicted response time of one more call. -/
def cost (s : CandidateStats) : Float :=
  (if s.latencyMs > 0.001 then s.latencyMs else 0.001) * Float.ofNat (s.outstanding + 1)
    * (1.0 + failurePenalty * s.failureRate)

/-- Counts a call that starts. -/
def start (s : CandidateStats) : CandidateStats := { s with outstanding := s.outstanding + 1 }

/-- Moves an average towards a sample. -/
def smoothed (average sample : Float) : Float := average + smoothing * (sample - average)

/-- Counts a call that completed.  The first sample sets the averages. -/
def record (s : CandidateStats) (latencyMs : Float) (success : Bool) : CandidateStats :=
  let failed : Float := if success then 0.0 else 1.0
  { latencyMs := if s.samples = 0 then latencyMs else smoothed s.latencyMs latencyMs
    failureRate := if s.samples = 0 then failed else smoothed s.failureRate failed
    outstanding := s.outstanding - 1
    samples := s.samples + 1 }

end CandidateStats

/-- The latency in milliseconds of a duration in nanoseconds. -/
def latencyOfNanos (nanos : Nat) : Float :=
  (Float.ofNat (nanos / 1000000000) + Float.ofNat (nanos % 1000000000) / 1000000000.0) * 1000.0

/-- Choice by measured latency. -/
structure Weighted where
  /-- The share of choices that explore. -/
  exploration : Float := 0.1
  /-- What is known about each candidate. -/
  stats : Dict String CandidateStats := .empty

namespace Weighted

instance : Inhabited Weighted := ⟨{}⟩

/-- A choice without any knowledge.  The share of exploration is at least 0 and at
most 1. -/
def withExploration (share : Float) : Weighted where
  exploration := if share < 0.0 then 0.0 else if share > 1.0 then 1.0 else share

/-- What is known about a candidate, or about one that was never called. -/
def statsOf (b : Weighted) (candidate : String) : CandidateStats := b.stats.getD candidate {}

/-- The latency assumed when nothing is measured. -/
def defaultPriorMs : Float := 1.0

/-- The mean latency of the measured candidates. -/
def priorMs (b : Weighted) (candidates : List String) : Float :=
  let measured := (candidates.filterMap b.stats.get?).filter fun s => 0 < s.samples
  if measured.isEmpty then defaultPriorMs
  else measured.foldl (fun sum s => sum + s.latencyMs) 0.0 / Float.ofNat measured.length

/-- The first candidate whose cost is lowest, or the first that was never called,
starting from the best so far. -/
def cheapest (b : Weighted) (prior : Float) :
    Option (String × Float) → List String → Option String
  | best, [] => best.map (·.1)
  | best, c :: rest =>
      let s := b.statsOf c
      if s.samples = 0 ∧ s.outstanding = 0 then some c
      else
        let cost := if s.samples = 0 then { s with latencyMs := prior }.cost else s.cost
        match best with
        | none => b.cheapest prior (some (c, cost)) rest
        | some (_, least) =>
            b.cheapest prior (if cost < least then some (c, cost) else best) rest

/-- Picks a candidate. -/
def pick (b : Weighted) (draw : Draw) (candidates : List String) : Option String :=
  match candidates with
  | [] => none
  | [c] => some c
  | _ =>
      if draw.unit < b.exploration then candidates[draw.whole % candidates.length]?
      else b.cheapest (b.priorMs candidates) none candidates

/-- Counts a call that starts. -/
def start (b : Weighted) (candidate : String) : Weighted :=
  { b with stats := b.stats.insert candidate (b.statsOf candidate).start }

/-- Counts a call that completed. -/
def record (b : Weighted) (candidate : String) (latencyMs : Float) (success : Bool) : Weighted :=
  { b with stats := b.stats.insert candidate ((b.statsOf candidate).record latencyMs success) }

/-- Forgets a candidate. -/
def evict (b : Weighted) (candidate : String) : Weighted :=
  { b with stats := b.stats.erase candidate }

end Weighted

end ServiceMesh
