import ServiceMesh.Balance.HashRing
import ServiceMesh.Balance.Strategy
import ServiceMesh.Balance.Weighted

/-!
# Balancers

A `Balancer` picks one of the candidates at hand for each call.  What it knows, it
knows by itself: two balancers never share counters, rings or measurements.
-/

namespace ServiceMesh

/-- The state of a balancing strategy. -/
inductive Balancer where
  | roundRobin (state : RoundRobin)
  | random
  | consistentHash (state : RingBalancer)
  | weighted (state : Weighted)

namespace Balancer

/-- A new balancer.  The share of exploration is for the choice by latency. -/
def ofStrategy (strategy : Strategy) (exploration : Float) : Balancer :=
  match strategy with
  | .roundRobin => roundRobin {}
  | .random => random
  | .consistentHash => consistentHash {}
  | .weightedStats => weighted (.withExploration exploration)

instance : Inhabited Balancer := ⟨roundRobin {}⟩

/-- The strategy of a balancer. -/
def strategy : Balancer → Strategy
  | roundRobin _ => .roundRobin
  | random => .random
  | consistentHash _ => .consistentHash
  | weighted _ => .weightedStats

/-- Picks a candidate for a call under a routing hash.  The fingerprint is the data
of calls that should stick together. -/
def pick (b : Balancer) (draw : Draw) (hash : UInt32) (fingerprint : Option Bytes)
    (candidates : List String) : Option String × Balancer :=
  match b with
  | roundRobin state =>
      let (choice, state) := state.pick hash candidates
      (choice, roundRobin state)
  | random => (candidates[draw.whole % candidates.length]?, random)
  | consistentHash state =>
      let (choice, state) := state.pick hash fingerprint candidates
      (choice, consistentHash state)
  | weighted state => (state.pick draw candidates, b)

/-- A call to a candidate starts. -/
def start (b : Balancer) (candidate : String) : Balancer :=
  match b with
  | weighted state => weighted (state.start candidate)
  | other => other

/-- A call to a candidate completed. -/
def record (b : Balancer) (candidate : String) (latencyMs : Float) (success : Bool) : Balancer :=
  match b with
  | weighted state => weighted (state.record candidate latencyMs success)
  | other => other

/-- A candidate left for good. -/
def evict (b : Balancer) (candidate : String) : Balancer :=
  match b with
  | weighted state => weighted (state.evict candidate)
  | other => other

/-- The candidates behind a routing hash changed. -/
def invalidate (b : Balancer) (hash : UInt32) : Balancer :=
  match b with
  | consistentHash state => consistentHash (state.invalidate hash)
  | other => other

/-- What is known about a candidate. -/
def statsOf? (b : Balancer) (candidate : String) : Option CandidateStats :=
  match b with
  | weighted state => state.stats.get? candidate
  | _ => none

@[simp] theorem strategy_ofStrategy (s : Strategy) (x : Float) :
    (ofStrategy s x).strategy = s := by cases s <;> rfl

@[simp] theorem strategy_pick (b : Balancer) (d : Draw) (h : UInt32) (fp : Option Bytes)
    (cs : List String) : (b.pick d h fp cs).2.strategy = b.strategy := by cases b <;> rfl

end Balancer

end ServiceMesh
