import ServiceMesh.Pool.Calls

/-!
# All pools of a broker

A fleet has one pool per destination, made when it is first asked for.  The pools
themselves stand elsewhere, under references `ρ`, so that whoever holds a reference
keeps its pool when the fleet lets go of it.

The upkeep of a fleet tries unhealthy endpoints again, and then takes over the
addresses that a directory has for a destination.
-/

namespace ServiceMesh

/-- The pools of a broker, one per destination. -/
structure Fleet (ρ : Type) where
  /-- The settings of new pools. -/
  settings : PoolSettings
  /-- The pools by destination. -/
  pools : Dict String ρ := .empty

namespace Fleet

variable {ρ : Type}

/-- The pool of a destination. -/
def get? (f : Fleet ρ) (destination : String) : Option ρ := f.pools.get? destination

/-- The destinations, sorted. -/
def destinations (f : Fleet ρ) : List String := sortedTexts f.pools.keys

/-- Takes in a pool. -/
def add (f : Fleet ρ) (destination : String) (pool : ρ) : Fleet ρ :=
  { f with pools := f.pools.insert destination pool }

/-- Lets go of a pool. -/
def remove (f : Fleet ρ) (destination : String) : Fleet ρ :=
  { f with pools := f.pools.erase destination }

end Fleet

/-- What is asked of the upkeep of a fleet. -/
inductive UpkeepCommand where
  /-- A full pass. -/
  | all
  /-- To try the unhealthy endpoints of one destination again. -/
  | unhealthy (destination : String)
deriving DecidableEq, Repr

variable {m : Type → Type u} [Monad m]

/-- One pass over one pool. -/
def PoolHost.upkeep (h : PoolHost m) (lookup : String → m (Option (List String))) : m Unit := do
  let _ ← h.retry
  match ← lookup (← h.read (·.destination)) with
  | some uris => do
      let _ ← h.refresh uris
  | none => pure ()

/-- One pass over several pools. -/
def upkeepAll (lookup : String → m (Option (List String))) : List (PoolHost m) → m Unit
  | [] => pure ()
  | h :: rest => do
      h.upkeep lookup
      upkeepAll lookup rest

end ServiceMesh
