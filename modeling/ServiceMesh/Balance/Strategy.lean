import ServiceMesh.Text.Form

/-!
# Names of the balancing strategies
-/

namespace ServiceMesh

/-- How one of several candidates is chosen for a call. -/
inductive Strategy where
  /-- In turn. -/
  | roundRobin
  /-- By chance. -/
  | random
  /-- By the data of the call. -/
  | consistentHash
  /-- By measured latency. -/
  | weightedStats
deriving DecidableEq, Repr, Inhabited

namespace Strategy

/-- The strategies in order. -/
def all : List Strategy := [roundRobin, random, consistentHash, weightedStats]

/-- The name of a strategy in settings. -/
def name : Strategy → String
  | roundRobin => "roundRobin"
  | random => "random"
  | consistentHash => "consistentHash"
  | weightedStats => "weightedStats"

instance : ToString Strategy := ⟨name⟩

/-- Reads a name, ignoring the case of ASCII letters. -/
def ofName? (s : String) : Option Strategy :=
  all.find? fun k => Text.asciiLower k.name == Text.asciiLower s

/-- The text of the error for an unknown name. -/
def unknownMessage (s : String) : String :=
  "unknown load-balance strategy " ++ Text.quoted s
    ++ " (expected roundRobin, random, consistentHash or weightedStats)"

end Strategy

end ServiceMesh
