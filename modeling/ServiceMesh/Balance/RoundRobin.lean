import ServiceMesh.Data.Dict

/-!
# Taking turns

One counter per routing hash.  A counter is never reset when the candidates
change; it is reduced modulo the length of the list at hand, so a pick is always
in range (`pick_mem`).
-/

namespace ServiceMesh

/-- Turns taken, by routing hash. -/
structure RoundRobin where
  /-- How many picks each hash has had, modulo `2^64`. -/
  counters : Dict UInt32 UInt64 := .empty

namespace RoundRobin

instance : Inhabited RoundRobin := ⟨{}⟩

/-- The position of the next pick among `length` candidates. -/
def position (b : RoundRobin) (hash : UInt32) (length : Nat) : Nat :=
  (b.counters.getD hash 0).toNat % length

/-- Counts one pick. -/
def advance (b : RoundRobin) (hash : UInt32) : RoundRobin :=
  ⟨b.counters.insert hash (b.counters.getD hash 0 + 1)⟩

/-- The candidate whose turn it is.  An empty list takes no turn. -/
def pick (b : RoundRobin) (hash : UInt32) (candidates : List String) : Option String × RoundRobin :=
  match candidates with
  | [] => (none, b)
  | _ => (candidates[b.position hash candidates.length]?, b.advance hash)

@[simp] theorem pick_nil (b : RoundRobin) (hash : UInt32) : b.pick hash [] = (none, b) := rfl

/-- A pick is one of the candidates. -/
theorem pick_mem (b : RoundRobin) (hash : UInt32) (candidates : List String) (c : String)
    (h : (b.pick hash candidates).1 = some c) : c ∈ candidates := by
  cases candidates with
  | nil => cases h
  | cons x rest => exact List.mem_of_getElem? h

/-- From candidates something is picked. -/
theorem pick_isSome (b : RoundRobin) (hash : UInt32) (x : String) (rest : List String) :
    (b.pick hash (x :: rest)).1.isSome := by
  have hlt : b.position hash (x :: rest).length < (x :: rest).length :=
    Nat.mod_lt _ (Nat.succ_pos _)
  simp only [pick, List.getElem?_eq_getElem hlt, Option.isSome_some]

end RoundRobin

end ServiceMesh
