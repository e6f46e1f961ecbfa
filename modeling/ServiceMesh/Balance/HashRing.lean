import ServiceMesh.Balance.RoundRobin
import ServiceMesh.Hash.Murmur3

/-!
# Consistent hashing

Every candidate owns 128 points on a ring of 32-bit words.  A fingerprint belongs
to the owner of the first point at or after its hash, going round at the end.  When
a candidate goes, only its own fingerprints move, and when one comes, fingerprints
only move to it.

A `RingBalancer` keeps one ring per routing hash and builds a new one when the
candidates are others.  Calls without a fingerprint take turns.
-/

namespace ServiceMesh

/-- The ring of a list of candidates. -/
structure HashRing where
  /-- The candidates it was built for. -/
  candidates : List String
  /-- The points with the position of their owner, in ascending order. -/
  points : List (UInt32 × Nat)

namespace HashRing

/-- How many points a candidate owns. -/
def pointsPerCandidate : Nat := 128

/-- The seed of all points. -/
def seed : UInt32 := 0x9747b28c

/-- One point of a candidate. -/
def point (candidate : String) (replica : Nat) : UInt32 :=
  Hash.murmur3 (utf8 (candidate ++ "#" ++ toString replica)) seed

/-- The points of the candidate at a position. -/
def pointsOf (candidate : String) (position : Nat) : List (UInt32 × Nat) :=
  (List.range pointsPerCandidate).map fun r => (point candidate r, position)

/-- The order of points: by place on the ring, then by owner. -/
def before (p q : UInt32 × Nat) : Bool := decide (p.1 < q.1) || (p.1 == q.1 && decide (p.2 ≤ q.2))

/-- Builds the ring of a list of candidates. -/
def build (candidates : List String) : HashRing where
  candidates := candidates
  points := (candidates.zipIdx.flatMap fun e => pointsOf e.1 e.2).mergeSort before

/-- Whether the ring was built for exactly these candidates. -/
def fits (ring : HashRing) (candidates : List String) : Bool := ring.candidates == candidates

/-- The position of the owner of a place on the ring. -/
def owner (ring : HashRing) (place : UInt32) : Option Nat :=
  ((ring.points.find? fun p => place ≤ p.1).or ring.points.head?).map (·.2)

/-- The position of the candidate to which a fingerprint belongs. -/
def locate (ring : HashRing) (fingerprint : Bytes) : Option Nat :=
  ring.owner (Hash.murmur3 fingerprint seed)

end HashRing

/-- Consistent hashing over candidate lists that change. -/
structure RingBalancer where
  /-- The ring last used under each routing hash. -/
  rings : Dict UInt32 HashRing := .empty
  /-- The turns of calls without a fingerprint. -/
  fallback : RoundRobin := {}

namespace RingBalancer

instance : Inhabited RingBalancer := ⟨{}⟩

/-- The ring for the candidates, the one kept if it fits. -/
def ringFor (b : RingBalancer) (hash : UInt32) (candidates : List String) : HashRing :=
  match b.rings.get? hash with
  | some ring => if ring.fits candidates then ring else .build candidates
  | none => .build candidates

/-- The candidate to which a fingerprint belongs. -/
def locate (b : RingBalancer) (hash : UInt32) (fingerprint : Bytes) (candidates : List String) :
    Option String × RingBalancer :=
  let ring := b.ringFor hash candidates
  ((ring.locate fingerprint).bind fun i => candidates[i]?,
    { b with rings := b.rings.insert hash ring })

/-- Picks by fingerprint, or in turn if there is none or it is empty. -/
def pick (b : RingBalancer) (hash : UInt32) (fingerprint : Option Bytes)
    (candidates : List String) : Option String × RingBalancer :=
  if candidates.isEmpty then (none, b)
  else match fingerprint with
    | some (x :: xs) => b.locate hash (x :: xs) candidates
    | _ =>
        let (choice, fallback) := b.fallback.pick hash candidates
        (choice, { b with fallback := fallback })

/-- Drops the ring of a routing hash. -/
def invalidate (b : RingBalancer) (hash : UInt32) : RingBalancer :=
  { b with rings := b.rings.erase hash }

end RingBalancer

end ServiceMesh
