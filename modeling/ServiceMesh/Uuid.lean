import ServiceMesh.Text.Bytes

/-!
# Instance ids

An instance id is a UUID: sixteen bytes, ordered byte by byte, written in five
groups of lower-case hexadecimal digits.  Reading is more liberal than writing:
the hyphens may be missing, the digits may be in upper case, and braces or the
URN form may stand around a hyphenated id.
-/

namespace ServiceMesh

/-- A universally unique id. -/
structure Uuid where
  /-- The bytes, most significant first. -/
  bytes : Bytes
  /-- There are sixteen of them. -/
  size_eq : bytes.length = 16
deriving DecidableEq

namespace Uuid

/-- The id all of whose bytes are zero. -/
def nil : Uuid := ⟨List.replicate 16 0, rfl⟩

instance : Inhabited Uuid := ⟨nil⟩

/-- The id with the given bytes, if there are sixteen. -/
def ofBytes? (b : Bytes) : Option Uuid := if h : b.length = 16 then some ⟨b, h⟩ else none

theorem ofBytes?_bytes (u : Uuid) : ofBytes? u.bytes = some u := by
  simp [ofBytes?, u.size_eq]

/-- Whether every byte is zero. -/
def isNil (u : Uuid) : Bool := u == nil

/-- The order of ids, byte by byte. -/
def le (u v : Uuid) : Bool := decide (u.bytes ≤ v.bytes)

/-- The hyphenated form. -/
def toText (u : Uuid) : String :=
  let hex (from_ count : Nat) : List Char := ((u.bytes.drop from_).take count).flatMap hexOfByte
  String.ofList (hex 0 4 ++ '-' :: hex 4 2 ++ '-' :: hex 6 2 ++ '-' :: hex 8 2 ++ '-' :: hex 10 6)

instance : ToString Uuid := ⟨toText⟩

instance : Repr Uuid := ⟨fun u _ => u.toText⟩

/-- Reads five groups of digits with hyphens between them. -/
def ofHyphenated? (cs : List Char) : Option Uuid :=
  if cs.length = 36 ∧ cs[8]? = some '-' ∧ cs[13]? = some '-' ∧ cs[18]? = some '-'
      ∧ cs[23]? = some '-' then do
    let part (from_ count : Nat) : List Char := (cs.drop from_).take count
    ofBytes? (← bytesOfHex? (part 0 8 ++ part 9 4 ++ part 14 4 ++ part 19 4 ++ part 24 12))
  else none

/-- Reads an id in any of its written forms. -/
def ofText? (s : String) : Option Uuid :=
  let cs := s.toList
  if cs.length = 32 then do ofBytes? (← bytesOfHex? cs)
  else if cs.length = 36 then ofHyphenated? cs
  else if cs.length = 38 ∧ cs.head? = some '\x7b' ∧ cs.getLast? = some '\x7d' then
    ofHyphenated? ((cs.drop 1).take 36)
  else if cs.length = 45 ∧ String.ofList (cs.take 9) = "urn:uuid:" then ofHyphenated? (cs.drop 9)
  else none

end Uuid

end ServiceMesh
