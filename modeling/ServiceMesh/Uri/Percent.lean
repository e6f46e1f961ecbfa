import ServiceMesh.Text.Bytes
import ServiceMesh.Text.Split

/-!
# Percent encoding

A byte that may not stand in an address is written as `%` and two hexadecimal
digits.  Writing uses upper-case digits; reading takes both cases, and leaves a
`%` that no two digits follow as it is.

The query of an address is a list of pairs divided by `&`, each a key and a value
divided by the first `=`.  A plus sign is a space, and both sides are percent encoded.
-/

namespace ServiceMesh

namespace Percent

/-- A byte as `%` and two upper-case digits. -/
def encodeByte (b : UInt8) : List Char :=
  ['%', (hexDigit (b.toNat / 16)).toUpper, (hexDigit (b.toNat % 16)).toUpper]

/-- Whether a byte may not stand for itself: control characters and all bytes
outside ASCII. -/
def isControl (b : UInt8) : Bool := b < 0x20 || 0x7F ≤ b

/-- A text with its control characters and its characters outside ASCII encoded. -/
def encodeControls (cs : List Char) : List Char :=
  (utf8 (String.ofList cs)).flatMap fun b =>
    if isControl b then encodeByte b else [Char.ofNat b.toNat]

/-- Reads encoded bytes. -/
def decode : Bytes → Bytes
  | [] => []
  | b :: rest =>
      if b = 0x25 then
        match rest with
        | hi :: lo :: more =>
            match hexValue? (Char.ofNat hi.toNat), hexValue? (Char.ofNat lo.toNat) with
            | some h, some l => UInt8.ofNat (h * 16 + l) :: decode more
            | _, _ => b :: decode (hi :: lo :: more)
        | short => b :: decode short
      else b :: decode rest

end Percent

/-! ## Queries -/

namespace Query

/-- Reads one side of a pair. -/
def decodePart (cs : List Char) : String :=
  let spaced := cs.map fun c => if c = '+' then ' ' else c
  lossyUtf8 (Percent.decode (utf8 (String.ofList spaced)))

/-- Reads a pair.  Without `=` the value is empty. -/
def decodePair (cs : List Char) : String × String :=
  match Text.cut? '=' cs with
  | some (key, value) => (decodePart key, decodePart value)
  | none => (decodePart cs, "")

/-- The pairs of a query. -/
def pairs (cs : List Char) : List (String × String) :=
  ((Text.splitAll '&' cs).filter fun part => !part.isEmpty).map decodePair

/-- The value of the first pair with a key. -/
def get? (cs : List Char) (key : String) : Option String :=
  ((pairs cs).find? fun p => p.1 == key).map (·.2)

end Query

end ServiceMesh
