import ServiceMesh.Text.Numeral
import ServiceMesh.Text.Split

/-!
# IPv6 hosts

An address is eight groups of up to four hexadecimal digits with colons between
them.  Two colons in a row, at most once, stand for one or more groups of zeros,
and the last two groups may be written as four decimal numbers.  The written form
shortens the first of the longest runs of two or more zero groups.
-/

namespace ServiceMesh.Ipv6

/-- The number that a group writes. -/
def group? (cs : List Char) : Option Nat :=
  if cs.isEmpty || 4 < cs.length then none
  else cs.foldl (fun acc c => do return (← acc) * 16 + (← hexValue? c)) (some 0)

/-- A decimal number below 256 without leading zeros. -/
def decimalByte? (cs : List Char) : Option Nat :=
  match cs with
  | '0' :: _ :: _ => none
  | _ => do
      let n ← Text.digits? cs
      if n ≤ 255 then some n else none

/-- The two groups that four decimal numbers write. -/
def decimalGroups? (cs : List Char) : Option (List Nat) := do
  match ← (Text.splitAll '.' cs).mapM decimalByte? with
  | [a, b, c, d] => some [a * 256 + b, c * 256 + d]
  | _ => none

/-- The groups at the end of an address, where decimal numbers may stand. -/
def lastGroups? : List (List Char) → Option (List Nat)
  | [] => some []
  | [part] =>
      match group? part with
      | some n => some [n]
      | none => decimalGroups? part
  | part :: rest => do return (← group? part) :: (← lastGroups? rest)

/-- The parts of a text between colons, none for the empty text. -/
def colonParts (cs : List Char) : List (List Char) :=
  if cs.isEmpty then [] else Text.splitAll ':' cs

/-- The parts before and after the first two colons in a row. -/
def cutDoubleColon? : List Char → Option (List Char × List Char)
  | ':' :: ':' :: rest => some ([], rest)
  | [] => none
  | c :: rest => (cutDoubleColon? rest).map fun p => (c :: p.1, p.2)

/-- The eight groups of an address. -/
def parse? (cs : List Char) : Option (List Nat) :=
  match cutDoubleColon? cs with
  | none => do
      let groups ← lastGroups? (colonParts cs)
      if groups.length = 8 then some groups else none
  | some (front, back) => do
      let front ← (colonParts front).mapM group?
      let back ← lastGroups? (colonParts back)
      if front.length + back.length ≤ 7 then
        some (front ++ List.replicate (8 - front.length - back.length) 0 ++ back)
      else none

/-- The length of the run of zeros at the front. -/
def zeroRun (groups : List Nat) : Nat := (groups.takeWhile (· = 0)).length

/-- Where the first of the longest runs of zeros starts, and its length. -/
def longestZeroRun (groups : List Nat) : Nat × Nat :=
  (List.range groups.length).foldl
    (fun best i => if best.2 < zeroRun (groups.drop i) then (i, zeroRun (groups.drop i)) else best)
    (0, 0)

/-- Groups with colons between them. -/
def joined (groups : List Nat) : String := ":".intercalate (groups.map hexOfNat)

/-- The written form. -/
def toText (groups : List Nat) : String :=
  let (start, length) := longestZeroRun groups
  if length < 2 then joined groups
  else joined (groups.take start) ++ "::" ++ joined (groups.drop (start + length))

end ServiceMesh.Ipv6
