import ServiceMesh.Text.Numeral
import ServiceMesh.Text.Split

/-!
# IPv4 hosts

A host name whose last part is a number is an IPv4 address.  Up to four parts are
divided by points; each is decimal, octal after a leading `0`, or hexadecimal after
`0x`.  The last part fills all the bytes that are left, so `127.1` is `127.0.0.1`.
-/

namespace ServiceMesh.Ipv4

/-- The number that digits of a base write. -/
def inBase? (base : Nat) (cs : List Char) : Option Nat :=
  cs.foldl (fun acc c => do
    let n ← acc
    let d ← hexValue? c
    if d < base then some (n * base + d) else none) (some 0)

/-- The number that one part writes.  `0x` alone is zero. -/
def part? (cs : List Char) : Option Nat :=
  match cs with
  | [] => none
  | ['0'] => some 0
  | '0' :: 'x' :: digits => inBase? 16 digits
  | '0' :: 'X' :: digits => inBase? 16 digits
  | '0' :: digits => inBase? 8 digits
  | digits => inBase? 10 digits

/-- The parts of a name, an empty last part left out. -/
def parts (cs : List Char) : List (List Char) :=
  let all := Text.splitAll '.' cs
  if all.getLast? = some [] then all.dropLast else all

/-- Whether a name has to be read as an address. -/
def endsInNumber (cs : List Char) : Bool :=
  match (parts cs).getLast? with
  | none => false
  | some last =>
      (!last.isEmpty && last.all fun c => (Text.digit? c).isSome) || (part? last).isSome

/-- The address whose leading bytes are `front` and whose last number is `last`. -/
def assemble (front : List Nat) (last : Nat) : Nat :=
  front.zipIdx.foldl (fun n e => n + e.1 * byteRange (3 - e.2)) last

/-- The number of an address. -/
def parse? (cs : List Char) : Option Nat := do
  let numbers ← (parts cs).mapM part?
  let last ← numbers.getLast?
  let front := numbers.dropLast
  if 4 < numbers.length ∨ byteRange (4 - front.length) ≤ last ∨ front.any (255 < ·) then none
  else some (assemble front last)

/-- The written form: four decimal numbers. -/
def toText (n : Nat) : String :=
  ".".intercalate ([n / 16777216, n / 65536 % 256, n / 256 % 256, n % 256].map toString)

end ServiceMesh.Ipv4
