import ServiceMesh.Text.Bytes

/-!
# Numbers written in decimal

Whole numbers are digits with an optional sign; a fraction may have a point and
an exponent.  `float?` reads a decimal to the nearest binary float, and also
reads the names of infinity and of no number, in any case.
-/

namespace ServiceMesh.Text

/-- The value of a decimal digit. -/
def digit? (c : Char) : Option Nat :=
  if '0' ≤ c ∧ c ≤ '9' then some (c.toNat - 48) else none

/-- The number that one or more digits write. -/
def digits? (cs : List Char) : Option Nat :=
  if cs.isEmpty then none
  else cs.foldl (fun acc c => do return (← acc) * 10 + (← digit? c)) (some 0)

/-- A number without a minus sign, at most `max`. -/
def nat? (max : Nat) (s : String) : Option Nat := do
  let cs := match s.toList with
    | '+' :: rest => rest
    | cs => cs
  let n ← digits? cs
  if n ≤ max then some n else none

/-- A number with an optional sign, within 64 signed bits. -/
def int? (s : String) : Option Int :=
  match s.toList with
  | '-' :: rest => do
      let n ← digits? rest
      if n ≤ 9223372036854775808 then some (-(n : Int)) else none
  | '+' :: rest => do
      let n ← digits? rest
      if n < 9223372036854775808 then some n else none
  | cs => do
      let n ← digits? cs
      if n < 9223372036854775808 then some n else none

/-- The decimal digits at the front, and what follows them. -/
def spanDigits (cs : List Char) : List Char × List Char := cs.span fun c => (digit? c).isSome

/-- The value of a mantissa `m` and a power of ten.  Exponents that only lead to
zero or to infinity are cut off first. -/
def scaled (m : Nat) (e : Int) : Float :=
  let digits := (Nat.toDigits 10 m).length
  if m = 0 then 0.0
  else if e + digits > 400 then Float.ofScientific 1 false 400
  else if e + digits < -400 then 0.0
  else if 0 ≤ e then Float.ofScientific m false e.toNat
  else Float.ofScientific m true (-e).toNat

/-- The exponent after the letter that announces it. -/
def exponent? (cs : List Char) : Option Int :=
  match cs with
  | [] => some 0
  | e :: rest =>
      if e = 'e' ∨ e = 'E' then
        match rest with
        | '-' :: ds => (digits? ds).map fun n => -(n : Int)
        | '+' :: ds => (digits? ds).map Int.ofNat
        | ds => (digits? ds).map Int.ofNat
      else none

/-- An unsigned decimal with an optional fraction and exponent. -/
def unsignedFloat? (cs : List Char) : Option Float :=
  let (whole, rest) := spanDigits cs
  let (fraction, rest) := match rest with
    | '.' :: more => spanDigits more
    | _ => ([], rest)
  if whole.isEmpty && fraction.isEmpty then none
  else do
    let m ← digits? (whole ++ fraction)
    let e ← exponent? rest
    return scaled m (e - fraction.length)

/-- The float that a text writes. -/
def float? (s : String) : Option Float :=
  let (negative, cs) := match s.toList with
    | '-' :: rest => (true, rest)
    | '+' :: rest => (false, rest)
    | cs => (false, cs)
  let magnitude : Option Float :=
    match String.ofList (cs.map Char.toLower) with
    | "inf" => some (1.0 / 0.0)
    | "infinity" => some (1.0 / 0.0)
    | "nan" => some (0.0 / 0.0)
    | _ => unsignedFloat? cs
  magnitude.map fun x => if negative then -x else x

end ServiceMesh.Text
