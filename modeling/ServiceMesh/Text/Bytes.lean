/-!
# Bytes and text

A byte string is a list of bytes.  `utf8` and `ofUtf8?` go between text and its
UTF-8 form: what one writes the other reads, and nothing else is read.  `lossyUtf8`
reads any bytes, putting the replacement character where no character can be read.
-/

namespace ServiceMesh

/-- A byte string. -/
abbrev Bytes := List UInt8

/-- How many numbers some bytes can write. -/
def byteRange (width : Nat) : Nat := Nat.pow 256 width

/-- The UTF-8 form of a text. -/
def utf8 (s : String) : Bytes := s.toByteArray.data.toList

/-- The text whose UTF-8 form is `b`, if there is one. -/
def ofUtf8? (b : Bytes) : Option String := String.fromUTF8? ⟨b.toArray⟩

/-! ## Hexadecimal -/

/-- The digit of a value below sixteen. -/
def hexDigit (n : Nat) : Char := (Nat.digitChar n)

/-- The value of a hexadecimal digit, in either case. -/
def hexValue? (c : Char) : Option Nat :=
  if '0' ≤ c ∧ c ≤ '9' then some (c.toNat - 48)
  else if 'a' ≤ c ∧ c ≤ 'f' then some (c.toNat - 87)
  else if 'A' ≤ c ∧ c ≤ 'F' then some (c.toNat - 55)
  else none

/-- The two digits of a byte, in lower case. -/
def hexOfByte (b : UInt8) : List Char := [hexDigit (b.toNat / 16), hexDigit (b.toNat % 16)]

/-- The digits of a byte string, in lower case. -/
def toHex (b : Bytes) : String := String.ofList (b.flatMap hexOfByte)

/-- The bytes written by pairs of digits. -/
def bytesOfHex? : List Char → Option Bytes
  | [] => some []
  | [_] => none
  | a :: b :: rest => do
      let hi ← hexValue? a
      let lo ← hexValue? b
      return UInt8.ofNat (hi * 16 + lo) :: (← bytesOfHex? rest)

/-- The last `width` hexadecimal digits of a number, in lower case. -/
def hexPadded (n : Nat) : Nat → List Char
  | 0 => []
  | width + 1 => hexPadded (n / 16) width ++ [hexDigit (n % 16)]

/-- The hexadecimal digits of a number, without leading zeros. -/
def hexOfNat (n : Nat) : String := String.ofList (Nat.toDigits 16 n)

/-! ## Reading damaged text -/

/-- What a first byte promises: how many bytes follow it, and the range of the
first of them. -/
def leadOf (b : UInt8) : Option (Nat × UInt8 × UInt8) :=
  if 0xC2 ≤ b ∧ b ≤ 0xDF then some (1, 0x80, 0xBF)
  else if b = 0xE0 then some (2, 0xA0, 0xBF)
  else if b = 0xED then some (2, 0x80, 0x9F)
  else if 0xE1 ≤ b ∧ b ≤ 0xEF then some (2, 0x80, 0xBF)
  else if b = 0xF0 then some (3, 0x90, 0xBF)
  else if b = 0xF4 then some (3, 0x80, 0x8F)
  else if 0xF1 ≤ b ∧ b ≤ 0xF3 then some (3, 0x80, 0xBF)
  else none

/-- How many of the bytes that a first byte promises are there. -/
def followers : Nat → UInt8 → UInt8 → Bytes → Nat
  | 0, _, _, _ => 0
  | _ + 1, _, _, [] => 0
  | n + 1, lo, hi, b :: rest =>
      if lo ≤ b ∧ b ≤ hi then 1 + followers n 0x80 0xBF rest else 0

/-- The code point that complete bytes of a character write. -/
def codePointOf : Bytes → Nat
  | [a] => a.toNat
  | [a, b] => (a.toNat % 32) * 64 + b.toNat % 64
  | [a, b, c] => (a.toNat % 16) * 4096 + (b.toNat % 64) * 64 + c.toNat % 64
  | [a, b, c, d] =>
      (a.toNat % 8) * 262144 + (b.toNat % 64) * 4096 + (c.toNat % 64) * 64 + d.toNat % 64
  | _ => 0xFFFD

/-- Reads a text from any bytes.  The longest start of a character that breaks
off is read as one replacement character. -/
def lossyChars (bytes : Bytes) : List Char :=
  match bytes with
  | [] => []
  | b :: rest =>
      if b < 0x80 then Char.ofNat b.toNat :: lossyChars rest
      else match leadOf b with
        | none => '\uFFFD' :: lossyChars rest
        | some (n, lo, hi) =>
            let k := followers n lo hi rest
            let c := if k = n then Char.ofNat (codePointOf (b :: rest.take k)) else '\uFFFD'
            c :: lossyChars (rest.drop k)
termination_by bytes.length
decreasing_by all_goals simp only [List.length_cons, List.length_drop]; omega

/-- Reads a text from any bytes, damaged parts as replacement characters. -/
def lossyUtf8 (b : Bytes) : String := String.ofList (lossyChars b)

end ServiceMesh
