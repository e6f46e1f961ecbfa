import ServiceMesh.Text.Bytes
import ServiceMesh.Text.Class
import ServiceMesh.Text.Table.Cased
import ServiceMesh.Text.Table.LowerRun
import ServiceMesh.Text.Table.Unprintable

/-!
# Forms of a text

Names are compared in lower case, and shown between quotes.

The lower-case form is by the full mapping of Unicode.  Each character goes to its simple
lower-case form, with two exceptions: the dotted capital I becomes two characters, and a
capital sigma becomes the final form `ς` at the end of a word.  A sigma ends a word if,
case-ignorable characters aside, a cased character stands before it and none stands
after it.

The quoted form stands between double quotes.  Inside, the quote, the backslash, tab, line
feed, carriage return and NUL have a two-character form, and any other character that does
not print, or that prints onto the one before it, is written as its code point in
hexadecimal between braces.  A single quote stands as it is.
-/

namespace ServiceMesh.Text

/-! ## Lower case -/

/-- Whether a character has case. -/
def isCased (c : Char) : Bool := Span.covers cased c.toNat

/-- Whether a character is passed over when looking for case. -/
def isCaseIgnorable (c : Char) : Bool := Span.covers caseIgnorable c.toNat

/-- The lower-case form of a character by the runs. -/
def lowerByRuns (c : Char) : List LowerRun → Char
  | [] => c
  | r :: rest =>
      if r.first ≤ c.toNat ∧ c.toNat ≤ r.last ∧ (c.toNat - r.first) % r.step = 0 then
        Char.ofNat (r.image + (c.toNat - r.first))
      else lowerByRuns c rest

/-- The lower-case form of a character that does not depend on its place. -/
def lowerChar (c : Char) : List Char :=
  if c.toNat < 128 then [c.toLower]
  else if c = 'İ' then ['i', '\u0307']
  else [lowerByRuns c lowerRuns]

/-- Whether the first character that is not case-ignorable is cased. -/
def startsCased (cs : List Char) : Bool :=
  match cs.dropWhile isCaseIgnorable with
  | [] => false
  | c :: _ => isCased c

/-- Lower case of `cs`, where `before` are the characters before it, nearest
first. -/
def lowerFrom (before : List Char) : List Char → List Char
  | [] => []
  | c :: rest =>
      let low :=
        if c = 'Σ' then
          if startsCased before && !startsCased rest then ['ς'] else ['σ']
        else lowerChar c
      low ++ lowerFrom (c :: before) rest

/-- The lower-case form of a text. -/
def lowercase (s : String) : String := String.ofList (lowerFrom [] s.toList)

/-! ## ASCII letters only -/

/-- A text with its ASCII letters in lower case. -/
def asciiLower (s : String) : String := String.ofList (s.toList.map Char.toLower)

/-- Whether two texts differ at most in the case of ASCII letters. -/
def sameIgnoringAsciiCase (a b : String) : Bool := asciiLower a == asciiLower b

/-! ## Between quotes -/

/-- Whether a character is written as its code point. -/
def needsCodePoint (c : Char) : Bool :=
  Span.covers graphemeExtend c.toNat || Span.covers unprintable c.toNat

/-- The quoted form of one character. -/
def quoteChar (c : Char) : List Char :=
  if c = '"' then ['\\', '"']
  else if c = '\\' then ['\\', '\\']
  else if c = '\n' then ['\\', 'n']
  else if c = '\r' then ['\\', 'r']
  else if c = '\t' then ['\\', 't']
  else if c = '\x00' then ['\\', '0']
  else if ' ' ≤ c ∧ c ≤ '~' then [c]
  else if needsCodePoint c then
    ['\\', 'u', '\x7b'] ++ Nat.toDigits 16 c.toNat ++ ['\x7d']
  else [c]

/-- A text between double quotes. -/
def quoted (s : String) : String :=
  String.ofList ('"' :: s.toList.flatMap quoteChar ++ ['"'])

end ServiceMesh.Text
