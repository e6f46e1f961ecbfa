import ServiceMesh.Data.TextMap
import ServiceMesh.MsgPack.Decode
import ServiceMesh.Uuid

/-!
# Typed readings of MessagePack values

A record is read from a map by field name, or from a list by position.  A field
may also be named by its number.  Unknown fields are passed over, a field given
twice is an error, and so is a missing field that has no default.

A record inside a tagged message is read in the *loose* way: a field number must
be written in one byte or in eight, and an id may be given as text.
-/

namespace ServiceMesh.MsgPack

/-- How records are read. -/
inductive Reading where
  /-- A record of its own. -/
  | strict
  /-- A record inside a tagged message. -/
  | loose
deriving DecidableEq, Repr

namespace Value

/-- A text, given as text or as UTF-8 bytes. -/
def asText : Value → Option String
  | text s => some s
  | binary b => ofUtf8? b
  | _ => none

/-- A natural number up to `max`. -/
def asNat (max : Nat) : Value → Option Nat
  | unsigned _ n => if n ≤ max then some n else none
  | signed n => if 0 ≤ n ∧ n.toNat ≤ max then some n.toNat else none
  | _ => none

/-- An integer between `min` and `max`. -/
def asInt (min max : Int) : Value → Option Int
  | unsigned _ n => if (n : Int) ≤ max then some n else none
  | signed n => if min ≤ n ∧ n ≤ max then some n else none
  | _ => none

/-- A truth value. -/
def asBool : Value → Option Bool
  | bool b => some b
  | _ => none

/-- Bytes, given as such, as text, or as a list of numbers. -/
def asBytes : Value → Option Bytes
  | binary b => some b
  | text s => some (utf8 s)
  | array items => items.mapM fun v => (v.asNat 255).map UInt8.ofNat
  | _ => none

/-- An id of sixteen bytes, or in the loose way a written one. -/
def asUuid (reading : Reading) : Value → Option Uuid
  | binary b => Uuid.ofBytes? b
  | text s => if reading = .loose then Uuid.ofText? s else none
  | _ => none

/-- A list. -/
def asList (item : Value → Option α) : Value → Option (List α)
  | array items => items.mapM item
  | _ => none

/-- A map from texts, later rows winning. -/
def asTextMap (item : Value → Option α) : Value → Option (TextMap α)
  | map rows => do
      let rows ← rows.mapM fun (k, v) => return (← k.asText, ← item v)
      return TextMap.ofList rows
  | _ => none

/-- A value or nothing. -/
def asOption (item : Value → Option α) : Value → Option (Option α)
  | nil => some none
  | v => (item v).map some

/-- Bytes read as the name of one of `names`. -/
def positionOfName (names : List String) (b : Bytes) : Option Nat :=
  names.findIdx? fun name => utf8 name == b

/-- Which of the variants `names` a value names, by name or by number. -/
def asVariant (names : List String) : Value → Option Nat
  | text s => positionOfName names (utf8 s)
  | binary b => positionOfName names b
  | unsigned _ n => if n < names.length then some n else none
  | _ => none

/-- A variant without content: its name or number, or a map from it to nothing. -/
def asUnitVariant (names : List String) : Value → Option Nat
  | map [(k, nil)] => k.asVariant names
  | map _ => none
  | v => v.asVariant names

end Value

/-! ## Records -/

/-- What a record key says. -/
inductive FieldKey where
  /-- The field at a position. -/
  | known (position : Nat)
  /-- No field of the record. -/
  | unknown

/-- What a record key says that is a name. -/
def FieldKey.named (names : List String) (name : Bytes) : FieldKey :=
  match Value.positionOfName names name with
  | some i => known i
  | none => unknown

/-- Reads a record key. -/
def FieldKey.of (reading : Reading) (names : List String) : Value → Option FieldKey
  | .text s => some (named names (utf8 s))
  | .binary b => some (named names b)
  | .unsigned width n =>
      if reading = .loose ∧ width ≠ .one ∧ width ≠ .eight then none
      else some (if n < names.length then known n else unknown)
  | _ => none

/-- The fields of a record that are there, by position. -/
abbrev Fields := List (Nat × Value)

/-- The field at a position. -/
def Fields.at? (fields : Fields) (i : Nat) : Option Value := fields.lookup i

/-- Collects the rows of a map as fields. -/
def fieldsOfRows (reading : Reading) (names : List String) :
    Fields → List (Value × Value) → Option Fields
  | fields, [] => some fields
  | fields, (k, v) :: rest =>
      match FieldKey.of reading names k with
      | none => none
      | some .unknown => fieldsOfRows reading names fields rest
      | some (.known i) =>
          if (fields.at? i).isSome then none
          else fieldsOfRows reading names (fields ++ [(i, v)]) rest

/-- The fields of a record from a map or a list. -/
def asFields (reading : Reading) (names : List String) : Value → Option Fields
  | .map rows => fieldsOfRows reading names [] rows
  | .array items =>
      if names.length < items.length then none else some ((List.range items.length).zip items)
  | _ => none

/-- A field that must be there. -/
def Fields.required (fields : Fields) (i : Nat) (item : Value → Option α) : Option α :=
  match fields.at? i with
  | some v => item v
  | none => none

/-- A field that may be missing. -/
def Fields.withDefault (fields : Fields) (i : Nat) (item : Value → Option α) (default : α) :
    Option α :=
  match fields.at? i with
  | some v => item v
  | none => some default

/-! ## Writing records -/

/-- A record as a map from field names. -/
def recordOf (fields : List (String × Value)) : Value := .map (fields.map fun f => (.text f.1, f.2))

/-- A field that is left out if there is no value. -/
def optionalField (name : String) : Option Value → List (String × Value)
  | some v => [(name, v)]
  | none => []

/-- A sorted map from texts. -/
def ofTextMap (item : α → Value) (m : TextMap α) : Value :=
  .map (m.entries.map fun e => (.text e.1, item e.2))

end ServiceMesh.MsgPack
