import ServiceMesh.MsgPack.Value

/-!
# Reading MessagePack

`decode?` reads the value at the front of a byte string and leaves what follows
it alone.  Every form of a number and of a length is read, not only the shortest.
A text whose bytes are not UTF-8 is read as a byte string.  Lists and maps may
stand inside each other to a depth below `maxDepth`.

Each step of the recursion either takes a byte or ends a list, so fuel of twice
the number of bytes suffices.
-/

namespace ServiceMesh.MsgPack

/-- Nesting at this depth is refused. -/
def maxDepth : Nat := 1024

/-- The first `n` bytes, and what follows them. -/
def takeBytes (n : Nat) (data : Bytes) : Option (Bytes × Bytes) :=
  let head := data.take n
  if head.length < n then none else some (head, data.drop n)

/-- A number of `n` bytes. -/
def takeNat (n : Nat) (data : Bytes) : Option (Nat × Bytes) := do
  let (b, rest) ← takeBytes n data
  return (natOfBytes b, rest)

/-- A signed number of `n` bytes. -/
def takeInt (n : Nat) (data : Bytes) : Option (Int × Bytes) := do
  let (m, rest) ← takeNat n data
  return (if m < byteRange n / 2 then (m : Int) else (m : Int) - byteRange n, rest)

/-- A text of `n` bytes, or a byte string if they are not UTF-8. -/
def takeText (n : Nat) (data : Bytes) : Option (Value × Bytes) := do
  let (b, rest) ← takeBytes n data
  return (match ofUtf8? b with | some s => .text s | none => .binary b, rest)

/-- A byte string of `n` bytes. -/
def takeBinary (n : Nat) (data : Bytes) : Option (Value × Bytes) := do
  let (b, rest) ← takeBytes n data
  return (.binary b, rest)

/-- An application value with `n` bytes of data. -/
def takeExtension (n : Nat) (data : Bytes) : Option (Value × Bytes) := do
  let (kind, rest) ← takeBytes 1 data
  let (b, rest) ← takeBytes n rest
  return (.extension (kind.headD 0) b, rest)

/-- What the first byte of a value announces. -/
inductive Marker where
  /-- The byte is the whole value. -/
  | whole (v : Value)
  | unsigned (width : Width)
  | signed (width : Nat)
  | float (width : Nat)
  | text (length : Nat)
  | textOf (lengthWidth : Nat)
  | binaryOf (lengthWidth : Nat)
  | array (length : Nat)
  | arrayOf (lengthWidth : Nat)
  | map (length : Nat)
  | mapOf (lengthWidth : Nat)
  | extension (length : Nat)
  | extensionOf (lengthWidth : Nat)
  /-- The byte that announces nothing. -/
  | reserved

/-- The number of bytes of a width. -/
def Width.bytes : Width → Nat
  | one => 1
  | two => 2
  | four => 4
  | eight => 8

/-- Reads the first byte of a value. -/
def Marker.of (b : UInt8) : Marker :=
  let n := b.toNat
  if n < 0x80 then .whole (.unsigned .one n)
  else if n < 0x90 then .map (n - 0x80)
  else if n < 0xa0 then .array (n - 0x90)
  else if n < 0xc0 then .text (n - 0xa0)
  else if 0xe0 ≤ n then .whole (.signed ((n : Int) - 256))
  else match n with
    | 0xc0 => .whole .nil
    | 0xc2 => .whole (.bool false)
    | 0xc3 => .whole (.bool true)
    | 0xc4 => .binaryOf 1
    | 0xc5 => .binaryOf 2
    | 0xc6 => .binaryOf 4
    | 0xc7 => .extensionOf 1
    | 0xc8 => .extensionOf 2
    | 0xc9 => .extensionOf 4
    | 0xca => .float 4
    | 0xcb => .float 8
    | 0xcc => .unsigned .one
    | 0xcd => .unsigned .two
    | 0xce => .unsigned .four
    | 0xcf => .unsigned .eight
    | 0xd0 => .signed 1
    | 0xd1 => .signed 2
    | 0xd2 => .signed 4
    | 0xd3 => .signed 8
    | 0xd4 => .extension 1
    | 0xd5 => .extension 2
    | 0xd6 => .extension 4
    | 0xd7 => .extension 8
    | 0xd8 => .extension 16
    | 0xd9 => .textOf 1
    | 0xda => .textOf 2
    | 0xdb => .textOf 4
    | 0xdc => .arrayOf 2
    | 0xdd => .arrayOf 4
    | 0xde => .mapOf 2
    | 0xdf => .mapOf 4
    | _ => .reserved

mutual

/-- Reads a value.  `depth` is how deep lists and maps may still stand in it. -/
def decodeValue : Nat → Nat → Bytes → Option (Value × Bytes)
  | _, _, [] => none
  | 0, _, _ :: _ => none
  | fuel + 1, depth, b :: rest =>
      match Marker.of b with
      | .whole v => some (v, rest)
      | .unsigned width => do
          let (n, rest) ← takeNat width.bytes rest
          return (.unsigned width n, rest)
      | .signed width => do
          let (n, rest) ← takeInt width rest
          return (.signed n, rest)
      | .float width => do
          let (bits, rest) ← takeBytes width rest
          return (.float bits, rest)
      | .text length => takeText length rest
      | .textOf w => do
          let (length, rest) ← takeNat w rest
          takeText length rest
      | .binaryOf w => do
          let (length, rest) ← takeNat w rest
          takeBinary length rest
      | .extension length => takeExtension length rest
      | .extensionOf w => do
          let (length, rest) ← takeNat w rest
          takeExtension length rest
      | .array length => decodeArray fuel depth length rest
      | .arrayOf w => do
          let (length, rest) ← takeNat w rest
          decodeArray fuel depth length rest
      | .map length => decodeMap fuel depth length rest
      | .mapOf w => do
          let (length, rest) ← takeNat w rest
          decodeMap fuel depth length rest
      | .reserved => none

/-- Reads the items of a list one level down. -/
def decodeArray : Nat → Nat → Nat → Bytes → Option (Value × Bytes)
  | 0, _, _, _ => none
  | fuel + 1, depth, length, data =>
      if depth ≤ 1 then none
      else do
        let (items, rest) ← decodeItems fuel (depth - 1) length data
        return (.array items, rest)

/-- Reads the rows of a map one level down. -/
def decodeMap : Nat → Nat → Nat → Bytes → Option (Value × Bytes)
  | 0, _, _, _ => none
  | fuel + 1, depth, length, data =>
      if depth ≤ 1 then none
      else do
        let (rows, rest) ← decodeRows fuel (depth - 1) length data
        return (.map rows, rest)

/-- Reads `n` values. -/
def decodeItems : Nat → Nat → Nat → Bytes → Option (List Value × Bytes)
  | _, _, 0, data => some ([], data)
  | 0, _, _ + 1, _ => none
  | fuel + 1, depth, n + 1, data => do
      let (v, data) ← decodeValue fuel depth data
      let (vs, data) ← decodeItems fuel depth n data
      return (v :: vs, data)

/-- Reads `n` rows. -/
def decodeRows : Nat → Nat → Nat → Bytes → Option (List (Value × Value) × Bytes)
  | _, _, 0, data => some ([], data)
  | 0, _, _ + 1, _ => none
  | fuel + 1, depth, n + 1, data => do
      let (k, data) ← decodeValue fuel depth data
      let (v, data) ← decodeValue fuel depth data
      let (rows, data) ← decodeRows fuel depth n data
      return ((k, v) :: rows, data)

end

/-- The value at the front of a byte string. -/
def decode? (data : Bytes) : Option Value :=
  (decodeValue (3 * data.length + 3) maxDepth data).map (·.1)

end ServiceMesh.MsgPack
