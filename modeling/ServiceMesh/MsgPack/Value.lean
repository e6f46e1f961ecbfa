import ServiceMesh.Text.Bytes

/-!
# MessagePack values and their encoding

`Value` is what MessagePack can say.  A value remembers of a number only whether
it was written in an unsigned or a signed form, and how wide the unsigned form
was, since a reader of field numbers asks for it.

`encode` writes the shortest form of every number, text, byte string, list and
map.  Lengths are written in at most four bytes, so texts, byte strings and
collections are below 2^32.
-/

namespace ServiceMesh.MsgPack

/-- The width of an unsigned number in bytes. -/
inductive Width where
  | one
  | two
  | four
  | eight
deriving DecidableEq, Repr

/-- A MessagePack value. -/
inductive Value where
  | nil
  | bool (b : Bool)
  /-- A number in an unsigned form. -/
  | unsigned (width : Width) (n : Nat)
  /-- A number in a signed form. -/
  | signed (n : Int)
  /-- A float, by its bytes. -/
  | float (bits : Bytes)
  | text (s : String)
  | binary (b : Bytes)
  | array (items : List Value)
  | map (rows : List (Value × Value))
  /-- An application value: a type byte and data. -/
  | extension (kind : UInt8) (data : Bytes)
deriving Repr, Inhabited

/-- The narrowest width of an unsigned number. -/
def Width.of (n : Nat) : Width :=
  if n < 256 then .one else if n < 65536 then .two else if n < 4294967296 then .four else .eight

/-- A natural number as a value. -/
def Value.nat (n : Nat) : Value := .unsigned (Width.of n) n

/-- An integer as a value: unsigned if it is not negative. -/
def Value.int (n : Int) : Value := if 0 ≤ n then Value.nat n.toNat else .signed n

/-! ## Encoding -/

/-- A number as bytes of the given width, most significant first. -/
def bigEndian (n : Nat) : Nat → Bytes
  | 0 => []
  | width + 1 => bigEndian (n / 256) width ++ [UInt8.ofNat n]

/-- The number that bytes write, most significant first. -/
def natOfBytes (b : Bytes) : Nat := b.foldl (fun n x => n * 256 + x.toNat) 0

/-- The shortest form of a natural number. -/
def encodeNat (n : Nat) : Bytes :=
  if n < 128 then [UInt8.ofNat n]
  else match Width.of n with
    | .one => 0xcc :: bigEndian n 1
    | .two => 0xcd :: bigEndian n 2
    | .four => 0xce :: bigEndian n 4
    | .eight => 0xcf :: bigEndian n 8

/-- The bytes of a negative number in two's complement. -/
def complement (n : Int) (width : Nat) : Bytes :=
  bigEndian (n + byteRange width).toNat width

/-- The shortest form of a negative number. -/
def encodeNegative (n : Int) : Bytes :=
  if -32 ≤ n then complement n 1
  else if -128 ≤ n then 0xd0 :: complement n 1
  else if -32768 ≤ n then 0xd1 :: complement n 2
  else if -2147483648 ≤ n then 0xd2 :: complement n 4
  else 0xd3 :: complement n 8

/-- The header of a text of `n` bytes. -/
def textHeader (n : Nat) : Bytes :=
  if n < 32 then [UInt8.ofNat (0xa0 + n)]
  else if n < 256 then 0xd9 :: bigEndian n 1
  else if n < 65536 then 0xda :: bigEndian n 2
  else 0xdb :: bigEndian n 4

/-- The header of a byte string of `n` bytes. -/
def binaryHeader (n : Nat) : Bytes :=
  if n < 256 then 0xc4 :: bigEndian n 1
  else if n < 65536 then 0xc5 :: bigEndian n 2
  else 0xc6 :: bigEndian n 4

/-- The header of a list of `n` items. -/
def arrayHeader (n : Nat) : Bytes :=
  if n < 16 then [UInt8.ofNat (0x90 + n)]
  else if n < 65536 then 0xdc :: bigEndian n 2
  else 0xdd :: bigEndian n 4

/-- The header of a map of `n` rows. -/
def mapHeader (n : Nat) : Bytes :=
  if n < 16 then [UInt8.ofNat (0x80 + n)]
  else if n < 65536 then 0xde :: bigEndian n 2
  else 0xdf :: bigEndian n 4

/-- The header of an application value with `n` bytes of data. -/
def extensionHeader (n : Nat) : Bytes :=
  if n = 1 then [0xd4] else if n = 2 then [0xd5] else if n = 4 then [0xd6]
  else if n = 8 then [0xd7] else if n = 16 then [0xd8]
  else if n < 256 then 0xc7 :: bigEndian n 1
  else if n < 65536 then 0xc8 :: bigEndian n 2
  else 0xc9 :: bigEndian n 4

mutual

/-- The bytes of a value. -/
def Value.encode : Value → Bytes
  | .nil => [0xc0]
  | .bool false => [0xc2]
  | .bool true => [0xc3]
  | .unsigned _ n => encodeNat n
  | .signed n => if 0 ≤ n then encodeNat n.toNat else encodeNegative n
  | .float bits => (if bits.length = 4 then 0xca else 0xcb) :: bits
  | .text s => let b := utf8 s; textHeader b.length ++ b
  | .binary b => binaryHeader b.length ++ b
  | .array items => arrayHeader items.length ++ encodeItems items
  | .map rows => mapHeader rows.length ++ encodeRows rows
  | .extension kind data => extensionHeader data.length ++ kind :: data

/-- The bytes of a list of values. -/
def encodeItems : List Value → Bytes
  | [] => []
  | v :: rest => v.encode ++ encodeItems rest

/-- The bytes of a list of rows. -/
def encodeRows : List (Value × Value) → Bytes
  | [] => []
  | (k, v) :: rest => k.encode ++ v.encode ++ encodeRows rest

end

end ServiceMesh.MsgPack
