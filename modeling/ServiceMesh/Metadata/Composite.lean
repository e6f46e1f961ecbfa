import ServiceMesh.Metadata.Error

/-!
# Composite metadata

A call carries a list of entries, each a mime type with bytes.  An entry is
written as

* one byte: the length of the mime type less one, high bit clear,
* the mime type,
* three bytes: the length of the content, most significant first,
* the content.

The high bit of the first byte would announce a mime type given by number, which
is refused.  Reading takes the entries one after the other until the bytes end.
-/

namespace ServiceMesh

/-- One entry of call metadata. -/
structure MetadataEntry where
  /-- The mime type. -/
  mime : String
  /-- The bytes of the entry. -/
  content : Bytes
deriving DecidableEq, Repr

/-- The longest mime type in bytes. -/
def maxMimeLength : Nat := 128

/-- The longest content of an entry in bytes. -/
def maxContentLength : Nat := 0xFFFFFF

/-- A list of metadata entries. -/
structure Composite where
  /-- The entries in order. -/
  entries : List MetadataEntry := []
deriving DecidableEq, Repr

namespace Composite

/-- Appends an entry. -/
def push (c : Composite) (mime : String) (content : Bytes) : Composite :=
  ⟨c.entries ++ [⟨mime, content⟩]⟩

/-- The first entry with a mime type. -/
def get? (c : Composite) (mime : String) : Option MetadataEntry :=
  c.entries.find? fun e => e.mime == mime

/-! ## Writing -/

/-- Three bytes of a number, most significant first. -/
def lengthField (n : Nat) : Bytes :=
  [UInt8.ofNat (n / 65536), UInt8.ofNat (n / 256), UInt8.ofNat n]

/-- The bytes of one entry. -/
def encodeEntry (e : MetadataEntry) : Except MetadataError Bytes :=
  let mime := utf8 e.mime
  if mime.length = 0 ∨ maxMimeLength < mime.length then .error (.mimeLength mime.length)
  else if maxContentLength < e.content.length then .error (.contentTooLarge e.content.length)
  else .ok (UInt8.ofNat (mime.length - 1) :: mime ++ lengthField e.content.length ++ e.content)

/-- The bytes of a list of entries. -/
def encodeEntries : List MetadataEntry → Except MetadataError Bytes
  | [] => .ok []
  | e :: rest => do
      let head ← encodeEntry e
      let tail ← encodeEntries rest
      return head ++ tail

/-- The bytes of the metadata. -/
def encode (c : Composite) : Except MetadataError Bytes := encodeEntries c.entries

/-! ## Reading -/

/-- The first `n` bytes, and what follows them. -/
def take (n : Nat) (data : Bytes) : Except MetadataError (Bytes × Bytes) :=
  if data.length < n then .error (.truncated n data.length) else .ok (data.splitAt n)

/-- The mime type that ASCII bytes write. -/
def mimeOf (bytes : Bytes) : Except MetadataError String :=
  if bytes.all (· < 0x80) then
    match ofUtf8? bytes with
    | some mime => .ok mime
    | none => .error (.invalidUtf8 .mimeType)
  else .error (.invalidUtf8 .mimeType)

/-- Reads one entry after its first byte, which is also the first of `data`. -/
def decodeEntry (header : UInt8) (data : Bytes) : Except MetadataError (MetadataEntry × Bytes) :=
  if header &&& 0x80 ≠ 0 then .error (.wellKnownMime header)
  else do
    let (mimeField, data) ← take (header.toNat + 2) data
    let mime ← mimeOf (mimeField.drop 1)
    let (lengthBytes, data) ← take 3 data
    let (content, data) ← take (lengthBytes.foldl (fun n b => n * 256 + b.toNat) 0) data
    return (⟨mime, content⟩, data)

/-- Reads entries until the bytes end.  Each entry takes at least one byte, so as
many steps as there are bytes suffice. -/
def decodeEntries : Nat → Bytes → Except MetadataError (List MetadataEntry)
  | _, [] => .ok []
  | 0, _ :: _ => .ok []
  | fuel + 1, header :: rest => do
      let (entry, data) ← decodeEntry header (header :: rest)
      return entry :: (← decodeEntries fuel data)

/-- Reads metadata. -/
def decode (data : Bytes) : Except MetadataError Composite := do
  return ⟨← decodeEntries data.length data⟩

end Composite

end ServiceMesh
