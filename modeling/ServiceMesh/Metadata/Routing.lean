import ServiceMesh.Metadata.Composite

/-!
# The routing entry

The routing entry of a call names a method of a service and says whether calls
with the same data should stick to one provider.  It has two forms.

* binary: the routing hash of the service, the routing hash of the whole key,
  a byte of flags, and the key as UTF-8;
* text: the key alone.

A key is `group!service.method:version`, the method standing after the last point
of the service part.  The binary form is refused if its first hash is not the hash
of the service that the key names.
-/

namespace ServiceMesh

/-- The mime type of the binary routing entry. -/
def mimeBinaryRouting : String := "message/x.meshrpc.binary-routing.v0"

/-- The mime type of the textual routing entry. -/
def mimeTextRouting : String := "message/x.meshrpc.routing.v0"

/-- The bytes in front of the key in the binary form. -/
def binaryHeaderLength : Nat := 9

/-- The flag of sticky calls. -/
def stickyFlag : UInt8 := 1

/-- Which method of which service a call wants. -/
structure Routing where
  /-- The service. -/
  locator : Locator
  /-- The method. -/
  method : String
  /-- Whether equal data should reach one provider. -/
  sticky : Bool
deriving DecidableEq, Repr

namespace Routing

/-- The hash of the service. -/
def serviceHash (r : Routing) : UInt32 := r.locator.hash

/-- The written form. -/
def key (r : Routing) : String := r.locator.methodKey r.method

/-- The hash of the written form, one per method. -/
def handlerHash (r : Routing) : UInt32 := Hash.routingHash r.key

/-- The parts around the first separator, the first part empty if there is none. -/
def beforeGroup (key : String) : String × String :=
  match Text.cut? groupSeparator key.toList with
  | some (group, rest) => (String.ofList group, String.ofList rest)
  | none => ("", key)

/-- The parts around the first separator, the second part empty if there is none. -/
def beforeVersion (rest : String) : String × String :=
  match Text.cut? versionSeparator rest.toList with
  | some (name, version) => (String.ofList name, String.ofList version)
  | none => (rest, "")

/-- Reads the written form. -/
def parseKey (key : String) (sticky : Bool) : Except MetadataError Routing :=
  let (group, rest) := beforeGroup key
  let (name, version) := beforeVersion rest
  match Text.cutLast? '.' name.toList with
  | none => .error (.missingMethod key)
  | some (service, method) =>
      if method.isEmpty then .error (.missingMethod key)
      else match Locator.parse (formatGsv group (String.ofList service) version) with
        | .error source => .error (.invalidLocator key source)
        | .ok locator => .ok ⟨locator, String.ofList method, sticky⟩

/-! ## The binary form -/

/-- Four bytes of a word, most significant first. -/
def wordField (w : UInt32) : Bytes :=
  [(w >>> 24).toUInt8, (w >>> 16).toUInt8, (w >>> 8).toUInt8, w.toUInt8]

/-- The word that four bytes write, most significant first. -/
def wordOfField (b : Bytes) : UInt32 := b.foldl (fun w x => (w <<< 8) ||| x.toUInt32) 0

/-- The binary form. -/
def encodeBinary (r : Routing) : Bytes :=
  wordField r.serviceHash ++ wordField r.handlerHash ++ (if r.sticky then stickyFlag else 0)
    :: utf8 r.key

/-- The service hash in front of the binary form, without reading the key. -/
def peekServiceHash (data : Bytes) : Except MetadataError UInt32 :=
  if data.length < binaryHeaderLength then .error (.truncated binaryHeaderLength data.length)
  else .ok (wordOfField (data.take 4))

/-- Reads the binary form. -/
def decodeBinary (data : Bytes) : Except MetadataError Routing := do
  let declared ← peekServiceHash data
  let sticky := (data.drop 8).headD 0 &&& stickyFlag ≠ 0
  match ofUtf8? (data.drop binaryHeaderLength) with
  | none => throw (.invalidUtf8 .routingKey)
  | some key =>
      let routing ← parseKey key sticky
      if routing.serviceHash ≠ declared then throw (.hashMismatch declared routing.serviceHash)
      return routing

/-- The metadata of a call: the binary form, then the written form. -/
def composite (r : Routing) : Composite :=
  ⟨[⟨mimeBinaryRouting, r.encodeBinary⟩, ⟨mimeTextRouting, utf8 r.key⟩]⟩

/-- The bytes of that metadata. -/
def toComposite (r : Routing) : Except MetadataError Bytes := r.composite.encode

end Routing

/-- The routing entry of call metadata.  The binary form goes before the text. -/
def Composite.routing (c : Composite) : Except MetadataError Routing :=
  match c.get? mimeBinaryRouting with
  | some entry => Routing.decodeBinary entry.content
  | none =>
      match c.get? mimeTextRouting with
      | some entry =>
          match ofUtf8? entry.content with
          | some key => Routing.parseKey key false
          | none => .error (.invalidUtf8 .routingKey)
      | none => .error .noRoutingEntry

end ServiceMesh
