import ServiceMesh.Locator

/-!
# Errors of call metadata
-/

namespace ServiceMesh

/-- The texts in call metadata that must be UTF-8. -/
inductive MetadataText where
  | mimeType
  | routingKey
deriving DecidableEq, Repr

/-- The name of a metadata text in messages. -/
def MetadataText.name : MetadataText → String
  | mimeType => "mime type"
  | routingKey => "routing key"

/-- Why bytes are no call metadata, or metadata has no bytes. -/
inductive MetadataError where
  /-- The bytes end too early. -/
  | truncated (needed available : Nat)
  /-- A mime type is empty or too long. -/
  | mimeLength (length : Nat)
  /-- A mime type is given by number. -/
  | wellKnownMime (header : UInt8)
  /-- The content of an entry is too long. -/
  | contentTooLarge (length : Nat)
  /-- A text is not UTF-8, or a mime type not ASCII. -/
  | invalidUtf8 (place : MetadataText)
  /-- A routing key names no method. -/
  | missingMethod (key : String)
  /-- The service part of a routing key is no locator. -/
  | invalidLocator (key : String) (source : LocatorError)
  /-- The hash in front of a routing key is not the hash of its service. -/
  | hashMismatch (declared computed : UInt32)
  /-- No entry says where the call goes. -/
  | noRoutingEntry
deriving DecidableEq, Repr

/-- A word as `0x` and eight hexadecimal digits. -/
def hexWord (w : UInt32) : String := "0x" ++ String.ofList (hexPadded w.toNat 8)

/-- The text of a metadata error. -/
def MetadataError.message : MetadataError → String
  | truncated needed available =>
      "metadata truncated: needed " ++ toString needed ++ " bytes, " ++ toString available
        ++ " available"
  | mimeLength length => "mime type length " ++ toString length ++ " is outside 1..=128"
  | wellKnownMime header =>
      "well-known mime ids are not supported (byte 0x" ++ toHex [header] ++ ")"
  | contentTooLarge length =>
      "entry content of " ++ toString length ++ " bytes exceeds the 24-bit length field"
  | invalidUtf8 place => "invalid UTF-8 in " ++ place.name
  | missingMethod key => "routing key " ++ Text.quoted key ++ " has no method segment"
  | invalidLocator key source =>
      "routing key " ++ Text.quoted key ++ " is not a valid locator: " ++ source.message
  | hashMismatch declared computed =>
      "binary routing hash " ++ hexWord declared ++ " does not match routing key hash "
        ++ hexWord computed
  | noRoutingEntry => "no routing entry in composite metadata"

end ServiceMesh
