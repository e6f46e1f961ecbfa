import ServiceMesh.Fault
import ServiceMesh.Report.Document
import ServiceMesh.Settings.CommandLine

/-!
# Errors as documents

Each cause has a kind, by which a tool tells causes apart, and a text.  A cause that
lies in the wire format has no text of its own.
-/

namespace ServiceMesh

/-- The kind of an address error. -/
def LocatorError.kind : LocatorError → String
  | emptyService => "EmptyService"
  | reserved .. => "ReservedCharacter"
  | duplicateSeparator .. => "DuplicateSeparator"
  | emptySegment .. => "EmptySegment"

/-- An address error as a document. -/
def LocatorError.toDocument (e : LocatorError) : Document := .failure e.kind e.message

/-- The kind of a metadata error. -/
def MetadataError.kind : MetadataError → String
  | truncated .. => "Truncated"
  | mimeLength _ => "MimeLength"
  | wellKnownMime _ => "WellKnownMime"
  | contentTooLarge _ => "ContentTooLarge"
  | invalidUtf8 _ => "InvalidUtf8"
  | missingMethod _ => "MissingMethod"
  | invalidLocator .. => "InvalidLocator"
  | hashMismatch .. => "HashMismatch"
  | noRoutingEntry => "NoRoutingEntry"

/-- A metadata error as a document. -/
def MetadataError.toDocument (e : MetadataError) : Document := .failure e.kind e.message

/-- An event error as a document. -/
def EventError.toDocument : EventError → Document
  | decode => .failure "Decode" none
  | encode => .failure "Encode" none
  | e => .failure "TypeMismatch" e.message

/-- The kind of a fault. -/
def Fault.kind : Fault → String
  | noAvailable _ => "NoAvailableUpstream"
  | unresolvedTransport _ => "UnresolvedTransport"
  | handshakeFailed .. => "HandshakeFailed"
  | malformedRouting _ => "MalformedRoutingMetadata"
  | timeout _ => "Timeout"
  | connectionClosed _ => "ConnectionClosed"
  | remote _ => "Remote"
  | codec _ => "Codec"
  | internal _ => "Internal"

/-- A fault as a document. -/
def Fault.toDocument (f : Fault) : Document :=
  match f with
  | codec _ => .failure f.kind none
  | _ => .failure f.kind f.message

/-- The kind of a mistake on the command line. -/
def Settings.UsageError.kind : Settings.UsageError → String
  | displayHelp => "DisplayHelp"
  | unknownArgument => "UnknownArgument"
  | invalidValue => "InvalidValue"
  | valueValidation => "ValueValidation"
  | argumentConflict => "ArgumentConflict"
  | tooManyValues => "TooManyValues"

end ServiceMesh
