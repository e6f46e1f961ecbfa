import ServiceMesh.Event
import ServiceMesh.Metadata.Error

/-!
# Faults of a call

Whatever goes wrong with a call reaches the caller as one of these causes.  Three
of them tell something about the link to the other end, and count against its
health: a failed handshake, a closed link, and a call that took too long.
-/

namespace ServiceMesh

/-- Why a call, or the opening of a link, failed. -/
inductive Fault where
  /-- Nothing serves the destination. -/
  | noAvailable (destination : String)
  /-- No transport takes the address. -/
  | unresolvedTransport (uri : String)
  /-- The other end could not be reached or is not trusted. -/
  | handshakeFailed (uri reason : String)
  /-- The metadata does not say where the call goes. -/
  | malformedRouting (cause : MetadataError)
  /-- No answer came in time. -/
  | timeout (timeoutMs : Nat)
  /-- The link was closed. -/
  | connectionClosed (uri : String)
  /-- The other end answered with an error. -/
  | remote (text : String)
  /-- A message could not be read or written. -/
  | codec (text : String)
  /-- Something inside the broker failed. -/
  | internal (text : String)
deriving DecidableEq, Repr

namespace Fault

/-- The text of a fault. -/
def message : Fault → String
  | noAvailable destination => "no available upstream for " ++ destination
  | unresolvedTransport uri => "no transport registered for " ++ uri
  | handshakeFailed uri reason => "handshake with " ++ uri ++ " failed: " ++ reason
  | malformedRouting cause => "malformed routing metadata: " ++ cause.message
  | timeout timeoutMs => "call timed out after " ++ toString timeoutMs ++ "ms"
  | connectionClosed uri => "connection to " ++ uri ++ " closed"
  | remote text => "remote error: " ++ text
  | codec text => "codec error: " ++ text
  | internal text => "internal error: " ++ text

/-- Whether the fault counts against the health of the other end. -/
def isConnectionFailure : Fault → Bool
  | handshakeFailed .. => true
  | connectionClosed .. => true
  | timeout .. => true
  | _ => false

/-- The fault of an event that cannot be read or written. -/
def ofEventError (e : EventError) : Fault := codec e.message

end Fault

end ServiceMesh
