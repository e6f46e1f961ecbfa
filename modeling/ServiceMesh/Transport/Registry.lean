import ServiceMesh.Certificate

/-!
# Transports

Transports are kept in order, and the first one that takes an address opens it.
Beside the network inside the process there are stand-ins for transports to the
outside: they take some time, refuse or connect, and present a certificate, which is
checked before the link is handed out.
-/

namespace ServiceMesh

/-- A transport to the outside as it shows itself. -/
structure StandIn where
  /-- The schemes it takes. -/
  schemes : List Scheme
  /-- The certificate of every endpoint behind it. -/
  certificate : Option Bytes := none
  /-- The reason with which it refuses to connect. -/
  refusal : Option String := none
  /-- How long it takes to connect. -/
  delayMs : Nat := 0

/-- Something that opens links. -/
inductive Transport where
  /-- The network inside the process. -/
  | inside
  /-- A transport to the outside. -/
  | outside (name : String) (standIn : StandIn)

namespace Transport

/-- The name of a transport. -/
def name : Transport → String
  | inside => "local"
  | outside name _ => name

/-- Whether a transport takes an address. -/
def takes (t : Transport) (uri : Uri) : Bool :=
  match t with
  | inside => uri.scheme == .local
  | outside _ standIn => standIn.schemes.contains uri.scheme

end Transport

/-- Finds the transport for an address without opening anything. -/
def resolve (transports : List Transport) (raw : String) : Except Fault (Uri × Transport) := do
  let uri ← Uri.parse raw
  match transports.find? fun t => t.takes uri with
  | some transport => return (uri, transport)
  | none => throw (.unresolvedTransport raw)

/-- Whether some transport takes an address. -/
def resolves (transports : List Transport) (raw : String) : Bool :=
  match resolve transports raw with
  | .ok _ => true
  | .error _ => false

/-- What the opening of links asks of its surroundings. -/
structure Dialer (m : Type → Type u) (η : Type) where
  /-- Changes the network in one section. -/
  atomically : {α : Type} → (Network η → α × Network η) → m α
  /-- Waits. -/
  sleep : Nat → m Unit

/-- Opens a link over a transport. -/
def openOver [Monad m] (d : Dialer m η) (uri : Uri) : Transport → m (Except Fault LinkId)
  | .inside => d.atomically fun n => n.openInside uri.raw uri.authority
  | .outside name standIn => do
      if 0 < standIn.delayMs then d.sleep standIn.delayMs
      match standIn.refusal with
      | some reason => return .error (.handshakeFailed uri.raw reason)
      | none =>
          d.atomically fun n =>
            let (id, n) := n.openOutside uri.raw name standIn.certificate
            (.ok id, n)

/-- Opens a link to an address. -/
def openLink [Monad m] (d : Dialer m η) (transports : List Transport) (raw : String) :
    m (Except Fault LinkId) := do
  match resolve transports raw with
  | .error fault => return .error fault
  | .ok (uri, transport) =>
      match ← openOver d uri transport with
      | .error fault => return .error fault
      | .ok id => d.atomically (checkPin uri id)

end ServiceMesh
