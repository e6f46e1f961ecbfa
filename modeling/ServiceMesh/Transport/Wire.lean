import ServiceMesh.Identity
import ServiceMesh.Transport.Registry

/-!
# Calls over links

The parts of the mesh that call others are written against a `Wire`: what it takes
to open links, to call over them, to limit the time of a call, and to make several
calls side by side.  They can be run over any monad that offers these.
-/

namespace ServiceMesh

/-- The replies of a streaming call. -/
structure Replies where
  /-- The replies, and the faults between them. -/
  items : List (Except Fault Payload)
  /-- Whether more may come, so that only a closed link ends the stream. -/
  endless : Bool
  /-- The links over which the replies come, the one nearest to the caller first. -/
  links : List LinkId

/-- How links are opened and used. -/
structure Wire (m : Type → Type u) where
  /-- Opens a link to an address. -/
  openLink : String → m (Except Fault LinkId)
  /-- Calls and waits for the reply. -/
  request : LinkId → Payload → m (Except Fault Payload)
  /-- Calls without a reply. -/
  send : LinkId → Payload → m (Except Fault Unit)
  /-- Calls for a stream of replies. -/
  stream : LinkId → Payload → m (Except Fault Replies)
  /-- Runs something for at most some milliseconds. -/
  within : {α : Type} → Nat → m α → m (Option α)
  /-- Runs several things side by side, starting them in order. -/
  all : {α : Type} → List (m α) → m (List α)

/-- Calls with a time limit. -/
def Wire.requestWithin [Monad m] (w : Wire m) (timeoutMs : Nat) (link : LinkId)
    (payload : Payload) : m (Except Fault Payload) := do
  match ← w.within timeoutMs (w.request link payload) with
  | some result => return result
  | none => return .error (.timeout timeoutMs)

end ServiceMesh
