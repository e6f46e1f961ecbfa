import ServiceMesh.Pool.State
import ServiceMesh.Transport.Wire

/-!
# Calls through a pool

The operations of a pool that wait.  Between two waits they act on the pool in one
of its atomic sections, so any number of them can run side by side.

A link to an address is opened on first use.  If that fails, the address becomes
unhealthy, and a call that may go to any endpoint tries the next candidate.
-/

namespace ServiceMesh

/-- What a pool asks of its surroundings. -/
structure PoolHost (m : Type → Type u) where
  /-- The links. -/
  wire : Wire m
  /-- Acts on the pool in one section. -/
  atomically : {α : Type} → (Pool → Links → α × Pool × Links) → m α
  /-- Whether some transport takes an address. -/
  resolves : String → Bool
  /-- Keeps changes of the addresses one after the other. -/
  exclusively : {α : Type} → m α → m α
  /-- Draws at random. -/
  draw : m Draw
  /-- Runs a call and measures how long it takes, in milliseconds. -/
  timed : {α : Type} → m α → m (α × Float)

namespace PoolHost

variable {m : Type → Type u} [Monad m]

/-- Acts on the pool in a section without a result. -/
def change (h : PoolHost m) (f : Pool → Links → Pool × Links) : m Unit :=
  h.atomically fun p links => ((), f p links)

/-- Reads the pool. -/
def read (h : PoolHost m) (f : Pool → α) : m α := h.atomically fun p links => (f p, p, links)

/-- A link to an address: the one in use, or a new one. -/
def ensure (h : PoolHost m) (uri : String) : m (Except Fault LinkId) := do
  match ← h.atomically (Pool.takeOpen uri) with
  | some link => return .ok link
  | none =>
      match ← h.wire.openLink uri with
      | .ok link => h.atomically (Pool.adopt uri link)
      | .error fault =>
          h.change (Pool.markUnhealthy uri)
          return .error fault

/-- Sets the addresses.  With eager settings, new ones are opened at once. -/
def refresh (h : PoolHost m) (uris : List String) : m RefreshSummary :=
  h.exclusively do
    let summary ← h.atomically (Pool.setUris h.resolves uris)
    if ← h.read (·.settings.eagerConnect) then
      let _ ← h.wire.all (summary.added.map h.ensure)
    return summary

/-- Opens a link to an address that is out of use. -/
def tryAgain (h : PoolHost m) (uri : String) : m (Option (String × LinkId)) := do
  match ← h.wire.openLink uri with
  | .ok link => return some (uri, link)
  | .error _ => return none

/-- Tries all unhealthy addresses again, and gives those that recovered. -/
def retry (h : PoolHost m) : m (List String) := do
  let pending ← h.read Pool.unhealthyUris
  let opened ← h.wire.all (pending.map h.tryAgain)
  h.atomically (Pool.finishCheck (opened.filterMap id))

/-- The fault of a destination without candidates. -/
def exhausted (h : PoolHost m) : m (Except Fault α) := do
  return .error (.noAvailable (← h.read (·.destination)))

/-- A link to the first of the candidates, in the order of the balancer, that can be
opened.  Each attempt rules one candidate out. -/
def firstOf (h : PoolHost m) (fingerprint : Option Bytes) :
    Nat → List String → m (Except Fault (String × LinkId))
  | 0, _ => h.exhausted
  | fuel + 1, candidates => do
      let draw ← h.draw
      match ← h.atomically fun p links =>
          let (choice, p) := p.choose draw fingerprint candidates
          (choice, p, links) with
      | none => h.exhausted
      | some uri =>
          match ← h.ensure uri with
          | .ok link => return .ok (uri, link)
          | .error _ => h.firstOf fingerprint fuel (candidates.filter (· ≠ uri))

/-- A link to some endpoint. -/
def connection (h : PoolHost m) (fingerprint : Option Bytes) :
    m (Except Fault (String × LinkId)) := do
  let candidates ← h.read Pool.candidates
  h.firstOf fingerprint (candidates.length + 1) candidates

/-- A link to one endpoint. -/
def connectionTo (h : PoolHost m) (uri : String) : m (Except Fault LinkId) := do
  if ← h.read fun p => p.isUsable uri then h.ensure uri
  else return .error (.noAvailable ((← h.read (·.destination)) ++ " (" ++ uri ++ ")"))

/-- Calls over a link, and keeps the accounts. -/
def call (h : PoolHost m) (uri : String) (link : LinkId) (payload : Payload) :
    m (Except Fault Payload) := do
  h.change fun p links => (p.startCall uri, links)
  let timeoutMs ← h.read (·.settings.callTimeoutMs)
  let (result, latency) ← h.timed (h.wire.requestWithin timeoutMs link payload)
  h.change (Pool.finishCall uri latency result)
  return result

/-- Calls some endpoint. -/
def request (h : PoolHost m) (payload : Payload) (fingerprint : Option Bytes) :
    m (Except Fault Payload) := do
  match ← h.connection fingerprint with
  | .ok (uri, link) => h.call uri link payload
  | .error fault => return .error fault

/-- Calls one endpoint. -/
def requestTo (h : PoolHost m) (uri : String) (payload : Payload) :
    m (Except Fault Payload) := do
  match ← h.connectionTo uri with
  | .ok link => h.call uri link payload
  | .error fault => return .error fault

/-- Sends to one endpoint without a reply. -/
def sendTo (h : PoolHost m) (payload : Payload) (uri : String) :
    m (String × Except Fault Unit) := do
  let result ← match ← h.ensure uri with
    | .ok link => h.wire.send link payload
    | .error fault => pure (.error fault)
  if Pool.failed result then h.change (Pool.markUnhealthy uri)
  return (uri, result)

/-- Sends to every endpoint that may be used, and gives one result for each. -/
def broadcast (h : PoolHost m) (payload : Payload) : m (List (String × Except Fault Unit)) := do
  h.wire.all ((← h.read Pool.candidates).map (h.sendTo payload))

/-- Closes every link. -/
def close (h : PoolHost m) : m Unit := h.change Pool.close

end PoolHost

end ServiceMesh
