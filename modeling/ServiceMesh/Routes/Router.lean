import ServiceMesh.Metadata.Routing
import ServiceMesh.Pool.Calls
import ServiceMesh.Routes.Table

/-!
# Routing of calls

A call says in its metadata which service it wants.  The router picks one responder
that takes calls for it, and forwards the call: to a provider that is connected here
over its link, to any other through the broker at which it is connected.

A call that is passed to another broker gets a relay entry.  A relayed call goes to
no remote responder, so no call crosses more than one link between brokers.
-/

namespace ServiceMesh

/-- The mime type that marks a relayed call. -/
def mimeRelay : String := "message/x.meshrpc.relay.v0"

/-- What a router knows between calls. -/
structure Router where
  /-- The id of this broker. -/
  brokerId : String
  /-- How a responder is chosen. -/
  balancer : Balancer
  /-- How a responder is chosen for a sticky call. -/
  sticky : RingBalancer := {}
  /-- Whether all calls are sticky. -/
  alwaysSticky : Bool := false
  /-- How long a call may take. -/
  callTimeoutMs : Nat

/-- Where a call goes. -/
structure Target where
  /-- The responder. -/
  responder : Responder
  /-- What the call wants. -/
  routing : Routing
  /-- The metadata of the call. -/
  metadata : Composite

/-- Whether a call was passed on by another broker. -/
def Composite.isRelayed (c : Composite) : Bool := (c.get? mimeRelay).isSome

namespace Router

instance : Inhabited Router := ⟨{ brokerId := "", balancer := default, callTimeoutMs := 0 }⟩

/-- Forgets what is kept for a routing hash. -/
def invalidate (r : Router) (hash : UInt32) : Router :=
  { r with sticky := r.sticky.invalidate hash, balancer := r.balancer.invalidate hash }

/-- What the metadata of a call says. -/
def readMetadata (p : Payload) : Except Fault (Composite × Routing) :=
  match Composite.decode p.metadata with
  | .error cause => .error (.malformedRouting cause)
  | .ok c =>
      match c.routing with
      | .error cause => .error (.malformedRouting cause)
      | .ok routing => .ok (c, routing)

/-- The responders to which a call may go. -/
def eligible (table : RouteTable) (c : Composite) (routing : Routing) : List Responder :=
  (table.serving routing.locator).filter fun r => !c.isRelayed || !r.isRemote

/-- Chooses one of the ids of responders. -/
def choose (r : Router) (draw : Draw) (routing : Routing) (data : Bytes) (keys : List String) :
    Option String × Router :=
  if routing.sticky || r.alwaysSticky then
    let (choice, sticky) := r.sticky.pick routing.serviceHash (some data) keys
    (choice, { r with sticky := sticky })
  else
    let (choice, balancer) := r.balancer.pick draw routing.serviceHash (some data) keys
    (choice, { r with balancer := balancer })

/-- Chooses the responder for a call. -/
def aim (draw : Draw) (p : Payload) (r : Router) (table : RouteTable) :
    Except Fault Target × Router :=
  match readMetadata p with
  | .error fault => (.error fault, r)
  | .ok (c, routing) =>
      let responders := eligible table c routing
      let (choice, r) := r.choose draw routing p.data (responders.map Responder.key)
      match choice.bind fun key => responders.find? fun x => x.key == key with
      | some responder => (.ok ⟨responder, routing, c⟩, r)
      | none => (.error (.noAvailable routing.locator.gsv), r)

/-- The call as the next broker gets it. -/
def relayed (r : Router) (target : Target) (data : Bytes) : Except Fault Payload :=
  let c := target.metadata
  let c := if c.isRelayed then c else c.push mimeRelay (utf8 r.brokerId)
  match c.encode with
  | .ok metadata => .ok ⟨metadata, data⟩
  | .error cause => .error (.malformedRouting cause)

/-- Counts a call that starts. -/
def startCall (key : String) (r : Router) : Router := { r with balancer := r.balancer.start key }

/-- Counts a call that completed. -/
def finishCall (key : String) (latencyMs : Float) (result : Except Fault α) (r : Router) :
    Router :=
  { r with balancer := r.balancer.record key latencyMs (!Pool.failed result) }

end Router

/-- What a router asks of its surroundings. -/
structure RouterHost (m : Type → Type u) where
  /-- The links. -/
  wire : Wire m
  /-- Acts on the router in one section, with the route table in sight. -/
  atomically : {α : Type} → (Router → RouteTable → α × Router) → m α
  /-- The pool of links to other brokers. -/
  peers : Option (PoolHost m)
  /-- Draws at random. -/
  draw : m Draw
  /-- Runs a call and measures how long it takes, in milliseconds. -/
  timed : {α : Type} → m α → m (α × Float)

namespace RouterHost

variable {m : Type → Type u} [Monad m]

/-- Acts on the router in a section without a result. -/
def change (h : RouterHost m) (f : Router → Router) : m Unit := h.atomically fun r _ => ((), f r)

/-- Chooses the responder for a call. -/
def aim (h : RouterHost m) (p : Payload) : m (Except Fault Target) := do
  h.atomically (Router.aim (← h.draw) p)

/-- The call as the next broker gets it. -/
def relayed (h : RouterHost m) (target : Target) (data : Bytes) : m (Except Fault Payload) :=
  h.atomically fun r _ => (r.relayed target data, r)

/-- The fault of a call that would need another broker where there is none. -/
def alone (target : Target) : Except Fault α := .error (.noAvailable target.routing.locator.gsv)

/-- Calls a provider over its link, and keeps the accounts. -/
def requestDirect (h : RouterHost m) (target : Target) (link : LinkId) (p : Payload) :
    m (Except Fault Payload) := do
  let key := target.responder.key
  h.change (Router.startCall key)
  let timeoutMs ← h.atomically fun r _ => (r.callTimeoutMs, r)
  let (result, latency) ← h.timed (h.wire.requestWithin timeoutMs link p)
  h.change (Router.finishCall key latency result)
  return result

/-- Calls a provider through its broker. -/
def requestRemote (h : RouterHost m) (target : Target) (brokerUri : String) (p : Payload) :
    m (Except Fault Payload) := do
  match h.peers with
  | none => return alone target
  | some peers =>
      match ← h.relayed target p.data with
      | .error fault => return .error fault
      | .ok relayed => peers.requestTo brokerUri relayed

/-- Routes a call and waits for the reply. -/
def request (h : RouterHost m) (p : Payload) : m (Except Fault Payload) := do
  match ← h.aim p with
  | .error fault => return .error fault
  | .ok target =>
      match target.responder.route with
      | .direct link => h.requestDirect target link p
      | .peer brokerUri => h.requestRemote target brokerUri p

/-- Hands a call to a provider or its broker, without accounts. -/
def pass (h : RouterHost m) (p : Payload) (use : LinkId → Payload → m (Except Fault α)) :
    m (Except Fault α) := do
  match ← h.aim p with
  | .error fault => return .error fault
  | .ok target =>
      match target.responder.route, h.peers with
      | .direct link, _ => use link p
      | .peer _, none => return alone target
      | .peer brokerUri, some peers =>
          match ← peers.connectionTo brokerUri with
          | .error fault => return .error fault
          | .ok link =>
              match ← h.relayed target p.data with
              | .error fault => return .error fault
              | .ok relayed => use link relayed

/-- Routes a call without a reply. -/
def send (h : RouterHost m) (p : Payload) : m (Except Fault Unit) := h.pass p h.wire.send

/-- Routes a call for a stream of replies. -/
def stream (h : RouterHost m) (p : Payload) : m (Except Fault Replies) := h.pass p h.wire.stream

end RouterHost

end ServiceMesh
