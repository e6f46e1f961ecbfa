import ServiceMesh.Gossip.Membership
import ServiceMesh.Pool.Calls

/-!
# The gossip protocol

In every round a broker pings its members and the seeds that are no members yet.  A
ping carries what the sender knows, and the answer carries what the receiver knows.
A broker that is known only from hearsay is asked who it is before it is added.
Whenever the members change, the pool of links between brokers follows.
-/

namespace ServiceMesh

/-- What a membership asks of its surroundings. -/
structure GossipHost (m : Type → Type u) where
  /-- The links. -/
  wire : Wire m
  /-- Acts on the membership in one section. -/
  atomically : {α : Type} → (Membership → Links → α × Membership × Links) → m α
  /-- The pool of links between brokers. -/
  pool : Option (PoolHost m)
  /-- The addresses that a directory has for a name. -/
  lookup : String → m (Option (List String))
  /-- Takes in a control event. -/
  deliver : Envelope → m Unit
  /-- The time of day in milliseconds. -/
  clock : m Nat

namespace GossipHost

variable {m : Type → Type u} [Monad m]

/-- Acts on the membership alone. -/
def act (h : GossipHost m) (f : Membership → α × Membership) : m α :=
  h.atomically fun s links => ((f s).1, (f s).2, links)

/-- Acts on the membership in a section without a result. -/
def change (h : GossipHost m) (f : Membership → Membership) : m Unit := h.act fun s => ((), f s)

/-- Reads the membership. -/
def read (h : GossipHost m) (f : Membership → α) : m α := h.act fun s => (f s, s)

/-! ## Calls to other brokers -/

/-- A link to an address: the one at hand, or a new one. -/
def connection (h : GossipHost m) (uri : String) : m (Except Fault LinkId) := do
  match ← h.atomically fun s links => (s.openLink? uri links, s, links) with
  | some link => return .ok link
  | none =>
      match ← h.wire.openLink uri with
      | .error fault => return .error fault
      | .ok link =>
          h.change (Membership.keepLink uri link)
          return .ok link

/-- Closes the link to an address. -/
def dropLink (h : GossipHost m) (uri : String) : m Unit :=
  h.atomically fun s links => ((), s.dropLink uri links)

/-- The answer that a reply carries.  An empty reply carries none. -/
def readReply (p : Payload) : Except Fault (Option GossipMessage) :=
  if p.data.isEmpty then .ok none
  else match GossipMessage.ofPayload p with
    | some message => .ok (some message)
    | none => .error (.codec "malformed gossip message")

/-- Sends a message and waits for the answer. -/
def request (h : GossipHost m) (uri : String) (message : GossipMessage) :
    m (Except Fault (Option GossipMessage)) := do
  match message.toPayload with
  | .error cause => return .error (.malformedRouting cause)
  | .ok payload =>
      match ← h.connection uri with
      | .error fault => return .error fault
      | .ok link =>
          let timeoutMs ← h.read (·.settings.requestTimeoutMs)
          match ← h.wire.requestWithin timeoutMs link payload with
          | .ok reply => return readReply reply
          | .error fault =>
              h.dropLink uri
              return .error fault

/-- Sends a message without waiting for an answer. -/
def send (h : GossipHost m) (message : GossipMessage) (uri : String) : m (Except Fault Unit) := do
  match message.toPayload with
  | .error cause => return .error (.malformedRouting cause)
  | .ok payload =>
      match ← h.connection uri with
      | .error fault => return .error fault
      | .ok link =>
          let result ← h.wire.send link payload
          match result with
          | .ok () => return .ok ()
          | .error fault =>
              h.dropLink uri
              return .error fault

/-- Sends a control event to one broker. -/
def sendEvent (h : GossipHost m) (uri : String) (envelope : Envelope) : m (Except Fault Unit) :=
  h.send (.controlEvent envelope) uri

/-- Sends a control event to all members. -/
def broadcast (h : GossipHost m) (envelope : Envelope) : m Unit := do
  let _ ← h.wire.all ((← h.read (·.peers.uris)).map (h.send (.controlEvent envelope)))

/-! ## Members -/

/-- Has the pool of links between brokers follow the members. -/
def follow (h : GossipHost m) : m Unit := do
  match h.pool with
  | none => pure ()
  | some pool => do
      let _ ← pool.refresh (← h.read (·.peers.uris))

/-- Adds a broker. -/
def addMember (h : GossipHost m) (info : BrokerInfo) : m Unit := do
  let now ← h.clock
  if ← h.act (Membership.add info now) then h.follow

/-- Removes a member, and closes the link to it. -/
def removeMember (h : GossipHost m) (id : String) (reason : Departure) (now : Nat) :
    m Unit := do
  match ← h.act (Membership.forgetPeer id reason now) with
  | none => pure ()
  | some member =>
      h.dropLink member.uri
      h.follow

/-- Asks a broker that is known from hearsay who it is, and adds it if it is the one. -/
def confirm (h : GossipHost m) (row : MemberDigest) : m Unit := do
  match ← h.request row.uri .fetchBrokerInfo with
  | .ok (some (.brokerInfo info)) =>
      if info.id = row.id then
        let now ← h.clock
        h.change (Membership.heartbeat info.id now)
        h.addMember info
  | _ => pure ()

/-- Does something for each item of a list, one after the other. -/
def eachInTurn (f : α → m Unit) : List α → m Unit
  | [] => pure ()
  | x :: rest => do
      f x
      eachInTurn f rest

/-- Takes in what a broker tells about itself and its members. -/
def observe (h : GossipHost m) (digest : Digest) : m Unit := do
  if digest.sender.id = (← h.read (·.self.id)) then pure ()
  else
    let now ← h.clock
    h.change (Membership.heartbeat digest.sender.id now)
    h.addMember digest.sender
    let rows ← h.read (Membership.unknown digest.members now)
    eachInTurn h.confirm rows

/-- Handles a message, and gives the answer if there is one. -/
def handle (h : GossipHost m) : GossipMessage → m (Option GossipMessage)
  | .ping digest => do
      h.observe digest
      return some (.ack (← h.read Membership.digest))
  | .fetchBrokerInfo => return some (.brokerInfo (← h.read (·.self)))
  | .ack digest => do
      h.observe digest
      return none
  | .brokerInfo info => do
      h.addMember info
      return none
  | .leave id => do
      h.removeMember id .left (← h.clock)
      return none
  | .controlEvent envelope => do
      h.deliver envelope
      return none

/-- Handles a message, and gives the reply to the call that it came with. -/
def reply (h : GossipHost m) (message : GossipMessage) : m (Except Fault Payload) := do
  match ← h.handle message with
  | none => return .ok {}
  | some answer =>
      match answer.toPayload with
      | .ok payload => return .ok payload
      | .error cause => return .error (.malformedRouting cause)

/-- Answers a call that is gossip. -/
def answer (h : GossipHost m) (p : Payload) : m (Except Fault Payload) :=
  match GossipMessage.ofPayload p with
  | none => pure (.error (.codec "malformed gossip message"))
  | some message => h.reply message

/-! ## Rounds -/

/-- Exchanges what is known with one broker. -/
def exchange (h : GossipHost m) (ping : GossipMessage) (uri : String) : m Unit := do
  match ← h.request uri ping with
  | .ok (some (.ack digest)) => h.observe digest
  | _ => pure ()

/-- One round of gossip. -/
def round (h : GossipHost m) : m Unit := do
  let found ← h.lookup brokerDestination
  let targets ← h.read (Membership.targets · (found.getD []))
  let ping : GossipMessage := .ping (← h.read Membership.digest)
  let _ ← h.wire.all (targets.map (h.exchange ping))
  let now ← h.clock
  h.change (Membership.forgetDeparted now)

/-- Removes the members on which the detector gave up, and gives their ids. -/
def detect (h : GossipHost m) (now : Nat) : m (List String) := do
  let failed ← h.read (Membership.silent now)
  eachInTurn (h.removeMember · .failed now) failed
  return failed

/-- One turn of the periodic work: a round, and then a check for failures. -/
def tick (h : GossipHost m) : m Unit := do
  h.round
  let _ ← h.detect (← h.clock)

/-- Joins the cluster. -/
def start (h : GossipHost m) : m Unit := do
  h.round
  h.change (Membership.become .active)

/-- Leaves the cluster: tells every member, and then knows none any more. -/
def leave (h : GossipHost m) : m Unit := do
  h.change (Membership.become .leaving)
  let notice : GossipMessage := .leave (← h.read (·.self.id))
  let _ ← h.wire.all ((← h.read (·.peers.uris)).map (h.send notice))
  let now ← h.clock
  h.change (Membership.clear now)
  h.follow
  h.atomically fun s links => ((), s.dropLinks links)

end GossipHost

end ServiceMesh
