import ServiceMesh.Gossip.Detector
import ServiceMesh.Gossip.Message
import ServiceMesh.Gossip.Peers
import ServiceMesh.Settings
import ServiceMesh.Transport.Link

/-!
# Membership of a broker

The state of one broker in a cluster of brokers: the peers that it counts as members,
the detector that watches them, and its links to them.  A broker is never a peer of
itself, and a broker that is not active is no peer.

The functions here are the atomic sections of a membership.
-/

namespace ServiceMesh

/-- The state of one broker in a cluster. -/
structure Membership where
  /-- What the broker says about itself. -/
  self : BrokerInfo
  /-- The settings. -/
  settings : MembershipSettings
  /-- The other brokers. -/
  peers : PeerTable := {}
  /-- What watches the other brokers. -/
  detector : Detector
  /-- The links to other brokers, by address. -/
  connections : Dict String LinkId := .empty
  /-- Where the broker itself is in its membership. -/
  state : MemberState := .joining
  /-- All changes of the peer table, oldest first. -/
  history : List MembershipChange := []

namespace Membership

/-- A membership that watches its peers by a deadline. -/
def new (self : BrokerInfo) (settings : MembershipSettings) : Membership where
  self := self
  settings := settings
  detector := .ofDeadline settings.failureTimeoutMs

/-- Where the broker is reached. -/
def uri (m : Membership) : String := m.self.url

/-- How many failure timeouts a tombstone lasts. -/
def tombstoneFactor : Nat := 3

/-- How long a tombstone lasts. -/
def tombstoneMs (m : Membership) : Nat :=
  min (m.settings.failureTimeoutMs * tombstoneFactor) 18446744073709551615

/-- What the broker tells about itself and its members. -/
def digest (m : Membership) : Digest where
  sender := m.self
  members := m.peers.members.map fun x => ⟨x.info.id, x.uri⟩

/-- The seeds of a list that are no targets yet, and not the broker itself. -/
def addSeeds (self : String) : List String → List String → List String
  | targets, [] => targets
  | targets, seed :: rest =>
      if seed = self ∨ seed ∈ targets then addSeeds self targets rest
      else addSeeds self (targets ++ [seed]) rest

/-- Whom a round of gossip contacts: the members, and the seeds that are no members. -/
def targets (m : Membership) (found : List String) : List String :=
  addSeeds m.uri m.peers.uris (m.settings.seeds ++ found)

/-- Sets where the broker is in its membership. -/
def become (state : MemberState) (m : Membership) : Membership := { m with state := state }

/-! ## Peers -/

/-- Hears from a peer. -/
def heartbeat (id : String) (now : Nat) (m : Membership) : Membership :=
  { m with detector := m.detector.heartbeat id now }

/-- Adds a broker, unless it is this one or inactive.  Says whether it is a new peer. -/
def add (info : BrokerInfo) (now : Nat) (m : Membership) : Bool × Membership :=
  if info.id = m.self.id ∨ !info.isActive then (false, m)
  else
    match m.peers.upsert info now with
    | (peers, none) => (false, { m with peers := peers })
    | (peers, some change) =>
        (true, ({ m with peers := peers, history := m.history ++ [change] } : Membership).heartbeat
          info.id now)

/-- Removes a peer from the table and from the detector.  Gives the peer. -/
def forgetPeer (id : String) (reason : Departure) (now : Nat) (m : Membership) :
    Option Member × Membership :=
  match m.peers.remove id reason now with
  | (_, none) => (none, m)
  | (peers, some (member, change)) =>
      (some member, { m with
        peers := peers
        detector := m.detector.forget id
        history := m.history ++ [change] })

/-- The rows of a digest about brokers that are not known: not this one, no member, and
not recently departed. -/
def unknown (rows : List MemberDigest) (now : Nat) (m : Membership) : List MemberDigest :=
  rows.filter fun d =>
    d.id != m.self.id && !m.peers.contains d.id
      && !m.peers.recentlyDeparted d.id now m.tombstoneMs

/-- The peers on which the detector gave up, by id. -/
def silent (now : Nat) (m : Membership) : List String :=
  (m.peers.members.filter fun x => !m.detector.isAvailable x.info.id now).map (·.info.id)

/-- Drops the tombstones that are too old. -/
def forgetDeparted (now : Nat) (m : Membership) : Membership :=
  { m with peers := m.peers.forgetDeparted now m.tombstoneMs }

/-- Removes all peers. -/
def clear (now : Nat) (m : Membership) : Membership :=
  m.peers.members.foldl (fun m x => (m.forgetPeer x.info.id .left now).2) m

/-! ## Links -/

/-- The open link to an address. -/
def openLink? (uri : String) (m : Membership) (links : Links) : Option LinkId :=
  (m.connections.get? uri).filter fun link => !links.isClosed link

/-- Keeps a link to an address. -/
def keepLink (uri : String) (link : LinkId) (m : Membership) : Membership :=
  { m with connections := m.connections.insert uri link }

/-- Closes the link to an address. -/
def dropLink (uri : String) (m : Membership) (links : Links) : Membership × Links :=
  ({ m with connections := m.connections.erase uri }, links.close? (m.connections.get? uri))

/-- Closes all links. -/
def dropLinks (m : Membership) (links : Links) : Membership × Links :=
  ({ m with connections := .empty }, m.connections.values.foldl Links.close links)

end Membership

end ServiceMesh
