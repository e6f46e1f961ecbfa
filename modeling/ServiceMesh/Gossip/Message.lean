import ServiceMesh.Event
import ServiceMesh.Metadata.Composite

/-!
# Gossip messages

Brokers find each other by gossip.  A gossip message travels as an ordinary call
whose metadata has a gossip entry.  On the wire it is one map: the kind of message
under `type`, and the fields of that kind beside it.  A list with the kind in front
is read as well.
-/

namespace ServiceMesh

/-- The mime type that marks gossip. -/
def mimeGossip : String := "message/x.meshrpc.gossip.v0"

/-- A member as others hear of it. -/
structure MemberDigest where
  /-- The id of the broker. -/
  id : String
  /-- Where it is reached. -/
  uri : String
deriving DecidableEq, Repr

/-- What a broker knows: itself, and the members it counts as active. -/
structure Digest where
  /-- Who speaks. -/
  sender : BrokerInfo
  /-- The members it knows, itself left out. -/
  members : List MemberDigest
deriving DecidableEq, Repr

/-- A message between brokers. -/
inductive GossipMessage where
  /-- Tells what the sender knows and asks for the same. -/
  | ping (digest : Digest)
  /-- Answers a ping. -/
  | ack (digest : Digest)
  /-- Asks a broker who it is. -/
  | fetchBrokerInfo
  /-- Says who a broker is. -/
  | brokerInfo (info : BrokerInfo)
  /-- Says that a broker leaves. -/
  | leave (id : String)
  /-- Carries a control event. -/
  | controlEvent (envelope : Envelope)
deriving DecidableEq, Repr

namespace GossipMessage

open MsgPack (Value Fields)

/-- The kinds of message on the wire, by number. -/
def tags : List String :=
  ["PING", "ACK", "FETCH_BROKER_INFO", "BROKER_INFO", "LEAVE", "CONTROL_EVENT"]

/-- The kind of a message on the wire. -/
def tag : GossipMessage → String
  | ping _ => "PING"
  | ack _ => "ACK"
  | fetchBrokerInfo => "FETCH_BROKER_INFO"
  | brokerInfo _ => "BROKER_INFO"
  | leave _ => "LEAVE"
  | controlEvent _ => "CONTROL_EVENT"

/-- The wire form of a digest row. -/
def memberValue (m : MemberDigest) : Value :=
  MsgPack.recordOf [("id", .text m.id), ("uri", .text m.uri)]

/-- The fields of a digest. -/
def digestFields (d : Digest) : List (String × Value) :=
  [("from", d.sender.toValue), ("members", .array (d.members.map memberValue))]

/-- The fields of a message beside its kind. -/
def fields : GossipMessage → List (String × Value)
  | ping d => digestFields d
  | ack d => digestFields d
  | fetchBrokerInfo => []
  | brokerInfo info => info.toFields
  | leave id => [("id", .text id)]
  | controlEvent envelope => envelope.toFields

/-- The wire form. -/
def toValue (m : GossipMessage) : Value := MsgPack.recordOf (("type", .text m.tag) :: m.fields)

/-- Reads a digest row. -/
def readMember (v : Value) : Option MemberDigest := do
  let f ← MsgPack.asFields .loose ["id", "uri"] v
  return ⟨← f.required 0 Value.asText, ← f.required 1 Value.asText⟩

/-- Reads a digest. -/
def readDigest (v : Value) : Option Digest := do
  let f ← MsgPack.asFields .loose ["from", "members"] v
  return ⟨← f.required 0 (BrokerInfo.ofValue .loose), ← f.required 1 (Value.asList readMember)⟩

/-- Reads the content of a message whose kind has the number `kind`. -/
def ofContent (kind : Nat) (content : Value) : Option GossipMessage :=
  match kind with
  | 0 => (readDigest content).map ping
  | 1 => (readDigest content).map ack
  | 2 =>
      match content with
      | .array (_ :: _) => none
      | _ => some fetchBrokerInfo
  | 3 => (BrokerInfo.ofValue .loose content).map brokerInfo
  | 4 => do
      let f ← MsgPack.asFields .loose ["id"] content
      return leave (← f.required 0 Value.asText)
  | 5 => (Envelope.ofValue .loose content).map controlEvent
  | _ => none

/-- Whether a key announces the kind. -/
def isTagKey : Value → Bool
  | .text s => s == "type"
  | .binary b => b == utf8 "type"
  | _ => false

/-- Reads the wire form. -/
def ofValue : Value → Option GossipMessage
  | .map rows =>
      match rows.filter (isTagKey ·.1) with
      | [(_, kind)] => do
          ofContent (← kind.asVariant tags) (.map (rows.filter fun r => !isTagKey r.1))
      | _ => none
  | .array (kind :: content) => do ofContent (← kind.asVariant tags) (.array content)
  | _ => none

/-- The bytes of a message. -/
def encode (m : GossipMessage) : Bytes := m.toValue.encode

/-- Reads the bytes of a message. -/
def decode? (b : Bytes) : Option GossipMessage := MsgPack.decode? b >>= ofValue

/-- The metadata of every gossip call. -/
def metadata : Composite := ⟨[⟨mimeGossip, []⟩]⟩

/-- The message as a call. -/
def toPayload (m : GossipMessage) : Except MetadataError Payload := do
  return ⟨← metadata.encode, m.encode⟩

/-- The message in a call. -/
def ofPayload (p : Payload) : Option GossipMessage := decode? p.data

end GossipMessage

/-- Whether metadata marks a call as gossip. -/
def Composite.isGossip (c : Composite) : Bool := (c.get? mimeGossip).isSome

end ServiceMesh
