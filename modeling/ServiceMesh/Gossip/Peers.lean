import ServiceMesh.Data.Dict
import ServiceMesh.Identity

/-!
# The peer table

The brokers that a broker counts as members, by id, and tombstones of those that
departed.  A tombstone keeps hearsay from bringing a departed broker back; it goes
when the broker itself is heard again, or when it is too old.
-/

namespace ServiceMesh

/-- Where a broker is in its membership.  The last two end it. -/
inductive MemberState where
  | joining
  | active
  | leaving
  | failed
deriving DecidableEq, Repr

/-- The name of a member state. -/
def MemberState.name : MemberState → String
  | joining => "joining"
  | active => "active"
  | leaving => "leaving"
  | failed => "failed"

/-- Why a member departed. -/
inductive Departure where
  /-- It said that it leaves. -/
  | left
  /-- It was silent for too long. -/
  | failed
deriving DecidableEq, Repr

/-- The name of a reason. -/
def Departure.name : Departure → String
  | left => "Left"
  | failed => "Failed"

/-- The state in which a departure leaves a member. -/
def Departure.state : Departure → MemberState
  | left => .leaving
  | failed => .failed

/-- A known broker. -/
structure Member where
  /-- What it says about itself. -/
  info : BrokerInfo
  /-- Where it is in its membership. -/
  state : MemberState
  /-- When it became a member. -/
  joinedAtMs : Nat
deriving DecidableEq, Repr

/-- Where a member is reached. -/
def Member.uri (m : Member) : String := m.info.url

/-- A change of the peer table. -/
inductive MembershipChange where
  | added (info : BrokerInfo)
  | removed (info : BrokerInfo) (reason : Departure)
deriving DecidableEq, Repr

/-- The members, and the times of departure of those that went. -/
structure PeerTable where
  /-- The members by id. -/
  byId : Dict String Member := .empty
  /-- The tombstones by id. -/
  departed : Dict String Nat := .empty

namespace PeerTable

instance : Inhabited PeerTable := ⟨{}⟩

/-- The member with an id. -/
def get? (t : PeerTable) (id : String) : Option Member := t.byId.get? id

/-- Whether an id is that of a member. -/
def contains (t : PeerTable) (id : String) : Bool := t.byId.contains id

/-- How many members there are. -/
def size (t : PeerTable) : Nat := t.byId.size

/-- Whether there is no member. -/
def isEmpty (t : PeerTable) : Bool := t.byId.isEmpty

/-- The members, by id. -/
def members (t : PeerTable) : List Member :=
  t.byId.values.mergeSort fun a b => decide (a.info.id ≤ b.info.id)

/-- Where the members are reached, sorted. -/
def uris (t : PeerTable) : List String :=
  (t.byId.values.map Member.uri).mergeSort fun a b => decide (a ≤ b)

/-- Adds a broker, or replaces what is known about a member.  Either way it has not
departed.  Returns the change of the table. -/
def upsert (t : PeerTable) (info : BrokerInfo) (now : Nat) :
    PeerTable × Option MembershipChange :=
  let departed := t.departed.erase info.id
  match t.byId.get? info.id with
  | some member => (⟨t.byId.insert info.id { member with info := info }, departed⟩, none)
  | none => (⟨t.byId.insert info.id ⟨info, .active, now⟩, departed⟩, some (.added info))

/-- Removes a member and leaves a tombstone.  Returns the member as it went, and the
change of the table. -/
def remove (t : PeerTable) (id : String) (reason : Departure) (now : Nat) :
    PeerTable × Option (Member × MembershipChange) :=
  match t.byId.get? id with
  | none => (t, none)
  | some member =>
      (⟨t.byId.erase id, t.departed.insert id now⟩,
        some ({ member with state := reason.state }, .removed member.info reason))

/-- Whether a broker departed less than `ttl` milliseconds ago. -/
def recentlyDeparted (t : PeerTable) (id : String) (now ttl : Nat) : Bool :=
  match t.departed.get? id with
  | some at_ => decide (now - at_ < ttl)
  | none => false

/-- Drops the tombstones that are `ttl` milliseconds old. -/
def forgetDeparted (t : PeerTable) (now ttl : Nat) : PeerTable :=
  { t with departed := t.departed.filter fun _ at_ => decide (now - at_ < ttl) }

@[simp] theorem get?_upsert_self (t : PeerTable) (info : BrokerInfo) (now : Nat) :
    ((t.upsert info now).1.get? info.id).map Member.info = some info := by
  unfold upsert get?
  split <;> simp

@[simp] theorem get?_remove_self (t : PeerTable) (id : String) (reason : Departure) (now : Nat) :
    (t.remove id reason now).1.get? id = none := by
  unfold remove get?
  split
  · assumption
  · simp

end PeerTable

end ServiceMesh
