import ServiceMesh.Proofs.Gossip.Heartbeats

/-!
# Failures are detected exactly

A check for failures removes exactly the members that were heard last longer ago than the
deadline allows, and leaves everything about the others as it was (`Node.detect_exact`).  That is
said of every state to which a membership gets, and of a node at whose pool nobody stands in line:
then the check is over at once, whether or not a pool follows the membership.
-/

namespace ServiceMesh

namespace Membership

open Detector (Sign)

variable {m : Membership}

/-- Those that are forgotten are told to the detector as signs. -/
theorem foldl_forget (gone : List String) (d : Detector) :
    gone.foldl Detector.forget d = (gone.map Detector.Sign.forgotten).foldl Detector.tell d := by
  rw [List.foldl_map]
  rfl

/-- What a check for failures at a time makes of a membership that told its detector some signs,
if it gives up on some peers. -/
structure Detected (settings : MembershipSettings) (signs : List Sign) (now : Nat)
    (failed : List String) (m m' : Membership) : Prop where
  /-- Every member was heard, and it failed exactly if the last time is too long ago. -/
  exact : ∀ id x, m.peers.get? id = some x → ∃ last, Detector.latest signs id = some last ∧
    (id ∈ failed ↔ max settings.failureTimeoutMs 1 < now - last)
  /-- Only members failed. -/
  were : ∀ id ∈ failed, ∃ x, m.peers.get? id = some x
  nodup : failed.Nodup
  /-- Those that failed are no members any more, and the others are as they were. -/
  members : ∀ id, m'.peers.get? id = if id ∈ failed then none else m.peers.get? id
  /-- Those that failed have a tombstone of that time, and no other tombstone changes. -/
  tombstones : ∀ id,
    m'.peers.departed.get? id = if id ∈ failed then some now else m.peers.departed.get? id
  /-- The detector forgets those that failed, and holds against the others what it held. -/
  heard : ∀ id, m'.detector.lastSeen? id = if id ∈ failed then none else m.detector.lastSeen? id
  /-- Each of those that failed is told about once, in their order. -/
  history : ∃ gone : List Member, gone.map (·.info.id) = failed ∧
    (∀ x ∈ gone, m.peers.get? x.info.id = some x) ∧
    m'.history = m.history ++ gone.map fun x => .removed x.info .failed
  state : m'.state = m.state

variable {self : BrokerInfo} {settings : MembershipSettings} {signs : List Sign}

/-- The links of a membership are of no account. -/
theorem Detected.of_unlinked {now : Nat} {failed : List String} {m' m'' : Membership}
    (h : Detected settings signs now failed m m') (hsame : m''.unlinked = m'.unlinked) :
    Detected settings signs now failed m m'' := by
  obtain ⟨connections, rfl⟩ := eq_of_unlinked hsame
  exact ⟨h.exact, h.were, h.nodup, h.members, h.tombstones, h.heard, h.history, h.state⟩

/-- The removal of those that are silent is what a check should make of a membership. -/
theorem Reached.detected (h : Reached self settings m signs) (now : Nat) :
    Detected settings signs now (m.silent now) m
      (m.forgetEach .failed now (m.silent now)) := by
  have htidy := h.sound.tidy
  have hremoval : Removal .failed now (m.silentMembers now) m
      (m.forgetEach .failed now (m.silent now)) :=
    removal_forgetEach .failed now (nodup_silent htidy now)
      fun x hx => get?_of_mem_silentMembers htidy hx
  have hdown (id : String) : m.detector.isAvailable id now = false
      ↔ ∃ last, Detector.latest signs id = some last ∧
        max settings.failureTimeoutMs 1 < now - last := by
    rw [h.detector]
    exact Detector.isAvailable_foldl_tell settings.failureTimeoutMs signs id now
  constructor
  · intro id x hx
    obtain ⟨last, hlast⟩ := h.heard hx
    refine ⟨last, hlast, ?_⟩
    rw [mem_silent_iff htidy, hdown]
    constructor
    · rintro ⟨-, last', hlast', hlong⟩
      rw [hlast] at hlast'
      cases hlast'
      exact hlong
    · intro hlong
      exact ⟨⟨x, hx⟩, last, hlast, hlong⟩
  · intro id hid
    exact ((mem_silent_iff htidy now id).mp hid).1
  · exact nodup_silent htidy now
  · exact hremoval.members
  · exact hremoval.tombstones
  · intro id
    rw [hremoval.detector, foldl_forget, h.detector, ← List.foldl_append,
      Detector.lastSeen?_foldl_tell, Detector.lastSeen?_foldl_tell,
      Detector.latest_append_forgotten]
    rfl
  · exact ⟨m.silentMembers now, rfl, fun x hx => get?_of_mem_silentMembers htidy hx,
      hremoval.history⟩
  · exact hremoval.state

end Membership

namespace Node

open ServiceMesh.Fiber

/-- A check for failures removes exactly the members that were heard last longer ago than the
deadline allows, whatever the membership went through and whatever its clocks said. -/
theorem detect_exact {self : BrokerInfo} {settings : MembershipSettings}
    {signs : List Detector.Sign} {n : Node} (hreached : n.membership.Reached self settings signs)
    (hidle : n.site.line = []) (follower : Option (String → Bool)) (now : Nat) :
    ∃ failed t, poll ((hostWith follower).detect now) n = (done failed, t) ∧
      t.site.line = [] ∧
        Membership.Detected settings signs now failed n.membership t.membership := by
  obtain ⟨t, hpoll, ht⟩ := poll_detect follower now hidle
  have hdetected := (hreached.detected now).of_unlinked ht.membership
  exact ⟨n.membership.silent now, t, hpoll, ht.line, hdetected⟩

/-- A node whose clock was set back after its only member was heard. -/
def setBack : Node where
  membership := ((Membership.new Meeting.Sample.own Meeting.Sample.settings).add
    (Meeting.Sample.other 9999) 70000).2.heartbeat "b2" 10000
  site := { pool := Pool.new "brokers" {} }

/-- The member counts as heard at the later time, though it was heard again at the earlier. -/
theorem detect_exact_setBack :
    ∃ failed t, poll ((hostWith (some fun _ => true)).detect 76000) setBack = (done failed, t) ∧
      t.site.line = [] ∧
      Membership.Detected Meeting.Sample.settings [.heard "b2" 70000, .heard "b2" 10000] 76000
        failed setBack.membership t.membership :=
  detect_exact ((Membership.Reached.new.add (Meeting.Sample.other 9999) 70000).heartbeat "b2" 10000)
    rfl (some fun _ => true) 76000

end Node

end ServiceMesh
