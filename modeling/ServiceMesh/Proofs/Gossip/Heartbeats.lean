import Mathlib.Data.List.Induction
import ServiceMesh.Proofs.Gossip.Soundness

/-!
# What a deadline knows of a peer

A membership tells its detector two things of a peer: that it was heard at some time, and that
it is forgotten (`Detector.Sign`).  The times come from clocks that may be set back, so they
need not grow.  A deadline detector knows of each peer the largest of the times at which it was
heard since it was last forgotten, and nothing else (`Detector.lastSeen?_foldl_tell`).

`Membership.Reached` is how a membership gets to a state: by its sections, one after the other,
with whatever they are given, and with the signs that they tell.  All that the steps of a
meeting do to a membership is made of these sections (`Meeting.membership_reached`).
-/

namespace ServiceMesh

namespace Detector

/-- What a detector is told of a peer. -/
inductive Sign where
  /-- It was heard. -/
  | heard (peer : String) (now : Nat)
  /-- It is forgotten. -/
  | forgotten (peer : String)
deriving DecidableEq

/-- A detector once it was told. -/
def tell (d : Detector) : Sign → Detector
  | .heard peer now => d.heartbeat peer now
  | .forgotten peer => d.forget peer

/-- What is left of the times at which a peer was heard. -/
def Sign.note (peer : String) (times : List Nat) : Sign → List Nat
  | heard other now => if other = peer then now :: times else times
  | forgotten other => if other = peer then [] else times

/-- The times at which a peer was heard since it was last forgotten. -/
def times (signs : List Sign) (peer : String) : List Nat := signs.foldl (Sign.note peer) []

/-- The largest time at which a peer was heard since it was last forgotten. -/
def latest (signs : List Sign) (peer : String) : Option Nat := (times signs peer).max?

/-- The time that a deadline detector holds against a peer. -/
def lastSeen? (d : Detector) (peer : String) : Option Nat :=
  match d with
  | deadline _ lastSeen => lastSeen.get? peer
  | _ => none

theorem times_heard (signs : List Sign) (other : String) (now : Nat) (peer : String) :
    times (signs ++ [.heard other now]) peer
      = if other = peer then now :: times signs peer else times signs peer := by
  simp only [times, List.foldl_append, List.foldl_cons, List.foldl_nil, Sign.note]

theorem times_forgotten (signs : List Sign) (other peer : String) :
    times (signs ++ [.forgotten other]) peer
      = if other = peer then [] else times signs peer := by
  simp only [times, List.foldl_append, List.foldl_cons, List.foldl_nil, Sign.note]

theorem latest_heard (signs : List Sign) (other : String) (now : Nat) (peer : String) :
    latest (signs ++ [.heard other now]) peer
      = if other = peer then some (max ((latest signs peer).getD now) now)
        else latest signs peer := by
  unfold latest
  rw [times_heard]
  split
  · rw [List.max?_cons]
    cases (times signs peer).max? with
    | none => exact congrArg some (Nat.max_self now).symm
    | some last => exact congrArg some (Nat.max_comm now last)
  · rfl

theorem latest_forgotten (signs : List Sign) (other peer : String) :
    latest (signs ++ [.forgotten other]) peer
      = if other = peer then none else latest signs peer := by
  unfold latest
  rw [times_forgotten]
  split
  · rfl
  · rfl

/-- A deadline detector that was told some signs holds the latest of them against each peer. -/
theorem foldl_tell_deadline (timeoutMs : Nat) (signs : List Sign) :
    ∃ lastSeen, signs.foldl tell (deadline timeoutMs .empty) = deadline timeoutMs lastSeen ∧
      ∀ peer, lastSeen.get? peer = latest signs peer := by
  induction signs using List.reverseRecOn with
  | nil =>
    refine ⟨.empty, rfl, ?_⟩
    intro _
    rfl
  | append_singleton signs sign ih =>
    obtain ⟨lastSeen, htold, hlatest⟩ := ih
    rw [List.foldl_append, htold]
    cases sign with
    | heard other now =>
      refine ⟨_, rfl, ?_⟩
      intro peer
      rw [latest_heard, Dict.get?_insert]
      split
      · next hpeer =>
        subst hpeer
        rw [Dict.getD, hlatest]
      · exact hlatest peer
    | forgotten other =>
      refine ⟨_, rfl, ?_⟩
      intro peer
      rw [latest_forgotten, Dict.get?_erase]
      split
      · rfl
      · exact hlatest peer

/-- Who was heard is not available if that is longer ago than the deadline allows. -/
theorem isAvailable_foldl_tell (timeoutMs : Nat) (signs : List Sign) (peer : String) (now : Nat) :
    (signs.foldl tell (ofDeadline timeoutMs)).isAvailable peer now = false
      ↔ ∃ last, latest signs peer = some last ∧ max timeoutMs 1 < now - last := by
  obtain ⟨lastSeen, htold, hlatest⟩ := foldl_tell_deadline (max timeoutMs 1) signs
  rw [ofDeadline, htold, ← hlatest]
  cases hlast : lastSeen.get? peer with
  | none => simp [isAvailable, hlast]
  | some last => simp only [isAvailable, hlast, decide_eq_false_iff_not, Nat.not_le,
      Option.some.injEq, exists_eq_left']

theorem lastSeen?_foldl_tell (timeoutMs : Nat) (signs : List Sign) (peer : String) :
    (signs.foldl tell (ofDeadline timeoutMs)).lastSeen? peer = latest signs peer := by
  obtain ⟨lastSeen, htold, hlatest⟩ := foldl_tell_deadline (max timeoutMs 1) signs
  rw [ofDeadline, htold]
  exact hlatest peer

/-- Those that are forgotten were not heard since, and of the others nothing is forgotten. -/
theorem latest_append_forgotten (signs : List Sign) (gone : List String) (peer : String) :
    latest (signs ++ gone.map .forgotten) peer
      = if peer ∈ gone then none else latest signs peer := by
  induction gone using List.reverseRecOn with
  | nil => simp
  | append_singleton gone other ih =>
    rw [List.map_append, List.map_singleton, ← List.append_assoc, latest_forgotten, ih]
    by_cases hpeer : other = peer
    · simp [hpeer]
    · simp [hpeer, Ne.symm hpeer]

end Detector

namespace Membership

open Detector (Sign)

/-- A new membership gets to a state by its sections, and tells its detector some signs. -/
inductive Reached (self : BrokerInfo) (settings : MembershipSettings) :
    Membership → List Sign → Prop
  /-- It knows nobody. -/
  | new : Reached self settings (.new self settings) []
  /-- A broker is heard. -/
  | heartbeat {m : Membership} {signs : List Sign} (h : Reached self settings m signs)
      (id : String) (now : Nat) :
      Reached self settings (m.heartbeat id now) (signs ++ [.heard id now])
  /-- A broker is added.  One that is new is heard. -/
  | add {m : Membership} {signs : List Sign} (h : Reached self settings m signs)
      (info : BrokerInfo) (now : Nat) :
      Reached self settings (m.add info now).2
        (signs ++ if (m.add info now).1 then [.heard info.id now] else [])
  /-- A peer is removed.  One that was a member is forgotten. -/
  | forgetPeer {m : Membership} {signs : List Sign} (h : Reached self settings m signs)
      (id : String) (reason : Departure) (now : Nat) :
      Reached self settings (m.forgetPeer id reason now).2
        (signs ++ if m.peers.contains id then [.forgotten id] else [])
  /-- Old tombstones are dropped. -/
  | expire {m : Membership} {signs : List Sign} (h : Reached self settings m signs) (now : Nat) :
      Reached self settings (m.forgetDeparted now) signs
  /-- The links or the state of the membership change. -/
  | aside {m : Membership} {signs : List Sign} (h : Reached self settings m signs)
      (connections : Dict String LinkId) (state : MemberState) :
      Reached self settings { m with connections := connections, state := state } signs

variable {self : BrokerInfo} {settings : MembershipSettings} {m : Membership} {signs : List Sign}

theorem detector_add (info : BrokerInfo) (now : Nat) (m : Membership) :
    (m.add info now).2.detector
      = if (m.add info now).1 then m.detector.heartbeat info.id now else m.detector := by
  rcases m.add_cases info now with ⟨-, hadd⟩ | ⟨-, -, ⟨x, -, hadd⟩ | ⟨-, hadd⟩⟩
  all_goals
    rw [hadd]
    rfl

theorem detector_forgetPeer (id : String) (reason : Departure) (now : Nat) (m : Membership) :
    (m.forgetPeer id reason now).2.detector
      = if m.peers.contains id then m.detector.forget id else m.detector := by
  unfold forgetPeer PeerTable.remove PeerTable.contains Dict.contains
  cases m.peers.byId.get? id with
  | none => rfl
  | some x => rfl

/-- The detector of a membership is what the signs make of a new one. -/
theorem Reached.detector (h : Reached self settings m signs) :
    m.detector = signs.foldl Detector.tell (.ofDeadline settings.failureTimeoutMs) := by
  induction h with
  | new => rfl
  | heartbeat h id now ih =>
    rw [List.foldl_append, ← ih]
    rfl
  | add h info now ih =>
    rw [detector_add, List.foldl_append, ← ih]
    split
    · rfl
    · rfl
  | forgetPeer h id reason now ih =>
    rw [detector_forgetPeer, List.foldl_append, ← ih]
    split
    · rfl
    · rfl
  | expire h now ih => exact ih
  | aside h connections state ih => exact ih

theorem Reached.sound (h : Reached self settings m signs) : m.Sound := by
  induction h with
  | new => exact sound_of_isEmpty rfl
  | heartbeat h id now ih => exact ih.heartbeat id now
  | add h info now ih => exact ih.add info now
  | forgetPeer h id reason now ih => exact ih.forgetPeer id reason now
  | expire h now ih => exact ih.forgetDeparted now
  | aside h connections state ih =>
    exact ⟨ih.tidy, ih.other, ih.active, ih.present, ih.watched⟩

/-- Each member was heard since it was last forgotten. -/
theorem Reached.heard (h : Reached self settings m signs) {id : String} {x : Member}
    (hx : m.peers.get? id = some x) : ∃ last, Detector.latest signs id = some last := by
  have hwatched := h.sound.watched id x hx
  obtain ⟨lastSeen, htold, hlatest⟩ :=
    Detector.foldl_tell_deadline (max settings.failureTimeoutMs 1) signs
  rw [h.detector, Detector.ofDeadline, htold] at hwatched
  rw [← hlatest]
  exact Option.isSome_iff_exists.mp hwatched

/-- All members are removed by removing one after the other. -/
theorem Reached.clear (h : Reached self settings m signs) (now : Nat) :
    ∃ signs', Reached self settings (m.clear now) signs' :=
  clear_keeps (P := fun m' => ∃ signs', Reached self settings m' signs')
    (fun _ id ⟨_, hm⟩ => ⟨_, hm.forgetPeer id .left now⟩) ⟨signs, h⟩

end Membership

/-! ## Meetings -/

namespace Node.Regime

/-- A membership is in a state that a new one gets to. -/
def reached (self : BrokerInfo) (settings : MembershipSettings) : Regime where
  Inv m _ _ _ := ∃ signs, m.Reached self settings signs
  May _ := True
  Ask _ := True
  Time _ := True
  Uris _ := True
  Answer _ := True

variable (self : BrokerInfo) (settings : MembershipSettings)

theorem reached_kept (resolves : String → Bool) : (reached self settings).Kept resolves where
  aside connections state := fun ⟨_, h⟩ => ⟨_, h.aside connections state⟩
  heartbeat id time := fun ⟨_, h⟩ => ⟨_, h.heartbeat id time⟩
  add info time := fun _ ⟨_, h⟩ => ⟨_, h.add info time⟩
  expire time := fun _ ⟨_, h⟩ => ⟨_, h.expire time⟩
  setUris _ _ h := h
  clock _ := trivial
  addresses _ := trivial
  check _ _ _ _ := trivial
  answer _ _ _ := trivial
  speaker _ := trivial
  answered _ _ _ := trivial

theorem reached_parts : (reached self settings).Parts where
  forgetPeer id reason time := fun ⟨_, h⟩ => ⟨_, h.forgetPeer id reason time⟩
  clear time := fun ⟨_, h⟩ => h.clear time

end Node.Regime

/-- Whatever steps are under way in a meeting, and however their sections take turns, its
membership is in a state that a new one gets to by its sections. -/
theorem Meeting.membership_reached (resolves : String → Bool) (self : BrokerInfo)
    (settings : MembershipSettings) (destination : String) (poolSettings : PoolSettings)
    (beats : List Beat) :
    ∃ signs, (beats.foldl (beat resolves)
      (new self settings destination poolSettings)).node.membership.Reached self settings signs :=
  (Under.beats (Node.Regime.reached_kept self settings resolves)
    (Node.Regime.reached_parts self settings) (fun _ => trivial) (fun _ _ h => h)
    ⟨⟨[], .new⟩, .nil⟩ beats).1

end ServiceMesh
