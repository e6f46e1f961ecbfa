import ServiceMesh.Proofs.Gossip.Arrivals
import ServiceMesh.Proofs.Gossip.Checks

/-!
# Three stores that agree

A membership keeps its members, the tombstones of those that departed, and a detector that
watches the members.  They are changed by different sections and at different times: a message
is heard before its sender is added, a broker that answers is heard before it is added, a
broker that is only told about is not heard at all.

A membership is *sound* if all its members are other brokers that are active, none of them has
a tombstone, and the detector has heard from each.  Nothing that a membership may be told makes
it unsound, so soundness holds between any two sections of any steps
(`Meeting.membership_sound`).  A member of a sound membership that falls silent is found to be
silent, and the next check for failures removes it.
-/

namespace ServiceMesh

namespace Detector

/-- Whether a detector can give up on a peer.  One that goes by a script needs to hear from
nobody. -/
def watches (d : Detector) (peer : String) : Bool :=
  match d with
  | accrual _ heard => heard.contains peer
  | deadline _ lastSeen => lastSeen.contains peer
  | scripted _ _ => true

@[simp] theorem watches_heartbeat_self (d : Detector) (peer : String) (now : Nat) :
    (d.heartbeat peer now).watches peer = true := by
  cases d with
  | accrual settings heard => simp [heartbeat, watches, Dict.contains]
  | deadline timeoutMs lastSeen => simp [heartbeat, watches, Dict.contains]
  | scripted down journal => rfl

theorem watches_heartbeat {d : Detector} {peer : String} (h : d.watches peer = true)
    (other : String) (now : Nat) : (d.heartbeat other now).watches peer = true := by
  by_cases hpeer : other = peer
  · rw [hpeer, watches_heartbeat_self]
  · cases d with
    | accrual settings heard =>
      simpa [heartbeat, watches, Dict.contains, Dict.get?_insert_of_ne _ hpeer] using h
    | deadline timeoutMs lastSeen =>
      simpa [heartbeat, watches, Dict.contains, Dict.get?_insert_of_ne _ hpeer] using h
    | scripted down journal => rfl

theorem watches_forget {d : Detector} {peer other : String} (h : d.watches peer = true)
    (hpeer : other ≠ peer) : (d.forget other).watches peer = true := by
  cases d with
  | accrual settings heard =>
    simpa [forget, watches, Dict.contains, Dict.get?_erase_of_ne _ hpeer] using h
  | deadline timeoutMs lastSeen =>
    simpa [forget, watches, Dict.contains, Dict.get?_erase_of_ne _ hpeer] using h
  | scripted down journal => rfl

/-! ## Silence -/

/-- A detector gives up on a peer that it watches and that is silent for long enough: a
deadline once it has passed, a score once the pause that it accepts has passed. -/
def GivesUpOn (d : Detector) (peer : String) : Prop :=
  match d with
  | accrual settings _ =>
      ∃ last, ∀ now, last + settings.acceptablePauseMs < now → d.phi peer now = infinity
  | deadline timeoutMs _ =>
      ∃ last, ∀ now, last + timeoutMs < now → d.isAvailable peer now = false
  | scripted down _ => ∀ now, peer ∈ down → d.isAvailable peer now = false

theorem givesUpOn {d : Detector} {peer : String} (h : d.watches peer = true) :
    d.GivesUpOn peer := by
  cases d with
  | accrual settings heard =>
    obtain ⟨beats, hbeats⟩ := Option.isSome_iff_exists.mp h
    refine ⟨beats.lastMs, ?_⟩
    intro now hnow
    have hlong : settings.acceptablePauseMs < now - beats.lastMs := by omega
    simp only [phi, hbeats, hlong, if_true]
  | deadline timeoutMs lastSeen =>
    obtain ⟨last, hlast⟩ := Option.isSome_iff_exists.mp h
    refine ⟨last, ?_⟩
    intro now hnow
    have hlong : ¬ now - last ≤ timeoutMs := by omega
    simp only [isAvailable, hlast, hlong, decide_false]
  | scripted down journal =>
    intro now hdown
    simp only [isAvailable, hdown, not_true_eq_false, decide_false]

end Detector

namespace Membership

/-- The members are other brokers, active, without a tombstone, and watched. -/
structure Sound (m : Membership) : Prop where
  tidy : m.peers.Tidy
  other : ∀ id x, m.peers.get? id = some x → id ≠ m.self.id
  active : ∀ id x, m.peers.get? id = some x → 1 ≤ x.info.status.toInt
  present : ∀ id x, m.peers.get? id = some x → m.peers.departed.get? id = none
  watched : ∀ id x, m.peers.get? id = some x → m.detector.watches id = true

variable {m : Membership}

theorem Sound.heartbeat (h : m.Sound) (id : String) (now : Nat) : (m.heartbeat id now).Sound where
  tidy := h.tidy
  other := h.other
  active := h.active
  present := h.present
  watched id' x hx := Detector.watches_heartbeat (h.watched id' x hx) id now

theorem Sound.upsert (h : m.Sound) {info : BrokerInfo} (hother : info.id ≠ m.self.id)
    (hactive : info.isActive = true) (now : Nat)
    (hwatched : m.detector.watches info.id = true) :
    Sound { m with peers := (m.peers.upsert info now).1 } := by
  have hself := m.peers.get?_upsert_self info now
  refine ⟨h.tidy.upsert info now, fun id x hx => ?_, fun id x hx => ?_, fun id x hx => ?_,
    fun id x hx => ?_⟩
  all_goals by_cases hid : info.id = id
  · exact hid ▸ hother
  · exact h.other id x (m.peers.get?_upsert_of_ne hid now ▸ hx)
  · subst hid
    rw [show (m.peers.upsert info now).1.get? info.id = some x from hx] at hself
    rw [Option.some.inj hself]
    exact of_decide_eq_true hactive
  · exact h.active id x (m.peers.get?_upsert_of_ne hid now ▸ hx)
  · rw [PeerTable.departed_upsert, hid]
    exact Dict.get?_erase_self _ _
  · rw [PeerTable.departed_upsert, Dict.get?_erase_of_ne _ hid]
    exact h.present id x (m.peers.get?_upsert_of_ne hid now ▸ hx)
  · exact hid ▸ hwatched
  · exact h.watched id x (m.peers.get?_upsert_of_ne hid now ▸ hx)

/-- Whoever is added is heard, or was watched before. -/
theorem Sound.add (h : m.Sound) (info : BrokerInfo) (now : Nat) : (m.add info now).2.Sound := by
  rcases m.add_cases info now with ⟨-, hadd⟩ | ⟨hother, hactive, ⟨x, hx, hadd⟩ | ⟨-, hadd⟩⟩
  · rw [hadd]
    exact h
  · rw [hadd]
    exact h.upsert hother hactive now (h.watched info.id x hx)
  · rw [hadd]
    have hheard := (h.heartbeat info.id now).upsert hother hactive now
      (m.detector.watches_heartbeat_self info.id now)
    exact ⟨hheard.tidy, hheard.other, hheard.active, hheard.present, hheard.watched⟩

theorem Sound.forgetPeer (h : m.Sound) (id : String) (reason : Departure) (now : Nat) :
    (m.forgetPeer id reason now).2.Sound := by
  have hgone : (m.forgetPeer id reason now).2.peers.get? id = none := by
    rw [peers_forgetPeer]
    exact m.peers.get?_remove_self id reason now
  have hstays : ∀ id' x, (m.forgetPeer id reason now).2.peers.get? id' = some x →
      id ≠ id' ∧ m.peers.get? id' = some x := by
    intro id' x hx
    have hne : id ≠ id' := by
      intro hid
      rw [← hid, hgone] at hx
      cases hx
    rw [peers_forgetPeer, m.peers.get?_remove_of_ne hne] at hx
    exact ⟨hne, hx⟩
  refine ⟨tidy_forgetPeer h.tidy id reason now, fun id' x hx => ?_, fun id' x hx => ?_,
    fun id' x hx => ?_, fun id' x hx => ?_⟩
  all_goals obtain ⟨hne, hbefore⟩ := hstays id' x hx
  · rw [self_forgetPeer]
    exact h.other id' x hbefore
  · exact h.active id' x hbefore
  · rw [peers_forgetPeer, m.peers.departed_remove_of_ne hne]
    exact h.present id' x hbefore
  · unfold Membership.forgetPeer
    split
    · exact h.watched id' x hbefore
    · exact Detector.watches_forget (h.watched id' x hbefore) hne

theorem Sound.clear (h : m.Sound) (now : Nat) : (m.clear now).Sound :=
  clear_keeps (fun _ id h => h.forgetPeer id .left now) h

theorem Sound.forgetDeparted (h : m.Sound) (now : Nat) : (m.forgetDeparted now).Sound where
  tidy := h.tidy.of_byId rfl
  other := h.other
  active := h.active
  present id x hx := m.peers.departed_forgetDeparted now m.tombstoneMs (h.present id x hx)
  watched := h.watched

/-- A membership without members is sound. -/
theorem sound_of_isEmpty (h : m.peers.byId = .empty) : m.Sound := by
  have hnone : ∀ id x, m.peers.get? id ≠ some x := by
    intro id x hx
    unfold PeerTable.get? at hx
    rw [h] at hx
    cases hx
  refine ⟨PeerTable.tidy_empty.of_byId h, ?_, ?_, ?_, ?_⟩
  all_goals
    intro id x hx
    exact absurd hx (hnone id x)

end Membership

/-! ## Sections of several steps -/

namespace Node.Regime

/-- Soundness, for a node that may be told anything and says the same about itself. -/
def sound (self : BrokerInfo) : Regime where
  Inv m _ _ _ := m.self = self ∧ m.Sound
  May _ := True
  Ask _ := True
  Time _ := True
  Uris _ := True
  Answer _ := True

theorem sound_kept (self : BrokerInfo) (resolves : String → Bool) :
    (sound self).Kept resolves where
  aside _ _ h := ⟨h.1, h.2.tidy, h.2.other, h.2.active, h.2.present, h.2.watched⟩
  heartbeat id time h := ⟨h.1, h.2.heartbeat id time⟩
  add info time _ h := ⟨(Membership.self_add info time _).trans h.1, h.2.add info time⟩
  expire time _ h := ⟨h.1, h.2.forgetDeparted time⟩
  setUris _ _ h := h
  clock _ := trivial
  addresses _ := trivial
  check _ _ _ _ := trivial
  answer _ _ _ := trivial
  speaker _ := trivial
  answered _ _ _ := trivial

theorem sound_parts (self : BrokerInfo) : (sound self).Parts where
  forgetPeer id reason time h :=
    ⟨(Membership.self_forgetPeer id reason time _).trans h.1, h.2.forgetPeer id reason time⟩
  clear time h := ⟨(Membership.self_clear time _).trans h.1, h.2.clear time⟩

end Node.Regime

namespace Meeting

/-- What can happen next, one section at a time. -/
inductive Beat where
  /-- A step starts. -/
  | start (step : GossipStep)
  /-- A part of a step takes a turn. -/
  | turn (task : Nat) (place : Place)
  /-- The surroundings change, and others use the pool. -/
  | shift (pool : Pool) (links : Links) (nature : Nature) (now : Nat) (found : Option (List String))

/-- What becomes of a meeting by a beat. -/
def beat (resolves : String → Bool) (m : Meeting) : Beat → Meeting
  | .start step => { m with tasks := m.tasks ++ [step.run (Node.host resolves)] }
  | .turn task place =>
      { node := (Fiber.advanceAt task place m.tasks m.node).2
        tasks := (Fiber.advanceAt task place m.tasks m.node).1 }
  | .shift pool links nature now found =>
      { m with node := m.node.shift pool links nature now found }

/-- A meeting whose members are watched by some detector. -/
def watchedBy (detector : Detector) (m : Meeting) : Meeting :=
  { m with node := { m.node with membership := { m.node.membership with detector := detector } } }

/-- A regime is in force in a meeting, and every step under way keeps it so. -/
def Under (R : Node.Regime) (m : Meeting) : Prop :=
  R.At m.node ∧ Fiber.AllHeed (.ofInv R.At) m.tasks (fun _ _ => True) m.node

/-- A regime stays in force when a step arrives that abides by it, or when the surroundings
change as it allows. -/
theorem Under.act {R : Node.Regime} {m : Meeting} (h : m.Under R) (resolves : String → Bool)
    {a : Act}
    (harrive : ∀ step, a = .arrive step →
      Fiber.Abides R.At (step.run (Node.host resolves)) fun _ => True)
    (hshift : ∀ pool links nature now found, a = .shift pool links nature now found →
      R.At (m.node.shift pool links nature now found)) : (m.act resolves a).Under R := by
  obtain ⟨hnode, htasks⟩ := h
  have hact := act_heeds resolves (fun _ => Fiber.stable_const True) hnode htasks a ?_ ?_
  · exact ⟨hact.1, hact.2.2⟩
  · intro step hstep
    exact harrive step hstep m.node hnode
  · intro pool links nature now found hshifted
    exact ⟨hshift pool links nature now found hshifted, trivial⟩

section Under

variable {R : Node.Regime} {resolves : String → Bool} (hkept : R.Kept resolves) (hparts : R.Parts)
  (hmay : ∀ info, R.May info)
  (hshift : ∀ {m now nature uris} now' nature', R.Inv m now nature uris → R.Inv m now' nature' uris)

include hkept hparts hmay hshift

/-- A regime under which anything may be told stays in force. -/
theorem Under.beat {m : Meeting} (h : m.Under R) (b : Beat) : (m.beat resolves b).Under R := by
  obtain ⟨hnode, htasks⟩ := h
  cases b with
  | start step =>
    have hstep : Fiber.Abides R.At (step.run (Node.host resolves)) fun _ => True :=
      hkept.step hparts fun _ info _ _ => hmay info
    exact ⟨hnode, htasks.start (hstep m.node hnode)⟩
  | turn task place =>
    obtain ⟨hnode', -, htasks'⟩ :=
      htasks.advanceAt (fun _ => Fiber.stable_const True) hnode task place
    exact ⟨hnode', htasks'⟩
  | shift pool links nature now found =>
    have hnode' : R.At (m.node.shift pool links nature now found) := hshift now nature hnode
    exact ⟨hnode', htasks.later (fun _ => Fiber.stable_const True) trivial hnode'⟩

theorem Under.beats {m : Meeting} (h : m.Under R) (beats : List Beat) :
    (beats.foldl (Meeting.beat resolves) m).Under R := by
  induction beats generalizing m with
  | nil => exact h
  | cons b rest ih => exact ih (h.beat hkept hparts hmay hshift b)

end Under

/-- A node is sound, and every step under way keeps it so. -/
def Sound (self : BrokerInfo) (m : Meeting) : Prop :=
  (Node.Regime.sound self).At m.node ∧
    Fiber.AllHeed (.ofInv (Node.Regime.sound self).At) m.tasks (fun _ _ => True) m.node

theorem sound_of_isEmpty {m : Meeting} (hempty : m.node.membership.peers.byId = .empty)
    (htasks : m.tasks = []) : m.Sound m.node.membership.self := by
  refine ⟨⟨rfl, Membership.sound_of_isEmpty hempty⟩, ?_⟩
  rw [htasks]
  exact .nil

theorem Sound.beat {self : BrokerInfo} {m : Meeting} (h : m.Sound self)
    (resolves : String → Bool) (b : Beat) : (m.beat resolves b).Sound self :=
  Under.beat (Node.Regime.sound_kept self resolves) (Node.Regime.sound_parts self)
    (fun _ => trivial) (fun _ _ h => h) h b

theorem Sound.acts {self : BrokerInfo} {m : Meeting} (h : m.Sound self)
    (resolves : String → Bool) (as : List Act) :
    (m.acts resolves as).Sound self := by
  induction as generalizing m with
  | nil => exact h
  | cons a rest ih =>
    apply ih
    apply Under.act h resolves
    · intro step _
      exact (Node.Regime.sound_kept self resolves).step (Node.Regime.sound_parts self)
        fun _ _ _ _ => trivial
    · intro pool links nature now found _
      exact h.1

/-- Soundness holds between any two sections of any steps: the node itself is no member,
nobody who is inactive is one, no member has a tombstone, and each member that falls silent
is found to be silent, since the detector heard from it.  A check for failures removes each member
on which the detector gave up, whatever the detector and whether or not a pool follows the
members. -/
theorem membership_sound (resolves : String → Bool) (self : BrokerInfo)
    (settings : MembershipSettings) (destination : String) (poolSettings : PoolSettings)
    (detector : Detector) (beats : List Beat) :
    let before := (new self settings destination poolSettings).watchedBy detector
    let n := (beats.foldl (beat resolves) before).node
    let m := n.membership
    m.self = self ∧ m.Sound ∧ ∀ id x, m.peers.get? id = some x → m.detector.GivesUpOn id ∧
      ∀ now, m.detector.isAvailable id now = false → id ∈ m.silent now ∧
        ∀ follower, n.site.line = [] →
          ∃ t, Fiber.poll ((Node.hostWith follower).detect now) n = (.done (m.silent now), t) ∧
            t.membership.peers.get? id = none := by
  intro before n m
  have hbefore : before.Sound self := sound_of_isEmpty rfl rfl
  have hrun : ∀ (beats : List Beat) (c : Meeting), c.Sound self →
      (beats.foldl (beat resolves) c).Sound self := by
    intro beats
    induction beats with
    | nil =>
      intro c h
      exact h
    | cons b rest ih =>
      intro c h
      exact ih _ (h.beat resolves b)
  obtain ⟨hself, hsound⟩ := (hrun beats before hbefore).1
  refine ⟨hself, hsound, ?_⟩
  intro id x hx
  refine ⟨Detector.givesUpOn (hsound.watched id x hx), ?_⟩
  intro now hdown
  have hsilent : id ∈ m.silent now :=
    (Membership.mem_silent_iff hsound.tidy now id).mpr ⟨⟨x, hx⟩, hdown⟩
  refine ⟨hsilent, ?_⟩
  intro follower hidle
  exact Node.removed_of_mem_silent follower hsound.tidy hidle hsilent

/-- The other broker pings, and all that follows from it is done. -/
def pinged : List Beat :=
  .start (.handle (.ping ⟨Sample.other 9999, []⟩)) ::
    (List.replicate 12 [.turn 0 .here, .turn 0 (.first .here)]).flatten

/-- A broker that was heard is a member, and is none any more after a check at a time when it
counts as down. -/
theorem membership_sound_pinged :
    let n := (pinged.foldl (beat fun _ => true)
      ((new Sample.own Sample.settings "brokers" {}).watchedBy (.scripted ["b2"] []))).node
    (∃ x, n.membership.peers.get? "b2" = some x) ∧
      ∃ t, Fiber.poll ((Node.hostWith (some fun _ => true)).detect 7) n
          = (.done (n.membership.silent 7), t) ∧ t.membership.peers.get? "b2" = none := by
  intro n
  have hmember : (n.membership.peers.get? "b2").isSome = true := by decide +kernel
  have hdown : n.membership.detector.isAvailable "b2" 7 = false := by decide +kernel
  have hidle : n.site.line = [] := by decide +kernel
  obtain ⟨x, hx⟩ := Option.isSome_iff_exists.mp hmember
  obtain ⟨-, -, hwatched⟩ := membership_sound (fun _ => true) Sample.own Sample.settings "brokers"
    {} (.scripted ["b2"] []) pinged
  obtain ⟨-, hremoved⟩ := (hwatched "b2" x hx).2 7 hdown
  exact ⟨⟨x, hx⟩, hremoved (some fun _ => true) hidle⟩

end Meeting

end ServiceMesh
