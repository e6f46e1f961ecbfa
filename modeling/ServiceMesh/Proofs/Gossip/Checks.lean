import ServiceMesh.Proofs.Gossip.Node
import ServiceMesh.Proofs.Pool.Refreshing

/-!
# Checks for failures

A check for failures reads once who is silent, and then removes one after the other.  Each
removal changes the peer table, its tombstones, the detector and the history, drops a link, and
has the pool follow, before the next one begins.  None of this is of account for those that are
still to be removed, nor for those that stay: what a membership is but for its links only depends
on what it was but for its links (`Membership.unlinked`).  So several members are removed as if
each were alone (`Membership.removal_forgetEach`).

At a node at whose pool nobody stands in line a check is over at once, whether or not a pool
follows the membership (`Node.poll_detect`).
-/

namespace ServiceMesh

namespace Membership

/-! ## But for the links -/

/-- A membership but for its links. -/
def unlinked (m : Membership) : Membership := { m with connections := .empty }

theorem eq_of_unlinked {m m' : Membership} (h : m'.unlinked = m.unlinked) :
    ∃ connections, m' = { m with connections := connections } := by
  refine ⟨m'.connections, ?_⟩
  cases m with
  | mk self settings peers detector connections state history =>
    cases m' with
    | mk self' settings' peers' detector' connections' state' history' =>
      simp only [unlinked, mk.injEq] at h ⊢
      obtain ⟨hself, hsettings, hpeers, hdetector, -, hstate, hhistory⟩ := h
      exact ⟨hself, hsettings, hpeers, hdetector, trivial, hstate, hhistory⟩

theorem unlinked_forgetPeer (id : String) (reason : Departure) (now : Nat) (m : Membership) :
    (m.forgetPeer id reason now).2.unlinked = (m.unlinked.forgetPeer id reason now).2 := by
  unfold forgetPeer unlinked
  cases m.peers.remove id reason now with
  | mk peers gone =>
    cases gone with
    | none => rfl
    | some change => rfl

/-- Removes some peers, one after the other. -/
def forgetEach (reason : Departure) (now : Nat) (ids : List String) (m : Membership) :
    Membership :=
  ids.foldl (fun m id => (m.forgetPeer id reason now).2) m

theorem unlinked_forgetEach (reason : Departure) (now : Nat) (ids : List String) :
    ∀ m : Membership,
      (m.forgetEach reason now ids).unlinked = m.unlinked.forgetEach reason now ids := by
  induction ids with
  | nil =>
    intro _
    rfl
  | cons id rest ih =>
    intro m
    refine (ih _).trans ?_
    rw [unlinked_forgetPeer]
    rfl

/-! ## Several peers are removed -/

/-- What the removal of members at a time makes of a membership. -/
structure Removal (reason : Departure) (now : Nat) (gone : List Member) (m m' : Membership) :
    Prop where
  /-- Those that are removed are no members, and the others are as they were. -/
  members : ∀ id, m'.peers.get? id = if id ∈ gone.map (·.info.id) then none else m.peers.get? id
  /-- Those that are removed have a tombstone, and of the others nothing changes. -/
  tombstones : ∀ id, m'.peers.departed.get? id
    = if id ∈ gone.map (·.info.id) then some now else m.peers.departed.get? id
  /-- The detector forgets those that are removed. -/
  detector : m'.detector = (gone.map (·.info.id)).foldl Detector.forget m.detector
  /-- Each of them is told about once. -/
  history : m'.history = m.history ++ gone.map fun x => .removed x.info reason
  self : m'.self = m.self
  settings : m'.settings = m.settings
  state : m'.state = m.state

/-- A member that is removed. -/
theorem forgetPeer_member {m : Membership} {x : Member} (reason : Departure) (now : Nat)
    (hx : m.peers.get? x.info.id = some x) :
    Removal reason now [x] m (m.forgetPeer x.info.id reason now).2 := by
  have hget : m.peers.byId.get? x.info.id = some x := hx
  have hremove : m.peers.remove x.info.id reason now
      = (⟨m.peers.byId.erase x.info.id, m.peers.departed.insert x.info.id now⟩,
          some ({ x with state := reason.state }, .removed x.info reason)) := by
    unfold PeerTable.remove
    rw [hget]
  unfold forgetPeer
  rw [hremove]
  constructor
  · intro id
    simp only [PeerTable.get?, Dict.get?_erase, List.map_singleton, List.mem_singleton,
      eq_comm (a := id)]
  · intro id
    simp only [Dict.get?_insert, List.map_singleton, List.mem_singleton, eq_comm (a := id)]
  all_goals rfl

theorem Removal.append {reason : Departure} {now : Nat} {gone more : List Member}
    {m m' m'' : Membership} (h : Removal reason now gone m m')
    (h' : Removal reason now more m' m'') : Removal reason now (gone ++ more) m m'' where
  members id := by
    rw [h'.members, h.members, List.map_append]
    by_cases hmore : id ∈ more.map (·.info.id)
    · simp only [hmore, List.mem_append, or_true, if_true]
    · simp only [hmore, List.mem_append, or_false, if_false]
  tombstones id := by
    rw [h'.tombstones, h.tombstones, List.map_append]
    by_cases hmore : id ∈ more.map (·.info.id)
    · simp only [hmore, List.mem_append, or_true, if_true]
    · simp only [hmore, List.mem_append, or_false, if_false]
  detector := by rw [h'.detector, h.detector, List.map_append, List.foldl_append]
  history := by rw [h'.history, h.history, List.map_append, List.append_assoc]
  self := h'.self.trans h.self
  settings := h'.settings.trans h.settings
  state := h'.state.trans h.state

/-- Members that are removed one after the other are removed as if they were alone. -/
theorem removal_forgetEach (reason : Departure) (now : Nat) {gone : List Member}
    (hdistinct : (gone.map (·.info.id)).Nodup) {m : Membership}
    (hgone : ∀ x ∈ gone, m.peers.get? x.info.id = some x) :
    Removal reason now gone m (m.forgetEach reason now (gone.map (·.info.id))) := by
  induction gone generalizing m with
  | nil => exact ⟨fun _ => rfl, fun _ => rfl, rfl, (List.append_nil _).symm, rfl, rfl, rfl⟩
  | cons x rest ih =>
    have hfirst := forgetPeer_member reason now (hgone x List.mem_cons_self)
    obtain ⟨hnew, hrest⟩ := List.nodup_cons.mp hdistinct
    refine hfirst.append (ih hrest ?_)
    intro y hy
    have hne : y.info.id ≠ x.info.id := by
      intro heq
      exact hnew (List.mem_map.mpr ⟨y, hy, heq⟩)
    rw [hfirst.members, if_neg (by simpa using hne)]
    exact hgone y (List.mem_cons_of_mem x hy)

/-! ## The members that are silent -/

/-- The members that are found silent at a time. -/
def silentMembers (now : Nat) (m : Membership) : List Member :=
  m.peers.members.filter fun x => !m.detector.isAvailable x.info.id now

theorem silent_eq (now : Nat) (m : Membership) :
    m.silent now = (m.silentMembers now).map (·.info.id) := rfl

variable {m : Membership}

theorem nodup_silent (h : m.peers.Tidy) (now : Nat) : (m.silent now).Nodup := by
  have hvalues : (m.peers.byId.values.map (·.info.id)).Nodup :=
    Dict.nodup_values_map h.nodup _ h.keyed
  have hmembers : (m.peers.members.map (·.info.id)).Nodup :=
    (m.peers.perm_members.map _).nodup_iff.mpr hvalues
  rw [silent_eq]
  exact (List.filter_sublist.map _).nodup hmembers

theorem get?_of_mem_silentMembers (h : m.peers.Tidy) {now : Nat} {x : Member}
    (hx : x ∈ m.silentMembers now) : m.peers.get? x.info.id = some x :=
  (h.mem_members x).mp (List.mem_filter.mp hx).1

theorem mem_silent_iff (h : m.peers.Tidy) (now : Nat) (id : String) :
    id ∈ m.silent now
      ↔ (∃ x, m.peers.get? id = some x) ∧ m.detector.isAvailable id now = false := by
  rw [silent_eq, List.mem_map]
  constructor
  · rintro ⟨x, hx, rfl⟩
    have hdown := (List.mem_filter.mp hx).2
    rw [Bool.not_eq_true'] at hdown
    exact ⟨⟨x, get?_of_mem_silentMembers h hx⟩, hdown⟩
  · rintro ⟨⟨x, hx⟩, hdown⟩
    obtain rfl := h.keyed id x hx
    refine ⟨x, List.mem_filter.mpr ⟨(h.mem_members x).mpr hx, ?_⟩, rfl⟩
    rw [hdown]
    rfl

end Membership

/-! ## Without waiting -/

namespace Node

open ServiceMesh.Fiber

variable {α : Type}

/-- The surroundings of a membership that a pool follows, as those of every node, or none does. -/
def hostWith (follower : Option (String → Bool)) : GossipHost (Fiber Node) :=
  { host (follower.getD fun _ => false) with pool := follower.map pool }

/-- The line at the pool is as it was, and so is the membership but for its links. -/
structure Still (line : List Nat) (m : Membership) (n : Node) : Prop where
  line : n.site.line = line
  membership : n.membership.unlinked = m.unlinked

variable {line : List Nat} {m : Membership} (follower : Option (String → Bool))

theorem prompt_onSite {f : Site → α × Site} (h : ∀ s, (f s).2.line = s.line) :
    Prompt (Still line m) (Fiber.atomically (onSite f)) := by
  refine .atomically ?_
  intro n hn
  exact ⟨(h n.site).trans hn.line, hn.membership⟩

theorem opening_prompt (resolves : String → Bool) (line : List Nat) (m : Membership) :
    (pool resolves).Opening fun _ f => Prompt (Still line m) f where
  done := .pure
  bind hf hg := hf.bind hg
  all hfs := Prompt.all hfs
  openLink uri := prompt_onSite (Site.line_dial uri)
  atomically _ := prompt_onSite fun _ => rfl

/-- Who joins an empty line is the first at once. -/
theorem prompt_inLine {body : Fiber Node α} (hbody : ∀ line, Prompt (Still line m) body) :
    Prompt (Still [] m) (inLine body) := by
  intro n hn
  have hjoined : Still [n.site.nextTicket] m (n.joinLine.2.call n.joinLine.1) :=
    ⟨congrArg (· ++ [n.site.nextTicket]) hn.line, hn.membership⟩
  obtain ⟨a, t, hpoll, ht⟩ := hbody _ _ hjoined
  have hready : (n.joinLine.2.site.line.head? == some n.joinLine.1) = true := by
    rw [show n.joinLine.2.site.line = [n.site.nextTicket] from hjoined.line]
    exact beq_self_eq_true (some n.site.nextTicket)
  refine ⟨a, t.leaveLine n.joinLine.1, ?_, ?_, ht.membership⟩
  · simp only [inLine, guarding, poll, hready, if_true, hpoll, result?]
  · have hleft : [n.site.nextTicket].filter (· ≠ n.site.nextTicket) = [] := by simp
    exact (congrArg (List.filter _) ht.line).trans hleft

theorem prompt_section (f : Membership → Links → α × Membership × Links)
    (hf : ∀ m links, (f m links).2.1.unlinked = m.unlinked) :
    Prompt (Still line m) ((hostWith follower).atomically f) := by
  refine .atomically ?_
  intro n hn
  exact ⟨hn.line, (hf n.membership n.site.links).trans hn.membership⟩

theorem prompt_follow : Prompt (Still [] m) (hostWith follower).follow := by
  cases follower with
  | none => exact .pure ()
  | some resolves =>
    apply (prompt_section (some resolves) _ fun _ _ => rfl).bind
    intro uris
    refine Prompt.bind (prompt_inLine ?_) fun _ => .pure ()
    intro line
    apply (prompt_onSite fun _ => rfl).bind
    intro summary
    exact (opening_prompt resolves line m).eager summary

/-! ## The check -/

/-- The removal of a peer is over at once. -/
theorem poll_removeMember (id : String) (reason : Departure) (now : Nat) {n : Node}
    (hidle : n.site.line = []) :
    ∃ t, poll ((hostWith follower).removeMember id reason now) n = (done (), t) ∧
      Still [] (n.membership.forgetPeer id reason now).2 t := by
  let removed : Node := (onMembership (fun m links => ((m.forgetPeer id reason now).1,
    (m.forgetPeer id reason now).2, links)) n).2
  have hremoved : Still [] (n.membership.forgetPeer id reason now).2 removed := ⟨hidle, rfl⟩
  have hsection : poll ((hostWith follower).act (Membership.forgetPeer id reason now)) n
      = (done (n.membership.forgetPeer id reason now).1, removed) := rfl
  rw [GossipHost.removeMember, poll_bind _ hsection]
  cases (n.membership.forgetPeer id reason now).1 with
  | none => exact ⟨_, rfl, hremoved⟩
  | some member =>
    obtain ⟨_, t, hpoll, ht⟩ := (prompt_section follower
      (fun m links => ((), m.dropLink member.uri links)) fun _ _ => rfl).bind
        (fun _ => prompt_follow follower) _ hremoved
    exact ⟨t, hpoll, ht⟩

/-- Several peers are removed one after the other. -/
theorem poll_removeMembers (reason : Departure) (now : Nat) (ids : List String) {n : Node}
    (hidle : n.site.line = []) :
    ∃ t, poll (GossipHost.eachInTurn ((hostWith follower).removeMember · reason now) ids) n
        = (done (), t) ∧ Still [] (n.membership.forgetEach reason now ids) t := by
  induction ids generalizing n with
  | nil => exact ⟨n, rfl, hidle, rfl⟩
  | cons id rest ih =>
    obtain ⟨t, hfirst, ht⟩ := poll_removeMember follower id reason now hidle
    obtain ⟨u, hrest, hu⟩ := ih ht.line
    refine ⟨u, ?_, hu.line, hu.membership.trans ?_⟩
    · exact (poll_bind _ hfirst).trans hrest
    · rw [Membership.unlinked_forgetEach, ht.membership, ← Membership.unlinked_forgetEach]
      rfl

/-- A check removes those that are silent, and is over at once. -/
theorem poll_detect (now : Nat) {n : Node} (hidle : n.site.line = []) :
    ∃ t, poll ((hostWith follower).detect now) n = (done (n.membership.silent now), t) ∧
      Still [] (n.membership.forgetEach .failed now (n.membership.silent now)) t := by
  let looked : Node := (onMembership (fun m links => (m.silent now, m, links)) n).2
  have hlooked : poll ((hostWith follower).read (Membership.silent now)) n
      = (done (n.membership.silent now), looked) := rfl
  obtain ⟨t, hpoll, ht⟩ := poll_removeMembers follower .failed now (n.membership.silent now)
    (n := looked) hidle
  refine ⟨t, ?_, ht⟩
  rw [GossipHost.detect, poll_bind _ hlooked, poll_bind _ hpoll]
  rfl

/-- A check removes each member on which the detector gave up. -/
theorem removed_of_mem_silent {n : Node} (h : n.membership.peers.Tidy) (hidle : n.site.line = [])
    {now : Nat} {id : String} (hid : id ∈ n.membership.silent now) :
    ∃ t, poll ((hostWith follower).detect now) n = (done (n.membership.silent now), t) ∧
      t.membership.peers.get? id = none := by
  have hremoval : Membership.Removal .failed now (n.membership.silentMembers now) n.membership
      (n.membership.forgetEach .failed now (n.membership.silent now)) := by
    refine Membership.removal_forgetEach .failed now (Membership.nodup_silent h now) ?_
    intro x hx
    exact Membership.get?_of_mem_silentMembers h hx
  obtain ⟨t, hpoll, ht⟩ := poll_detect follower now hidle
  refine ⟨t, hpoll, ?_⟩
  obtain ⟨connections, heq⟩ := Membership.eq_of_unlinked ht.membership
  rw [heq]
  exact (hremoval.members id).trans (if_pos hid)

end Node

end ServiceMesh
