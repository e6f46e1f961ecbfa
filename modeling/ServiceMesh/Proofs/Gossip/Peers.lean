import ServiceMesh.Gossip.Membership
import ServiceMesh.Proofs.Dict

/-!
# What the sections of a membership do to its members

A peer table is *tidy* if it lists each id once and files each member under its own id.
Every section of a membership keeps its table tidy.  The history of a membership grows
exactly when a member comes or goes.
-/

namespace ServiceMesh

namespace PeerTable

/-- Each id is listed once, and each member stands under its own id. -/
structure Tidy (t : PeerTable) : Prop where
  nodup : t.byId.keys.Nodup
  keyed : ∀ id x, t.get? id = some x → x.info.id = id

theorem tidy_empty : Tidy {} := by
  refine ⟨List.nodup_nil, ?_⟩
  intro id x h
  cases h

variable {t : PeerTable}

theorem Tidy.insert (h : t.Tidy) (x : Member) (departed : Dict String Nat) :
    Tidy ⟨t.byId.insert x.info.id x, departed⟩ := by
  refine ⟨Dict.nodup_keys_insert h.nodup _ _, ?_⟩
  intro id y hy
  rw [get?, Dict.get?_insert] at hy
  split at hy
  · next hid =>
    cases hy
    exact hid
  · exact h.keyed id y hy

/-- Taking a member in keeps the table tidy. -/
theorem Tidy.upsert (h : t.Tidy) (info : BrokerInfo) (now : Nat) : (t.upsert info now).1.Tidy := by
  unfold PeerTable.upsert
  split
  · next x _ => exact h.insert { x with info := info } _
  · exact h.insert ⟨info, .active, now⟩ _

/-- Removing a member keeps the table tidy. -/
theorem Tidy.remove (h : t.Tidy) (id : String) (reason : Departure) (now : Nat) :
    (t.remove id reason now).1.Tidy := by
  unfold PeerTable.remove
  split
  · exact h
  · refine ⟨Dict.nodup_keys_erase h.nodup id, ?_⟩
    intro id' y hy
    rw [get?, Dict.get?_erase] at hy
    split at hy
    · cases hy
    · exact h.keyed id' y hy

/-- The list of members is the table of members in another order. -/
theorem perm_members (t : PeerTable) : t.members.Perm t.byId.values := List.mergeSort_perm _ _

/-- Who is in the list is who the table has under its id. -/
theorem Tidy.mem_members (h : t.Tidy) (x : Member) :
    x ∈ t.members ↔ t.get? x.info.id = some x := by
  rw [t.perm_members.mem_iff, Dict.mem_values_iff h.nodup]
  constructor
  · rintro ⟨id, hid⟩
    rw [h.keyed id x hid]
    exact hid
  · intro hx
    exact ⟨_, hx⟩

/-- The addresses are those of the members in another order. -/
theorem perm_uris (t : PeerTable) : t.uris.Perm (t.members.map Member.uri) :=
  (List.mergeSort_perm _ _).trans (t.perm_members.symm.map _)

/-- An address is listed iff some member has it. -/
theorem mem_uris (t : PeerTable) (uri : String) :
    uri ∈ t.uris ↔ ∃ x ∈ t.members, x.uri = uri := by
  rw [t.perm_uris.mem_iff, List.mem_map]

theorem byId_eq_empty (h : t.members = []) : t.byId = .empty := by
  have hp := t.perm_members
  rw [h] at hp
  exact congrArg Dict.mk (List.map_eq_nil_iff.mp hp.nil_eq.symm)

/-- The addresses depend on the members alone, not on the tombstones. -/
theorem uris_eq_of_byId {t t' : PeerTable} (h : t'.byId = t.byId) : t'.uris = t.uris := by
  unfold uris
  rw [h]

theorem uris_of_isEmpty (h : t.byId = .empty) : t.uris = [] := by
  unfold uris
  rw [h]
  exact List.mergeSort_nil

theorem members_of_isEmpty (h : t.byId = .empty) : t.members = [] := by
  unfold members
  rw [h]
  exact List.mergeSort_nil

theorem Tidy.of_byId {t' : PeerTable} (h : t.Tidy) (hsame : t'.byId = t.byId) : t'.Tidy := by
  obtain ⟨hnodup, hkeyed⟩ := h
  unfold get? at hkeyed
  rw [← hsame] at hnodup hkeyed
  exact ⟨hnodup, hkeyed⟩

/-- A member that was known already leaves the ids as they are. -/
theorem keys_upsert {info : BrokerInfo} {now : Nat} (h : (t.upsert info now).2 = none) :
    (t.upsert info now).1.byId.keys = t.byId.keys := by
  unfold PeerTable.upsert at h ⊢
  cases hknown : t.byId.get? info.id with
  | none =>
    rw [hknown] at h
    cases h
  | some x =>
    have hmem := Dict.mem_keys_of_get? hknown
    exact (Dict.keys_insert t.byId info.id { x with info := info }).trans (if_pos hmem)

/-- Two tables have the same addresses if they have the same ids, each at the same
address. -/
theorem Tidy.uris_eq {t' : PeerTable} (h : t.Tidy) (h' : t'.Tidy)
    (hids : t.byId.keys = t'.byId.keys)
    (haddress : ∀ id, (t.get? id).map Member.uri = (t'.get? id).map Member.uri) :
    t.uris = t'.uris := by
  have hsome : t.byId.values.map (fun x => some x.uri)
      = t'.byId.values.map fun x => some x.uri := by
    rw [Dict.map_values_eq h.nodup, Dict.map_values_eq h'.nodup, hids]
    apply List.map_congr_left
    intro id _
    exact haddress id
  have hvalues : t.byId.values.map Member.uri = t'.byId.values.map Member.uri := by
    rw [← List.map_inj_right (f := some) fun _ _ => Option.some.inj, List.map_map, List.map_map]
    exact hsome
  unfold uris
  rw [hvalues]

/-! ## One member -/

/-- Taking a member in concerns no other id. -/
theorem get?_upsert_of_ne (t : PeerTable) {info : BrokerInfo} {id : String} (h : info.id ≠ id)
    (now : Nat) : (t.upsert info now).1.get? id = t.get? id := by
  unfold PeerTable.upsert PeerTable.get?
  split
  · exact Dict.get?_insert_of_ne _ h _
  · exact Dict.get?_insert_of_ne _ h _

/-- Whoever is taken in has no tombstone any more. -/
@[simp] theorem departed_upsert (t : PeerTable) (info : BrokerInfo) (now : Nat) :
    (t.upsert info now).1.departed = t.departed.erase info.id := by
  unfold PeerTable.upsert
  split
  · rfl
  · rfl

/-- Removing a member concerns no other id. -/
theorem get?_remove_of_ne (t : PeerTable) {id id' : String} (h : id ≠ id') (reason : Departure)
    (now : Nat) : (t.remove id reason now).1.get? id' = t.get? id' := by
  unfold PeerTable.remove PeerTable.get?
  split
  · rfl
  · exact Dict.get?_erase_of_ne _ h

/-- Removing a member leaves the tombstones of the others. -/
theorem departed_remove_of_ne (t : PeerTable) {id id' : String} (h : id ≠ id')
    (reason : Departure) (now : Nat) :
    (t.remove id reason now).1.departed.get? id' = t.departed.get? id' := by
  unfold PeerTable.remove
  split
  · rfl
  · exact Dict.get?_insert_of_ne _ h _

/-- Tombstones that are dropped had been there. -/
theorem departed_forgetDeparted (t : PeerTable) (now ttl : Nat) {id : String}
    (h : t.departed.get? id = none) : (t.forgetDeparted now ttl).departed.get? id = none := by
  rw [Dict.get?_eq_none_iff] at h ⊢
  intro hmem
  exact h (List.filter_sublist.map Prod.fst |>.subset hmem)

/-! ## Addresses that members gave up -/

/-- The old addresses of members that have another one now. -/
def givenUp (t t' : PeerTable) : List String :=
  (t.members.filter fun x => (t'.get? x.info.id).any fun y => y.uri != x.uri).map Member.uri

/-- An address is given up if the member who had it has another one afterwards. -/
theorem mem_givenUp {t t' : PeerTable} {x y : Member} (hx : x ∈ t.members)
    (hy : t'.get? x.info.id = some y) (hne : y.uri ≠ x.uri) : x.uri ∈ t.givenUp t' := by
  refine List.mem_map_of_mem (List.mem_filter.mpr ⟨hx, ?_⟩)
  rw [hy, Option.any_some, bne_iff_ne]
  exact hne

/-- Nothing is given up where nothing changes. -/
theorem Tidy.givenUp_self (h : t.Tidy) : t.givenUp t = [] := by
  refine List.map_eq_nil_iff.mpr (List.filter_eq_nil_iff.mpr ?_)
  intro x hx
  rw [(h.mem_members x).mp hx]
  simp

end PeerTable

namespace Membership

variable {m : Membership}

/-! ## Adding -/

/-- A broker that is added is turned away, was a member, or is a new one. -/
theorem add_cases (info : BrokerInfo) (now : Nat) (m : Membership) :
    ((info.id = m.self.id ∨ info.isActive = false) ∧ m.add info now = (false, m)) ∨
    (info.id ≠ m.self.id ∧ info.isActive = true ∧
      ((∃ x, m.peers.get? info.id = some x ∧
          m.add info now = (false, { m with peers := (m.peers.upsert info now).1 })) ∨
        (m.peers.get? info.id = none ∧
          m.add info now = (true, { m with
            peers := (m.peers.upsert info now).1
            detector := m.detector.heartbeat info.id now
            history := m.history ++ [.added info] })))) := by
  unfold add
  by_cases h : info.id = m.self.id ∨ (!info.isActive) = true
  · refine .inl ⟨h.imp_right ?_, if_pos h⟩
    intro h
    simpa using h
  · rw [if_neg h]
    obtain ⟨hid, hactive⟩ := not_or.mp h
    refine .inr ⟨hid, by simpa using hactive, ?_⟩
    unfold PeerTable.upsert PeerTable.get?
    cases m.peers.byId.get? info.id with
    | some x => exact .inl ⟨x, rfl, rfl⟩
    | none => exact .inr ⟨rfl, rfl⟩

/-- Taking a member in does not change who the broker is. -/
@[simp] theorem self_add (info : BrokerInfo) (now : Nat) (m : Membership) :
    (m.add info now).2.self = m.self := by
  rcases m.add_cases info now with ⟨-, h⟩ | ⟨-, -, ⟨x, -, h⟩ | ⟨-, h⟩⟩
  all_goals rw [h]

@[simp] theorem settings_add (info : BrokerInfo) (now : Nat) (m : Membership) :
    (m.add info now).2.settings = m.settings := by
  rcases m.add_cases info now with ⟨-, h⟩ | ⟨-, -, ⟨x, -, h⟩ | ⟨-, h⟩⟩
  all_goals rw [h]

@[simp] theorem connections_add (info : BrokerInfo) (now : Nat) (m : Membership) :
    (m.add info now).2.connections = m.connections := by
  rcases m.add_cases info now with ⟨-, h⟩ | ⟨-, -, ⟨x, -, h⟩ | ⟨-, h⟩⟩
  all_goals rw [h]

/-- Taking a member in changes the table as `upsert` does, or, for the broker itself, not at all.
-/
theorem peers_add (info : BrokerInfo) (now : Nat) (m : Membership) :
    (m.add info now).2.peers = m.peers ∨
      (m.add info now).2.peers = (m.peers.upsert info now).1 := by
  unfold add
  split
  · exact .inl rfl
  · right
    split
    · next heq => rw [heq]
    · next heq => rw [heq]; rfl

/-- A broker that is added is news about no other one. -/
theorem get?_add_of_ne {info : BrokerInfo} {id : String} (h : info.id ≠ id) (now : Nat)
    (m : Membership) : (m.add info now).2.peers.get? id = m.peers.get? id := by
  rcases m.peers_add info now with hsame | hupsert
  · rw [hsame]
  · rw [hupsert]
    exact m.peers.get?_upsert_of_ne h now

/-- Taking a member in leaves the tombstones of the others. -/
theorem departed_add_of_ne {info : BrokerInfo} {id : String} (h : info.id ≠ id) (now : Nat)
    (m : Membership) : (m.add info now).2.peers.departed.get? id = m.peers.departed.get? id := by
  rcases m.peers_add info now with hsame | hupsert
  · rw [hsame]
  · rw [hupsert, PeerTable.departed_upsert]
    exact Dict.get?_erase_of_ne _ h

/-- Whoever is a member is one after another member was taken in. -/
theorem get?_add_isSome {id : String} {x : Member} (hx : m.peers.get? id = some x)
    (info : BrokerInfo) (now : Nat) : ((m.add info now).2.peers.get? id).isSome := by
  rcases m.peers_add info now with hsame | hupsert
  · rw [hsame, hx]
    rfl
  · rw [hupsert]
    unfold PeerTable.upsert PeerTable.get? at *
    split
    · rw [Dict.get?_insert]
      split
      · rfl
      · rw [hx]
        rfl
    · rw [Dict.get?_insert]
      split
      · rfl
      · rw [hx]
        rfl

/-- An active broker that is added is a member with what it says about itself. -/
theorem get?_add_self {info : BrokerInfo} (hother : info.id ≠ m.self.id)
    (hactive : info.isActive = true) (now : Nat) :
    ∃ x, (m.add info now).2.peers.get? info.id = some x ∧ x.info = info := by
  have hupsert := m.peers.get?_upsert_self info now
  rcases m.add_cases info now with ⟨hturned, -⟩ | ⟨-, -, ⟨x, -, hadd⟩ | ⟨-, hadd⟩⟩
  · rcases hturned with hid | hinactive
    · exact absurd hid hother
    · rw [hinactive] at hactive
      cases hactive
  all_goals
    rw [hadd]
    exact Option.map_eq_some_iff.mp hupsert

/-- A broker that is added is new, or the history stays as it is. -/
theorem history_add (info : BrokerInfo) (now : Nat) (m : Membership) :
    (m.add info now).2.history
      = if (m.add info now).1 then m.history ++ [.added info] else m.history := by
  unfold add PeerTable.upsert
  split
  · rfl
  · split
    · next heq =>
      split at heq
      · cases heq
        rfl
      · cases heq
    · next heq =>
      split at heq
      · cases heq
      · cases heq
        rfl

/-- Taking a member in only adds to the history. -/
theorem history_add_prefix (info : BrokerInfo) (now : Nat) (m : Membership) :
    m.history <+: (m.add info now).2.history := by
  rw [history_add]
  split
  · exact List.prefix_append _ _
  · exact List.prefix_refl _

/-- Taking a member in keeps the table tidy, whether or not it is the broker itself. -/
theorem tidy_add (h : m.peers.Tidy) (info : BrokerInfo) (now : Nat) :
    (m.add info now).2.peers.Tidy := by
  rcases m.peers_add info now with hsame | hupsert
  · rw [hsame]
    exact h
  · rw [hupsert]
    exact h.upsert info now

/-- A broker that is added and is not new leaves the ids as they are. -/
theorem keys_add {info : BrokerInfo} {now : Nat} (h : (m.add info now).1 = false) :
    (m.add info now).2.peers.byId.keys = m.peers.byId.keys := by
  unfold add at h ⊢
  split at h
  · next hself => rw [if_pos hself]
  · next hself =>
    rw [if_neg hself]
    cases hupsert : m.peers.upsert info now with
    | mk peers change =>
      cases change with
      | none =>
        have hnone : (m.peers.upsert info now).2 = none := congrArg Prod.snd hupsert
        have hkeys := PeerTable.keys_upsert hnone
        rw [hupsert] at hkeys
        exact hkeys
      | some change =>
        rw [hupsert] at h
        cases h

/-! ## Removing -/

/-- Forgetting a member removes it from the table. -/
theorem peers_forgetPeer (id : String) (reason : Departure) (now : Nat) (m : Membership) :
    (m.forgetPeer id reason now).2.peers = (m.peers.remove id reason now).1 := by
  unfold forgetPeer PeerTable.remove
  cases m.peers.byId.get? id with
  | none => rfl
  | some x => rfl

/-- A peer that is removed was a member, or nothing changes. -/
theorem forgetPeer_cases (id : String) (reason : Departure) (now : Nat) (m : Membership) :
    (m.peers.get? id = none ∧ m.forgetPeer id reason now = (none, m)) ∨
    ∃ x, m.peers.get? id = some x ∧
      (m.forgetPeer id reason now).1 = some { x with state := reason.state } ∧
      (m.forgetPeer id reason now).2.history = m.history ++ [.removed x.info reason] := by
  unfold forgetPeer PeerTable.remove PeerTable.get?
  cases m.peers.byId.get? id with
  | none => exact .inl ⟨rfl, rfl⟩
  | some x => exact .inr ⟨x, rfl, rfl, rfl⟩

@[simp] theorem self_forgetPeer (id : String) (reason : Departure) (now : Nat)
    (m : Membership) : (m.forgetPeer id reason now).2.self = m.self := by
  unfold forgetPeer
  split
  · rfl
  · rfl

@[simp] theorem settings_forgetPeer (id : String) (reason : Departure) (now : Nat)
    (m : Membership) : (m.forgetPeer id reason now).2.settings = m.settings := by
  unfold forgetPeer
  split
  · rfl
  · rfl

/-- Forgetting a member keeps the table tidy. -/
theorem tidy_forgetPeer (h : m.peers.Tidy) (id : String) (reason : Departure) (now : Nat) :
    (m.forgetPeer id reason now).2.peers.Tidy := by
  rw [peers_forgetPeer]
  exact h.remove id reason now

/-- Forgetting a member only adds to the history. -/
theorem history_forgetPeer_prefix (id : String) (reason : Departure) (now : Nat)
    (m : Membership) : m.history <+: (m.forgetPeer id reason now).2.history := by
  rcases m.forgetPeer_cases id reason now with ⟨-, hsame⟩ | ⟨x, -, -, hhistory⟩
  · exact ⟨[], (List.append_nil _).trans (congrArg (fun r => r.2.history) hsame.symm)⟩
  · exact ⟨_, hhistory.symm⟩

/-- Removes some members, one after the other. -/
def forgetAll (now : Nat) (xs : List Member) (m : Membership) : Membership :=
  xs.foldl (fun m x => (m.forgetPeer x.info.id .left now).2) m

/-- Forgetting several members only adds to the history. -/
theorem history_forgetAll_prefix (now : Nat) (xs : List Member) :
    ∀ m : Membership, m.history <+: (m.forgetAll now xs).history := by
  induction xs with
  | nil =>
    intro m
    exact List.prefix_refl _
  | cons x rest ih =>
    intro m
    exact (m.history_forgetPeer_prefix x.info.id .left now).trans (ih _)

/-- Forgetting several members keeps the table tidy. -/
theorem tidy_forgetAll (now : Nat) (xs : List Member) :
    ∀ {m : Membership}, m.peers.Tidy → (m.forgetAll now xs).peers.Tidy := by
  induction xs with
  | nil =>
    intro m h
    exact h
  | cons x rest ih =>
    intro m h
    exact ih (tidy_forgetPeer h x.info.id .left now)

/-- What every removal of a member keeps is kept by the removal of all. -/
theorem clear_keeps {P : Membership → Prop} {now : Nat}
    (hP : ∀ m id, P m → P (m.forgetPeer id .left now).2) (h : P m) : P (m.clear now) := by
  suffices hall : ∀ (xs : List Member) (m : Membership), P m → P (m.forgetAll now xs) from
    hall _ m h
  intro xs
  induction xs with
  | nil =>
    intro _ h
    exact h
  | cons x rest ih =>
    intro m h
    exact ih _ (hP m x.info.id h)

theorem self_clear (now : Nat) (m : Membership) : (m.clear now).self = m.self :=
  clear_keeps (P := fun m' => m'.self = m.self)
    (fun m' id h => (self_forgetPeer id .left now m').trans h) rfl

/-- Clearing keeps the table tidy. -/
theorem tidy_clear (h : m.peers.Tidy) (now : Nat) : (m.clear now).peers.Tidy :=
  tidy_forgetAll now _ h

/-- Whoever is left after several were forgotten is none of them. -/
theorem get?_forgetAll (now : Nat) (xs : List Member) : ∀ {m : Membership} {id : String}
    {y : Member}, (m.forgetAll now xs).peers.get? id = some y →
      m.peers.get? id = some y ∧ ∀ x ∈ xs, x.info.id ≠ id := by
  induction xs with
  | nil =>
    intro m id y h
    refine ⟨h, ?_⟩
    intro x hx
    exact absurd hx List.not_mem_nil
  | cons x rest ih =>
    intro m id y h
    obtain ⟨hget, hrest⟩ := ih h
    rw [peers_forgetPeer] at hget
    have hne : x.info.id ≠ id := by
      intro hid
      rw [← hid, PeerTable.get?_remove_self] at hget
      cases hget
    rw [m.peers.get?_remove_of_ne hne] at hget
    exact ⟨hget, List.forall_mem_cons.mpr ⟨hne, hrest⟩⟩

/-- Nobody is left in a table that is cleared. -/
theorem byId_clear (h : m.peers.Tidy) (now : Nat) : (m.clear now).peers.byId = .empty := by
  refine Dict.eq_empty_of_keys (List.eq_nil_iff_forall_not_mem.mpr ?_)
  intro id hid
  obtain ⟨y, hy⟩ := (Dict.mem_keys_iff _ _).mp hid
  obtain ⟨hbefore, hall⟩ := get?_forgetAll now m.peers.members hy
  have hkeyed : y.info.id = id := h.keyed id y hbefore
  rw [← hkeyed] at hbefore
  exact hall y ((h.mem_members y).mpr hbefore) hkeyed

/-- Who clears the table removes a member, or there was none. -/
theorem clear_cases (h : m.peers.Tidy) (now : Nat) :
    (m.clear now).history ≠ m.history ∨ (m.clear now = m ∧ m.peers.byId = .empty) := by
  have hclear : m.clear now = m.forgetAll now m.peers.members := rfl
  cases hmembers : m.peers.members with
  | nil =>
    right
    rw [hclear, hmembers]
    exact ⟨rfl, PeerTable.byId_eq_empty hmembers⟩
  | cons x rest =>
    left
    rw [hclear, hmembers]
    have hx : m.peers.get? x.info.id = some x := by
      rw [← h.mem_members, hmembers]
      exact List.mem_cons_self
    rcases m.forgetPeer_cases x.info.id .left now with ⟨hnone, -⟩ | ⟨y, -, -, hhistory⟩
    · rw [hx] at hnone
      cases hnone
    · obtain ⟨tail, htail⟩ :=
        history_forgetAll_prefix now rest (m.forgetPeer x.info.id .left now).2
      intro hsame
      have hlength := congrArg List.length (htail.trans hsame)
      rw [hhistory] at hlength
      simp at hlength

end Membership

end ServiceMesh
