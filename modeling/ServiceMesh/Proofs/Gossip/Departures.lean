import ServiceMesh.Proofs.Gossip.Node

/-!
# Where the members went

An address at which a member stands can lose its member in two ways only: the member departs,
which the history tells, or it gives another address under the same id, which the history
does not tell.  `Node.Tracks` says so of a node before and after, and composes.
-/

namespace ServiceMesh

/-- Some changes tell that a member departed that was at an address. -/
def Departed (changes : List MembershipChange) (uri : String) : Prop :=
  ∃ info reason, .removed info reason ∈ changes ∧ info.url = uri

theorem Departed.mono {changes more : List MembershipChange} {uri : String}
    (h : Departed changes uri) (hmore : changes ⊆ more) : Departed more uri := by
  obtain ⟨info, reason, hmem, hurl⟩ := h
  exact ⟨info, reason, hmore hmem, hurl⟩

namespace Membership

variable {m m' m'' : Membership}

/-- A membership afterwards: who is no member any more is told to have departed, and the
others are as they were. -/
def Loses (m m' : Membership) : Prop :=
  ∃ new, m'.history = m.history ++ new ∧ ∀ id x, m.peers.get? id = some x →
    m'.peers.get? id = some x ∨ Departed new x.uri

theorem Loses.refl (m : Membership) : m.Loses m := by
  refine ⟨[], (List.append_nil _).symm, ?_⟩
  intro _ _ hx
  exact .inl hx

theorem Loses.trans (h : m.Loses m') (h' : m'.Loses m'') : m.Loses m'' := by
  obtain ⟨new, hnew, hloses⟩ := h
  obtain ⟨new', hnew', hloses'⟩ := h'
  refine ⟨new ++ new', ?_, ?_⟩
  · rw [hnew', hnew, List.append_assoc]
  · intro id x hx
    rcases hloses id x hx with hstays | hgone
    · apply (hloses' id x hstays).imp_right
      intro hgone
      exact hgone.mono (List.subset_append_right new new')
    · exact .inr (hgone.mono (List.subset_append_left new new'))

theorem loses_forgetPeer (m : Membership) (id : String) (reason : Departure) (now : Nat) :
    m.Loses (m.forgetPeer id reason now).2 := by
  rcases m.forgetPeer_cases id reason now with ⟨-, hsame⟩ | ⟨x, hx, -, hhistory⟩
  · rw [hsame]
    exact .refl m
  · refine ⟨[.removed x.info reason], hhistory, ?_⟩
    intro id' y hy
    rw [peers_forgetPeer]
    unfold PeerTable.remove PeerTable.get? at *
    rw [hx]
    by_cases hid : id = id'
    · right
      rw [hid] at hx
      cases hx.symm.trans hy
      exact ⟨x.info, reason, List.mem_singleton_self _, rfl⟩
    · left
      exact (Dict.get?_erase_of_ne m.peers.byId hid).trans hy

theorem loses_forgetAll (now : Nat) (xs : List Member) :
    ∀ m : Membership, m.Loses (m.forgetAll now xs) := by
  induction xs with
  | nil =>
    intro m
    exact .refl m
  | cons x rest ih =>
    intro m
    exact (m.loses_forgetPeer x.info.id .left now).trans (ih _)

theorem loses_clear (m : Membership) (now : Nat) : m.Loses (m.clear now) :=
  loses_forgetAll now m.peers.members m

end Membership

namespace Node

variable {n n' n'' : Node} {α : Type}

/-- A node afterwards: an address that has no member any more lost it by a departure or
was given up for another. -/
def Tracks (n n' : Node) : Prop :=
  n.moved ⊆ n'.moved ∧
    ∃ new, n'.membership.history = n.membership.history ++ new ∧
      ∀ uri ∈ n.membership.peers.uris,
        uri ∈ n'.membership.peers.uris ∨ Departed new uri ∨ uri ∈ n'.moved

theorem Tracks.refl (n : Node) : n.Tracks n := by
  refine ⟨List.Subset.refl _, [], (List.append_nil _).symm, ?_⟩
  intro _ h
  exact .inl h

theorem Tracks.trans (h : n.Tracks n') (h' : n'.Tracks n'') : n.Tracks n'' := by
  obtain ⟨hmoved, new, hnew, htracks⟩ := h
  obtain ⟨hmoved', new', hnew', htracks'⟩ := h'
  refine ⟨List.Subset.trans hmoved hmoved', new ++ new', ?_, ?_⟩
  · rw [hnew', hnew, List.append_assoc]
  · intro uri huri
    rcases htracks uri huri with hstays | hgone | hgiven
    · rcases htracks' uri hstays with hstays | hgone | hgiven
      · exact .inl hstays
      · exact .inr (.inl (hgone.mono (List.subset_append_right new new')))
      · exact .inr (.inr hgiven)
    · exact .inr (.inl (hgone.mono (List.subset_append_left new new')))
    · exact .inr (.inr (hmoved' hgiven))

/-- A section tracks the members if it says of whom it loses that they departed. -/
theorem Tracks.of_section {f : Membership → Links → α × Membership × Links} {new}
    (htidy : n.membership.peers.Tidy) (htidy' : (onMembership f n).2.membership.peers.Tidy)
    (hnew : (onMembership f n).2.membership.history = n.membership.history ++ new)
    (hgone : ∀ id x, n.membership.peers.get? id = some x →
      (onMembership f n).2.membership.peers.get? id = none → Departed new x.uri) :
    n.Tracks (onMembership f n).2 := by
  refine ⟨List.subset_append_left _ _, new, hnew, ?_⟩
  intro uri huri
  obtain ⟨x, hx, rfl⟩ := (PeerTable.mem_uris _ _).mp huri
  have hget := (htidy.mem_members x).mp hx
  cases hafter : (onMembership f n).2.membership.peers.get? x.info.id with
  | none => exact .inr (.inl (hgone x.info.id x hget hafter))
  | some y =>
    by_cases hmoves : y.uri = x.uri
    · refine .inl ((PeerTable.mem_uris _ _).mpr ⟨y, (htidy'.mem_members y).mpr ?_, hmoves⟩)
      rw [htidy'.keyed _ y hafter]
      exact hafter
    · refine .inr (.inr (List.mem_append_right _ ?_))
      exact PeerTable.mem_givenUp hx hafter hmoves

theorem Tracks.of_loses {f : Membership → Links → α × Membership × Links}
    (htidy : n.membership.peers.Tidy) (htidy' : (onMembership f n).2.membership.peers.Tidy)
    (hloses : n.membership.Loses (onMembership f n).2.membership) :
    n.Tracks (onMembership f n).2 := by
  obtain ⟨new, hnew, hstays⟩ := hloses
  refine .of_section htidy htidy' hnew ?_
  intro id x hx hnone
  rcases hstays id x hx with hsome | hgone
  · cases hnone.symm.trans hsome
  · exact hgone

end Node

end ServiceMesh
