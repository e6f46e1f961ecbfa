import ServiceMesh.Proofs.Gossip.Following

/-!
# What the pool between brokers follows

What the steps of a membership are made of is polite: between two turns it leaves the node at
rest.  So whatever a membership handles, and however its steps take turns, once none is under
way the pool has the addresses that the members had when one last came or went:
`Meeting.pool_follows_last_change`.

A member that is known and gives another address neither comes nor goes.  Its old address
stays in the pool, and the new one does not get there, until some member comes or goes.
-/

namespace ServiceMesh

namespace Node

variable {resolves : String → Bool} {others : List Nat} {n : Node}

/-! ## Members -/

theorem ne_of_appended {β : Type} {xs ys : List β} {x : β} (h : ys = xs ++ [x]) : ys ≠ xs := by
  intro hsame
  have hlength := congrArg List.length (h.symm.trans hsame)
  simp at hlength

theorem polite_addMember (info : BrokerInfo) :
    Fiber.Polite (etiquette resolves) ((host resolves).addMember info) := by
  apply (calm_look (·.now)).polite.bind
  intro now n others h
  refine ⟨⟨List.prefix_refl _, Nat.le_refl _⟩, ?_⟩
  have hhistory := Membership.history_add info now n.membership
  have htidy := Membership.tidy_add h.tidy info now
  change Fiber.Goes _ (ite ((n.membership.add info now).1 = true) _ _) _ _ _
  cases hnew : (n.membership.add info now).1 with
  | true =>
    rw [if_pos rfl]
    refine goes_follow (Orderly.current h.toOrderly ?_ htidy)
    rw [hnew, if_pos rfl] at hhistory
    exact ne_of_appended hhistory
  | false =>
    rw [if_neg Bool.false_ne_true]
    rw [hnew, if_neg Bool.false_ne_true] at hhistory
    exact AtRest.unchanged h hhistory (Membership.keys_add hnew) htidy

theorem Current.dropLink (h : Current resolves others n) (uri : String) :
    Current resolves others
      (onMembership (fun m links => ((), m.dropLink uri links)) n).2 := by
  refine ⟨h.of_eq rfl rfl rfl rfl rfl, ?_, h.tidy⟩
  exact (congrArg PeerTable.byId (if_pos rfl)).trans h.current

theorem polite_removeMember (id : String) (reason : Departure) (now : Nat) :
    Fiber.Polite (etiquette resolves) ((host resolves).removeMember id reason now) := by
  intro n others h
  refine ⟨⟨List.prefix_refl _, Nat.le_refl _⟩, ?_⟩
  have htidy := Membership.tidy_forgetPeer h.tidy id reason now
  have hresult : (onMembership (fun m links => ((m.forgetPeer id reason now).1,
      (m.forgetPeer id reason now).2, links)) n).1
        = (n.membership.forgetPeer id reason now).1 := rfl
  rw [hresult]
  rcases n.membership.forgetPeer_cases id reason now with ⟨-, hsame⟩ | ⟨x, -, hgone, hhistory⟩
  · rw [hsame]
    refine AtRest.unchanged h ?_ ?_ htidy
    · exact congrArg (fun r => r.2.history) hsame
    · exact congrArg (fun r => r.2.peers.byId.keys) hsame
  · rw [hgone]
    have hcurrent : Current resolves others (onMembership (fun m links =>
        ((m.forgetPeer id reason now).1, (m.forgetPeer id reason now).2, links)) n).2 :=
      Orderly.current h.toOrderly (ne_of_appended hhistory) htidy
    refine ⟨⟨List.prefix_refl _, Nat.le_refl _⟩, ?_⟩
    exact goes_follow (hcurrent.dropLink _)

/-- Clearing the membership and following it is polite.  If nobody was there to leave, nobody was
there when the pool was last told either. -/
theorem polite_clear (now : Nat) : Fiber.Polite (etiquette resolves) (do
    (host resolves).change (Membership.clear now)
    (host resolves).follow) := by
  intro n others h
  have htidy := Membership.tidy_clear h.tidy now
  have hcurrent : Current resolves others
      (onMembership (fun m links => ((), m.clear now, links)) n).2 := by
    rcases Membership.clear_cases h.tidy now with hchanged | ⟨hsame, hempty⟩
    · exact Orderly.current h.toOrderly hchanged htidy
    · have hrest : AtRest resolves others
          (onMembership (fun m links => ((), m.clear now, links)) n).2 :=
        AtRest.unchanged h (congrArg Membership.history hsame)
          (congrArg (fun m => m.peers.byId.keys) hsame) htidy
      have hpeers : (n.membership.clear now).peers.byId = .empty := by
        rw [hsame]
        exact hempty
      refine ⟨hrest.toOrderly, ?_, htidy⟩
      exact (Dict.eq_empty_of_keys (hrest.ids.trans (congrArg Dict.keys hpeers))).trans hpeers.symm
  exact ⟨⟨List.prefix_refl _, Nat.le_refl _⟩, goes_follow hcurrent⟩

/-- Whatever a step is made of leaves the node at rest between two turns. -/
theorem manner_polite (resolves : String → Bool) :
    Manner resolves fun _ f => Fiber.Polite (etiquette resolves) f where
  done a := (calm_pure a).polite
  bind hf hg := hf.bind hg
  all hfs := Fiber.Polite.all hfs
  look f := (calm_look f).polite
  quiet hf := (calm_onMembership hf).polite
  deliver envelope := by
    apply Fiber.Calm.polite
    intro n others h
    refine ⟨⟨h.of_eq rfl rfl rfl rfl rfl, h.told, h.ids, h.toldTidy, h.tidy⟩, ?_, trivial⟩
    exact ⟨List.prefix_refl _, Nat.le_refl _⟩
  openLink uri := (calm_openLink uri).polite
  onPool hf := ((opening_calm resolves).onPool hf).polite
  requestWithin ms link payload := (calm_requestWithin ms link payload).polite
  addMember := polite_addMember
  removeMember := polite_removeMember
  clear := polite_clear

end Node

/-! ## Meetings -/

namespace Meeting

variable {resolves : String → Bool} {m : Meeting}

theorem settled_etiquette (resolves : String → Bool) (self : BrokerInfo)
    (settings : MembershipSettings) (destination : String) (poolSettings : PoolSettings) :
    Settled (Node.etiquette resolves) (new self settings destination poolSettings) := by
  refine settled_new
    ⟨⟨rfl, List.Pairwise.nil, ?_, ?_, ?_, Nat.le_refl _, rfl, ?_⟩, ?_, rfl, ?_, ?_⟩
  · intro k hk
    exact absurd hk List.not_mem_nil
  · intro k hk
    exact absurd hk (Nat.not_lt_zero k)
  · intro k hk
    exact absurd hk List.not_mem_nil
  · intro k hk
    exact absurd hk List.not_mem_nil
  · exact List.mergeSort_nil
  · exact PeerTable.tidy_empty
  · exact PeerTable.tidy_empty

/-- A meeting stays settled. -/
theorem Settled.run (h : Settled (Node.etiquette resolves) m) (moves : List Move) :
    Settled (Node.etiquette resolves) (m.run resolves moves) := by
  induction moves generalizing m with
  | nil => exact h
  | cons mv rest ih =>
    refine ih (h.move (Node.manner_polite resolves) ?_ mv).1
    intro pool links nature now found n held hrest
    have hshifted : Node.Orderly resolves held (n.shift pool links nature now found) :=
      hrest.toOrderly.of_eq rfl rfl rfl rfl rfl
    exact ⟨⟨hshifted, hrest.told, hrest.ids, hrest.toldTidy, hrest.tidy⟩,
      List.prefix_refl _, Nat.le_refl _⟩

/-- When no step is under way, nobody stands in line. -/
theorem Settled.over (h : Settled (Node.etiquette resolves) m) (hquiet : m.Quiet) :
    m.node.site.pool.uris = Pool.takenUp resolves m.node.told.uris := by
  obtain ⟨held, hrest, hgo⟩ := h
  have hheld : held = [] := hgo.over hquiet
  have hturn : m.node.asked.length ≤ m.node.turn := by
    apply Nat.le_of_not_lt
    intro hlt
    rcases hrest.waiting m.node.turn hlt with hturn | hline
    · exact Nat.lt_irrefl _ hturn
    · have hnobody := hrest.held _ hline
      rw [hheld] at hnobody
      cases hnobody
  have hset := hrest.set
  rw [List.take_of_length_le hturn, ← hrest.told] at hset
  exact hset

/-- Whatever a membership handles, when no step is under way the pool has, sorted and each
once, the addresses of the members as they were when one last came or went.  The members are
the same as then, and the pool has their addresses unless one has given another since. -/
theorem pool_follows_last_change (resolves : String → Bool) (self : BrokerInfo)
    (settings : MembershipSettings) (destination : String) (poolSettings : PoolSettings)
    (moves : List Move)
    (hquiet : ((new self settings destination poolSettings).run resolves moves).Quiet) :
    let n := ((new self settings destination poolSettings).run resolves moves).node
    n.site.pool.uris.Pairwise (· < ·) ∧
    n.site.pool.uris = Pool.takenUp resolves n.told.uris ∧
    n.told.byId.keys = n.membership.peers.byId.keys ∧
    ((∀ id, (n.told.get? id).map Member.uri = (n.membership.peers.get? id).map Member.uri) →
      n.site.pool.uris = Pool.takenUp resolves n.membership.peers.uris) := by
  have hsettled := (settled_etiquette resolves self settings destination poolSettings).run moves
  have hpool := hsettled.over hquiet
  obtain ⟨held, hrest, -⟩ := hsettled
  refine ⟨?_, hpool, hrest.ids, ?_⟩
  · rw [hpool]
    exact Pool.sorted_takenUp resolves _
  · intro haddress
    rw [hpool, hrest.toldTidy.uris_eq hrest.tidy hrest.ids haddress]

namespace Sample

/-- The other broker pings, and pings again from another port. -/
def moves : List Move :=
  [.start (.handle (.ping ⟨other 9999, []⟩)), .turn 0,
   .start (.handle (.ping ⟨other 9998, []⟩)), .turn 1]

end Sample

open Sample in
/-- A broker that gives another port under the same id stays in the pool with the old one. -/
theorem pool_keeps_left_address :
    let m := (new own settings "_meshrpc_broker" {}).run (fun _ => true) moves
    m.Quiet ∧ m.node.site.pool.uris = ["local://b2:9999"] ∧
      m.node.membership.peers.uris = ["local://b2:9998"] := by
  have hquiet : ((new own settings "_meshrpc_broker" {}).run (fun _ => true) moves).Quiet := by
    decide +kernel
  obtain ⟨-, hpool, -⟩ := pool_follows_last_change (fun _ => true) own settings
    "_meshrpc_broker" {} moves hquiet
  refine ⟨hquiet, hpool.trans ?_, ?_⟩
  · decide +kernel
  · decide +kernel

end Meeting

end ServiceMesh
