import ServiceMesh.Proofs.Gossip.Arrivals
import ServiceMesh.Proofs.Gossip.Departures
import ServiceMesh.Proofs.Gossip.Meetings
import ServiceMesh.Proofs.Gossip.Soundness

/-!
# After leaving

Who leaves a cluster knows nobody any more, and the pool between brokers has no address
(`Meeting.HasLeft.vacant`).  But whoever left still handles what it is told, and it may be a seed
of others.  It stays without members exactly as long as nobody else who is active introduces
itself (`Meeting.left_stays_empty_iff`): a ping, an answer to a ping, and what a broker tells
about itself do so, and nothing stands in their way.  Nor does anything mark what it answers:
it still says about itself that it is active, so that its peers add it again.
-/

namespace ServiceMesh

/-- Whether somebody else who is active introduces itself by a message. -/
def GossipMessage.introduces (self : BrokerInfo) (message : GossipMessage) : Bool :=
  match message.speaker? with
  | some info => info.id != self.id && info.isActive
  | none => false

theorem GossipMessage.introduces_iff {self : BrokerInfo} {message : GossipMessage} :
    message.introduces self = true ↔
      ∃ info, message.speaker? = some info ∧ info.id ≠ self.id ∧ info.isActive = true := by
  unfold GossipMessage.introduces
  cases message.speaker? with
  | none => simp
  | some info => simp

namespace Node

variable {resolves : String → Bool}

/-! ## A node without members -/

/-- Nobody is a member, the pool has no address, and nobody else is introduced by answers. -/
def Regime.vacant (self : BrokerInfo) : Regime where
  Inv m _ nature uris := m.self = self ∧ m.peers.byId = .empty ∧ uris = [] ∧
    ∀ answer, nature.answer? = some answer → answer.introduces self = false
  May info := info.id = self.id ∨ info.isActive = false
  Ask _ := True
  Time _ := True
  Uris us := us = []
  Answer message := message.introduces self = false

theorem may_of_not_introduces {self info : BrokerInfo} {message : GossipMessage}
    (h : message.introduces self = false) (hspeaker : message.speaker? = some info) :
    info.id = self.id ∨ info.isActive = false := by
  unfold GossipMessage.introduces at h
  rw [hspeaker] at h
  cases hactive : info.isActive with
  | false => exact .inr rfl
  | true => exact .inl (by simpa [hactive] using h)

theorem Regime.vacant_kept (self : BrokerInfo) (resolves : String → Bool) :
    (vacant self).Kept resolves where
  aside _ _ h := h
  heartbeat _ _ h := h
  add {m now nature uris} info time hinfo h := by
    obtain ⟨hself, hempty, huris, hanswer⟩ := h
    rcases m.add_cases info time with ⟨-, hadd⟩ | ⟨hother, hactive, -⟩
    · rw [hadd]
      exact ⟨hself, hempty, huris, hanswer⟩
    · rcases hinfo with hid | hinactive
      · exact absurd (hid.trans (congrArg BrokerInfo.id hself.symm)) hother
      · rw [hinactive] at hactive
        cases hactive
  expire _ _ h := h
  setUris us hus h := by
    obtain ⟨hself, hempty, -, hanswer⟩ := h
    refine ⟨hself, hempty, ?_, hanswer⟩
    rw [hus]
    rfl
  clock _ := trivial
  addresses h := PeerTable.uris_of_isEmpty h.2.1
  check _ _ _ _ := trivial
  answer h hreply hread := h.2.2.2 _ (Nature.answer?_eq hreply hread)
  speaker h := may_of_not_introduces h rfl
  answered h _ _ := may_of_not_introduces h rfl

theorem Regime.vacant_parts (self : BrokerInfo) : (vacant self).Parts := by
  have hforget : ∀ {m : Membership} id reason time, m.peers.byId = .empty →
      (m.forgetPeer id reason time).2 = m := by
    intro m id reason time hempty
    rcases m.forgetPeer_cases id reason time with ⟨-, hsame⟩ | ⟨x, hx, -⟩
    · rw [hsame]
    · rw [PeerTable.get?, hempty] at hx
      cases hx
  constructor
  · intro m _ _ _ id reason time h
    rw [hforget id reason time h.2.1]
    exact h
  · intro m _ _ _ time h
    have hclear : m.clear time = m := by
      refine Membership.clear_keeps (P := fun m' => m' = m) ?_ rfl
      intro m' id hsame
      rw [hsame]
      exact hforget id .left time h.2.1
    rw [hclear]
    exact h

/-! ## Who introduces itself is a member -/

/-- Somebody is a member. -/
def Regime.present (id : String) : Regime where
  Inv m _ _ _ := (m.peers.get? id).isSome
  May _ := True
  Ask _ := True
  Time _ := True
  Uris _ := True
  Answer _ := True

theorem Regime.present_kept (id : String) (resolves : String → Bool) :
    (present id).Kept resolves where
  aside _ _ h := h
  heartbeat _ _ h := h
  add info time _ h := by
    obtain ⟨x, hx⟩ := Option.isSome_iff_exists.mp h
    exact Membership.get?_add_isSome hx info time
  expire _ _ h := h
  setUris _ _ h := h
  clock _ := trivial
  addresses _ := trivial
  check _ _ _ _ := trivial
  answer _ _ _ := trivial
  speaker _ := trivial
  answered _ _ _ := trivial

variable {α : Type} {V : α → Prop} {info : BrokerInfo}

/-- Who is added is a member after the next poll. -/
theorem poll_addMember {n : Node} (hother : info.id ≠ n.membership.self.id)
    (hactive : info.isActive = true) {k : Unit → Fiber Node α}
    (hk : Fiber.Abides (Regime.present info.id).At (k ()) V) :
    (Regime.present info.id).At (Fiber.poll ((host resolves).addMember info >>= k) n).2 := by
  have h := Regime.present_kept info.id resolves
  obtain ⟨n', hpoll, hn'⟩ : ∃ n' : Node, Fiber.poll ((host resolves).addMember info >>= k) n
      = Fiber.poll ((if (n.membership.add info n.now).1 then (host resolves).follow
          else pure ()) >>= k) n' ∧ n'.membership = (n.membership.add info n.now).2 :=
    ⟨_, rfl, rfl⟩
  rw [hpoll]
  have hpresent : (Regime.present info.id).At n' := by
    unfold Regime.At
    rw [hn']
    obtain ⟨x, hx, -⟩ := Membership.get?_add_self hother hactive n.now
    exact Option.isSome_of_mem hx
  refine Fiber.Abides.poll (Fiber.Abides.bind (Q := fun _ => True) ?_ fun _ _ => hk) hpresent
  split
  · exact h.follow
  · exact .pure trivial

theorem poll_observe {digest : Digest} {n : Node}
    (hother : digest.sender.id ≠ n.membership.self.id) (hactive : digest.sender.isActive = true)
    {k : Unit → Fiber Node α} (hk : Fiber.Abides (Regime.present digest.sender.id).At (k ()) V) :
    (Regime.present digest.sender.id).At
      (Fiber.poll ((host resolves).observe digest >>= k) n).2 := by
  have h := Regime.present_kept digest.sender.id resolves
  obtain ⟨n', hpoll, hmember⟩ : ∃ n' : Node, Fiber.poll ((host resolves).observe digest >>= k) n
      = Fiber.poll ((if digest.sender.id = n.membership.self.id then pure ()
          else (host resolves).meet digest) >>= k) n' ∧ n'.membership = n.membership :=
    ⟨_, rfl, rfl⟩
  rw [hpoll, if_neg hother]
  obtain ⟨n'', hmeets, hself⟩ : ∃ n'' : Node, Fiber.poll ((host resolves).meet digest >>= k) n'
      = Fiber.poll (((host resolves).addMember digest.sender >>= fun _ =>
          (host resolves).inquire digest.members n'.now) >>= k) n'' ∧
        n''.membership.self = n'.membership.self := ⟨_, rfl, rfl⟩
  rw [hmeets, Fiber.bind_assoc]
  refine poll_addMember (V := V) ?_ hactive ?_
  · rw [hself, hmember]
    exact hother
  · apply (h.inquire trivial digest.members).bind
    intro _ _
    exact hk

/-- Who introduces itself by a message, and is active, is a member once the message has
arrived. -/
theorem poll_handle (resolves : String → Bool) {message : GossipMessage} {n : Node}
    (hspeaker : message.speaker? = some info)
    (hother : info.id ≠ n.membership.self.id) (hactive : info.isActive = true) :
    ((Fiber.poll (GossipStep.run (host resolves) (.handle message)) n).2.membership.peers.get?
      info.id).isSome := by
  cases message with
  | ping digest =>
    cases hspeaker
    simp only [GossipStep.run, GossipHost.handle, Fiber.bind_assoc]
    refine poll_observe (V := fun _ => True) hother hactive ?_
    apply (Regime.read_abides (V := fun _ => True) fun _ _ => trivial).bind
    intro _ _
    exact .pure trivial
  | ack digest =>
    cases hspeaker
    simp only [GossipStep.run, GossipHost.handle, Fiber.bind_assoc]
    exact poll_observe (V := fun _ => True) hother hactive (.pure trivial)
  | brokerInfo other =>
    cases hspeaker
    simp only [GossipStep.run, GossipHost.handle, Fiber.bind_assoc]
    exact poll_addMember (V := fun _ => True) hother hactive (.pure trivial)
  | fetchBrokerInfo => cases hspeaker
  | leave id => cases hspeaker
  | controlEvent envelope => cases hspeaker

/-! ## Answers -/

/-- A node says the same about itself. -/
def Regime.named (self : BrokerInfo) : Regime where
  Inv m _ _ _ := m.self = self
  May _ := True
  Ask _ := True
  Time _ := True
  Uris _ := True
  Answer _ := True

theorem Regime.named_kept (self : BrokerInfo) (resolves : String → Bool) :
    (named self).Kept resolves where
  aside _ _ h := h
  heartbeat _ _ h := h
  add info time _ h := (Membership.self_add info time _).trans h
  expire _ _ h := h
  setUris _ _ h := h
  clock _ := trivial
  addresses _ := trivial
  check _ _ _ _ := trivial
  answer _ _ _ := trivial
  speaker _ := trivial
  answered _ _ _ := trivial

theorem Regime.named_parts (self : BrokerInfo) : (named self).Parts where
  forgetPeer id reason time h := (Membership.self_forgetPeer id reason time _).trans h
  clear time h := (Membership.self_clear time _).trans h

/-- Every answer is one in which the node speaks about itself. -/
theorem handle_answers (self : BrokerInfo) (resolves : String → Bool) (message : GossipMessage) :
    Fiber.Abides (fun n : Node => n.membership.self = self) ((host resolves).handle message)
      fun answer => ∀ reply, answer = some reply → reply.speaker? = some self := by
  have h := Regime.named_kept self resolves
  have hsilent : ∀ f : Fiber Node Unit, Fiber.Abides (Regime.named self).At f (fun _ => True) →
      Fiber.Abides (Regime.named self).At (f >>= fun _ => pure (none : Option GossipMessage))
        fun answer => ∀ reply, answer = some reply → reply.speaker? = some self := by
    intro f hf
    exact hf.bind fun _ _ => .pure fun reply hreply => by cases hreply
  cases message with
  | ping digest =>
    have hobserve : Fiber.Abides (Regime.named self).At ((host resolves).observe digest)
        fun _ => True := h.observe trivial
    apply hobserve.bind
    intro _ _
    refine Fiber.Abides.bind (Q := fun own : Digest => own.sender = self)
      (Regime.read_abides (R := .named self) fun n hn => hn) ?_
    intro own hown
    refine .pure ?_
    rintro reply ⟨⟩
    exact congrArg some hown
  | fetchBrokerInfo =>
    refine Fiber.Abides.bind (Q := fun own : BrokerInfo => own = self)
      (Regime.read_abides (R := .named self) fun n hn => hn) ?_
    intro own hown
    refine .pure ?_
    rintro reply ⟨⟩
    exact congrArg some hown
  | ack digest => exact hsilent _ (h.observe trivial)
  | brokerInfo info => exact hsilent _ (h.addMember trivial)
  | leave id =>
    refine h.clock_abides.bind ?_
    intro now _
    refine hsilent _ ?_
    exact h.removeMember (Regime.named_parts self) id .left now
  | controlEvent envelope => exact hsilent _ (.step fun n hn => ⟨hn, .pure trivial⟩)

/-! ## Leaving -/

/-- Whoever left knows nobody, since nobody was added meanwhile. -/
theorem leave_vacates (resolves : String → Bool) {n : Node} (hn : n.membership.peers.Tidy) :
    Fiber.Heeds (.since (Fact.Of fun m _ _ => m.peers.Tidy)
      (Fact.Of fun m _ _ => m.peers.byId = .empty)) (host resolves).leave
      (fun _ n => n.membership.peers.byId = .empty) n := by
  have htidy : Spared fun m _ _ => m.peers.Tidy :=
    ⟨fun _ _ h => h, fun id reason time h => Membership.tidy_forgetPeer h id reason time⟩
  have hempty : Spared fun m _ _ => m.peers.byId = .empty := by
    refine ⟨fun _ _ h => h, ?_⟩
    intro m _ _ id reason time h
    rcases m.forgetPeer_cases id reason time with ⟨-, hsame⟩ | ⟨x, hx, -⟩
    · rw [hsame]
      exact h
    · rw [PeerTable.get?, h] at hx
      cases hx
  apply (htidy.become .leaving).heeds_bind (hempty.become .leaving) hn
  intro _ n hn
  apply (section_spares id).heeds_bind (section_spares id) hn
  intro own n hn
  apply (section_spares id).heeds_bind (section_spares id) hn
  intro uris n hn
  apply (htidy.sendAll _ uris).heeds_bind (hempty.sendAll _ uris) hn
  intro _ n hn
  apply (look_spares _).heeds_bind (look_spares _) hn
  intro now n hn n _ hn
  have htidy' := Membership.tidy_clear hn now
  have hcleared := Membership.byId_clear hn now
  exact ⟨htidy', fun _ => hcleared, htidy.close.heeds_of hempty.close htidy' hcleared⟩

end Node

namespace Meeting

variable {resolves : String → Bool} {self : BrokerInfo}

/-- The course of a tidy table that may come to be empty, and is empty from then on. -/
def emptying : Course Node :=
  .since (Node.Fact.Of fun m _ _ => m.peers.Tidy) (Node.Fact.Of fun m _ _ => m.peers.byId = .empty)

theorem stable_emptying (p : Prop) :
    emptying.Stable fun n => p → n.membership.peers.byId = .empty := by
  intro _ _ hlater _ hempty hp
  exact hlater (hempty hp)

/-- The last step under way leaves the table empty, and the others do not matter. -/
structure Departing (tasks : Nat) (m : Meeting) : Prop where
  tidy : m.node.membership.peers.Tidy
  length : m.tasks.length = tasks + 1
  heeds : Fiber.AllHeed emptying m.tasks
    (fun k n => k = tasks → n.membership.peers.byId = .empty) m.node

/-- A departure begins when nothing else is under way. -/
theorem departing_of_quiet (resolves : String → Bool) {m : Meeting}
    (htidy : m.node.membership.peers.Tidy) (hquiet : m.Quiet) :
    (m.act resolves (.arrive .leave)).Departing m.tasks.length := by
  have htasks : Fiber.AllHeed emptying m.tasks
      (fun k n => k = m.tasks.length → n.membership.peers.byId = .empty) m.node :=
    hquiet.allHeed fun k hlt hk => absurd hlt (hk ▸ Nat.lt_irrefl _)
  have hact := act_heeds resolves (fun k => stable_emptying _) htidy htasks (.arrive .leave)
    (fun step hstep => by
      cases hstep
      apply (Node.leave_vacates resolves htidy).mono htidy
      intro _ _ _ _ hempty _
      exact hempty)
    fun pool links nature now found hshift => by cases hshift
  exact ⟨hact.1, length_act_arrive m .leave, hact.2.2⟩

theorem Departing.acts {tasks : Nat} {m : Meeting} (h : m.Departing tasks)
    (resolves : String → Bool) {turns : List Act} (hturns : ∀ step, .arrive step ∉ turns) :
    (m.acts resolves turns).Departing tasks := by
  induction turns generalizing m with
  | nil => exact h
  | cons a rest ih =>
    refine ih ?_ fun step hstep => hturns step (List.mem_cons_of_mem _ hstep)
    have hact := act_heeds resolves (fun k => stable_emptying _) h.tidy h.heeds a
      (fun step ha => absurd (ha ▸ List.mem_cons_self) (hturns step))
      fun pool links nature now found _ => ⟨h.tidy, id⟩
    refine ⟨hact.1, ?_, hact.2.2⟩
    cases a with
    | arrive step => exact absurd List.mem_cons_self (hturns step)
    | turn task => exact (length_act_turn m task).trans h.length
    | shift pool links nature now found => exact h.length

theorem Departing.over {tasks : Nat} {m : Meeting} (h : m.Departing tasks) (hquiet : m.Quiet) :
    m.node.membership.peers.byId = .empty := by
  have hlt : tasks < m.tasks.length := h.length ▸ Nat.lt_succ_self tasks
  have hlast := List.getElem?_eq_getElem hlt
  have hheeds := h.heeds tasks _ hlast
  obtain ⟨a, ha⟩ := Option.isSome_iff_exists.mp (hquiet _ (List.mem_of_getElem? hlast))
  rw [Fiber.eq_done_of_result? ha] at hheeds
  exact hheeds rfl

/-- The node left while nothing else happened, and is over with it. -/
def HasLeft (resolves : String → Bool) (self : BrokerInfo) (m : Meeting) : Prop :=
  ∃ settings destination poolSettings before turns,
    ((new self settings destination poolSettings).acts resolves before).Quiet ∧
    (∀ step, .arrive step ∉ turns) ∧
    m = ((new self settings destination poolSettings).acts resolves before).acts resolves
      (.arrive .leave :: turns) ∧ m.Quiet

theorem HasLeft.quiet {m : Meeting} (h : m.HasLeft resolves self) : m.Quiet := by
  obtain ⟨settings, destination, poolSettings, before, turns, -, -, -, hquiet⟩ := h
  exact hquiet

theorem HasLeft.sound {m : Meeting} (h : m.HasLeft resolves self) : m.Sound self := by
  obtain ⟨settings, destination, poolSettings, before, turns, -, -, rfl, -⟩ := h
  have hnew : (new self settings destination poolSettings).Sound self := sound_of_isEmpty rfl rfl
  exact (hnew.acts resolves before).acts resolves (.arrive .leave :: turns)

/-- Whoever left knows nobody, and its pool has no address. -/
theorem HasLeft.vacant {m : Meeting} (h : m.HasLeft resolves self) :
    m.node.membership.peers.byId = .empty ∧ m.node.site.pool.uris = [] := by
  obtain ⟨settings, destination, poolSettings, before, turns, hbegan, hturns, hm, hquiet⟩ := h
  have hnew : (new self settings destination poolSettings).Sound self := sound_of_isEmpty rfl rfl
  have hempty : m.node.membership.peers.byId = .empty := by
    have htidy := (hnew.acts resolves before).1.2.tidy
    have hdeparting := (departing_of_quiet resolves htidy hbegan).acts resolves hturns
    exact hm ▸ hdeparting.over (hm ▸ hquiet)
  obtain ⟨moves, hmoves⟩ := exists_run_eq_acts resolves
    (new self settings destination poolSettings) (before ++ .arrive .leave :: turns)
  have hsettled := (settled_etiquette resolves self settings destination poolSettings).run moves
  rw [← hmoves, acts_append, ← hm] at hsettled
  refine ⟨hempty, ?_⟩
  have htold : m.node.told.byId = .empty := by
    obtain ⟨held, hrest, -⟩ := hsettled
    refine Dict.eq_empty_of_keys (hrest.ids.trans ?_)
    rw [hempty]
    rfl
  refine (hsettled.over hquiet).trans ?_
  rw [PeerTable.uris_of_isEmpty htold]
  rfl

/-! ## Afterwards -/

/-- While nobody else is introduced, a node without members stays without. -/
theorem vacant_act {m : Meeting} (h : m.Under (Node.Regime.vacant self)) {a : Act}
    (hsteps : ∀ step, a = .arrive step → ∃ message, step = .handle message)
    (hmessages : ∀ message, a = .arrive (.handle message) → message.introduces self = false)
    (hanswer : ∀ answer, (m.act resolves a).node.site.nature.answer? = some answer →
      answer.introduces self = false) : (m.act resolves a).Under (Node.Regime.vacant self) := by
  apply h.act resolves
  · intro step hstep
    obtain ⟨message, rfl⟩ := hsteps step hstep
    apply (Node.Regime.vacant_kept self resolves).step (Node.Regime.vacant_parts self)
    rintro handled info ⟨⟩ hspeaker
    exact Node.may_of_not_introduces (hmessages message hstep) hspeaker
  · rintro pool links nature now found rfl
    obtain ⟨hself, hempty, huris, -⟩ := h.1
    exact ⟨hself, hempty, huris, hanswer⟩

/-- A node without members stays without through messages that introduce nobody. -/
theorem vacant_acts {m : Meeting} (h : m.Under (Node.Regime.vacant self)) {as : List Act}
    (hsteps : ∀ step, .arrive step ∈ as → ∃ message, step = .handle message)
    (hmessages : ∀ message, .arrive (.handle message) ∈ as → message.introduces self = false)
    (hanswers : ∀ k answer, (m.acts resolves (as.take k)).node.site.nature.answer? = some answer →
      answer.introduces self = false) (k : Nat) :
    (m.acts resolves (as.take k)).Under (Node.Regime.vacant self) := by
  apply acts_take_induction resolves h
  intro k a ha hvacant
  have hmem := List.mem_of_getElem? ha
  have hanswer := hanswers (k + 1)
  rw [acts_take_succ ha] at hanswer ⊢
  refine vacant_act hvacant ?_ ?_ hanswer
  · intro step hstep
    exact hsteps step (hstep ▸ hmem)
  · intro message hmessage
    exact hmessages message (hmessage ▸ hmem)

/-- As long as whoever left only handles messages, and the answers that it gets introduce
nobody, it stays without members and its pool without addresses exactly if nobody else who is
active introduces itself by what is handled: who introduces itself is a member once the message
has arrived.  What it answers has every peer add it again, if it is active. -/
theorem left_stays_empty_iff {resolves : String → Bool} {self : BrokerInfo} {left : Meeting}
    (hleft : left.HasLeft resolves self) (after : List Act)
    (hafter : ∀ step, .arrive step ∈ after → ∃ message, step = .handle message)
    (hanswers : ∀ k answer, (left.acts resolves (after.take k)).node.site.nature.answer?
      = some answer → answer.introduces self = false) :
    ((∀ k, (left.acts resolves (after.take k)).node.membership.peers.members = [] ∧
        (left.acts resolves (after.take k)).node.site.pool.uris = []) ↔
      ∀ message, .arrive (.handle message) ∈ after → message.introduces self = false) ∧
    ∀ message, Fiber.Abides (fun n : Node => n.membership.self = self)
      ((Node.host resolves).handle message) fun answer => ∀ reply, answer = some reply →
        self.isActive = true → ∀ peer : Node, peer.membership.self.id ≠ self.id →
          ((Fiber.poll (GossipStep.run (Node.host resolves) (.handle reply)) peer
            ).2.membership.peers.get? self.id).isSome := by
  refine ⟨⟨?_, ?_⟩, ?_⟩
  · intro hvacant message hmessage
    obtain ⟨k, hk⟩ := List.getElem?_of_mem hmessage
    apply Bool.eq_false_iff.mpr
    intro hintroduces
    obtain ⟨info, hspeaker, hother, hactive⟩ := GossipMessage.introduces_iff.mp hintroduces
    obtain ⟨hself, -⟩ := (hleft.sound.acts resolves (after.take k)).1
    rw [← hself] at hother
    have hmember := Node.poll_handle resolves hspeaker hother hactive
    have hnobody := PeerTable.byId_eq_empty (hvacant (k + 1)).1
    rw [acts_take_succ hk, act_arrive] at hnobody
    rw [PeerTable.get?, hnobody] at hmember
    cases hmember
  · intro hmessages k
    obtain ⟨hempty, huris⟩ := hleft.vacant
    have hstart : left.Under (Node.Regime.vacant self) :=
      ⟨⟨hleft.sound.1.1, hempty, huris, hanswers 0⟩, hleft.quiet.allHeed fun _ _ => trivial⟩
    obtain ⟨⟨-, hempty, huris, -⟩, -⟩ := vacant_acts hstart hafter hmessages hanswers k
    exact ⟨PeerTable.members_of_isEmpty hempty, huris⟩
  · intro message
    apply (Node.handle_answers self resolves message).mono
    intro answer hanswer reply hreply hactive peer hpeer
    exact Node.poll_handle resolves (hanswer reply hreply) (fun hid => hpeer hid.symm) hactive

namespace Sample

/-- Another broker pings. -/
def pings : List Act := [.arrive (.handle (.ping ⟨other 9999, []⟩))]

/-- A node that left after another broker had pinged it. -/
def departed : Meeting :=
  ((new own settings "_meshrpc_broker" {}).acts (fun _ => true) pings).acts (fun _ => true)
    [.arrive .leave]

end Sample

open Sample in
/-- A ping makes a member of its sender although the node has left. -/
theorem left_rejoined_by_ping :
    departed.HasLeft (fun _ => true) own ∧
    departed.node.membership.peers.members = [] ∧
    ¬ ∀ k, (departed.acts (fun _ => true) (pings.take k)).node.membership.peers.members = [] ∧
      (departed.acts (fun _ => true) (pings.take k)).node.site.pool.uris = [] := by
  have hleft : departed.HasLeft (fun _ => true) own := by
    refine ⟨settings, "_meshrpc_broker", {}, pings, [], ?_, fun _ => List.not_mem_nil, rfl, ?_⟩
    · decide +kernel
    · decide +kernel
  have hafter : ∀ step, .arrive step ∈ pings → ∃ message, step = .handle message := by
    intro step hstep
    cases List.mem_singleton.mp hstep
    exact ⟨_, rfl⟩
  have hanswers : ∀ k answer, (departed.acts (fun _ => true)
      (pings.take k)).node.site.nature.answer? = some answer → answer.introduces own = false := by
    intro k answer hanswer
    have hnone : (departed.acts (fun _ => true) (pings.take k)).node.site.nature.answer?
        = none := by
      cases k with
      | zero => exact Option.isNone_iff_eq_none.mp (by decide +kernel)
      | succ k =>
        rw [List.take_of_length_le (Nat.le_add_left 1 k)]
        exact Option.isNone_iff_eq_none.mp (by decide +kernel)
    rw [hnone] at hanswer
    cases hanswer
  obtain ⟨hiff, -⟩ := left_stays_empty_iff hleft pings hafter hanswers
  refine ⟨hleft, ?_, ?_⟩
  · decide +kernel
  · intro hvacant
    have hintroduces := hiff.mp hvacant _ List.mem_cons_self
    exact absurd hintroduces (by decide)

end Meeting

end ServiceMesh
