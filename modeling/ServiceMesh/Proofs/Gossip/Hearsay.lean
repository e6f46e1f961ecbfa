import ServiceMesh.Proofs.Gossip.Soundness

/-!
# Hearsay about the departed

While the tombstone of a broker lasts, no digest has a membership ask who that broker is.  A
question that is asked already, or that stands on the list of a step under way, is another
matter: the tombstone is looked for once, before the first question, and whatever is answered
later makes a member.

So a broker that departed is a member again, before its tombstone is too old, only if it was
heard itself, or if a step was already asking about it when it departed
(`Meeting.departed_returns_only_if`).  `Node.Asks` says of the leftover of a step that it asks.
-/

namespace ServiceMesh

/-- An entry that passes a filter is still there. -/
theorem Dict.get?_filter {κ ν : Type} [DecidableEq κ] {d : Dict κ ν} {k : κ} {v : ν}
    {p : κ → ν → Bool} (h : d.get? k = some v) (hp : p k v = true) :
    (d.filter p).get? k = some v := by
  obtain ⟨rows⟩ := d
  induction rows with
  | nil => cases h
  | cons e rest ih =>
    obtain ⟨k', v'⟩ := e
    simp only [Dict.get?, Dict.filter, Dict.find, List.filter_cons] at h ih ⊢
    by_cases hk : k' = k
    · subst hk
      rw [if_pos rfl] at h
      cases h
      rw [hp]
      simp [Dict.find]
    · rw [if_neg hk] at h
      have hrest := ih h
      split
      · simp only [Dict.find, if_neg hk]
        exact hrest
      · exact hrest

namespace Node

variable {resolves : String → Bool} {id : String} {t ttl : Nat}

/-! ## Steps that ask about a broker -/

/-- A fiber waits for what a broker answers to the question who it is, or has the question on
its list. -/
inductive Asks (resolves : String → Bool) (id : String) : ⦃α : Type⦄ → Fiber Node α → Prop where
  | answer {f : Fiber Node (Except Fault (Option GossipMessage))} {row : MemberDigest}
      (hid : row.id = id) : Asks resolves id (f >>= (host resolves).welcome row)
  | next {f : Fiber Node Unit} {rows : List MemberDigest} {row : MemberDigest} (hrow : row ∈ rows)
      (hid : row.id = id) :
      Asks resolves id (f >>= fun _ => GossipHost.eachInTurn (host resolves).confirm rows)
  | bind {α β : Type} {f : Fiber Node α} {g : α → Fiber Node β} (h : Asks resolves id f) :
      Asks resolves id (f >>= g)
  | first {α β γ : Type} {f : Fiber Node β} {g : Fiber Node γ} {next : β → γ → Fiber Node α}
      (h : Asks resolves id f) : Asks resolves id (.both f g next)
  | second {α β γ : Type} {f : Fiber Node β} {g : Fiber Node γ} {next : β → γ → Fiber Node α}
      (h : Asks resolves id g) : Asks resolves id (.both f g next)

/-- Whoever asks goes on asking inside a larger fiber. -/
theorem contextual_asks (resolves : String → Bool) (id : String) :
    Fiber.Contextual (Asks resolves id) := ⟨.bind, .first, .second⟩

/-! ## What holds before and after a departure -/

/-- The tombstone of a broker is not too old, whenever it departed. -/
def fresh (t ttl : Nat) : Fact := fun _ now _ => now - t < ttl

/-- A broker is no member, has a tombstone that is not too old, and is not heard in the answers
that calls get. -/
def gone (id : String) (t ttl : Nat) : Fact := fun m now nature =>
  m.peers.get? id = none ∧ m.peers.departed.get? id = some t ∧ m.tombstoneMs = ttl ∧
    now - t < ttl ∧ ∀ digest, nature.answer? = some (.ack digest) → digest.sender.id ≠ id

/-- Neither what is aside nor a departure makes a tombstone older. -/
theorem spared_fresh (t ttl : Nat) : Spared (fresh t ttl) := by
  exact ⟨fun _ _ h => h, fun _ _ _ h => h⟩

/-- Whoever is gone stays so when something aside changes or somebody is forgotten. -/
theorem spared_gone (id : String) (t ttl : Nat) : Spared (gone id t ttl) := by
  refine ⟨fun _ _ h => h, ?_⟩
  intro m _ _ other reason time h
  obtain ⟨hout, htomb, httl, hfresh, hanswer⟩ := h
  by_cases hid : other = id
  · rcases m.forgetPeer_cases other reason time with ⟨-, hsame⟩ | ⟨x, hx, -⟩
    · rw [hsame]
      exact ⟨hout, htomb, httl, hfresh, hanswer⟩
    · rw [hid, hout] at hx
      cases hx
  · refine ⟨?_, ?_, ?_, hfresh, hanswer⟩
    · rw [Membership.peers_forgetPeer, m.peers.get?_remove_of_ne hid]
      exact hout
    · rw [Membership.peers_forgetPeer, m.peers.departed_remove_of_ne hid]
      exact htomb
    · rw [Membership.tombstoneMs, Membership.settings_forgetPeer]
      exact httl

/-- A broker that is gone stays so while nobody adds it. -/
def Regime.out (id : String) (t ttl : Nat) : Regime where
  Inv m now nature _ := gone id t ttl m now nature
  May info := info.id ≠ id
  Ask row := row.id ≠ id
  Time now := now - t < ttl
  Uris _ := True
  Answer message := ∀ digest, message = .ack digest → digest.sender.id ≠ id

/-- Whoever is out stays so while nobody takes it in. -/
theorem Regime.out_kept (id : String) (t ttl : Nat) (resolves : String → Bool) :
    (out id t ttl).Kept resolves where
  aside connections state h := (spared_gone id t ttl).aside connections state h
  heartbeat _ _ h := h
  add {m now nature uris} info time hinfo h := by
    obtain ⟨hout, htomb, httl, hfresh, hanswer⟩ := h
    refine ⟨?_, ?_, ?_, hfresh, hanswer⟩
    · rw [Membership.get?_add_of_ne hinfo]
      exact hout
    · rw [Membership.departed_add_of_ne hinfo]
      exact htomb
    · rw [Membership.tombstoneMs, Membership.settings_add]
      exact httl
  expire {m now nature uris} time htime h := by
    obtain ⟨hout, htomb, httl, hfresh, hanswer⟩ := h
    refine ⟨hout, Dict.get?_filter htomb ?_, httl, hfresh, hanswer⟩
    rw [httl]
    exact decide_eq_true htime
  setUris _ _ h := h
  clock h := h.2.2.2.1
  addresses _ := trivial
  check {m now nature uris rows time} h htime row hrow := by
    obtain ⟨-, htomb, httl, -⟩ := h
    rintro rfl
    have hunknown := (List.mem_filter.mp hrow).2
    have hrecent : m.peers.recentlyDeparted row.id time m.tombstoneMs = true := by
      rw [PeerTable.recentlyDeparted, htomb, httl]
      exact decide_eq_true htime
    simp [hrecent] at hunknown
  answer h hreply hread := fun digest hack =>
    h.2.2.2.2 digest (hack ▸ Nature.answer?_eq hreply hread)
  speaker h := h _ rfl
  answered _ hask hid hinfo := hask (hid.symm.trans hinfo)

/-- Members may part while somebody is out. -/
theorem Regime.out_parts (id : String) (t ttl : Nat) : (out id t ttl).Parts where
  forgetPeer other reason time h := (spared_gone id t ttl).forgetPeer other reason time h
  clear {_ now nature _} time h := Membership.clear_keeps (P := fun m => gone id t ttl m now nature)
    (fun _ other h => (spared_gone id t ttl).forgetPeer other .left time h) h

/-! ## Steps under way when a broker departs -/

/-- What is left of a fiber at any time keeps a departure in force, or asks about who
departed. -/
abbrev Braced (resolves : String → Bool) (id : String) (t ttl : Nat) {α : Type} (f : Fiber Node α)
    (U V : α → Prop) : Prop :=
  Fiber.Prepared (fresh t ttl).Of (Regime.out id t ttl).At f (Asks resolves id) U V

variable {α β : Type}

/-- What spares the facts is braced. -/
theorem braced_of_spares {f : Fiber Node α} (h : ∀ K : Fact, Spared K → Fiber.Spares K.Of f) :
    Braced resolves id t ttl f (fun _ => True) fun _ => True :=
  (h _ (spared_fresh t ttl)).prepared (h _ (spared_gone id t ttl))

/-- A section followed by what is braced is braced. -/
theorem section_braced {f : Membership → Links → β × Membership × Links} {g : β → Fiber Node α}
    {U V : α → Prop} (hg : ∀ b, Braced resolves id t ttl (g b) U V) :
    Braced resolves id t ttl ((host resolves).atomically f >>= g) U V := by
  intro _ hn
  exact ⟨hn, hg _⟩

/-- After the clock was read the tombstone is still fresh. -/
theorem clock_braced {g : Nat → Fiber Node α} {U V : α → Prop}
    (hg : ∀ now, now - t < ttl → Braced resolves id t ttl (g now) U V) :
    Braced resolves id t ttl ((host resolves).clock >>= g) U V := by
  intro n hn
  exact ⟨hn, hg n.now hn⟩

/-! ### Calls -/

/-- An answer that comes in time is not one that somebody who is out could give. -/
theorem requestWithin_braced (ms : Nat) (link : LinkId) (payload : Payload) :
    Braced resolves id t ttl (wire.requestWithin ms link payload) (fun _ => True) fun result =>
      ∀ p message, result = .ok p → GossipHost.readReply p = .ok (some message) →
        (Regime.out id t ttl).Answer message := by
  have h := Regime.out_kept id t ttl resolves
  have hreply : Fiber.Abides (Regime.out id t ttl).At (Fiber.read (·.site.nature.reply))
      fun result => ∀ p message, result = .ok p → GossipHost.readReply p = .ok (some message) →
        (Regime.out id t ttl).Answer message :=
    Regime.look_abides fun n hn p message => h.answer hn
  refine ⟨fun _ => True, _, fun _ => True, fun _ => True, ⟨.inr (.await hreply), ?_⟩,
    ⟨.inr (.await (.pure trivial)), trivial⟩, ?_, ?_, .inr ⟨?_, ?_⟩⟩
  · intro n hn
    exact ⟨hn, trivial⟩
  · intro _ _
    trivial
  · intro _ _
    trivial
  · intro result hresult
    exact .pure hresult
  · intro _ _
    refine .pure ?_
    intro p message hresult
    cases hresult

/-- A call over a link is braced, found or not. -/
theorem callOver_braced (uri : String) (payload : Payload) (found : Except Fault LinkId) :
    Braced resolves id t ttl ((host resolves).callOver uri payload found) (fun _ => True)
      fun result => ∀ answer, result = .ok (some answer) →
        (Regime.out id t ttl).Answer answer := by
  have hA := contextual_asks resolves id
  have h := Regime.out_kept id t ttl resolves
  cases found with
  | error fault => trivial
  | ok link =>
    apply section_braced
    intro ms
    refine (requestWithin_braced ms link payload).bind hA ?_
      fun result hresult => h.settle uri hresult
    intro result _
    cases result with
    | ok reply => trivial
    | error fault =>
      apply section_braced
      intro _
      exact trivial

/-- A request is braced, whoever answers it. -/
theorem request_braced (uri : String) (message : GossipMessage) :
    Braced resolves id t ttl ((host resolves).request uri message) (fun _ => True) fun result =>
      ∀ answer, result = .ok (some answer) → (Regime.out id t ttl).Answer answer := by
  have hA := contextual_asks resolves id
  have h := Regime.out_kept id t ttl resolves
  cases hpayload : message.toPayload with
  | error cause =>
    rw [GossipHost.request_eq_error _ uri hpayload]
    trivial
  | ok payload =>
    rw [GossipHost.request_eq _ uri hpayload]
    apply (braced_of_spares fun K hK => hK.connection uri).bind hA
      (fun found _ => callOver_braced uri payload found)
    intro found _
    exact h.callOver uri payload found

/-! ### Members -/

/-- Taking a member in is braced for everybody else. -/
theorem addMember_braced (info : BrokerInfo) :
    Braced resolves id t ttl ((host resolves).addMember info) (fun _ => True) fun _ => True := by
  apply clock_braced
  intro now _
  apply section_braced
  intro isNew
  apply braced_of_spares
  intro K hK
  split
  · exact follow_spares
  · trivial

/-- Welcoming who answered is braced. -/
theorem welcome_braced (row : MemberDigest) (result : Except Fault (Option GossipMessage)) :
    Braced resolves id t ttl ((host resolves).welcome row result) (fun _ => True)
      fun _ => True := by
  unfold GossipHost.welcome
  split
  · next info =>
    split
    · apply clock_braced
      intro now _
      apply section_braced
      intro _
      exact addMember_braced info
    · trivial
  · trivial

/-- Who waits for an answer of the broker that departed asks about it. -/
theorem confirm_braced (row : MemberDigest) :
    Braced resolves id t ttl ((host resolves).confirm row) (fun _ => True) fun _ => True := by
  rw [GossipHost.confirm_eq]
  by_cases hid : row.id = id
  · apply (request_braced row.uri .fetchBrokerInfo).bind_excepted (fun _ => .answer hid)
    intro result _
    exact welcome_braced row result
  · apply (request_braced row.uri .fetchBrokerInfo).bind (contextual_asks resolves id)
      (fun result _ => welcome_braced row result)
    intro result hresult
    exact (Regime.out_kept id t ttl resolves).welcome hid hresult

/-- Confirming rows in turn is braced. -/
theorem eachInTurn_braced (rows : List MemberDigest) :
    Braced resolves id t ttl (GossipHost.eachInTurn (host resolves).confirm rows)
      (fun _ => True) fun _ => True := by
  induction rows with
  | nil => trivial
  | cons row rest ih =>
    by_cases hlisted : ∃ other ∈ rest, other.id = id
    · obtain ⟨other, hother, hid⟩ := hlisted
      apply (confirm_braced row).bind_excepted (fun _ => .next hother hid)
      intro _ _
      exact ih
    · apply (confirm_braced row).bind (contextual_asks resolves id) (fun _ _ => ih)
      intro _ _
      apply Regime.Kept.eachInTurn
      intro other hother
      apply (Regime.out_kept id t ttl resolves).confirm
      intro hid
      exact hlisted ⟨other, hother, hid⟩

/-- Observing a digest is braced. -/
theorem observe_braced (digest : Digest) :
    Braced resolves id t ttl ((host resolves).observe digest) (fun _ => True) fun _ => True := by
  rw [GossipHost.observe_eq]
  apply section_braced
  intro own
  split
  · trivial
  · apply clock_braced
    intro now hnow
    apply section_braced
    intro _
    refine (addMember_braced digest.sender).bind (contextual_asks resolves id) ?_
      fun _ _ => (Regime.out_kept id t ttl resolves).inquire hnow digest.members
    intro _ _
    apply section_braced
    intro rows
    exact eachInTurn_braced rows

/-- Handling a message is braced. -/
theorem handle_braced (message : GossipMessage) :
    Braced resolves id t ttl ((host resolves).handle message) (fun _ => True) fun _ => True := by
  have hA := contextual_asks resolves id
  cases message with
  | ping digest =>
    refine (observe_braced digest).bind hA (fun _ _ => section_braced fun _ => trivial) ?_
    intro _ _
    refine (Regime.read_abides (V := fun _ => True) fun _ _ => trivial).bind ?_
    intro _ _
    exact .pure trivial
  | fetchBrokerInfo =>
    refine section_braced ?_
    intro _
    exact trivial
  | ack digest =>
    refine (observe_braced digest).bind hA (fun _ _ => trivial) ?_
    intro _ _
    exact .pure trivial
  | brokerInfo info =>
    refine (addMember_braced info).bind hA (fun _ _ => trivial) ?_
    intro _ _
    exact .pure trivial
  | leave other =>
    refine clock_braced ?_
    intro now _
    refine braced_of_spares ?_
    intro K hK
    apply (hK.removeMember other .left now).bind
    intro _
    exact trivial
  | controlEvent envelope =>
    intro _ hn
    exact ⟨hn, trivial⟩

/-! ### Rounds -/

/-- An exchange is braced. -/
theorem exchange_braced (ping : GossipMessage) (uri : String) :
    Braced resolves id t ttl ((host resolves).exchange ping uri) (fun _ => True)
      fun _ => True := by
  rw [GossipHost.exchange_eq]
  refine (request_braced uri ping).bind (contextual_asks resolves id) ?_
    fun result hresult => (Regime.out_kept id t ttl resolves).hear hresult
  intro result _
  unfold GossipHost.hear
  split
  · exact observe_braced _
  · trivial

/-- A round is braced. -/
theorem round_braced :
    Braced resolves id t ttl (host resolves).round (fun _ => True) fun _ => True := by
  intro n hn
  refine ⟨hn, ?_⟩
  apply section_braced
  intro targets
  apply section_braced
  intro digest
  refine Fiber.Prepared.bind (contextual_asks resolves id) (Fiber.Prepared.all ?_) ?_ ?_
  · intro f hf
    obtain ⟨uri, -, rfl⟩ := List.mem_map.mp hf
    exact exchange_braced _ uri
  · intro _ _
    apply clock_braced
    intro now _ _ hn
    exact ⟨hn, trivial⟩
  · intro _ _
    exact (Regime.out_kept id t ttl resolves).sweep

/-- Every step is braced for a departure. -/
theorem step_braced (step : GossipStep) :
    Braced resolves id t ttl (step.run (host resolves)) (fun _ => True) fun _ => True := by
  have hA := contextual_asks resolves id
  have h := Regime.out_kept id t ttl resolves
  cases step with
  | start =>
    refine round_braced.bind hA (fun _ _ _ hn => ⟨hn, trivial⟩) ?_
    intro _ _
    exact h.become .active
  | handle message =>
    refine (handle_braced message).bind hA (fun _ _ => trivial) ?_
    intro _ _
    exact .pure trivial
  | round => exact round_braced
  | detect now =>
    refine braced_of_spares ?_
    intro K hK
    apply (hK.detect now).bind
    intro _
    exact trivial
  | tick =>
    have hdetect : ∀ K : Fact, Spared K → Fiber.Spares K.Of (do
        let _ ← (host resolves).detect (← (host resolves).clock)) := by
      intro K hK
      exact (look_spares _).bind fun now => (hK.detect now).bind fun _ => trivial
    refine round_braced.bind hA (fun _ _ => braced_of_spares hdetect) ?_
    intro _ _
    exact (hdetect _ (spared_gone id t ttl)).abides
  | broadcast envelope =>
    refine braced_of_spares ?_
    intro K hK
    apply (section_spares fun hm => hm).bind
    intro uris
    apply (hK.sendAll _ uris).bind
    intro _
    exact trivial
  | sendEvent uri envelope =>
    refine braced_of_spares ?_
    intro K hK
    apply (hK.send (.controlEvent envelope) uri).bind
    intro _
    exact trivial
  | leave =>
    refine braced_of_spares ?_
    intro K hK
    exact hK.leave

end Node

namespace Meeting

variable {resolves : String → Bool} {id : String} {t ttl : Nat}

/-- A broker speaks in a message that arrives, or in an answer to a ping that is at hand. -/
def Heard (resolves : String → Bool) (id : String) (m : Meeting) (as : List Act) : Prop :=
  (∃ message info, .arrive (.handle message) ∈ as ∧ message.speaker? = some info ∧
    info.id = id) ∨
  ∃ k digest, (m.acts resolves (as.take k)).node.site.nature.answer? = some (.ack digest) ∧
    digest.sender.id = id

/-- Every step under way is braced for a departure. -/
def Braced (resolves : String → Bool) (id : String) (t ttl : Nat) (m : Meeting) : Prop :=
  ∀ task ∈ m.tasks, Node.Braced resolves id t ttl task (fun _ => True) (fun _ => True) ∧
    (Fiber.result? task = none →
      Fiber.Left (Node.Regime.out id t ttl).At (Node.Asks resolves id) task fun _ => True)

/-- Before a departure the steps under way are kept braced. -/
theorem Braced.act {m : Meeting} (h : m.Braced resolves id t ttl)
    (hfresh : (Node.fresh t ttl).Of m.node) (a : Act) :
    (m.act resolves a).Braced resolves id t ttl := by
  have hA := Node.contextual_asks resolves id
  cases a with
  | arrive step =>
    rw [act_arrive]
    intro task htask
    rcases List.mem_append.mp htask with htask | htask
    · exact h task htask
    · rw [List.mem_singleton.mp htask]
      exact ((Node.step_braced step).poll hA hfresh).2
  | turn task =>
    change Braced resolves id t ttl
      ⟨(Fiber.pollAt task m.tasks m.node).2, (Fiber.pollAt task m.tasks m.node).1⟩
    unfold Fiber.pollAt
    split
    · next f hf =>
      intro g hg
      rcases List.mem_or_eq_of_mem_set hg with hg | rfl
      · exact h g hg
      · exact ((h f (List.mem_of_getElem? hf)).1.poll hA hfresh).2
    · exact h
  | shift pool links nature now found => exact h

/-- A meeting stays braced through any acts while the tombstone is fresh. -/
theorem Braced.acts {m : Meeting} (h : m.Braced resolves id t ttl) {as : List Act}
    (hfresh : ∀ k, (m.acts resolves (as.take k)).node.now - t < ttl) :
    (m.acts resolves as).Braced resolves id t ttl := by
  have hall := acts_take_induction resolves (P := Braced resolves id t ttl) h
    (fun k a ha hbraced => acts_take_succ ha ▸ hbraced.act (hfresh k) a) as.length
  rw [List.take_length] at hall
  exact hall

/-- Steps under way that do not ask about a broker keep it out once it is gone. -/
theorem Braced.under {m : Meeting} (h : m.Braced resolves id t ttl)
    (hgone : (Node.Regime.out id t ttl).At m.node)
    (hasks : ∀ task ∈ m.tasks, ¬ Node.Asks resolves id task) :
    m.Under (Node.Regime.out id t ttl) := by
  refine ⟨hgone, ?_⟩
  intro k task htask
  have hmem := List.mem_of_getElem? htask
  cases hresult : Fiber.result? task with
  | none => exact ((h task hmem).2 hresult).resolve_left (hasks task hmem) m.node hgone
  | some a =>
    rw [Fiber.eq_done_of_result? hresult]
    trivial

/-- While a broker is not heard, it stays gone. -/
theorem gone_act {m : Meeting} (hgone : m.Under (Node.Regime.out id t ttl)) {a : Act}
    (hspeaker : ∀ message info, a = .arrive (.handle message) → message.speaker? = some info →
      info.id ≠ id)
    (hfresh : (m.act resolves a).node.now - t < ttl)
    (hanswer : ∀ digest, (m.act resolves a).node.site.nature.answer? = some (.ack digest) →
      digest.sender.id ≠ id) : (m.act resolves a).Under (Node.Regime.out id t ttl) := by
  apply hgone.act resolves
  · intro step hstep
    apply (Node.Regime.out_kept id t ttl resolves).step (Node.Regime.out_parts id t ttl)
    intro message info hmessage
    exact hspeaker message info (hmessage ▸ hstep)
  · rintro pool links nature now found rfl
    obtain ⟨hout, htomb, httl, -, -⟩ := hgone.1
    exact ⟨hout, htomb, httl, hfresh, hanswer⟩

/-- Somebody who is gone stays so through any acts in which nobody hears from it. -/
theorem gone_acts {m : Meeting} (hgone : m.Under (Node.Regime.out id t ttl)) {as : List Act}
    (hfresh : ∀ k, (m.acts resolves (as.take k)).node.now - t < ttl)
    (hunheard : ¬ m.Heard resolves id as) :
    (m.acts resolves as).Under (Node.Regime.out id t ttl) := by
  suffices hall : ∀ k, (m.acts resolves (as.take k)).Under (Node.Regime.out id t ttl) by
    have hend := hall as.length
    rwa [List.take_length] at hend
  apply acts_take_induction resolves hgone
  intro k a ha h
  have hnow := hfresh (k + 1)
  have hanswer : ∀ digest, (m.acts resolves (as.take (k + 1))).node.site.nature.answer?
      = some (.ack digest) → digest.sender.id ≠ id := by
    intro digest hack hid
    exact hunheard (.inr ⟨k + 1, digest, hack, hid⟩)
  rw [acts_take_succ ha] at hnow hanswer ⊢
  refine gone_act h ?_ hnow hanswer
  intro message info hmessage hspeaker hid
  exact hunheard (.inl ⟨message, info, hmessage ▸ List.mem_of_getElem? ha, hspeaker, hid⟩)

/-- A broker that departed, and whose tombstone is not too old, is a member again only if it was
heard since, or if a step was asking about it when it departed.  The steps that were started
before the departure are braced for it. -/
theorem departed_returns_only_if {resolves : String → Bool} {self : BrokerInfo}
    {settings : MembershipSettings} {destination : String} {poolSettings : PoolSettings}
    {before after : List Act} {start m : Meeting}
    (hstart : start = new self settings destination poolSettings)
    (hm : m = start.acts resolves before) {id : String} {t : Nat}
    (hdeparted : m.node.membership.peers.departed.get? id = some t)
    (hfresh : ∀ k, (start.acts resolves ((before ++ after).take k)).node.now - t
      < m.node.membership.tombstoneMs)
    (hreturned : ((m.acts resolves after).node.membership.peers.get? id).isSome) :
    m.Heard resolves id after ∨ ∃ task ∈ m.tasks, Node.Asks resolves id task := by
  apply Classical.byContradiction
  intro hnot
  obtain ⟨hunheard, hasks⟩ := not_or.mp hnot
  have hfreshBefore : ∀ k, (start.acts resolves (before.take k)).node.now - t
      < m.node.membership.tombstoneMs := by
    intro k
    have hk := hfresh (min k before.length)
    rwa [List.take_append_of_le_length (Nat.min_le_right _ _), ← List.take_take,
      List.take_length] at hk
  have hfreshAfter : ∀ k, (m.acts resolves (after.take k)).node.now - t
      < m.node.membership.tombstoneMs := by
    intro k
    have hk := hfresh (before.length + k)
    rwa [List.take_length_add_append, acts_append, ← hm] at hk
  have hbraced : m.Braced resolves id t m.node.membership.tombstoneMs := by
    have hnone : start.Braced resolves id t m.node.membership.tombstoneMs := by
      intro task htask
      rw [hstart] at htask
      cases htask
    exact hm ▸ hnone.acts hfreshBefore
  have hgone : (Node.Regime.out id t m.node.membership.tombstoneMs).At m.node := by
    refine ⟨?_, hdeparted, rfl, hfreshAfter 0, ?_⟩
    · have hsound : start.Sound self := hstart ▸ sound_of_isEmpty rfl rfl
      have hpresent := (hm ▸ hsound.acts resolves before : m.Sound self).1.2.present id
      cases hmember : m.node.membership.peers.get? id with
      | none => rfl
      | some x =>
        rw [hpresent x hmember] at hdeparted
        cases hdeparted
    · intro digest hack hid
      exact hunheard (.inr ⟨0, digest, hack, hid⟩)
  have hunder : m.Under (Node.Regime.out id t m.node.membership.tombstoneMs) := by
    apply hbraced.under hgone
    intro task htask h
    exact hasks ⟨task, htask, h⟩
  obtain ⟨⟨hout, -⟩, -⟩ := gone_acts hunder hfreshAfter hunheard
  rw [hout] at hreturned
  cases hreturned

namespace Sample

/-- A broker that tells about another one, and is not active itself. -/
def teller : BrokerInfo :=
  { id := "b3", schema := "local", ip := "b3", port := 9999, webPort := 9998, startTimeMs := 0,
    status := 0 }

/-- Calls get no answer yet. -/
def waiting : Act := .shift (Pool.new "_meshrpc_broker" {}) {} { answered := false } 0 none

/-- Calls are answered by the other broker, which says who it is. -/
def answering : Act :=
  .shift (Pool.new "_meshrpc_broker" {}) {}
    { reply := match (GossipMessage.brokerInfo (other 9999)).toPayload with
        | .ok payload => .ok payload
        | .error _ => .ok ⟨[], []⟩ } 0 none

/-- A broker is told about, is heard, and leaves. -/
def told : List Act :=
  [waiting, .arrive (.handle (.ping ⟨teller, [⟨"b2", "local://b2:9999"⟩]⟩)),
   .arrive (.handle (.ping ⟨other 9999, []⟩)), .arrive (.handle (.leave "b2"))]

/-- The question that was asked before is answered. -/
def answered : List Act := [answering, .turn 0]

end Sample

open Sample in
/-- A broker that left is a member again by the answer to a question that was asked before. -/
theorem departed_returns_by_answer :
    let m := (new own settings "_meshrpc_broker" {}).acts (fun _ => true) told
    m.node.membership.peers.departed.get? "b2" = some 0 ∧
    ((m.acts (fun _ => true) answered).node.membership.peers.get? "b2").isSome ∧
    ∃ task ∈ m.tasks, Node.Asks (fun _ => true) "b2" task := by
  intro m
  have hdeparted : m.node.membership.peers.departed.get? "b2" = some 0 := by decide +kernel
  have hreturned : ((m.acts (fun _ => true) answered).node.membership.peers.get? "b2").isSome := by
    decide +kernel
  have hfresh : ∀ k : Fin 7, ((new own settings "_meshrpc_broker" {}).acts (fun _ => true)
      ((told ++ answered).take k)).node.now - 0 < m.node.membership.tombstoneMs := by
    decide +kernel
  have hnoAck : ∀ k : Fin 3, ((m.acts (fun _ => true) (answered.take k)
      ).node.site.nature.answer?.all fun answer => answer.tag != "ACK") = true := by
    decide +kernel
  refine ⟨hdeparted, hreturned, ?_⟩
  refine (departed_returns_only_if rfl rfl hdeparted ?_ hreturned).resolve_left ?_
  · intro k
    rw [List.take_eq_take_min]
    exact hfresh ⟨min k 6, Nat.lt_succ_of_le (Nat.min_le_right k 6)⟩
  · rintro (⟨message, info, harrives, -⟩ | ⟨k, digest, hack, -⟩)
    · simp [answered, answering] at harrives
    · have hk := hnoAck ⟨min k answered.length, Nat.lt_succ_of_le (Nat.min_le_right k 2)⟩
      rw [List.take_eq_take_min] at hack
      rw [hack] at hk
      cases hk

end Meeting

end ServiceMesh
