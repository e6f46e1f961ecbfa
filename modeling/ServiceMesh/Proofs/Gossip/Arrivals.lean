import ServiceMesh.Proofs.Concurrency.Leftovers
import ServiceMesh.Proofs.Gossip.Regimes

/-!
# Steps that begin when they arrive

What adds nobody to a membership is indifferent to much: whatever a call is answered, and
whichever member is removed, what is said about others stays true.  `Node.Spared` is said of
such facts.  Calls and removals spare them, whatever the values between their sections.

In a meeting a step may begin long after it was started.  An `Act` lets a step arrive: it is
started, and takes its first turn before anything else happens.
-/

namespace ServiceMesh

namespace Node

/-- A fact about the membership, the time and the nature of a node. -/
abbrev Fact : Type := Membership → Nat → Nature → Prop

/-- The fact is one about this node. -/
def Fact.Of (K : Fact) (n : Node) : Prop := K n.membership n.now n.site.nature

/-- A fact that neither links nor removals touch. -/
structure Spared (K : Fact) : Prop where
  aside : ∀ {m now nature} connections state, K m now nature →
    K { m with connections := connections, state := state } now nature
  forgetPeer : ∀ {m now nature} id reason time, K m now nature →
    K (m.forgetPeer id reason time).2 now nature

variable {K : Fact} {resolves : String → Bool} {α β : Type}

theorem section_spares {f : Membership → Links → α × Membership × Links}
    (hf : ∀ {m links now nature}, K m now nature → K (f m links).2.1 now nature) :
    Fiber.Spares K.Of ((host resolves).atomically f) := by
  constructor
  · intro _ hn
    exact hf hn
  · intro _
    exact trivial

theorem look_spares (f : Node → α) : Fiber.Spares K.Of (Fiber.read f) := by
  constructor
  · intro _ hn
    exact hn
  · intro _
    exact trivial

theorem around_spares {f : Site → α × Site} (hnature : ∀ s, (f s).2.nature = s.nature) :
    Fiber.Spares K.Of (Fiber.atomically (onSite f)) := by
  refine ⟨?_, fun _ => trivial⟩
  intro n hn
  change K n.membership n.now (f n.site).2.nature
  rw [hnature]
  exact hn

theorem opening_spares (K : Fact) (resolves : String → Bool) :
    Opening resolves fun _ f => Fiber.Spares K.Of f where
  done _ := trivial
  bind hf hg := hf.bind hg
  all hfs := Fiber.Spares.all hfs
  openLink uri := around_spares (Site.nature_dial uri)
  onPool _ := around_spares fun _ => rfl

theorem eachInTurn_spares {f : β → Fiber Node Unit} (hf : ∀ b, Fiber.Spares K.Of (f b))
    (bs : List β) : Fiber.Spares K.Of (GossipHost.eachInTurn f bs) := by
  induction bs with
  | nil => trivial
  | cons b rest ih =>
    apply (hf b).bind
    intro _
    exact ih

theorem follow_spares : Fiber.Spares K.Of (host resolves).follow := by
  apply (section_spares id).bind
  intro us
  refine (?_ : Fiber.Spares K.Of ((pool resolves).refresh us)).bind fun _ => trivial
  refine ⟨fun _ hn => hn, fun ticket => ⟨fun _ hn => hn, ⟨fun _ hn => hn, fun _ => ?_⟩, ?_⟩⟩
  · apply (around_spares fun _ => rfl).bind
    intro summary
    exact (opening_spares K resolves).atPool.eager summary
  · intro _
    exact trivial

namespace Spared

variable (h : Spared K)

include h

theorem connection (uri : String) : Fiber.Spares K.Of ((host resolves).connection uri) := by
  apply (section_spares id).bind
  intro found
  cases found with
  | some link => trivial
  | none =>
    apply ((opening_spares K resolves).openLink uri).bind
    intro opened
    cases opened with
    | error fault => trivial
    | ok link =>
      refine (section_spares ?_).bind fun _ => trivial
      intro m _ _ _ hn
      exact h.aside (m.connections.insert uri link) m.state hn

theorem dropLink (uri : String) : Fiber.Spares K.Of ((host resolves).dropLink uri) :=
  section_spares fun hn => h.aside _ _ hn

theorem send (message : GossipMessage) (uri : String) :
    Fiber.Spares K.Of ((host resolves).send message uri) := by
  unfold GossipHost.send
  cases message.toPayload with
  | error cause => trivial
  | ok payload =>
    apply (h.connection uri).bind
    intro found
    cases found with
    | error fault => trivial
    | ok link =>
      apply (look_spares _).bind
      intro result
      cases result with
      | ok _ => trivial
      | error fault =>
        apply (h.dropLink uri).bind
        intro _
        exact trivial

theorem sendAll (message : GossipMessage) (uris : List String) :
    Fiber.Spares K.Of ((host resolves).wire.all (uris.map ((host resolves).send message))) := by
  apply Fiber.Spares.all
  intro f hf
  obtain ⟨uri, -, rfl⟩ := List.mem_map.mp hf
  exact h.send message uri

theorem removeMember (id : String) (reason : Departure) (now : Nat) :
    Fiber.Spares K.Of ((host resolves).removeMember id reason now) := by
  apply (section_spares fun hn => h.forgetPeer id reason now hn).bind
  intro gone
  cases gone with
  | none => trivial
  | some member =>
    apply (h.dropLink member.uri).bind
    intro _
    exact follow_spares

theorem detect (now : Nat) : Fiber.Spares K.Of ((host resolves).detect now) := by
  apply (section_spares id).bind
  intro failed
  apply (eachInTurn_spares (fun id => h.removeMember id .failed now) failed).bind
  intro _
  exact trivial

theorem become (state : MemberState) :
    Fiber.Spares K.Of ((host resolves).change (Membership.become state)) := by
  apply section_spares
  intro m _ _ _ hm
  exact h.aside m.connections state hm

/-- The end of leaving. -/
theorem close : Fiber.Spares K.Of (do
    (host resolves).follow
    (host resolves).atomically fun m links => ((), m.dropLinks links)) := by
  apply follow_spares.bind
  intro _
  apply section_spares
  intro m _ _ _ hm
  exact h.aside .empty m.state hm

theorem leave : Fiber.Spares K.Of (host resolves).leave := by
  apply (h.become .leaving).bind
  intro _
  apply (section_spares id).bind
  intro own
  apply (section_spares id).bind
  intro uris
  apply (h.sendAll _ uris).bind
  intro _
  apply (look_spares _).bind
  intro now
  have hclear : Fiber.Spares K.Of ((host resolves).change (Membership.clear now)) :=
    section_spares fun {m _ now' nature} hm =>
      Membership.clear_keeps (P := fun m => K m now' nature)
        (fun m id hm => h.forgetPeer id .left now hm) hm
  apply hclear.bind
  intro _
  exact h.close

end Spared

end Node

/-! ## Acts -/

namespace Meeting

/-- What can happen to a meeting whose steps begin when they arrive. -/
inductive Act where
  /-- A step starts and takes its first turn. -/
  | arrive (step : GossipStep)
  /-- A step takes a turn. -/
  | turn (task : Nat)
  /-- The surroundings change, and others use the pool. -/
  | shift (pool : Pool) (links : Links) (nature : Nature) (now : Nat) (found : Option (List String))

/-- The moves of an act, among so many steps. -/
def Act.moves (tasks : Nat) : Act → List Move
  | arrive step => [.start step, .turn tasks]
  | turn task => [.turn task]
  | shift pool links nature now found => [.shift pool links nature now found]

/-- What becomes of a meeting by an act. -/
def act (resolves : String → Bool) (m : Meeting) (a : Act) : Meeting :=
  m.run resolves (a.moves m.tasks.length)

/-- What becomes of a meeting by acts one after the other. -/
def acts (resolves : String → Bool) (m : Meeting) (as : List Act) : Meeting :=
  as.foldl (act resolves) m

variable {resolves : String → Bool}

theorem acts_append (m : Meeting) (as bs : List Act) :
    m.acts resolves (as ++ bs) = (m.acts resolves as).acts resolves bs := List.foldl_append

/-- Acts are moves. -/
theorem exists_run_eq_acts (resolves : String → Bool) (m : Meeting) (as : List Act) :
    ∃ moves, m.acts resolves as = m.run resolves moves := by
  induction as generalizing m with
  | nil => exact ⟨[], rfl⟩
  | cons a rest ih =>
    obtain ⟨moves, hmoves⟩ := ih (m.act resolves a)
    refine ⟨a.moves m.tasks.length ++ moves, ?_⟩
    exact hmoves.trans List.foldl_append.symm

/-- A step that arrives is polled once. -/
theorem act_arrive (m : Meeting) (step : GossipStep) :
    m.act resolves (.arrive step) =
      { node := (Fiber.poll (step.run (Node.host resolves)) m.node).2
        tasks := m.tasks ++ [(Fiber.poll (step.run (Node.host resolves)) m.node).1] } := by
  change Meeting.mk _ _ = _
  have hlast : (m.tasks ++ [step.run (Node.host resolves)])[m.tasks.length]?
      = some (step.run (Node.host resolves)) := by
    rw [List.getElem?_append_right (Nat.le_refl _), Nat.sub_self, List.getElem?_cons_zero]
  simp only [move, Fiber.pollAt, hlast, List.set_append_right _ _ (Nat.le_refl _), Nat.sub_self,
    List.set_cons_zero]

theorem length_act_turn (m : Meeting) (task : Nat) :
    (m.act resolves (.turn task)).tasks.length = m.tasks.length := by
  change (Fiber.pollAt task m.tasks m.node).1.length = _
  unfold Fiber.pollAt
  split
  · exact List.length_set
  · rfl

theorem length_act_arrive (m : Meeting) (step : GossipStep) :
    (m.act resolves (.arrive step)).tasks.length = m.tasks.length + 1 := by
  rw [act_arrive]
  exact List.length_append

/-- An act keeps a course if the step that arrives heeds it and the surroundings keep it. -/
theorem act_heeds (resolves : String → Bool) {C : Course Node} {Q : Nat → Node → Prop}
    (hQ : ∀ k, C.Stable (Q k)) {m : Meeting} (hnode : C.Inv m.node)
    (htasks : Fiber.AllHeed C m.tasks Q m.node) (a : Act)
    (harrive : ∀ step, a = .arrive step →
      Fiber.Heeds C (step.run (Node.host resolves)) (fun _ => Q m.tasks.length) m.node)
    (hshift : ∀ pool links nature now found, a = .shift pool links nature now found →
      C.Inv (m.node.shift pool links nature now found) ∧
        C.Later m.node (m.node.shift pool links nature now found)) :
    C.Inv (m.act resolves a).node ∧ C.Later m.node (m.act resolves a).node ∧
      Fiber.AllHeed C (m.act resolves a).tasks Q (m.act resolves a).node := by
  cases a with
  | arrive step => exact (htasks.start (harrive step rfl)).pollAt hQ hnode m.tasks.length
  | turn task => exact htasks.pollAt hQ hnode task
  | shift pool links nature now found =>
    obtain ⟨hnode', hlater⟩ := hshift pool links nature now found rfl
    exact ⟨hnode', hlater, htasks.later hQ hlater hnode'⟩

/-- Steps that are over heed any course. -/
theorem Quiet.allHeed {C : Course Node} {Q : Nat → Node → Prop} {m : Meeting} (h : m.Quiet)
    (hQ : ∀ k, k < m.tasks.length → Q k m.node) : Fiber.AllHeed C m.tasks Q m.node := by
  intro k f hf
  obtain ⟨a, ha⟩ := Option.isSome_iff_exists.mp (h f (List.mem_of_getElem? hf))
  rw [Fiber.eq_done_of_result? ha]
  exact hQ k (List.getElem?_eq_some_iff.mp hf).choose

/-! ## One act after the other -/

theorem acts_take_succ {m : Meeting} {as : List Act} {k : Nat} {a : Act} (h : as[k]? = some a) :
    m.acts resolves (as.take (k + 1)) = (m.acts resolves (as.take k)).act resolves a := by
  obtain ⟨hk, rfl⟩ := List.getElem?_eq_some_iff.mp h
  rw [List.take_succ_eq_append_getElem hk, acts_append]
  rfl

/-- What holds at first and is kept by each act holds after any number of them. -/
theorem acts_take_induction (resolves : String → Bool) {P : Meeting → Prop} {m : Meeting}
    {as : List Act} (hstart : P m)
    (hact : ∀ k a, as[k]? = some a → P (m.acts resolves (as.take k)) →
      P (m.acts resolves (as.take (k + 1)))) (k : Nat) :
    P (m.acts resolves (as.take k)) := by
  induction k with
  | zero => exact hstart
  | succ k ih =>
    rcases Nat.lt_or_ge k as.length with hk | hk
    · exact hact k as[k] (List.getElem?_eq_getElem hk) ih
    · rw [List.take_of_length_le (Nat.le_succ_of_le hk)]
      rw [List.take_of_length_le hk] at ih
      exact ih

end Meeting

end ServiceMesh
