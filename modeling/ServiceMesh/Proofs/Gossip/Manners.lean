import ServiceMesh.Proofs.Gossip.Node
import ServiceMesh.Proofs.Pool.Opening

/-!
# What the steps of a membership are made of

The steps of a membership are put together from a few kinds of pieces: sections that leave
the members and their history alone, calls to other brokers, and the coming and going of
members.  A `Manner` is a property of fibers that all these pieces have and that composition
keeps.  Every step has it then (`Manner.step`), whatever the messages say.
-/

namespace ServiceMesh

namespace Node

/-! ## Pieces that change nothing -/

section

variable {η α : Type} {E : Etiquette Node η}

theorem calm_pure (a : α) : Fiber.Calm E (pure a : Fiber Node α) := trivial

theorem calm_look (f : Node → α) : Fiber.Calm E (Fiber.read f) := by
  intro n _ h
  exact ⟨h, E.refl n, trivial⟩

theorem calm_requestWithin (ms : Nat) (link : LinkId) (payload : Payload) :
    Fiber.Calm E (wire.requestWithin ms link payload) := by
  refine Fiber.Calm.bind (f := wire.within ms _) ?_ ?_
  · refine ⟨calm_look _, trivial, ?_⟩
    intro r
    cases r with
    | inl a => exact trivial
    | inr u => exact trivial
  · intro result
    cases result with
    | some result => exact trivial
    | none => exact trivial

end

/-! ## Manners -/

/-- A section on the membership that leaves the members and their history alone. -/
def Quiet {α : Type} (f : Membership → Links → α × Membership × Links) : Prop :=
  ∀ m links, (f m links).2.1.history = m.history ∧ (f m links).2.1.peers.byId = m.peers.byId

/-- A property of fibers that holds of all that the opening of links is made of. -/
structure Opening (resolves : String → Bool) (P : ⦃α : Type⦄ → Fiber Node α → Prop) : Prop where
  done : ∀ {α : Type} (a : α), P (pure a)
  bind : ∀ {α β : Type} {f : Fiber Node α} {g : α → Fiber Node β}, P f → (∀ a, P (g a)) →
    P (f >>= g)
  all : ∀ {α : Type} {fs : List (Fiber Node α)}, (∀ f ∈ fs, P f) → P (Fiber.all fs)
  openLink : ∀ uri, P (wire.openLink uri)
  onPool : ∀ {α : Type} {f : Pool → Links → α × Pool × Links}, Pool.Plain f →
    P ((pool resolves).atomically f)

/-- A property of fibers that holds of all that steps are made of. -/
structure Manner (resolves : String → Bool) (P : ⦃α : Type⦄ → Fiber Node α → Prop) : Prop
    extends Opening resolves P where
  look : ∀ {α : Type} (f : Node → α), P (Fiber.read f)
  quiet : ∀ {α : Type} {f : Membership → Links → α × Membership × Links}, Quiet f →
    P ((host resolves).atomically f)
  deliver : ∀ envelope, P ((host resolves).deliver envelope)
  requestWithin : ∀ ms link payload, P (wire.requestWithin ms link payload)
  addMember : ∀ info, P ((host resolves).addMember info)
  removeMember : ∀ id reason now, P ((host resolves).removeMember id reason now)
  clear : ∀ now, P (do
    (host resolves).change (Membership.clear now)
    (host resolves).follow)

namespace Opening

variable {resolves : String → Bool} {P : ⦃α : Type⦄ → Fiber Node α → Prop}

/-- Manners under which links are opened are manners of the pool. -/
theorem atPool (h : Opening resolves P) : (pool resolves).Opening P where
  done := h.done
  bind := h.bind
  all := h.all
  openLink := h.openLink
  atomically := h.onPool

end Opening

namespace Manner

variable {resolves : String → Bool} {P : ⦃α : Type⦄ → Fiber Node α → Prop}

theorem read (h : Manner resolves P) {α : Type} (f : Membership → α) :
    P ((host resolves).read f) := by
  apply h.quiet
  intro _ _
  exact ⟨rfl, rfl⟩

/-! ## Calls to other brokers -/

/-- Getting a connection is mannerly. -/
theorem connection (h : Manner resolves P) (uri : String) :
    P ((host resolves).connection uri) := by
  apply h.bind (h.quiet fun _ _ => ⟨rfl, rfl⟩)
  intro found
  cases found with
  | some link => exact h.done _
  | none =>
    apply h.bind (h.openLink uri)
    intro opened
    cases opened with
    | error fault => exact h.done _
    | ok link =>
      apply h.bind (h.quiet fun _ _ => ⟨rfl, rfl⟩)
      intro _
      exact h.done _

/-- Dropping a link is mannerly. -/
theorem dropLink (h : Manner resolves P) (uri : String) : P ((host resolves).dropLink uri) := by
  apply h.quiet
  intro _ _
  exact ⟨rfl, rfl⟩

/-- A request is mannerly. -/
theorem request (h : Manner resolves P) (uri : String) (message : GossipMessage) :
    P ((host resolves).request uri message) := by
  unfold GossipHost.request
  cases message.toPayload with
  | error cause => exact h.done _
  | ok payload =>
    apply h.bind (h.connection uri)
    intro found
    cases found with
    | error fault => exact h.done _
    | ok link =>
      apply h.bind (h.read _)
      intro ms
      apply h.bind (h.requestWithin ms link payload)
      intro result
      cases result with
      | ok reply => exact h.done _
      | error fault =>
        apply h.bind (h.dropLink uri)
        intro _
        exact h.done _

/-- Sending a message is mannerly. -/
theorem send (h : Manner resolves P) (message : GossipMessage) (uri : String) :
    P ((host resolves).send message uri) := by
  unfold GossipHost.send
  cases message.toPayload with
  | error cause => exact h.done _
  | ok payload =>
    apply h.bind (h.connection uri)
    intro found
    cases found with
    | error fault => exact h.done _
    | ok link =>
      apply h.bind (h.look _)
      intro result
      cases result with
      | ok _ => exact h.done _
      | error fault =>
        apply h.bind (h.dropLink uri)
        intro _
        exact h.done _

/-- Sending a message to several brokers is mannerly. -/
theorem sendAll (h : Manner resolves P) (message : GossipMessage) (uris : List String) :
    P ((host resolves).wire.all (uris.map ((host resolves).send message))) := by
  apply h.all
  intro f hf
  obtain ⟨uri, -, rfl⟩ := List.mem_map.mp hf
  exact h.send message uri

/-- Broadcasting an event is mannerly. -/
theorem broadcast (h : Manner resolves P) (envelope : Envelope) :
    P ((host resolves).broadcast envelope) := by
  apply h.bind (h.read _)
  intro uris
  apply h.bind (h.sendAll _ uris)
  intro _
  exact h.done _

/-! ## Members -/

/-- Confirming a row is mannerly. -/
theorem confirm (h : Manner resolves P) (row : MemberDigest) : P ((host resolves).confirm row) := by
  apply h.bind (h.request row.uri .fetchBrokerInfo)
  intro answer
  split
  · next info =>
    split
    · apply h.bind (h.look (·.now))
      intro now
      apply h.bind (h.quiet fun _ _ => ⟨rfl, rfl⟩)
      intro _
      exact h.addMember info
    · exact h.done ()
  · exact h.done ()

/-- What is mannerly item by item is so for all of them in turn. -/
theorem eachInTurn (h : Manner resolves P) {β : Type} {f : β → Fiber Node Unit}
    (hf : ∀ b, P (f b)) (bs : List β) : P (GossipHost.eachInTurn f bs) := by
  induction bs with
  | nil => exact h.done ()
  | cons b rest ih =>
    apply h.bind (hf b)
    intro _
    exact ih

/-- Observing a digest is mannerly. -/
theorem observe (h : Manner resolves P) (digest : Digest) :
    P ((host resolves).observe digest) := by
  apply h.bind (h.read _)
  intro own
  split
  · exact h.done ()
  · apply h.bind (h.look (·.now))
    intro now
    apply h.bind (h.quiet fun _ _ => ⟨rfl, rfl⟩)
    intro _
    apply h.bind (h.addMember digest.sender)
    intro _
    apply h.bind (h.read _)
    intro rows
    exact h.eachInTurn h.confirm rows

/-- Handling a message is mannerly. -/
theorem handle (h : Manner resolves P) (message : GossipMessage) :
    P ((host resolves).handle message) := by
  cases message with
  | ping digest =>
    apply h.bind (h.observe digest)
    intro _
    apply h.bind (h.read _)
    intro _
    exact h.done _
  | fetchBrokerInfo =>
    apply h.bind (h.read _)
    intro _
    exact h.done _
  | ack digest =>
    apply h.bind (h.observe digest)
    intro _
    exact h.done _
  | brokerInfo info =>
    apply h.bind (h.addMember info)
    intro _
    exact h.done _
  | leave id =>
    apply h.bind (h.look (·.now))
    intro now
    apply h.bind (h.removeMember id .left now)
    intro _
    exact h.done _
  | controlEvent envelope =>
    apply h.bind (h.deliver envelope)
    intro _
    exact h.done _

/-! ## Rounds -/

/-- An exchange is mannerly. -/
theorem exchange (h : Manner resolves P) (ping : GossipMessage) (uri : String) :
    P ((host resolves).exchange ping uri) := by
  apply h.bind (h.request uri ping)
  intro answer
  split
  · exact h.observe _
  · exact h.done ()

/-- A round of gossip is mannerly. -/
theorem round (h : Manner resolves P) : P (host resolves).round := by
  apply h.bind (h.look (·.found))
  intro found
  apply h.bind (h.read _)
  intro targets
  apply h.bind (h.read _)
  intro digest
  refine h.bind (h.all ?_) ?_
  · intro f hf
    obtain ⟨uri, -, rfl⟩ := List.mem_map.mp hf
    exact h.exchange _ uri
  · intro _
    apply h.bind (h.look (·.now))
    intro now
    apply h.quiet
    intro _ _
    exact ⟨rfl, rfl⟩

/-- Looking for silent members is mannerly. -/
theorem detect (h : Manner resolves P) (now : Nat) : P ((host resolves).detect now) := by
  apply h.bind (h.read _)
  intro failed
  refine h.bind ?_ fun _ => h.done _
  refine h.eachInTurn ?_ failed
  intro id
  exact h.removeMember id .failed now

/-- Leaving is mannerly. -/
theorem leave (h : Manner resolves P) : P (host resolves).leave := by
  apply h.bind (h.quiet fun _ _ => ⟨rfl, rfl⟩)
  intro _
  apply h.bind (h.read _)
  intro own
  apply h.bind (h.read _)
  intro uris
  apply h.bind (h.sendAll _ uris)
  intro _
  apply h.bind (h.look (·.now))
  intro now
  have hclose : P ((host resolves).atomically fun m links => ((), m.dropLinks links)) :=
    h.quiet fun _ _ => ⟨rfl, rfl⟩
  have htail := h.bind (h.clear now) fun _ => hclose
  exact htail

/-- Every step of a membership has the manner. -/
theorem step (h : Manner resolves P) (step : GossipStep) : P (step.run (host resolves)) := by
  cases step with
  | start =>
    apply h.bind h.round
    intro _
    apply h.quiet
    intro _ _
    exact ⟨rfl, rfl⟩
  | handle message =>
    apply h.bind (h.handle message)
    intro _
    exact h.done ()
  | round => exact h.round
  | detect now =>
    apply h.bind (h.detect now)
    intro _
    exact h.done ()
  | tick =>
    apply h.bind h.round
    intro _
    apply h.bind (h.look (·.now))
    intro now
    apply h.bind (h.detect now)
    intro _
    exact h.done ()
  | broadcast envelope => exact h.broadcast envelope
  | sendEvent uri envelope =>
    apply h.bind (h.send (.controlEvent envelope) uri)
    intro _
    exact h.done ()
  | leave => exact h.leave

end Manner

end Node

/-! ## Meetings -/

namespace Meeting

variable {η : Type} {E : Etiquette Node η} {resolves : String → Bool} {m : Meeting}

/-- The node is at rest, and every step under way goes on from there. -/
def Settled (E : Etiquette Node η) (m : Meeting) : Prop :=
  ∃ held, E.Rest held m.node ∧ Fiber.AllGo E m.tasks held m.node

/-- A broker is settled at the beginning. -/
theorem settled_new {self : BrokerInfo} {settings : MembershipSettings} {destination : String}
    {poolSettings : PoolSettings}
    (hrest : E.Rest [] (new self settings destination poolSettings).node) :
    Settled E (new self settings destination poolSettings) := ⟨[], hrest, .nil⟩

/-- A move of a meeting whose steps are polite leaves it settled, and later. -/
theorem Settled.move (hmanner : Node.Manner resolves fun _ f => Fiber.Polite E f)
    (hshift : ∀ pool links nature now found n held, E.Rest held n →
      E.Rest held (n.shift pool links nature now found) ∧
        E.Later n (n.shift pool links nature now found))
    (h : Settled E m) (mv : Move) :
    Settled E (m.move resolves mv) ∧ E.Later m.node (m.move resolves mv).node := by
  obtain ⟨held, hrest, hgo⟩ := h
  cases mv with
  | start step => exact ⟨⟨held, hrest, hgo.start (hmanner.step step)⟩, E.refl m.node⟩
  | turn task =>
    have hrest' : E.Rest (held ++ []) m.node := by
      rw [List.append_nil]
      exact hrest
    obtain ⟨hlater, held', hrest', hgo'⟩ := hgo.pollAt task hrest'
    rw [List.append_nil] at hrest'
    exact ⟨⟨held', hrest', hgo'⟩, hlater⟩
  | shift pool links nature now found =>
    obtain ⟨hrest', hlater⟩ := hshift pool links nature now found m.node held hrest
    exact ⟨⟨held, hrest', hgo.later hlater⟩, hlater⟩

end Meeting

end ServiceMesh
