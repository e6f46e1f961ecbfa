import ServiceMesh.Proofs.Concurrency.Courses
import ServiceMesh.Proofs.Gossip.Manners

/-!
# What a membership may take in

An invariant of a node is seldom kept by whatever a membership may be told.  A `Regime` says
what it may be told while the invariant is in force: which brokers it may add, about which it
may ask, what its clock may say, what its calls may be answered.  If the sections that change
the members keep the invariant under these terms (`Regime.Kept`), every step keeps it whose
message keeps to them, however the sections of several steps take turns (`Regime.Kept.step`).
-/

namespace ServiceMesh

/-- Who speaks in a message about itself. -/
def GossipMessage.speaker? : GossipMessage → Option BrokerInfo
  | ping digest => some digest.sender
  | ack digest => some digest.sender
  | brokerInfo info => some info
  | _ => none

namespace GossipHost

variable {m : Type → Type u} [Monad m]

/-- What becomes of the reply to a call. -/
def settle (h : GossipHost m) (uri : String) :
    Except Fault Payload → m (Except Fault (Option GossipMessage))
  | .ok reply => pure (readReply reply)
  | .error fault => do
      h.dropLink uri
      pure (.error fault)

/-- A call over a link. -/
def callOver (h : GossipHost m) (uri : String) (payload : Payload) :
    Except Fault LinkId → m (Except Fault (Option GossipMessage))
  | .error fault => pure (.error fault)
  | .ok link => do
      let timeoutMs ← h.read (·.settings.requestTimeoutMs)
      h.settle uri (← h.wire.requestWithin timeoutMs link payload)

/-- What becomes of the answer to a ping. -/
def hear (h : GossipHost m) : Except Fault (Option GossipMessage) → m Unit
  | .ok (some (.ack digest)) => h.observe digest
  | _ => pure ()

/-- What becomes of the answer to the question who the broker of a row is. -/
def welcome (h : GossipHost m) (row : MemberDigest) :
    Except Fault (Option GossipMessage) → m Unit
  | .ok (some (.brokerInfo info)) =>
      if info.id = row.id then do
        let now ← h.clock
        h.change (Membership.heartbeat info.id now)
        h.addMember info
      else pure ()
  | _ => pure ()

/-- The question about the rows of a digest that are not known at a time. -/
def inquire (h : GossipHost m) (rows : List MemberDigest) (now : Nat) : m Unit := do
  eachInTurn h.confirm (← h.read (Membership.unknown rows now))

/-- A request whose message can be written is a call over a connection. -/
theorem request_eq (h : GossipHost m) (uri : String) {message : GossipMessage}
    {payload : Payload} (hpayload : message.toPayload = .ok payload) :
    h.request uri message = h.connection uri >>= h.callOver uri payload := by
  unfold request
  rw [hpayload]
  refine congrArg (h.connection uri >>= ·) (funext ?_)
  intro found
  cases found with
  | error fault => rfl
  | ok link =>
    refine congrArg (h.read _ >>= ·) (funext ?_)
    intro timeoutMs
    refine congrArg (h.wire.requestWithin timeoutMs link payload >>= ·) (funext ?_)
    intro result
    cases result with
    | error fault => rfl
    | ok reply => rfl

/-- A request whose message cannot be written fails before any connection. -/
theorem request_eq_error (h : GossipHost m) (uri : String) {message : GossipMessage}
    {cause : MetadataError} (hpayload : message.toPayload = .error cause) :
    h.request uri message = pure (.error (.malformedRouting cause)) := by
  unfold request
  rw [hpayload]

/-- Confirming a row asks the broker itself, and takes in who answers. -/
theorem confirm_eq (h : GossipHost m) (row : MemberDigest) :
    h.confirm row = h.request row.uri .fetchBrokerInfo >>= h.welcome row := by
  refine congrArg (h.request row.uri .fetchBrokerInfo >>= ·) (funext ?_)
  intro result
  rcases result with fault | (_ | (_ | _ | _ | _ | _ | _))
  all_goals rfl

/-- An exchange is a ping and what is done with its answer. -/
theorem exchange_eq (h : GossipHost m) (ping : GossipMessage) (uri : String) :
    h.exchange ping uri = h.request uri ping >>= h.hear := by
  refine congrArg (h.request uri ping >>= ·) (funext ?_)
  intro result
  rcases result with fault | (_ | (_ | _ | _ | _ | _ | _))
  all_goals rfl

/-- What becomes of what another broker tells about itself and its members. -/
def meet (h : GossipHost m) (digest : Digest) : m Unit := do
  let now ← h.clock
  h.change (Membership.heartbeat digest.sender.id now)
  h.addMember digest.sender
  h.inquire digest.members now

/-- A digest is taken notice of unless the broker itself sent it. -/
theorem observe_eq (h : GossipHost m) (digest : Digest) :
    h.observe digest = (do
      if digest.sender.id = (← h.read (·.self.id)) then pure () else h.meet digest) := rfl

end GossipHost

/-- The message that calls are answered, if it is one. -/
def Nature.answer? (nature : Nature) : Option GossipMessage :=
  match nature.reply with
  | .ok p => (GossipHost.readReply p).toOption.join
  | .error _ => none

/-- The answer of nature is what its reply reads as. -/
theorem Nature.answer?_eq {nature : Nature} {p : Payload} {message : GossipMessage}
    (hreply : nature.reply = .ok p) (hread : GossipHost.readReply p = .ok (some message)) :
    nature.answer? = some message := by
  unfold Nature.answer?
  rw [hreply]
  simp only [hread]
  rfl

namespace Node

/-- An invariant of the membership, the time, the nature and the addresses of the pool, and
what may be taken in while it is in force. -/
structure Regime where
  Inv : Membership → Nat → Nature → List String → Prop
  /-- Brokers that may be added. -/
  May : BrokerInfo → Prop
  /-- Rows about which a broker may be asked. -/
  Ask : MemberDigest → Prop
  /-- What the clock may say. -/
  Time : Nat → Prop
  /-- Addresses that the pool may be given. -/
  Uris : List String → Prop
  /-- What calls may be answered. -/
  Answer : GossipMessage → Prop

namespace Regime

/-- The invariant holds of a node. -/
def At (R : Regime) (n : Node) : Prop := R.Inv n.membership n.now n.site.nature n.site.pool.uris

/-- The sections that add members keep the invariant, and what they read is as it may be. -/
structure Kept (R : Regime) (resolves : String → Bool) : Prop where
  aside : ∀ {m now nature uris} connections state, R.Inv m now nature uris →
    R.Inv { m with connections := connections, state := state } now nature uris
  heartbeat : ∀ {m now nature uris} id time, R.Inv m now nature uris →
    R.Inv (m.heartbeat id time) now nature uris
  add : ∀ {m now nature uris} info time, R.May info → R.Inv m now nature uris →
    R.Inv (m.add info time).2 now nature uris
  expire : ∀ {m now nature uris} time, R.Time time → R.Inv m now nature uris →
    R.Inv (m.forgetDeparted time) now nature uris
  setUris : ∀ {m now nature uris} us, R.Uris us → R.Inv m now nature uris →
    R.Inv m now nature (Pool.takenUp resolves us)
  clock : ∀ {m now nature uris}, R.Inv m now nature uris → R.Time now
  addresses : ∀ {m now nature uris}, R.Inv m now nature uris → R.Uris m.peers.uris
  check : ∀ {m now nature uris rows time}, R.Inv m now nature uris → R.Time time →
    ∀ row ∈ m.unknown rows time, R.Ask row
  answer : ∀ {m now nature uris p message}, R.Inv m now nature uris → nature.reply = .ok p →
    GossipHost.readReply p = .ok (some message) → R.Answer message
  speaker : ∀ {digest}, R.Answer (.ack digest) → R.May digest.sender
  answered : ∀ {info row}, R.Answer (.brokerInfo info) → R.Ask row → info.id = row.id → R.May info

/-- The sections that remove members keep the invariant. -/
structure Parts (R : Regime) : Prop where
  forgetPeer : ∀ {m now nature uris} id reason time, R.Inv m now nature uris →
    R.Inv (m.forgetPeer id reason time).2 now nature uris
  clear : ∀ {m now nature uris} time, R.Inv m now nature uris →
    R.Inv (m.clear time) now nature uris

variable {R : Regime} {resolves : String → Bool} {α β : Type} {V : α → Prop}

/-! ## Sections -/

/-- A section on the membership abides by a regime if it does at every node where the regime
holds. -/
theorem section_abides {f : Membership → Links → α × Membership × Links}
    (hf : ∀ n, R.At n →
      R.Inv (f n.membership n.site.links).2.1 n.now n.site.nature n.site.pool.uris ∧
        V (f n.membership n.site.links).1) :
    Fiber.Abides R.At ((host resolves).atomically f) V := by
  refine .step ?_
  intro n hn
  exact ⟨(hf n hn).1, .pure (hf n hn).2⟩

/-- What is read is as the regime says of the membership at that moment. -/
theorem read_abides {f : Membership → α} (hf : ∀ n, R.At n → V (f n.membership)) :
    Fiber.Abides R.At ((host resolves).read f) V := by
  apply section_abides
  intro n hn
  exact ⟨hn, hf n hn⟩

/-- What is looked at is as the regime says of the node at that moment. -/
theorem look_abides {f : Node → α} (hf : ∀ n, R.At n → V (f n)) :
    Fiber.Abides R.At (Fiber.read f) V := by
  refine .step ?_
  intro n hn
  exact ⟨hn, .pure (hf n hn)⟩

/-- A section on the pool and its links that keeps addresses and nature abides by every regime. -/
theorem around_abides {f : Site → α × Site} (hnature : ∀ s, (f s).2.nature = s.nature)
    (huris : ∀ s, (f s).2.pool.uris = s.pool.uris) :
    Fiber.Abides R.At (Fiber.atomically (onSite f)) fun _ => True := by
  refine .step ?_
  intro n hn
  refine ⟨?_, .pure trivial⟩
  change R.Inv n.membership n.now (f n.site).2.nature (f n.site).2.pool.uris
  rw [hnature, huris]
  exact hn

/-- Everything that the pool does in order to open links abides by every regime. -/
theorem opening (R : Regime) (resolves : String → Bool) :
    Opening resolves fun _ f => Fiber.Abides R.At f fun _ => True where
  done _ := .pure trivial
  bind hf hg := hf.bind fun a _ => hg a
  all hfs := (Fiber.Abides.all hfs).mono fun _ h => h
  openLink uri :=
    around_abides (Site.nature_dial uri) fun s => congrArg Pool.uris (Site.pool_dial uri s)
  onPool hf := around_abides (fun _ => rfl) fun s => (hf s.pool s.links).2

namespace Kept

variable (h : R.Kept resolves)

include h

/-- The clock shows a time that the regime allows. -/
theorem clock_abides : Fiber.Abides R.At (host resolves).clock R.Time := by
  apply look_abides
  intro _ hn
  exact h.clock hn

/-! ## Calls to other brokers -/

/-- Getting a connection abides by every regime. -/
theorem connection (uri : String) :
    Fiber.Abides R.At ((host resolves).connection uri) fun _ => True := by
  have hlook : Fiber.Abides R.At ((host resolves).atomically fun s links =>
      (s.openLink? uri links, s, links)) fun _ => True := section_abides fun _ hn => ⟨hn, trivial⟩
  apply hlook.bind
  intro found _
  cases found with
  | some link => exact .pure trivial
  | none =>
    apply ((opening R resolves).openLink uri).bind
    intro opened _
    cases opened with
    | error fault => exact .pure trivial
    | ok link =>
      refine (section_abides (V := fun _ => True) fun n hn => ⟨?_, trivial⟩).bind
        fun _ _ => .pure trivial
      exact h.aside _ _ hn

theorem dropLink (uri : String) :
    Fiber.Abides R.At ((host resolves).dropLink uri) fun _ => True := by
  apply section_abides
  intro _ hn
  exact ⟨h.aside _ _ hn, trivial⟩

/-- What comes back over a link within its time is an answer that the regime allows. -/
theorem requestWithin (ms : Nat) (link : LinkId) (payload : Payload) :
    Fiber.Abides R.At (wire.requestWithin ms link payload) fun result =>
      ∀ p message, result = .ok p → GossipHost.readReply p = .ok (some message) →
        R.Answer message := by
  refine .race (Q := fun result => ∀ p message, result = Except.ok p →
      GossipHost.readReply p = .ok (some message) → R.Answer message) (R := fun _ => True)
    (.await (look_abides ?_)) (.await (.pure trivial)) ?_ ?_
  · intro n hn p message hreply hread
    exact h.answer hn hreply hread
  · intro result hresult
    exact .pure hresult
  · intro _ _
    refine .pure ?_
    intro p message hresult
    cases hresult

/-- How a call ended is noted, and its answer is one that the regime allows. -/
theorem settle (uri : String) {result : Except Fault Payload}
    (hresult : ∀ p message, result = .ok p → GossipHost.readReply p = .ok (some message) →
      R.Answer message) :
    Fiber.Abides R.At ((host resolves).settle uri result) fun result =>
      ∀ answer, result = .ok (some answer) → R.Answer answer := by
  cases result with
  | ok reply =>
    refine .pure ?_
    intro answer hread
    exact hresult reply answer rfl hread
  | error fault =>
    apply (h.dropLink uri).bind
    intro _ _
    refine .pure ?_
    intro answer hread
    cases hread

/-- A call over a link that was found, or not, abides by the regime. -/
theorem callOver (uri : String) (payload : Payload) (found : Except Fault LinkId) :
    Fiber.Abides R.At ((host resolves).callOver uri payload found) fun result =>
      ∀ answer, result = .ok (some answer) → R.Answer answer := by
  cases found with
  | error fault =>
    refine .pure ?_
    intro answer hresult
    cases hresult
  | ok link =>
    apply (read_abides (V := fun _ => True) fun _ _ => trivial).bind
    intro ms _
    apply (h.requestWithin ms link payload).bind
    intro result hresult
    exact h.settle uri hresult

/-- Every answer to a request is one that the regime allows. -/
theorem request (uri : String) (message : GossipMessage) :
    Fiber.Abides R.At ((host resolves).request uri message) fun result =>
      ∀ answer, result = .ok (some answer) → R.Answer answer := by
  cases hpayload : message.toPayload with
  | error cause =>
    rw [GossipHost.request_eq_error _ uri hpayload]
    refine .pure ?_
    intro answer hresult
    cases hresult
  | ok payload =>
    rw [GossipHost.request_eq _ uri hpayload]
    apply (h.connection uri).bind
    intro found _
    exact h.callOver uri payload found

/-- Sending a message abides by every regime. -/
theorem send (message : GossipMessage) (uri : String) :
    Fiber.Abides R.At ((host resolves).send message uri) fun _ => True := by
  unfold GossipHost.send
  cases message.toPayload with
  | error cause => exact .pure trivial
  | ok payload =>
    apply (h.connection uri).bind
    intro found _
    cases found with
    | error fault => exact .pure trivial
    | ok link =>
      apply (look_abides (V := fun _ => True) fun _ _ => trivial).bind
      intro result _
      cases result with
      | ok _ => exact .pure trivial
      | error fault =>
        apply (h.dropLink uri).bind
        intro _ _
        exact .pure trivial

/-- Sending a message to several brokers abides by every regime. -/
theorem sendAll (message : GossipMessage) (uris : List String) :
    Fiber.Abides R.At ((host resolves).wire.all (uris.map ((host resolves).send message)))
      fun _ => True := by
  apply Fiber.Abides.all (V := fun _ => True)
  intro f hf
  obtain ⟨uri, -, rfl⟩ := List.mem_map.mp hf
  exact h.send message uri

/-! ## Members -/

/-- Following the membership with the pool abides by every regime. -/
theorem follow : Fiber.Abides R.At (host resolves).follow fun _ => True := by
  have haddresses : Fiber.Abides R.At ((host resolves).read fun m => m.peers.uris) R.Uris :=
    read_abides fun _ hn => h.addresses hn
  apply haddresses.bind
  intro us hus
  refine (?_ : Fiber.Abides R.At ((pool resolves).refresh us) fun _ => True).bind
    fun _ _ => .pure trivial
  refine .step ?_
  intro n hn
  refine ⟨hn, .guarded (Q := fun _ => True) (fun _ hn => hn)
    (.await (.step fun n hn => ⟨hn, ?_⟩)) fun _ _ => .pure trivial⟩
  refine Fiber.Abides.bind (Q := fun _ => True) (.step fun n hn => ⟨?_, .pure trivial⟩)
    fun summary _ => (opening R resolves).atPool.eager summary
  change R.Inv _ _ _ (Pool.setUris resolves us n.site.pool n.site.links).2.1.uris
  rw [Pool.uris_setUris]
  exact h.setUris us hus hn

/-- Taking in whom the regime allows abides by it. -/
theorem addMember {info : BrokerInfo} (hinfo : R.May info) :
    Fiber.Abides R.At ((host resolves).addMember info) fun _ => True := by
  apply h.clock_abides.bind
  intro now _
  apply (section_abides (V := fun _ => True) fun n hn => ⟨h.add info now hinfo hn, trivial⟩).bind
  intro isNew _
  split
  · exact h.follow
  · exact .pure trivial

/-- Removing a member abides by a regime under which members may part. -/
theorem removeMember (hparts : R.Parts) (id : String) (reason : Departure) (now : Nat) :
    Fiber.Abides R.At ((host resolves).removeMember id reason now) fun _ => True := by
  apply (section_abides (V := fun _ => True) fun n hn =>
    ⟨hparts.forgetPeer id reason now hn, trivial⟩).bind
  intro gone _
  cases gone with
  | none => exact .pure trivial
  | some member =>
    apply (h.dropLink member.uri).bind
    intro _ _
    exact h.follow

/-- What follows the question who a broker is. -/
theorem welcome {row : MemberDigest} (hrow : R.Ask row)
    {result : Except Fault (Option GossipMessage)}
    (hresult : ∀ answer, result = .ok (some answer) → R.Answer answer) :
    Fiber.Abides R.At ((host resolves).welcome row result) fun _ => True := by
  unfold GossipHost.welcome
  split
  · next info =>
    split
    · next hid =>
      apply h.clock_abides.bind
      intro now _
      apply (section_abides (V := fun _ => True) fun n hn =>
        ⟨h.heartbeat info.id now hn, trivial⟩).bind
      intro _ _
      exact h.addMember (h.answered (hresult _ rfl) hrow hid)
    · exact .pure trivial
  · exact .pure trivial

/-- Confirming a row that the regime lets be asked abides by it. -/
theorem confirm {row : MemberDigest} (hrow : R.Ask row) :
    Fiber.Abides R.At ((host resolves).confirm row) fun _ => True := by
  rw [GossipHost.confirm_eq]
  apply (h.request row.uri .fetchBrokerInfo).bind
  intro result hresult
  exact h.welcome hrow hresult

omit h in
/-- What abides item by item abides for all of them in turn. -/
theorem eachInTurn {f : β → Fiber Node Unit} {bs : List β}
    (hf : ∀ b ∈ bs, Fiber.Abides R.At (f b) fun _ => True) :
    Fiber.Abides R.At (GossipHost.eachInTurn f bs) fun _ => True := by
  induction bs with
  | nil => exact .pure trivial
  | cons b rest ih =>
    have hrest := ih fun c hc => hf c (List.mem_cons_of_mem _ hc)
    apply (hf b List.mem_cons_self).bind
    intro _ _
    exact hrest

/-- The question about the rows of a digest that are not known at a time. -/
theorem inquire {now : Nat} (hnow : R.Time now) (rows : List MemberDigest) :
    Fiber.Abides R.At ((host resolves).inquire rows now) fun _ => True := by
  have hcheck : Fiber.Abides R.At ((host resolves).read (Membership.unknown rows now))
      fun unknown => ∀ row ∈ unknown, R.Ask row := read_abides fun _ hn => h.check hn hnow
  apply hcheck.bind
  intro unknown hunknown
  apply eachInTurn
  intro row hrow
  exact h.confirm (hunknown row hrow)

/-- Meeting a sender that the regime allows abides by it, whatever the digest lists. -/
theorem meet {digest : Digest} (hsender : R.May digest.sender) :
    Fiber.Abides R.At ((host resolves).meet digest) fun _ => True := by
  apply h.clock_abides.bind
  intro now hnow
  apply (section_abides (V := fun _ => True) fun n hn =>
    ⟨h.heartbeat digest.sender.id now hn, trivial⟩).bind
  intro _ _
  apply (h.addMember hsender).bind
  intro _ _
  exact h.inquire hnow digest.members

/-- A digest of a sender that the regime allows is observed within the regime. -/
theorem observe {digest : Digest} (hsender : R.May digest.sender) :
    Fiber.Abides R.At ((host resolves).observe digest) fun _ => True := by
  rw [GossipHost.observe_eq]
  apply (read_abides (V := fun _ => True) fun _ _ => trivial).bind
  intro own _
  split
  · exact .pure trivial
  · exact h.meet hsender

/-- A message may be handled if whoever speaks in it may be added. -/
theorem handle (hparts : R.Parts) {message : GossipMessage}
    (hspeaker : ∀ info, message.speaker? = some info → R.May info) :
    Fiber.Abides R.At ((host resolves).handle message) fun _ => True := by
  cases message with
  | ping digest =>
    apply (h.observe (hspeaker _ rfl)).bind
    intro _ _
    apply (read_abides (V := fun _ => True) fun _ _ => trivial).bind
    intro _ _
    exact .pure trivial
  | fetchBrokerInfo =>
    apply (read_abides (V := fun _ => True) fun _ _ => trivial).bind
    intro _ _
    exact .pure trivial
  | ack digest =>
    apply (h.observe (hspeaker _ rfl)).bind
    intro _ _
    exact .pure trivial
  | brokerInfo info =>
    apply (h.addMember (hspeaker _ rfl)).bind
    intro _ _
    exact .pure trivial
  | leave id =>
    apply h.clock_abides.bind
    intro now _
    apply (h.removeMember hparts id .left now).bind
    intro _ _
    exact .pure trivial
  | controlEvent envelope =>
    refine .step ?_
    intro _ hn
    exact ⟨hn, .pure trivial⟩

/-! ## Rounds -/

/-- What follows a ping. -/
theorem hear {result : Except Fault (Option GossipMessage)}
    (hresult : ∀ answer, result = .ok (some answer) → R.Answer answer) :
    Fiber.Abides R.At ((host resolves).hear result) fun _ => True := by
  unfold GossipHost.hear
  split
  · exact h.observe (h.speaker (hresult _ rfl))
  · exact .pure trivial

/-- An exchange with any broker abides by the regime, which bounds the answers. -/
theorem exchange (ping : GossipMessage) (uri : String) :
    Fiber.Abides R.At ((host resolves).exchange ping uri) fun _ => True := by
  rw [GossipHost.exchange_eq]
  apply (h.request uri ping).bind
  intro result hresult
  exact h.hear hresult

/-- The end of a round. -/
theorem sweep : Fiber.Abides R.At (do
    let now ← (host resolves).clock
    (host resolves).change (Membership.forgetDeparted now)) fun _ => True := by
  apply h.clock_abides.bind
  intro now hnow
  apply section_abides
  intro n hn
  exact ⟨h.expire now hnow hn, trivial⟩

/-- A round of gossip abides by the regime. -/
theorem round : Fiber.Abides R.At (host resolves).round fun _ => True := by
  apply (look_abides (V := fun _ => True) fun _ _ => trivial).bind
  intro found _
  apply (read_abides (V := fun _ => True) fun _ _ => trivial).bind
  intro targets _
  apply (read_abides (V := fun _ => True) fun _ _ => trivial).bind
  intro digest _
  refine (Fiber.Abides.all (V := fun _ => True) ?_).bind ?_
  · intro f hf
    obtain ⟨uri, -, rfl⟩ := List.mem_map.mp hf
    exact h.exchange _ uri
  · intro _ _
    exact h.sweep

/-- Looking for silent members abides by a regime under which members may part. -/
theorem detect (hparts : R.Parts) (now : Nat) :
    Fiber.Abides R.At ((host resolves).detect now) fun _ => True := by
  apply (read_abides (V := fun _ => True) fun _ _ => trivial).bind
  intro failed _
  refine (eachInTurn ?_).bind fun _ _ => .pure trivial
  intro id _
  exact h.removeMember hparts id .failed now

theorem become (state : MemberState) :
    Fiber.Abides R.At ((host resolves).change (Membership.become state)) fun _ => True := by
  apply section_abides
  intro _ hn
  exact ⟨h.aside _ _ hn, trivial⟩

/-- Leaving abides by a regime under which members may part. -/
theorem leave (hparts : R.Parts) : Fiber.Abides R.At (host resolves).leave fun _ => True := by
  apply (h.become .leaving).bind
  intro _ _
  apply (read_abides (V := fun _ => True) fun _ _ => trivial).bind
  intro own _
  apply (read_abides (V := fun _ => True) fun _ _ => trivial).bind
  intro uris _
  apply (h.sendAll _ uris).bind
  intro _ _
  apply h.clock_abides.bind
  intro now _
  apply (section_abides (V := fun _ => True) fun n hn =>
    ⟨hparts.clear now hn, trivial⟩).bind
  intro _ _
  apply h.follow.bind
  intro _ _
  apply section_abides
  intro _ hn
  exact ⟨h.aside _ _ hn, trivial⟩

/-- A step keeps the invariant, if whoever speaks in the message that it handles may be
added. -/
theorem step (hparts : R.Parts) {step : GossipStep}
    (hspeaker : ∀ message info, step = .handle message → message.speaker? = some info →
      R.May info) : Fiber.Abides R.At (step.run (host resolves)) fun _ => True := by
  cases step with
  | start =>
    apply h.round.bind
    intro _ _
    exact h.become .active
  | handle message =>
    apply (h.handle hparts fun info => hspeaker message info rfl).bind
    intro _ _
    exact .pure trivial
  | round => exact h.round
  | detect now =>
    apply (h.detect hparts now).bind
    intro _ _
    exact .pure trivial
  | tick =>
    apply h.round.bind
    intro _ _
    apply h.clock_abides.bind
    intro now _
    apply (h.detect hparts now).bind
    intro _ _
    exact .pure trivial
  | broadcast envelope =>
    apply (read_abides (V := fun _ => True) fun _ _ => trivial).bind
    intro uris _
    apply (h.sendAll _ uris).bind
    intro _ _
    exact .pure trivial
  | sendEvent uri envelope =>
    apply (h.send (.controlEvent envelope) uri).bind
    intro _ _
    exact .pure trivial
  | leave => exact h.leave hparts

end Kept

end Regime

end Node

end ServiceMesh
