import ServiceMesh.Proofs.Gossip.Cluster
import ServiceMesh.Proofs.Gossip.Messages

/-!
# What nodes can rely on

A `Census` says who the nodes of a cluster are, how they are set, and whom each of them knows at
least.  A cluster is *sound* if it is of the census, every member of a node is another node as it
is, nobody departed, and every link that is kept open leads to a node.  The rounds of the nodes
keep a sound cluster sound, and from one state to the next no member goes and no link is closed
(`Cluster.course`).

So a node that is called answers: `Cluster.request_heeds` says that the call comes back with the
message that the other node answers.
-/

namespace ServiceMesh

namespace Links

theorem get?_add (ls : Links) (id other : LinkId) (link : Link) :
    (ls.add id link).get? other = if id = other then some link else ls.get? other :=
  Dict.get?_insert _ _ _ _

theorem get?_add_self (ls : Links) (id : LinkId) (link : Link) :
    (ls.add id link).get? id = some link := by rw [get?_add, if_pos rfl]

/-- The links that are there stay as they are when one is added that was not. -/
theorem get?_add_of_isSome {ls : Links} {id other : LinkId} (hnew : ls.get? id = none) (link : Link)
    {l : Link} (h : ls.get? other = some l) : (ls.add id link).get? other = some l := by
  have hne : id ≠ other := by
    rintro rfl
    rw [hnew] at h
    cases h
  rw [get?_add, if_neg hne, h]

end Links

namespace Cluster

variable {n : Nat}

/-- Who the nodes are, how they are set, and whom they know at least. -/
structure Census (n : Nat) where
  who : Fin n → BrokerInfo
  settings : Fin n → MembershipSettings
  known : Fin n → Fin n → Prop

namespace Census

/-- Where a node is reached. -/
def url (p : Census n) (i : Fin n) : String := (p.who i).url

/-- A node as others hear of it. -/
def row (p : Census n) (i : Fin n) : MemberDigest := ⟨(p.who i).id, p.url i⟩

/-- The nodes are told apart by their ids and by their addresses, take part, and are few
enough and have texts short enough for the wire. -/
structure Proper (p : Census n) : Prop where
  ids : ∀ i j, (p.who i).id = (p.who j).id → i = j
  urls : ∀ i j, p.url i = p.url j → i = j
  active : ∀ i, (p.who i).isActive = true
  fits : ∀ i, (p.who i).Fits
  short : ∀ i, MsgPack.Short (p.url i)
  few : n ≤ byteRange 4

end Census

/-- The membership of a node whose members are other nodes. -/
structure Resident (p : Census n) (i : Fin n) (m : Membership) : Prop where
  self : m.self = p.who i
  settings : m.settings = p.settings i
  tidy : m.peers.Tidy
  genuine : ∀ id x, m.peers.get? id = some x → ∃ j, j ≠ i ∧ x.info = p.who j
  alive : ∀ id, m.peers.departed.get? id = none
  known : ∀ j, p.known i j → m.peers.contains (p.who j).id = true

/-- All members are nodes, every link that is kept open leads to a node, and no time limit
runs out. -/
structure Sound (p : Census n) (c : Cluster n) : Prop where
  resident : ∀ i, Resident p i (c.membership i)
  kept : ∀ i uri link, (c.membership i).connections.get? uri = some link →
    ∃ l, c.links.get? link = some l ∧ (l.closed = false → l.uri = uri ∧ ∃ j, p.url j = uri)
  fresh : ∀ k, c.opened ≤ k → c.links.get? (.inside k) = none
  patient : c.lapsed = false

/-- No member goes, and the links stay as they are. -/
structure Later (c d : Cluster n) : Prop where
  members : ∀ i id, (c.membership i).peers.contains id = true →
    (d.membership i).peers.contains id = true
  links : ∀ link l, c.links.get? link = some l → d.links.get? link = some l

/-- The course of a cluster in which members spread. -/
def course (p : Census n) : Course (Cluster n) where
  Inv := Sound p
  Later := Later
  refl _ := ⟨fun _ _ h => h, fun _ _ h => h⟩
  trans h h' :=
    ⟨fun i id hid => h'.members i id (h.members i id hid),
      fun link l hl => h'.links link l (h.links link l hl)⟩

variable {p : Census n} {α : Type} {i j : Fin n} {c : Cluster n}

/-! ## What is known -/

/-- The node has a member with the id. -/
def Knows (i : Fin n) (id : String) (c : Cluster n) : Prop :=
  (c.membership i).peers.contains id = true

/-- Whoever is known remains so. -/
theorem stable_knows (p : Census n) (i : Fin n) (id : String) :
    (course p).Stable (Knows i id) := by
  intro _ _ h _ hc
  exact h.members i id hc

/-- A node has the address that the census says. -/
theorem Sound.uri (hc : Sound p c) (i : Fin n) : (c.membership i).uri = p.url i :=
  congrArg BrokerInfo.url (hc.resident i).self

/-- An address leads nowhere iff no node has it. -/
theorem reached_eq_none (hc : Sound p c) {uri : String} :
    c.reached uri = none ↔ ∀ j, p.url j ≠ uri := by
  simp [reached, hc.uri, List.mem_finRange]

/-- The address of a node leads to that node. -/
theorem reached_url (hp : p.Proper) (hc : Sound p c) (j : Fin n) :
    c.reached (p.url j) = some j := by
  cases h : c.reached (p.url j) with
  | none => exact absurd rfl ((reached_eq_none hc).mp h j)
  | some k =>
    have huri : (c.membership k).uri = p.url j := by simpa using List.find?_some h
    rw [hc.uri] at huri
    rw [hp.urls k j huri]

/-- The link is open, and was opened to the address. -/
def Opened (link : LinkId) (uri : String) (c : Cluster n) : Prop :=
  ∃ l, c.links.get? link = some l ∧ l.closed = false ∧ l.uri = uri

/-- A link that is open remains so. -/
theorem Opened.later {link : LinkId} {uri : String} {d : Cluster n} (h : Opened link uri c)
    (hlater : Later c d) : Opened link uri d := by
  obtain ⟨l, hl, hopen⟩ := h
  exact ⟨l, hlater.links link l hl, hopen⟩

/-- A link that is open is not closed. -/
theorem Opened.isClosed {link : LinkId} {uri : String} (h : Opened link uri c) :
    c.links.isClosed link = false := by
  obtain ⟨l, hl, hopen, -⟩ := h
  simp only [Links.isClosed, hl, hopen]

/-- At the other end of an open link stands the node whose address was dialed. -/
theorem Opened.farEnd (hp : p.Proper) (hc : Sound p c) {link : LinkId}
    (h : Opened link (p.url j) c) : c.farEnd link = (some j, p.url j) := by
  have hopen := h.isClosed
  obtain ⟨l, hl, -, huri⟩ := h
  have huriOf : c.links.uriOf link = p.url j := by simp only [Links.uriOf, hl, huri]
  simp [Cluster.farEnd, hopen, huriOf, reached_url hp hc]

/-- What is said of the link to an address: it leads there, or nobody is there. -/
def Leads (p : Census n) (uri : String) : Except Fault LinkId → Cluster n → Prop
  | .ok link, c => Opened link uri c ∧ ∃ j, p.url j = uri
  | .error _, _ => ∀ j, p.url j ≠ uri

/-- A link that leads somewhere goes on leading there. -/
theorem stable_leads (p : Census n) (uri : String) (r : Except Fault LinkId) :
    (course p).Stable (Leads p uri r) := by
  intro c d hlater _ h
  cases r with
  | ok link => exact ⟨h.1.later hlater, h.2⟩
  | error fault => exact h

/-! ## Sections -/

theorem onMembership_read (i : Fin n) (f : Membership → Links → α) (c : Cluster n) :
    onMembership i (fun m links => (f m links, m, links)) c
      = (f (c.membership i) c.links, c) := by
  have hsame : (fun j => if j = i then c.membership i else c.membership j) = c.membership := by
    funext j
    split
    · next h => rw [h]
    · rfl
  simp only [onMembership, hsame]

/-- Whoever is a member after a section on a membership is known to that node. -/
theorem knows_onMembership {f : Membership → Links → α × Membership × Links} {id : String}
    (h : (f (c.membership i) c.links).2.1.peers.contains id = true) :
    Knows i id (onMembership i f c).2 := by
  simpa [Knows, onMembership] using h

/-- A section on a membership that loses no member. -/
theorem Sound.onMembership (hc : Sound p c) {f : Membership → α × Membership}
    (hresident : Resident p i (f (c.membership i)).2)
    (hkept : ∀ uri link, (f (c.membership i)).2.connections.get? uri = some link →
      ∃ l, c.links.get? link = some l ∧ (l.closed = false → l.uri = uri ∧ ∃ j, p.url j = uri))
    (hmembers : ∀ id, (c.membership i).peers.contains id = true →
      (f (c.membership i)).2.peers.contains id = true) :
    Sound p (onMembership i (fun m links => ((f m).1, (f m).2, links)) c).2 ∧
      Later c (onMembership i (fun m links => ((f m).1, (f m).2, links)) c).2 := by
  refine ⟨⟨?_, ?_, hc.fresh, hc.patient⟩, ?_,
    fun _ _ hl => hl⟩
  · intro k
    change Resident p k (if k = i then (f (c.membership i)).2 else c.membership k)
    split
    · next h => exact h ▸ hresident
    · exact hc.resident k
  · intro k uri link
    change Dict.get? (Membership.connections (if k = i then _ else _)) uri = _ → _
    split
    · exact hkept uri link
    · exact hc.kept k uri link
  · intro k id hid
    change (Membership.peers (if k = i then _ else _)).contains id = true
    split
    · next h =>
      rw [h] at hid
      exact hmembers id hid
    · exact hid

/-- What is done to a pool keeps the cluster sound. -/
theorem Sound.onSite (hc : Sound p c) (i : Fin n) (f : Site → α × Site) :
    Sound p (Cluster.onSite i f c).2 ∧ Later c (Cluster.onSite i f c).2 :=
  ⟨⟨hc.resident, hc.kept, hc.fresh, hc.patient⟩, ⟨fun _ _ h => h, fun _ _ h => h⟩⟩

/-- Dialing keeps the cluster sound. -/
theorem Sound.dial (hc : Sound p c) (uri : String) :
    Sound p (Cluster.dial uri c).2 ∧ Later c (Cluster.dial uri c).2 := by
  unfold Cluster.dial
  split
  · exact ⟨hc, (course p).refl c⟩
  · next k hk =>
    have hnew : c.links.get? (.inside c.opened) = none := hc.fresh c.opened (Nat.le_refl _)
    refine ⟨⟨hc.resident, ?_, ?_, hc.patient⟩, fun _ _ h => h, ?_⟩
    · intro i uri' link hlink
      obtain ⟨l, hl, hleads⟩ := hc.kept i uri' link hlink
      exact ⟨l, Links.get?_add_of_isSome hnew _ hl, hleads⟩
    · intro k hk
      change c.opened + 1 ≤ k at hk
      have hne : LinkId.inside c.opened ≠ .inside k := by
        rintro ⟨⟩
        omega
      change (c.links.add _ _).get? (.inside k) = none
      rw [Links.get?_add, if_neg hne]
      exact hc.fresh k (by omega)
    · intro link l hl
      exact Links.get?_add_of_isSome hnew _ hl

/-- Dialing leads to the node with that address, if there is one. -/
theorem Sound.leads_dial (hc : Sound p c) (uri : String) :
    Leads p uri (Cluster.dial uri c).1 (Cluster.dial uri c).2 := by
  unfold Cluster.dial
  split
  · next hnone => exact (reached_eq_none hc).mp hnone
  · next k hk =>
    refine ⟨⟨_, Links.get?_add_self .., rfl, rfl⟩, Classical.byContradiction fun hnobody => ?_⟩
    rw [(reached_eq_none hc).mpr fun j hj => hnobody ⟨j, hj⟩] at hk
    cases hk

section

variable {resolves : Fin n → Option (String → Bool)} {answers : Answers n}
  {post : α → Cluster n → Prop}

/-- What is looked at is as it was, or as the course may have made it. -/
theorem look_heeds {f : Cluster n → α}
    (hpost : ∀ d, Later c d → Sound p d → post (f d) d) :
    Fiber.Heeds (course p) (Fiber.read f) post c := by
  intro d hlater hd
  exact ⟨hd, (course p).refl d, hpost d hlater hd⟩

/-- A section that only looks at a membership and at the links. -/
theorem sight_heeds {f : Membership → Links → α}
    (hpost : ∀ d, Later c d → Sound p d → post (f (d.membership i) d.links) d) :
    Fiber.Heeds (course p)
      ((hostOver resolves answers i).atomically fun m links => (f m links, m, links)) post c := by
  intro d hlater hd
  rw [onMembership_read]
  exact ⟨hd, (course p).refl d, hpost d hlater hd⟩

/-- What is read of the membership is as it was, or as the course may have made it. -/
theorem read_heeds {f : Membership → α}
    (hpost : ∀ d, Later c d → Sound p d → post (f (d.membership i)) d) :
    Fiber.Heeds (course p) ((hostOver resolves answers i).read f) post c :=
  sight_heeds (f := fun m _ => f m) hpost

/-- A section that changes a membership and loses no member. -/
theorem act_heeds {f : Membership → α × Membership}
    (hresident : ∀ m, Resident p i m → Resident p i (f m).2)
    (hconnections : ∀ m, (f m).2.connections = m.connections)
    (hmembers : ∀ m id, m.peers.contains id = true → (f m).2.peers.contains id = true)
    (hpost : ∀ d, Later c d → Sound p d → post (f (d.membership i)).1
      (onMembership i (fun m links => ((f m).1, (f m).2, links)) d).2) :
    Fiber.Heeds (course p) ((hostOver resolves answers i).act f) post c := by
  intro d hlater hd
  have hd' := hd.onMembership (f := f) (hresident _ (hd.resident i)) ?_ (hmembers _)
  · exact ⟨hd'.1, hd'.2, hpost d hlater hd⟩
  · rw [hconnections]
    exact hd.kept i

end

/-! ## Calls -/

section

variable {resolves : Fin n → Option (String → Bool)} {answers : Answers n}

/-- A connection leads to the node with that address, if there is one. -/
theorem connection_heeds (hc : Sound p c) (uri : String) :
    Fiber.Heeds (course p) ((hostOver resolves answers i).connection uri) (Leads p uri) c := by
  have hlook : Fiber.Heeds (course p)
      ((hostOver resolves answers i).atomically fun m links => (m.openLink? uri links, m, links))
      (fun found d => ∀ link, found = some link → Leads p uri (.ok link) d) c := by
    apply sight_heeds
    intro d _ hd link hlink
    obtain ⟨hget, hopen⟩ := Option.filter_eq_some_iff.mp hlink
    obtain ⟨l, hl, hleads⟩ := hd.kept i uri link hget
    have hclosed : l.closed = false := by simpa [Links.isClosed, hl] using hopen
    obtain ⟨huri, hreached⟩ := hleads hclosed
    exact ⟨⟨l, hl, hclosed, huri⟩, hreached⟩
  apply hlook.andThen hc
  intro found d _ hd hfound
  cases found with
  | some link => exact hfound link rfl
  | none =>
    have hdial : Fiber.Heeds (course p) (Fiber.atomically (dial uri)) (Leads p uri) d := by
      intro e _ he
      exact ⟨(he.dial uri).1, (he.dial uri).2, he.leads_dial uri⟩
    apply hdial.andThen hd
    intro opened e _ he hopened
    cases opened with
    | error fault => exact hopened
    | ok link =>
      have hkeep : Fiber.Heeds (course p)
          ((hostOver resolves answers i).change (Membership.keepLink uri link))
          (fun _ => Leads p uri (.ok link)) e := by
        intro e' hlater he'
        have hleads := stable_leads p uri (.ok link) e e' hlater he' hopened
        obtain ⟨⟨l, hl, hclosed, huri⟩, hreached⟩ := hleads
        have hresident := he'.resident i
        have hkept := he'.onMembership (i := i) (f := fun m => ((), m.keepLink uri link))
          ⟨hresident.self, hresident.settings, hresident.tidy, hresident.genuine,
            hresident.alive, hresident.known⟩ ?_ fun _ h => h
        · exact ⟨hkept.1, hkept.2, ⟨l, hl, hclosed, huri⟩, hreached⟩
        · intro uri' link' hget
          rw [Membership.keepLink, Dict.get?_insert] at hget
          split at hget
          · next hsame =>
            cases hget
            refine ⟨l, hl, ?_⟩
            intro _
            exact ⟨huri.trans hsame, hsame ▸ hreached⟩
          · exact he'.kept i uri' link' hget
      apply hkeep.andThen he
      intro _ _ _ _ h
      exact h

/-- A call that is answered comes back with the answer.  The link stays open, so nobody hangs up
before. -/
theorem call_heeds (hp : p.Proper) {link : LinkId} {payload : Payload}
    {A : Except Fault Payload → Cluster n → Prop} (hA : ∀ r, (course p).Stable (A r))
    (hlink : Opened link (p.url j) c)
    (hanswer : ∀ d, Later c d → Sound p d → Fiber.Heeds (course p) (answers j payload) A d) :
    Fiber.Heeds (course p) (call answers link payload) A c := by
  intro d hlater hd
  have hopened := hlink.later hlater
  refine ⟨hd, (course p).refl d, ?_⟩
  simp only [hopened.farEnd hp hd]
  refine ⟨A, fun _ _ => False, hA, fun _ => Fiber.stable_const False, hanswer d hlater hd, ?_,
    fun _ _ _ _ h => h, fun _ _ _ _ h => h.elim⟩
  intro e hlater' _ hready
  change e.links.isClosed link = true at hready
  rw [(hopened.later hlater').isClosed] at hready
  cases hready

/-- What comes back over an open link is the answer of the node at its other end, or nothing in
time. -/
theorem requestWithin_heeds (hp : p.Proper) {link : LinkId} {payload : Payload}
    {A : Except Fault Payload → Cluster n → Prop} (hA : ∀ r, (course p).Stable (A r))
    (hlink : Opened link (p.url j) c)
    (hanswer : ∀ d, Later c d → Sound p d → Fiber.Heeds (course p) (answers j payload) A d)
    (timeoutMs : Nat) :
    Fiber.Heeds (course p) ((wire answers).requestWithin timeoutMs link payload) A c := by
  refine ⟨A, fun _ _ => False, hA, fun _ => Fiber.stable_const False,
    call_heeds hp hA hlink hanswer, ?_, fun _ _ _ _ h => h, fun _ _ _ _ h => h.elim⟩
  intro d _ hd hready
  change d.lapsed = true at hready
  rw [hd.patient] at hready
  cases hready

/-- The answer to a call carries a message of which something is said. -/
def Replies (B : GossipMessage → Cluster n → Prop) (r : Except Fault Payload) (c : Cluster n) :
    Prop :=
  ∃ reply message, r = .ok reply ∧ GossipHost.readReply reply = .ok (some message) ∧ B message c

/-- A reply goes on saying what it says if what messages say is stable. -/
theorem stable_replies {B : GossipMessage → Cluster n → Prop}
    (hB : ∀ message, (course p).Stable (B message)) (r : Except Fault Payload) :
    (course p).Stable (Replies B r) := by
  rintro c d hlater hd ⟨reply, message, hr, hread, h⟩
  exact ⟨reply, message, hr, hread, hB message c d hlater hd h⟩

/-- A node that is asked answers, if its answer arrives. -/
theorem request_heeds (hp : p.Proper) (hc : Sound p c) {B : GossipMessage → Cluster n → Prop}
    (hB : ∀ message, (course p).Stable (B message)) {message : GossipMessage} {payload : Payload}
    (hpayload : message.toPayload = .ok payload)
    (hanswer : ∀ d, Later c d → Sound p d →
      Fiber.Heeds (course p) (answers j payload) (Replies B) d) :
    Fiber.Heeds (course p) ((hostOver resolves answers i).request (p.url j) message)
      (fun r d => ∃ answer, r = .ok (some answer) ∧ B answer d) c := by
  rw [GossipHost.request_eq _ _ hpayload]
  apply (connection_heeds hc (p.url j)).andThen hc
  intro found d hlater hd hfound
  cases found with
  | error fault => exact absurd rfl (hfound j)
  | ok link =>
    apply (read_heeds fun _ _ _ => trivial : Fiber.Heeds (course p) _ (fun _ _ => True) d).andThen
      hd
    intro timeoutMs e hlater' he _
    have hcall := requestWithin_heeds hp (stable_replies hB) (hfound.1.later hlater')
      (fun x hx => hanswer x ((course p).trans hlater ((course p).trans hlater' hx))) timeoutMs
    apply hcall.andThen he
    intro result _ _ _ hresult
    obtain ⟨reply, answer, rfl, hread, h⟩ := hresult
    exact ⟨answer, hread, h⟩

/-- Nobody is asked at an address where no node is. -/
theorem request_nobody (hc : Sound p c) {uri : String} (huri : ∀ j, p.url j ≠ uri)
    {message : GossipMessage} {payload : Payload} (hpayload : message.toPayload = .ok payload) :
    Fiber.Heeds (course p) ((hostOver resolves answers i).request uri message)
      (fun r _ => ∃ fault, r = .error fault) c := by
  rw [GossipHost.request_eq _ _ hpayload]
  apply (connection_heeds hc uri).andThen hc
  intro found d _ hd hfound
  cases found with
  | error fault => exact ⟨fault, rfl⟩
  | ok link =>
    obtain ⟨j, hj⟩ := hfound.2
    exact absurd hj (huri j)

end

end Cluster

end ServiceMesh
