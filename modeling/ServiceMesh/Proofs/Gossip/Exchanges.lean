import Mathlib.Data.List.Nodup
import Mathlib.Data.List.Perm.Subperm
import ServiceMesh.Proofs.Gossip.Neighbours

/-!
# What a round leaves behind

In a sound cluster a node that is asked who it is says it (`Tells`), and a node that is pinged
tells whom it knows, and from then on knows who pinged it (`Greets`).  Both are said of the way in
which calls are answered, so that what is told one call deeper can be used for the call above
(`tells_answer`, `greets_answer`).

`Cluster.Met` is what an exchange leaves behind: the two nodes know each other, and the one that
asked knows all that the other one knew at least when the round began.  A round leaves this behind
for every seed that is the address of a node (`Cluster.round_heeds`), whatever other rounds do
meanwhile.
-/

namespace ServiceMesh

namespace Cluster

variable {n : Nat} {p : Census n} {i j k : Fin n} {c : Cluster n}
  {resolves : Fin n → Option (String → Bool)} {answers : Answers n}

/-! ## Pools -/

/-- What is done to a pool alone does not change who knows whom. -/
theorem site_tame {α : Type} (p : Census n) (i : Fin n) (f : Site → α × Site) :
    Fiber.Tame (course p) (Fiber.atomically (onSite i f)) := by
  refine .step (fun _ hc => hc.onSite i f) ?_
  intro a
  exact .pure a

/-- Opening links does not change who knows whom. -/
theorem opening_tame (p : Census n) (takes : String → Bool) (i : Fin n) :
    (pool takes i).Opening fun _ f => Fiber.Tame (course p) f where
  done := .pure
  bind hf hg := hf.bind hg
  all hfs := Fiber.Tame.all hfs
  openLink _ := site_tame p i _
  atomically _ := site_tame p i _

/-- Setting the addresses of a pool does not change who knows whom. -/
theorem refresh_tame (p : Census n) (takes : String → Bool) (i : Fin n) (uris : List String) :
    Fiber.Tame (course p) ((pool takes i).refresh uris) := by
  refine .step (fun _ hc => hc.onSite i _) ?_
  intro ticket
  refine .guarded (fun _ hc => hc.onSite i _) (.await ?_) fun _ => .pure _
  apply (site_tame p i _).bind
  intro summary
  exact (opening_tame p takes i).eager summary

/-- Following the membership does not change who knows whom. -/
theorem follow_tame (p : Census n) :
    Fiber.Tame (course p) (hostOver resolves answers i).follow := by
  unfold GossipHost.follow
  cases hpool : (hostOver resolves answers i).pool with
  | none => exact .pure _
  | some follower =>
    obtain ⟨takes, -, rfl⟩ := Option.map_eq_some_iff.mp hpool
    have hread : Fiber.Tame (course p) ((hostOver resolves answers i).read (·.peers.uris)) := by
      intro _ _
      exact read_heeds fun _ _ _ => trivial
    apply hread.bind
    intro uris
    apply (refresh_tame p takes i uris).bind
    intro _
    exact .pure _

/-! ## One more member -/

/-- No node has the id of another one. -/
theorem Resident.ne_self (hp : p.Proper) {m : Membership} (h : Resident p i m) (hji : j ≠ i) :
    (p.who j).id ≠ m.self.id := by
  rw [h.self]
  intro hid
  exact hji (hp.ids j i hid)

/-- A resident that takes in another node is a resident. -/
theorem Resident.add (hp : p.Proper) {m : Membership} (h : Resident p i m) (hji : j ≠ i)
    (now : Nat) : Resident p i (m.add (p.who j) now).2 := by
  have hother := h.ne_self hp hji
  refine ⟨(m.self_add _ now).trans h.self, (m.settings_add _ now).trans h.settings,
    m.tidy_add h.tidy _ now, ?_, ?_, ?_⟩
  · intro id x hx
    by_cases hid : (p.who j).id = id
    · subst hid
      obtain ⟨y, hy, hinfo⟩ := m.get?_add_self hother (hp.active j) now
      rw [hy] at hx
      cases hx
      exact ⟨j, hji, hinfo⟩
    · rw [m.get?_add_of_ne hid] at hx
      exact h.genuine id x hx
  · intro id
    rcases m.peers_add (p.who j) now with hsame | hupsert
    · rw [hsame]
      exact h.alive id
    · rw [hupsert, PeerTable.departed_upsert, Dict.get?_erase]
      split
      · rfl
      · exact h.alive id
  · intro k hk
    obtain ⟨x, hx⟩ := Option.isSome_iff_exists.mp (h.known k hk)
    exact m.get?_add_isSome hx (p.who j) now

/-- Noting a heartbeat does not change who knows whom. -/
theorem heartbeat_tame (p : Census n) (id : String) (now : Nat) :
    Fiber.Tame (course p)
      ((hostOver resolves answers i).change (Membership.heartbeat id now)) := by
  intro _ _
  apply act_heeds (fun _ hm => ⟨hm.self, hm.settings, hm.tidy, hm.genuine, hm.alive, hm.known⟩)
    (fun _ => rfl) (fun _ _ h => h)
  intro _ _ _
  exact trivial

theorem clock_tame (p : Census n) : Fiber.Tame (course p) (hostOver resolves answers i).clock :=
  fun _ _ => look_heeds fun _ _ _ => trivial

/-- After a node was taken in it is known. -/
theorem addMember_heeds (hp : p.Proper) (hc : Sound p c) (hji : j ≠ i) :
    Fiber.Heeds (course p) ((hostOver resolves answers i).addMember (p.who j))
      (fun _ => Knows i (p.who j).id) c := by
  apply (clock_tame p c hc).andThen hc
  intro now d _ hd _
  have hadd : Fiber.Heeds (course p)
      ((hostOver resolves answers i).act (Membership.add (p.who j) now))
      (fun _ => Knows i (p.who j).id) d := by
    refine act_heeds (fun m hm => hm.add hp hji now) (fun m => m.connections_add _ now) ?_ ?_
    · intro m id hid
      obtain ⟨x, hx⟩ := Option.isSome_iff_exists.mp hid
      exact m.get?_add_isSome hx _ now
    · intro e _ he
      have hother := (he.resident i).ne_self hp hji
      obtain ⟨x, hx, -⟩ := Membership.get?_add_self hother (hp.active j) now
      exact knows_onMembership (Option.isSome_of_mem hx)
  apply hadd.andThen hd
  intro isNew e _ he hknows
  split
  · exact (follow_tame p).heeds (stable_knows p i _) he hknows
  · exact hknows

/-! ## Who is asked -/

/-- Nodes that are asked who they are say it. -/
def Tells (p : Census n) (answers : Answers n) : Prop :=
  ∀ j payload, GossipMessage.fetchBrokerInfo.toPayload = .ok payload → ∀ c, Sound p c →
    Fiber.Heeds (course p) (answers j payload)
      (Replies fun message _ => message = .brokerInfo (p.who j)) c

/-- What a handler answers goes back as a reply. -/
theorem answer_heeds {message : GossipMessage} (hfits : message.Fits) {payload : Payload}
    (hpayload : message.toPayload = .ok payload) {B : GossipMessage → Cluster n → Prop}
    (hc : Sound p c)
    (hhandle : Fiber.Heeds (course p) ((hostOver resolves answers i).handle message)
      (fun r d => ∃ reply : GossipMessage, r = some reply ∧ reply.Fits ∧ B reply d) c) :
    Fiber.Heeds (course p) ((hostOver resolves answers i).answer payload) (Replies B) c := by
  simp only [GossipHost.answer, GossipMessage.ofPayload_of_fits hfits hpayload, GossipHost.reply]
  apply hhandle.andThen hc
  intro result d _ _ hresult
  obtain ⟨reply, rfl, hreply, hB⟩ := hresult
  have hread := GossipMessage.readReply_of_fits hreply reply.toPayload_eq
  simp only [reply.toPayload_eq]
  exact ⟨_, reply, rfl, hread, hB⟩

/-- Nodes that are asked who they are say it, whatever else they are at. -/
theorem tells_answer (hp : p.Proper) :
    Tells p fun i payload => (hostOver resolves answers i).answer payload := by
  intro j payload hpayload c hc
  have hfits : GossipMessage.fetchBrokerInfo.Fits := trivial
  refine answer_heeds hfits hpayload hc ?_
  have hself : Fiber.Heeds (course p) ((hostOver resolves answers j).read (·.self))
      (fun info _ => info = p.who j) c := read_heeds fun d _ hd => (hd.resident j).self
  apply hself.andThen hc
  intro info d _ _ hinfo
  subst hinfo
  exact ⟨.brokerInfo (p.who j), rfl, hp.fits j, rfl⟩

/-- A node that is known from hearsay is a member once it was asked who it is. -/
theorem confirm_heeds (hp : p.Proper) (htells : Tells p answers) (hc : Sound p c) (hji : j ≠ i) :
    Fiber.Heeds (course p) ((hostOver resolves answers i).confirm (p.row j))
      (fun _ => Knows i (p.who j).id) c := by
  rw [GossipHost.confirm_eq]
  have hpayload := GossipMessage.fetchBrokerInfo.toPayload_eq
  have hrequest : Fiber.Heeds (course p)
      ((hostOver resolves answers i).request (p.url j) .fetchBrokerInfo)
      (fun r _ => ∃ answer, r = .ok (some answer) ∧ answer = .brokerInfo (p.who j)) c :=
    request_heeds hp hc (fun _ => Fiber.stable_const _) hpayload fun d _ hd =>
      htells j _ hpayload d hd
  apply hrequest.andThen hc
  intro result d _ hd hresult
  obtain ⟨answer, rfl, rfl⟩ := hresult
  simp only [GossipHost.welcome, Census.row, if_true]
  apply (clock_tame p d hd).andThen hd
  intro now e _ he _
  apply (heartbeat_tame p _ now e he).andThen he
  intro _ x _ hx _
  exact addMember_heeds hp hx hji

/-! ## What is told -/

/-- What a node tells: who it is, and nodes that it knows. -/
structure Genuine (p : Census n) (i : Fin n) (digest : Digest) : Prop where
  sender : digest.sender = p.who i
  rows : ∀ row ∈ digest.members, ∃ j, row = p.row j
  fits : digest.Fits

/-- After its rows were confirmed in turn, everybody listed is known. -/
theorem eachInTurn_heeds (hp : p.Proper) (htells : Tells p answers) {rows : List MemberDigest}
    (hrows : ∀ row ∈ rows, ∃ j, j ≠ i ∧ row = p.row j) (hc : Sound p c) :
    Fiber.Heeds (course p)
      (GossipHost.eachInTurn (hostOver resolves answers i).confirm rows)
      (fun _ d => ∀ row ∈ rows, Knows i row.id d) c := by
  induction rows generalizing c with
  | nil =>
    intro row hrow
    cases hrow
  | cons row rest ih =>
    obtain ⟨j, hji, rfl⟩ := hrows row List.mem_cons_self
    apply (confirm_heeds hp htells hc hji).andThen hc
    intro _ d _ hd hknows
    have hrest := ih (fun row hrow => hrows row (List.mem_cons_of_mem _ hrow)) hd
    apply hrest.mono hd
    intro _ e hlater he hall row hrow
    rcases List.mem_cons.mp hrow with rfl | hrow
    · exact stable_knows p i _ d e hlater he hknows
    · exact hall row hrow

/-- Who is not asked is known. -/
theorem mem_unknown {m : Membership} (h : Resident p i m) (hji : j ≠ i) (hp : p.Proper)
    {rows : List MemberDigest} (hrow : p.row j ∈ rows) (now : Nat) :
    p.row j ∈ m.unknown rows now ∨ m.peers.contains (p.who j).id = true := by
  have hself := h.ne_self hp hji
  have hpresent : m.peers.recentlyDeparted (p.who j).id now m.tombstoneMs = false := by
    simp only [PeerTable.recentlyDeparted, h.alive]
  cases hknown : m.peers.contains (p.who j).id with
  | true => exact .inr rfl
  | false =>
    refine .inl (List.mem_filter.mpr ⟨hrow, ?_⟩)
    simp [Census.row, hself, hknown, hpresent]

/-- A row that is unknown to a node is not its own. -/
theorem unknown_other {m : Membership} (h : Resident p i m) {rows : List MemberDigest}
    (hrows : ∀ row ∈ rows, ∃ j, row = p.row j) {now : Nat} :
    ∀ row ∈ m.unknown rows now, ∃ j, j ≠ i ∧ row = p.row j := by
  intro row hrow
  obtain ⟨hmem, hkept⟩ := List.mem_filter.mp hrow
  obtain ⟨j, rfl⟩ := hrows row hmem
  refine ⟨j, ?_, rfl⟩
  rintro rfl
  simp [Census.row, h.self] at hkept

/-- After an inquiry about some rows, everybody else listed is known. -/
theorem inquire_heeds (hp : p.Proper) (htells : Tells p answers) {rows : List MemberDigest}
    (hrows : ∀ row ∈ rows, ∃ j, row = p.row j) (now : Nat) (hc : Sound p c) :
    Fiber.Heeds (course p) ((hostOver resolves answers i).inquire rows now)
      (fun _ d => ∀ j, j ≠ i → p.row j ∈ rows → Knows i (p.who j).id d) c := by
  have hunknown : Fiber.Heeds (course p)
      ((hostOver resolves answers i).read (Membership.unknown rows now))
      (fun unknown d => (∀ row ∈ unknown, ∃ j, j ≠ i ∧ row = p.row j) ∧
        ∀ j, j ≠ i → p.row j ∈ rows → p.row j ∈ unknown ∨ Knows i (p.who j).id d) c :=
    read_heeds fun d _ hd => ⟨unknown_other (hd.resident i) hrows,
      fun j hji hrow => mem_unknown (hd.resident i) hji hp hrow now⟩
  apply hunknown.andThen hc
  intro unknown d _ hd hasked
  obtain ⟨hothers, hcovered⟩ := hasked
  apply (eachInTurn_heeds hp htells hothers hd).mono hd
  intro _ e hlater he hall j hji hrow
  rcases hcovered j hji hrow with hmem | hknows
  · exact hall (p.row j) hmem
  · exact stable_knows p i _ d e hlater he hknows

/-- What a node learns from what another one tells. -/
theorem observe_heeds (hp : p.Proper) (htells : Tells p answers) {digest : Digest}
    (hdigest : Genuine p k digest) (hc : Sound p c) :
    Fiber.Heeds (course p) ((hostOver resolves answers i).observe digest)
      (fun _ d => k ≠ i → Knows i (p.who k).id d ∧
        ∀ j, j ≠ i → p.row j ∈ digest.members → Knows i (p.who j).id d) c := by
  rw [GossipHost.observe_eq, hdigest.sender]
  have hown : Fiber.Heeds (course p) ((hostOver resolves answers i).read (·.self.id))
      (fun id _ => id = (p.who i).id) c := by
    apply read_heeds
    intro d _ hd
    rw [(hd.resident i).self]
  apply hown.andThen hc
  intro own d _ hd hid
  subst hid
  split
  · next hsame =>
    intro hki
    exact absurd (hp.ids k i hsame) hki
  · next hdiffers =>
    have hki : k ≠ i := by
      intro h
      exact hdiffers (h ▸ rfl)
    apply (clock_tame p d hd).andThen hd
    intro now e _ he _
    rw [hdigest.sender]
    apply (heartbeat_tame p _ now e he).andThen he
    intro _ x _ hx _
    apply (addMember_heeds hp hx hki).andThen hx
    intro _ y _ hy hknows
    refine (inquire_heeds hp htells hdigest.rows now hy).mono hy
      fun _ z hlater hz hlearned _ => ⟨stable_knows p i _ y z hlater hz hknows, hlearned⟩

/-! ## Rounds -/

/-- All nodes but one. -/
def others (i : Fin n) : List (Fin n) := (List.finRange n).filter (· ≠ i)

theorem mem_others {i j : Fin n} : j ∈ others i ↔ j ≠ i := by
  simp [others, List.mem_finRange]

theorem nodup_others (i : Fin n) : (others i).Nodup := (List.nodup_finRange n).filter _

/-- There are fewer others than nodes. -/
theorem length_others_lt (i : Fin n) : (others i).length < n := by
  have hless : (others i).length < (List.finRange n).length :=
    List.length_filter_lt_length_iff_exists.mpr ⟨i, List.mem_finRange i, by simp⟩
  rwa [List.length_finRange] at hless

/-- No node is twice a member. -/
theorem Resident.nodup_infos {m : Membership} (h : Resident p i m) :
    (m.peers.members.map Member.info).Nodup := by
  have hids : ((m.peers.members.map Member.info).map BrokerInfo.id).Nodup := by
    rw [List.map_map, (m.peers.perm_members.map _).nodup_iff]
    exact Dict.nodup_values_map h.tidy.nodup _ h.tidy.keyed
  exact hids.of_map _

/-- The members of a resident are other nodes. -/
theorem Resident.mem_infos {m : Membership} (h : Resident p i m) {info : BrokerInfo}
    (hinfo : info ∈ m.peers.members.map Member.info) : ∃ j, j ≠ i ∧ info = p.who j := by
  obtain ⟨x, hx, rfl⟩ := List.mem_map.mp hinfo
  exact h.genuine _ x ((h.tidy.mem_members x).mp hx)

/-- Whoever is known by its id is a member as the census has it. -/
theorem Resident.info_mem (hp : p.Proper) {m : Membership} (h : Resident p i m)
    (hknown : m.peers.contains (p.who j).id = true) :
    p.who j ∈ m.peers.members.map Member.info := by
  obtain ⟨x, hx⟩ := Option.isSome_iff_exists.mp hknown
  obtain ⟨k, -, hk⟩ := h.genuine _ x hx
  have hid : x.info.id = (p.who j).id := h.tidy.keyed _ x hx
  obtain rfl : k = j := hp.ids k j (hk ▸ hid)
  refine List.mem_map.mpr ⟨x, (h.tidy.mem_members x).mpr ?_, hk⟩
  rw [hid]
  exact hx

/-- A resident has fewer members than there are nodes. -/
theorem Resident.length_members {m : Membership} (h : Resident p i m) :
    m.peers.members.length < n := by
  have hsubset : m.peers.members.map Member.info ⊆ (others i).map p.who := by
    intro info hinfo
    obtain ⟨j, hji, rfl⟩ := h.mem_infos hinfo
    exact List.mem_map_of_mem (mem_others.mpr hji)
  have hle := (h.nodup_infos.subperm hsubset).length_le
  rw [List.length_map, List.length_map] at hle
  exact Nat.lt_of_le_of_lt hle (length_others_lt i)

/-- A node that knows all others has them as its members. -/
theorem Resident.perm_infos (hp : p.Proper) {m : Membership} (h : Resident p i m)
    (hall : ∀ j, j ≠ i → m.peers.contains (p.who j).id = true) :
    (m.peers.members.map Member.info).Perm ((others i).map p.who) := by
  have hinjective : Function.Injective p.who := by
    intro j k hjk
    exact hp.ids j k (congrArg _ hjk)
  have hnodup : ((others i).map p.who).Nodup := (nodup_others i).map hinjective
  apply (List.perm_ext_iff_of_nodup h.nodup_infos hnodup).mpr
  intro info
  constructor
  · intro hinfo
    obtain ⟨j, hji, rfl⟩ := h.mem_infos hinfo
    exact List.mem_map_of_mem (mem_others.mpr hji)
  · intro hinfo
    obtain ⟨j, hj, rfl⟩ := List.mem_map.mp hinfo
    exact h.info_mem hp (hall j (mem_others.mp hj))

/-- A digest lists the members, each with its id and its address. -/
theorem digest_members (m : Membership) :
    m.digest.members = (m.peers.members.map Member.info).map fun info => ⟨info.id, info.url⟩ := by
  rw [List.map_map]
  rfl

/-- What a resident tells in its digest is genuine. -/
theorem genuine_digest (hp : p.Proper) {m : Membership} (h : Resident p i m) :
    Genuine p i m.digest := by
  have hrows : ∀ row ∈ m.digest.members, ∃ j, row = p.row j := by
    intro row hrow
    rw [digest_members] at hrow
    obtain ⟨info, hinfo, rfl⟩ := List.mem_map.mp hrow
    obtain ⟨j, -, rfl⟩ := h.mem_infos hinfo
    exact ⟨j, rfl⟩
  refine ⟨h.self, hrows, ⟨?_, ?_, ?_, ?_⟩⟩
  · change m.self.Fits
    rw [h.self]
    exact hp.fits i
  · rw [digest_members, List.length_map, List.length_map]
    exact Nat.lt_of_lt_of_le h.length_members hp.few
  · intro row hrow
    obtain ⟨j, rfl⟩ := hrows row hrow
    exact (hp.fits j).id
  · intro row hrow
    obtain ⟨j, rfl⟩ := hrows row hrow
    exact hp.short j

/-- Whoever is known to a resident is listed in its digest. -/
theorem row_mem_digest (hp : p.Proper) {m : Membership} (h : Resident p i m)
    (hknown : m.peers.contains (p.who j).id = true) : p.row j ∈ m.digest.members := by
  rw [digest_members]
  exact List.mem_map.mpr ⟨p.who j, h.info_mem hp hknown, rfl⟩

/-- The answer of a node to a ping: it tells all that it knows at least, and from then on it
knows who asked. -/
def Greeted (p : Census n) (i j : Fin n) (message : GossipMessage) (c : Cluster n) : Prop :=
  (i ≠ j → Knows j (p.who i).id c) ∧
    ∃ told, message = .ack told ∧ Genuine p j told ∧ ∀ k, p.known j k → p.row k ∈ told.members

/-- Whoever was greeted remains so. -/
theorem stable_greeted (p : Census n) (i j : Fin n) (message : GossipMessage) :
    (course p).Stable (Greeted p i j message) := by
  rintro c d hlater hd ⟨hknows, htold⟩
  constructor
  · intro hij
    exact stable_knows p j _ c d hlater hd (hknows hij)
  · exact htold

/-- Nodes that are pinged by a node answer. -/
def Greets (p : Census n) (answers : Answers n) : Prop :=
  ∀ i j digest payload, Genuine p i digest → (GossipMessage.ping digest).toPayload = .ok payload →
    ∀ c, Sound p c → Fiber.Heeds (course p) (answers j payload) (Replies (Greeted p i j)) c

/-- Nodes that are pinged answer with their digest, and know the sender then. -/
theorem greets_answer (hp : p.Proper) (htells : Tells p answers) :
    Greets p fun i payload => (hostOver resolves answers i).answer payload := by
  intro i j digest payload hdigest hpayload c hc
  have hfits : (GossipMessage.ping digest).Fits := hdigest.fits
  refine answer_heeds hfits hpayload hc ?_
  apply (observe_heeds hp htells hdigest hc).andThen hc
  intro _ d _ hd hlearned
  have hread : Fiber.Heeds (course p) ((hostOver resolves answers j).read Membership.digest)
      (fun told e => (i ≠ j → Knows j (p.who i).id e) ∧ Genuine p j told ∧
        ∀ k, p.known j k → p.row k ∈ told.members) d := by
    apply read_heeds
    intro e hlater he
    refine ⟨?_, genuine_digest hp (he.resident j), ?_⟩
    · intro hij
      exact stable_knows p j _ d e hlater he (hlearned hij).1
    · intro k hk
      exact row_mem_digest hp (he.resident j) ((he.resident j).known k hk)
  apply hread.andThen hd
  intro told e _ _ htold
  obtain ⟨hknows, hgenuine, hall⟩ := htold
  exact ⟨.ack told, rfl, hgenuine.fits, hknows, told, rfl, hgenuine, hall⟩

/-- What an exchange with a node leaves behind. -/
def Met (p : Census n) (i : Fin n) (uri : String) (c : Cluster n) : Prop :=
  ∀ j, p.url j = uri → j ≠ i → Knows j (p.who i).id c ∧ Knows i (p.who j).id c ∧
    ∀ k, p.known j k → k ≠ i → Knows i (p.who k).id c

/-- Whoever met remains so. -/
theorem stable_met (p : Census n) (i : Fin n) (uri : String) :
    (course p).Stable (Met p i uri) := by
  intro c d hlater hd h j huri hji
  obtain ⟨hthere, hhere, hall⟩ := h j huri hji
  refine ⟨stable_knows p j _ c d hlater hd hthere, stable_knows p i _ c d hlater hd hhere, ?_⟩
  intro k hk hki
  exact stable_knows p i _ c d hlater hd (hall k hk hki)

/-- After an exchange with an address the node has met whoever is there. -/
theorem exchange_heeds (hp : p.Proper) (htells : Tells p answers) (hgreets : Greets p answers)
    {digest : Digest} (hdigest : Genuine p i digest) (hc : Sound p c) (uri : String) :
    Fiber.Heeds (course p) ((hostOver resolves answers i).exchange (.ping digest) uri)
      (fun _ => Met p i uri) c := by
  have hpayload := (GossipMessage.ping digest).toPayload_eq
  rw [GossipHost.exchange_eq]
  by_cases hreached : ∃ j, p.url j = uri
  · obtain ⟨j, rfl⟩ := hreached
    have hrequest : Fiber.Heeds (course p)
        ((hostOver resolves answers i).request (p.url j) (.ping digest))
        (fun r d => ∃ answer, r = .ok (some answer) ∧ Greeted p i j answer d) c :=
      request_heeds hp hc (stable_greeted p i j) hpayload fun d _ hd =>
        hgreets i j digest _ hdigest hpayload d hd
    apply hrequest.andThen hc
    intro result d _ hd hresult
    obtain ⟨answer, rfl, hknows, told, rfl, htold, hall⟩ := hresult
    apply (observe_heeds hp htells htold hd).mono hd
    intro _ e hlater he hlearned j' huri hji
    obtain rfl := hp.urls j' j huri
    obtain ⟨hhere, hrows⟩ := hlearned hji
    refine ⟨stable_knows p _ _ d e hlater he (hknows fun h => hji h.symm), hhere, ?_⟩
    intro k hk hki
    exact hrows k hki (hall k hk)
  · have hnobody : ∀ j, p.url j ≠ uri := by
      intro j hj
      exact hreached ⟨j, hj⟩
    apply (request_nobody hc hnobody hpayload).andThen hc
    intro result d _ _ hresult
    obtain ⟨fault, rfl⟩ := hresult
    intro j hj
    exact absurd hj (hnobody j)

/-- A seed other than the node itself is among the targets. -/
theorem mem_addSeeds {self uri : String} (huri : uri ≠ self) {seeds targets : List String}
    (h : uri ∈ targets ∨ uri ∈ seeds) : uri ∈ Membership.addSeeds self targets seeds := by
  induction seeds generalizing targets with
  | nil => exact h.resolve_right List.not_mem_nil
  | cons seed rest ih =>
    unfold Membership.addSeeds
    split
    · next hskipped =>
      rcases h with hmem | hmem
      · exact ih (.inl hmem)
      · rcases List.mem_cons.mp hmem with rfl | hmem
        · exact ih (.inl (hskipped.resolve_left huri))
        · exact ih (.inr hmem)
    · refine ih (h.elim (fun hmem => .inl (List.mem_append_left _ hmem)) ?_)
      intro hmem
      rcases List.mem_cons.mp hmem with rfl | hmem
      · exact .inl (List.mem_append_right _ List.mem_cons_self)
      · exact .inr hmem

/-- After a round a node has met all its seeds. -/
theorem round_heeds (hp : p.Proper) (htells : Tells p answers) (hgreets : Greets p answers)
    (hc : Sound p c) :
    Fiber.Heeds (course p) (hostOver resolves answers i).round
      (fun _ d => ∀ j, j ≠ i → p.url j ∈ (p.settings i).seeds → Met p i (p.url j) d) c := by
  apply (look_heeds fun _ _ _ => trivial : Fiber.Heeds (course p)
    ((hostOver resolves answers i).lookup brokerDestination) (fun _ _ => True) c).andThen hc
  intro found d _ hd _
  have htargets : Fiber.Heeds (course p)
      ((hostOver resolves answers i).read (Membership.targets · (found.getD [])))
      (fun targets _ => ∀ j, j ≠ i → p.url j ∈ (p.settings i).seeds → p.url j ∈ targets) d := by
    apply read_heeds
    intro e _ he j hji hseed
    refine mem_addSeeds ?_ (.inr (List.mem_append_left _ ?_))
    · rw [he.uri]
      intro huri
      exact hji (hp.urls j i huri)
    · rw [(he.resident i).settings]
      exact hseed
  apply htargets.andThen hd
  intro targets e _ he hcovered
  have hdigest : Fiber.Heeds (course p) ((hostOver resolves answers i).read Membership.digest)
      (fun digest _ => Genuine p i digest) e :=
    read_heeds fun x _ hx => genuine_digest hp (hx.resident i)
  apply hdigest.andThen he
  intro digest x _ hx hgenuine
  have hall : Fiber.Heeds (course p) (Fiber.all (targets.map
      ((hostOver resolves answers i).exchange (.ping digest))))
      (fun _ y => ∀ uri ∈ targets, Met p i uri y) x :=
    Fiber.Heeds.all (stable_met p i) fun uri _ =>
      exchange_heeds hp htells hgreets hgenuine hx uri
  apply hall.andThen hx
  intro _ y _ hy hmet
  have hsweep : Fiber.Tame (course p) (do
      let now ← (hostOver resolves answers i).clock
      (hostOver resolves answers i).change (Membership.forgetDeparted now)) :=
    (clock_tame p).bind fun now _ _ => act_heeds
      (fun m hm => ⟨hm.self, hm.settings, hm.tidy.of_byId rfl, hm.genuine,
        fun id => m.peers.departed_forgetDeparted now _ (hm.alive id), hm.known⟩)
      (fun _ => rfl) (fun _ _ h => h) fun _ _ _ => trivial
  have hstable : (course p).Stable fun z => ∀ uri ∈ targets, Met p i uri z := by
    intro z z' hlater hz' h uri huri
    exact stable_met p i uri z z' hlater hz' (h uri huri)
  apply (hsweep.heeds hstable hy hmet).mono hy
  intro _ z _ _ hmet j hji hseed
  exact hmet _ (hcovered j hji hseed)

end Cluster

end ServiceMesh
