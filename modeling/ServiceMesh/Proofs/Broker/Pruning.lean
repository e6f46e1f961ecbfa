import ServiceMesh.Proofs.Broker.Pair
import ServiceMesh.Proofs.Broker.Reach
import ServiceMesh.Proofs.Gossip.Tracking

/-!
# Pruning after departures

A `Watch` is a broker that follows its members: a membership, whatever it handles, and the
routes of the broker, which hears events and takes in providers of its own.  The broker
follows the changes of the members one after the other, and may be behind.  Exposures that
it hears go through the address of some member.

When the broker follows a departure, it removes exactly the responders that were reached
through the last address of the member that departed.  So a responder that is reached
through another broker then stays if and only if a member is at its address, with two
exceptions (`Watch.prune_exact_but`): another member may be at the address of the one that
departed, and an address may have been given up for another one, which nothing tells.
-/

namespace ServiceMesh

/-! ## What is pruned -/

namespace RouteTable

variable {t : RouteTable}

theorem get?_removeAll (ids : List Uuid) : ∀ (t : RouteTable) (id : Uuid),
    (Broker.removeAll ids t).1.get? id = if id ∈ ids then none else t.get? id := by
  induction ids with
  | nil =>
    intro t id
    exact (if_neg List.not_mem_nil).symm
  | cons x rest ih =>
    intro t id
    refine (ih (t.remove x).2.1 id).trans ?_
    rw [get?_remove]
    by_cases hrest : id ∈ rest
    · rw [if_pos hrest, if_pos (List.mem_cons_of_mem x hrest)]
    · rw [if_neg hrest]
      by_cases hx : x = id
      · rw [if_pos hx, if_pos (hx ▸ List.mem_cons_self)]
      · rw [if_neg hx, if_neg fun h => (List.mem_cons.mp h).elim (fun he => hx he.symm) hrest]

theorem Consistent.mem_through (h : t.Consistent) (uri : String) (id : Uuid) :
    id ∈ Broker.through uri t ↔ ∃ r, t.get? id = some r ∧ r.route = .peer uri := by
  unfold Broker.through
  rw [List.mem_map]
  constructor
  · rintro ⟨r, hr, rfl⟩
    obtain ⟨hmem, hroute⟩ := List.mem_filter.mp hr
    exact ⟨r, (h.mem_responders r).mp hmem, of_decide_eq_true hroute⟩
  · rintro ⟨r, hget, hroute⟩
    have hid : r.id = id := h.keyed id r hget
    refine ⟨r, List.mem_filter.mpr ⟨(h.mem_responders r).mpr ?_, decide_eq_true hroute⟩, hid⟩
    rw [hid]
    exact hget

/-- Pruning removes the responders that are reached through an address, and no others. -/
theorem Consistent.get?_prune (h : t.Consistent) (uri : String) (id : Uuid) (r : Responder) :
    (Broker.pruneSection uri t).2.1.get? id = some r
      ↔ t.get? id = some r ∧ r.route ≠ .peer uri := by
  have hremoved : (Broker.pruneSection uri t).2.1.get? id
      = if id ∈ Broker.through uri t then none else t.get? id :=
    get?_removeAll (Broker.through uri t) t id
  rw [hremoved]
  by_cases hthrough : id ∈ Broker.through uri t
  · rw [if_pos hthrough]
    obtain ⟨x, hx, hroute⟩ := (h.mem_through uri id).mp hthrough
    refine iff_of_false (fun hnone => by cases hnone) ?_
    rintro ⟨hget, hother⟩
    cases hx.symm.trans hget
    exact hother hroute
  · rw [if_neg hthrough]
    refine ⟨fun hget => ⟨hget, ?_⟩, And.left⟩
    intro hroute
    exact hthrough ((h.mem_through uri id).mpr ⟨r, hget, hroute⟩)

end RouteTable

/-! ## What follows a change of the members -/

namespace Home

variable {h : Home}

/-- What leaves a broker as it is may be done one after the other. -/
theorem run_bind {α β : Type} {x : StateM Home α} {f : α → StateM Home β}
    (hx : (x.run h).2 = h) (hf : ∀ a, ((f a).run h).2 = h) : ((x >>= f).run h).2 = h := by
  change ((f (x.run h).1).run (x.run h).2).2 = h
  rw [hx]
  exact hf _

theorem run_sendAll (uri peerUri : String) (events : List Event) (h : Home) :
    (((host uri).sendAll peerUri events).run h).2 = h := by
  induction events with
  | nil => rfl
  | cons event rest ih => exact ih

theorem run_replayAll (uri peerUri : String) (rs : List Responder) (h : Home) :
    (((host uri).replayAll peerUri rs).run h).2 = h := by
  induction rs with
  | nil => rfl
  | cons r rest ih =>
    apply run_bind rfl
    intro found
    cases found with
    | none => exact ih
    | some now =>
      apply run_bind (run_sendAll uri peerUri _ h)
      intro sent
      cases sent with
      | false => rfl
      | true =>
        apply run_bind ih
        intro _
        rfl

/-- Whom a broker tells about its providers does not matter to its routes. -/
theorem follow_added (uri : String) (info : BrokerInfo) (h : Home) :
    (((host uri).follow (.added info)).run h).2 = h := by
  refine run_bind ?_ fun _ => rfl
  apply run_bind rfl
  intro rs
  exact run_replayAll uri info.url rs h

theorem follow_removed (uri : String) (info : BrokerInfo) (reason : Departure) (h : Home) :
    (((host uri).follow (.removed info reason)).run h).2
      = h.withTable (Broker.pruneSection info.url h.table).2.1 := rfl

end Home

/-! ## How a responder comes to be reached through a broker -/

/-- After an event a responder is reached through a broker if it was before, or if the event
exposes it there. -/
theorem Event.route_effect {selfUri : Option String} {event : Event} {o : Option Responder}
    {r : Responder} {uri : String} (hr : event.effect selfUri o = some r)
    (hroute : r.route = .peer uri) :
    (∃ known, o = some known ∧ known.route = .peer uri) ∨
      ∃ id appName services, event = .servicesExposed id appName services (some uri) := by
  cases event with
  | servicesExposed id appName services brokerUri =>
    cases brokerUri with
    | none =>
      obtain ⟨known, hknown, rfl⟩ := Option.map_eq_some_iff.mp hr
      exact .inl ⟨known, hknown, hroute⟩
    | some exposedUri =>
      simp only [effect, exposed] at hr
      split at hr
      · exact .inl ⟨r, hr, hroute⟩
      · cases o with
        | none =>
          cases hr
          cases hroute
          exact .inr ⟨id, appName, services, rfl⟩
        | some known =>
          simp only at hr
          split at hr
          · cases hr
            cases hroute
            exact .inr ⟨id, appName, services, rfl⟩
          · cases hr
            exact .inl ⟨known, rfl, hroute⟩
  | servicesHidden id appName services =>
    obtain ⟨known, hknown, rfl⟩ := Option.map_eq_some_iff.mp hr
    rw [Responder.withdrawing_route] at hroute
    exact .inl ⟨known, hknown, hroute⟩
  | appStatusChanged id appName status =>
    simp only [effect] at hr
    split at hr
    · cases hr
    · obtain ⟨known, hknown, rfl⟩ := Option.map_eq_some_iff.mp hr
      exact .inl ⟨known, hknown, hroute⟩
  | configChanged appName key value => exact .inl ⟨r, hr, hroute⟩
  | portsUpdated id ports => exact .inl ⟨r, hr, hroute⟩
  | clusterChanged destination uris => exact .inl ⟨r, hr, hroute⟩
  | cacheInvalidate appName keys => exact .inl ⟨r, hr, hroute⟩

namespace Deed

/-- A provider that connected stands on its link, whatever stood there before. -/
theorem admitted_route (setup : Setup) (link : LinkId) (o : Option Responder) :
    (admitted setup link o).route = .direct link := by
  have hbase : ((o.filter fun r => !Broker.givesWay r link).getD
      { app := setup.app, route := .direct link }).route = .direct link := by
    cases hstays : o.filter fun r => !Broker.givesWay r link with
    | none => rfl
    | some r =>
      obtain ⟨-, hlink⟩ := Option.filter_eq_some_iff.mp hstays
      have hlink : r.link? = some link := by simpa [Broker.givesWay] using hlink
      change r.route = .direct link
      cases hroute : r.route with
      | direct link' => simpa [Responder.link?, hroute] using hlink
      | peer uri => simp [Responder.link?, hroute] at hlink
  unfold admitted
  simp only
  split
  · exact hbase
  · rw [Responder.exposing_route]
    exact hbase

theorem ifHere_eq_some {o : Option Responder} {act : Responder → Option Responder × Event}
    {r : Responder} (hr : (ifHere o act).1 = some r) :
    o = some r ∨ ∃ here, here.isRemote = false ∧ (act here).1 = some r := by
  unfold ifHere at hr
  split at hr
  · next here hhere =>
    obtain ⟨-, hdirect⟩ := Option.filter_eq_some_iff.mp hhere
    exact .inr ⟨here, by simpa using hdirect, hr⟩
  · exact .inl hr

/-- After a deed a responder is reached through another broker only if it was before. -/
theorem effect_of_isRemote_after {uri : String} {d : Deed} {o : Option Responder} {r : Responder}
    (hr : (d.effect uri o).1 = some r) (hremote : r.isRemote = true) : o = some r := by
  cases d with
  | connect setup link =>
    simp only [effect] at hr
    split at hr
    · exact hr
    · cases hr
      simp [Responder.isRemote, admitted_route] at hremote
  | disconnect id link =>
    simp only [effect] at hr
    split at hr
    · cases hr
    · exact hr
  | expose id services =>
    rcases ifHere_eq_some hr with ho | ⟨here, hdirect, hact⟩
    · exact ho
    · cases hact
      cases hdirect.symm.trans hremote
  | hide id services =>
    rcases ifHere_eq_some hr with ho | ⟨here, hdirect, hact⟩
    · exact ho
    · cases hact
      simp only [Responder.isRemote, Responder.withdrawing_route] at hdirect hremote
      cases hdirect.symm.trans hremote
  | setStatus id status =>
    rcases ifHere_eq_some hr with ho | ⟨here, hdirect, hact⟩
    · exact ho
    · simp only at hact
      split at hact
      · cases hact
      · cases hact
        cases hdirect.symm.trans hremote

end Deed

/-! ## A broker that follows its members -/

/-- A broker, its membership, and how many changes of the members it has followed. -/
structure Watch where
  meeting : Meeting
  home : Home
  followed : Nat := 0

namespace Watch

/-- A broker that knows neither members nor providers. -/
def new (self : BrokerInfo) (settings : MembershipSettings) (destination : String)
    (poolSettings : PoolSettings) (localApp : String) : Watch where
  meeting := Meeting.new self settings destination poolSettings
  home := Home.new self.url localApp

/-- The addresses of the members. -/
def uris (w : Watch) : List String := w.meeting.node.membership.peers.uris

/-- The changes of the members that the broker has not followed yet, oldest first. -/
def ahead (w : Watch) : List MembershipChange :=
  w.meeting.node.membership.history.drop w.followed

/-- Whether an event exposes nothing, or exposes through the address of a member. -/
def admits (w : Watch) : Event → Bool
  | .servicesExposed _ _ _ (some uri) => w.uris.contains uri
  | _ => true

/-- What can happen next. -/
inductive Move where
  /-- The membership does something. -/
  | gossip (move : Meeting.Move)
  /-- The broker hears an event. -/
  | hear (event : Event)
  /-- The broker does something about a provider of its own. -/
  | act (deed : Deed)
  /-- The broker follows the next change of the members. -/
  | follow

/-- What becomes of a broker by a move. -/
def move (resolves : String → Bool) (w : Watch) : Move → Watch
  | .gossip mv => { w with meeting := w.meeting.move resolves mv }
  | .hear event => if w.admits event then { w with home := w.home.hear event } else w
  | .act deed => { w with home := w.home.perform deed }
  | .follow =>
      match w.ahead.head? with
      | some change =>
          { w with
            home := (((Home.host w.home.uri).follow change).run w.home).2
            followed := w.followed + 1 }
      | none => w

/-- What becomes of a broker by moves one after the other. -/
def run (resolves : String → Bool) (w : Watch) (moves : List Move) : Watch :=
  moves.foldl (move resolves) w

/-! ## Where the routes lead -/

/-- Every route through another broker leads to the address of a member, or of one whose
departure the broker has yet to follow, or to an address that a member gave up. -/
structure Sound (w : Watch) : Prop where
  settled : w.meeting.Settled Node.tracking
  inOrder : w.home.InOrder
  consistent : w.home.table.Consistent
  behind : w.followed ≤ w.meeting.node.membership.history.length
  leads : ∀ id r uri, w.home.table.get? id = some r → r.route = .peer uri →
    uri ∈ w.uris ∨ Departed w.ahead uri ∨ uri ∈ w.meeting.node.moved

theorem sound_new (self : BrokerInfo) (settings : MembershipSettings) (destination : String)
    (poolSettings : PoolSettings) (localApp : String) :
    (new self settings destination poolSettings localApp).Sound where
  settled := Meeting.settled_new PeerTable.tidy_empty
  inOrder := Home.inOrder_new self.url localApp
  consistent := RouteTable.consistent_empty
  behind := Nat.le_refl 0
  leads := by
    intro id r uri hget
    cases hget

variable {resolves : String → Bool} {w : Watch}

theorem Sound.gossip (h : w.Sound) (mv : Meeting.Move) :
    (w.move resolves (.gossip mv)).Sound := by
  obtain ⟨hsettled, hmoved, new, hnew, htracks⟩ := h.settled.tracks resolves mv
  have hahead : (w.move resolves (.gossip mv)).ahead = w.ahead ++ new := by
    unfold ahead
    change (w.meeting.move resolves mv).node.membership.history.drop w.followed = _
    rw [hnew, List.drop_append_of_le_length h.behind]
  refine ⟨hsettled, h.inOrder, h.consistent, ?_, ?_⟩
  · change w.followed ≤ (w.meeting.move resolves mv).node.membership.history.length
    rw [hnew, List.length_append]
    exact Nat.le_add_right_of_le h.behind
  · intro id r uri hget hroute
    rw [hahead]
    rcases h.leads id r uri hget hroute with hmember | hdeparted | hgiven
    · rcases htracks uri hmember with hstays | hdeparted | hgiven
      · exact .inl hstays
      · exact .inr (.inl (hdeparted.mono (List.subset_append_right w.ahead new)))
      · exact .inr (.inr hgiven)
    · exact .inr (.inl (hdeparted.mono (List.subset_append_left w.ahead new)))
    · exact .inr (.inr (hmoved hgiven))

theorem Sound.hear (h : w.Sound) (event : Event) : (w.move resolves (.hear event)).Sound := by
  unfold move
  simp only
  split
  · next hadmits =>
    refine ⟨h.settled, h.inOrder.hear event, ?_, h.behind, ?_⟩
    · exact (Home.reaches_hear event w.home).consistent h.consistent
    · intro id r uri hget hroute
      rw [Home.get?_hear h.inOrder] at hget
      split at hget
      · rcases Event.route_effect hget hroute with ⟨known, hknown, hsame⟩ | ⟨_, _, _, rfl⟩
        · exact h.leads id known uri hknown hsame
        · exact .inl (List.contains_iff_mem.mp hadmits)
      · exact h.leads id r uri hget hroute
  · exact h

theorem Sound.act (h : w.Sound) (deed : Deed) : (w.move resolves (.act deed)).Sound := by
  have hperformed := h.inOrder.perform deed
  refine ⟨h.settled, hperformed.inOrder, ?_, h.behind, ?_⟩
  · exact (Home.reaches_perform deed w.home).consistent h.consistent
  · intro id r uri hget hroute
    have hremote : r.isRemote = true := by simp [Responder.isRemote, hroute]
    have hget : (w.home.perform deed).table.get? id = some r := hget
    rw [hperformed.table] at hget
    split at hget
    · exact h.leads id r uri (Deed.effect_of_isRemote_after hget hremote) hroute
    · exact h.leads id r uri hget hroute

theorem move_follow (resolves : String → Bool) {change : MembershipChange}
    (hnext : w.ahead.head? = some change) :
    w.move resolves .follow = { w with
      home := (((Home.host w.home.uri).follow change).run w.home).2
      followed := w.followed + 1 } := by
  simp only [move, hnext]

/-- Who follows a change is behind by one change less. -/
theorem ahead_follow (resolves : String → Bool) {change : MembershipChange}
    (hnext : w.ahead.head? = some change) :
    w.ahead = change :: (w.move resolves .follow).ahead := by
  obtain ⟨rest, hrest⟩ := List.head?_eq_some_iff.mp hnext
  have htail : w.ahead.tail = w.meeting.node.membership.history.drop (w.followed + 1) :=
    List.tail_drop
  rw [hrest, List.tail_cons] at htail
  rw [hrest, move_follow resolves hnext, htail]
  rfl

/-- Following a departure removes what was reached through the departed, and nothing else. -/
theorem Sound.get?_follow (h : w.Sound) (resolves : String → Bool) {info : BrokerInfo}
    {reason : Departure} (hnext : w.ahead.head? = some (.removed info reason)) (id : Uuid)
    (r : Responder) :
    (w.move resolves .follow).home.table.get? id = some r
      ↔ w.home.table.get? id = some r ∧ r.route ≠ .peer info.url := by
  rw [move_follow resolves hnext, Home.follow_removed]
  exact h.consistent.get?_prune info.url id r

theorem departed_cons {change : MembershipChange} {rest : List MembershipChange} {uri : String}
    (h : Departed (change :: rest) uri) :
    (∃ info reason, change = .removed info reason ∧ info.url = uri) ∨ Departed rest uri := by
  obtain ⟨info, reason, hmem, hurl⟩ := h
  rcases List.mem_cons.mp hmem with hhead | hrest
  · exact .inl ⟨info, reason, hhead.symm, hurl⟩
  · exact .inr ⟨info, reason, hrest, hurl⟩

theorem Sound.follow (h : w.Sound) : (w.move resolves .follow).Sound := by
  cases hnext : w.ahead.head? with
  | none =>
    have hsame : w.move resolves .follow = w := by simp only [move, hnext]
    rw [hsame]
    exact h
  | some change =>
    have hahead := ahead_follow resolves hnext
    have hbehind : w.followed + 1 ≤ w.meeting.node.membership.history.length := by
      have hlength := congrArg List.length hahead
      rw [ahead, List.length_drop, List.length_cons] at hlength
      omega
    cases change with
    | added info =>
      have hmove := move_follow resolves hnext
      rw [Home.follow_added] at hmove
      rw [hmove] at hahead ⊢
      refine ⟨h.settled, h.inOrder, h.consistent, hbehind, ?_⟩
      intro id r uri hget hroute
      rcases h.leads id r uri hget hroute with hmember | hdeparted | hgiven
      · exact .inl hmember
      · rw [hahead] at hdeparted
        rcases departed_cons hdeparted with ⟨_, _, hadded, -⟩ | hdeparted
        · cases hadded
        · exact .inr (.inl hdeparted)
      · exact .inr (.inr hgiven)
    | removed info reason =>
      have hget? := h.get?_follow resolves hnext
      have hconsistent := (w.home.table.reaches_prune info.url).consistent h.consistent
      rw [move_follow resolves hnext, Home.follow_removed] at hahead hget? ⊢
      refine ⟨h.settled, h.inOrder.withTable hconsistent.keyed, hconsistent, hbehind, ?_⟩
      intro id r uri hget hroute
      obtain ⟨hget, hother⟩ := (hget? id r).mp hget
      rcases h.leads id r uri hget hroute with hmember | hdeparted | hgiven
      · exact .inl hmember
      · rw [hahead] at hdeparted
        rcases departed_cons hdeparted with ⟨_, _, hremoved, hurl⟩ | hdeparted
        · cases hremoved
          rw [hurl] at hother
          exact absurd hroute hother
        · exact .inr (.inl hdeparted)
      · exact .inr (.inr hgiven)

/-- One move keeps all routes leading somewhere. -/
theorem Sound.move (h : w.Sound) (mv : Move) : (w.move resolves mv).Sound := by
  cases mv with
  | gossip mv => exact h.gossip mv
  | hear event => exact h.hear event
  | act deed => exact h.act deed
  | follow => exact h.follow

theorem Sound.run (h : w.Sound) (moves : List Move) : (w.run resolves moves).Sound := by
  induction moves generalizing w with
  | nil => exact h
  | cons mv rest ih => exact ih (h.move mv)

/-- Whatever a broker and its membership did before: when it follows the departure of a
member, exactly the responders go that are reached through the last address of that member.
So one that is reached through a broker stays if and only if a member is at its address,
unless it goes although another member is at the address, or stays because the departure
from its address is yet to be followed or was no departure: the member gave up the
address. -/
theorem prune_exact_but (resolves : String → Bool) (self : BrokerInfo)
    (settings : MembershipSettings) (destination : String) (poolSettings : PoolSettings)
    (localApp : String) (moves : List Move) {info : BrokerInfo} {reason : Departure}
    (hnext : ((new self settings destination poolSettings localApp).run resolves
      moves).ahead.head? = some (.removed info reason)) :
    let w := (new self settings destination poolSettings localApp).run resolves moves
    let w' := w.move resolves .follow
    (∀ id r, w'.home.table.get? id = some r
      ↔ w.home.table.get? id = some r ∧ r.route ≠ .peer info.url) ∧
    ∀ id r uri, w.home.table.get? id = some r → r.route = .peer uri →
      (w'.home.table.get? id = some r ↔ uri ∈ w'.uris) ∨
      (uri = info.url ∧ uri ∈ w'.uris) ∨
      (uri ≠ info.url ∧ uri ∉ w'.uris ∧
        (Departed w'.ahead uri ∨ uri ∈ w'.meeting.node.moved)) := by
  intro w w'
  have hsound : w.Sound := (sound_new self settings destination poolSettings localApp).run moves
  have hget? := hsound.get?_follow resolves hnext
  have hafter : w'.Sound := hsound.follow
  refine ⟨hget?, ?_⟩
  intro id r uri hget hroute
  by_cases hurl : uri = info.url
  · have hgone : w'.home.table.get? id ≠ some r := by
      intro hstays
      refine ((hget? id r).mp hstays).2 ?_
      rw [hroute, hurl]
    by_cases hmember : uri ∈ w'.uris
    · exact .inr (.inl ⟨hurl, hmember⟩)
    · exact .inl (iff_of_false hgone hmember)
  · have hother : r.route ≠ .peer info.url := by
      rw [hroute]
      intro hsame
      cases hsame
      exact hurl rfl
    have hstays : w'.home.table.get? id = some r := (hget? id r).mpr ⟨hget, hother⟩
    by_cases hmember : uri ∈ w'.uris
    · exact .inl (iff_of_true hstays hmember)
    · exact .inr (.inr ⟨hurl, hmember,
        (hafter.leads id r uri hstays hroute).resolve_left hmember⟩)

namespace Sample

open Meeting.Sample (other)
open Pair.Sample (someId echo)

/-- The other broker comes, exposes a provider through its address, comes again with
another port, and leaves. -/
def moves : List Move :=
  [.gossip (.start (.handle (.ping ⟨other 9999, []⟩))), .gossip (.turn 0), .follow,
   .hear (.servicesExposed someId "echo" [echo] (some "local://b2:9999")),
   .gossip (.start (.handle (.ping ⟨other 9998, []⟩))), .gossip (.turn 1),
   .gossip (.start (.handle (.leave "b2"))), .gossip (.turn 2)]

end Sample

open Sample Meeting.Sample Pair.Sample in
/-- A route through an address that a member gave up stays when the member leaves. -/
theorem prune_misses_left_address :
    let w := (new own settings "_meshrpc_broker" {} "").run (fun _ => true) moves
    w.ahead.head? = some (.removed (other 9998) .left) ∧
      (w.move (fun _ => true) .follow).uris = [] ∧
      (w.move (fun _ => true) .follow).home.table.get? someId
        = some ((remoteResponder someId "echo" "local://b2:9999").exposing [echo]) := by
  have hnext : ((new own settings "_meshrpc_broker" {} "").run (fun _ => true)
      moves).ahead.head? = some (.removed (other 9998) .left) := by decide +kernel
  have hprune := prune_exact_but (fun _ => true) own settings "_meshrpc_broker" {} "" moves hnext
  refine ⟨hnext, ?_, (hprune.1 someId _).mpr ⟨?_, ?_⟩⟩
  · decide +kernel
  · decide +kernel
  · decide +kernel

end Watch

end ServiceMesh
