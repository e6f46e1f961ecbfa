import ServiceMesh.Proofs.Broker.Life
import ServiceMesh.Proofs.Broker.Mirror

/-!
# The replay of routes

A broker replays its routes to another one: it exposes every provider that is connected to it
and serves something, and tells which of these are down.  `Pair.replay` runs the broker's own
definition, and what it sends arrives at the other broker, in order.

The other broker then knows every such provider through the one, with the services that it has
there, and takes it for serving unless it is down (`Pair.Joins.get?_replay`).  So a provider
that has services and is merely connected is taken for serving, and the other broker has the
same providers serve through the one as the one itself exactly if there is no such provider
(`Pair.replay_agrees_iff`).
-/

namespace ServiceMesh

namespace Responder

/-- Whether a broker tells others of a responder. -/
def isAnnounced (r : Responder) : Bool := !r.isRemote && !r.services.isEmpty

theorem isAnnounced_iff (r : Responder) :
    r.isAnnounced = true ↔ r.isRemote = false ∧ r.services ≠ [] := by
  simp [isAnnounced]

/-- What others hold of a responder that was replayed to them. -/
def replayed (uri : String) (r : Responder) : Responder :=
  { (remoteResponder r.id r.app.name uri).exposing r.services with
    status := if r.status = .down then .down else .serving }

theorem mem_replayed (uri : String) (r : Responder) (l : Locator) :
    l ∈ (r.replayed uri).services ↔ l ∈ r.services := by
  refine (mem_exposing (remoteResponder r.id r.app.name uri) r.services l).trans ?_
  exact or_iff_right List.not_mem_nil

theorem isServing_replayed (uri : String) (r : Responder) :
    (r.replayed uri).isServing = true ↔ r.status ≠ .down := by
  rw [isServing_iff, replayed]
  by_cases hdown : r.status = .down
  · simp [hdown]
  · simp [hdown]

end Responder

/-! ## What is sent -/

namespace Home

/-- Hears events one after the other. -/
def hearAll (events : List Event) (h : Home) : Home := events.foldl (fun h event => h.hear event) h

theorem hearAll_append (events more : List Event) (h : Home) :
    h.hearAll (events ++ more) = (h.hearAll events).hearAll more := List.foldl_append

theorem uri_hearAll (events : List Event) (h : Home) : (h.hearAll events).uri = h.uri := by
  induction events generalizing h with
  | nil => rfl
  | cons event rest ih => exact (ih (h.hear event)).trans (uri_hear event h)

theorem InOrder.hearAll {h : Home} (ho : h.InOrder) (events : List Event) :
    (h.hearAll events).InOrder := by
  induction events generalizing h with
  | nil => exact ho
  | cons event rest ih => exact ih (ho.hear event)

end Home

namespace Pair

/-- The surroundings of the one broker.  What it sends to the other one arrives there. -/
def host (uri : String) : BrokerHost (StateM Pair) where
  uri := uri
  routes f := modifyGet fun p => ((f p.a.table).1, { p with a := p.a.withTable (f p.a.table).2.1 })
  publish event := modify fun p => { p with a := p.a.publish event }
  sendTo peerUri event := modifyGet fun p =>
    if peerUri = p.b.uri then (.ok (), { p with b := p.b.hear event })
    else (.error (.connectionClosed peerUri), p)
  linkUri _ := pure ""
  watch _ _ := pure ()

/-- The one broker replays its routes to the other, and counts the providers that it told of. -/
def replay (p : Pair) : Nat × Pair := ((host p.a.uri).replay p.b.uri).run p

/-- The events by which responders are replayed. -/
def told (uri : String) (rs : List Responder) : List Event :=
  (rs.filter Responder.isAnnounced).flatMap (Broker.replayOf uri)

/-- The other broker hears events. -/
def hearing (events : List Event) (p : Pair) : Pair := { p with b := p.b.hearAll events }

theorem hearing_append (events more : List Event) (p : Pair) :
    p.hearing (events ++ more) = (p.hearing events).hearing more := by
  unfold hearing
  rw [Home.hearAll_append]

theorem uri_hearing (events : List Event) (p : Pair) : (p.hearing events).b.uri = p.b.uri :=
  Home.uri_hearAll events p.b

theorem run_bind_eq {α β : Type} {x : StateM Pair α} {p q : Pair} {a : α} (hx : x.run p = (a, q))
    (f : α → StateM Pair β) : (x >>= f).run p = (f a).run q := by
  change (f (x.run p).1).run (x.run p).2 = (f a).run q
  rw [hx]

theorem run_sendAll (uri : String) (events : List Event) :
    ∀ p : Pair, ((host uri).sendAll p.b.uri events).run p = (true, p.hearing events) := by
  induction events with
  | nil =>
    intro p
    rfl
  | cons event rest ih =>
    intro p
    have hsent := ih { p with b := p.b.hear event }
    rw [Home.uri_hear] at hsent
    have hsend : ((host uri).sendTo p.b.uri event).run p
        = (.ok (), { p with b := p.b.hear event }) := if_pos rfl
    exact (run_bind_eq hsend _).trans hsent

theorem current?_of_mem {t : RouteTable} {r : Responder} (hget : t.get? r.id = some r) :
    Broker.current? r t = if r.isAnnounced then some r else none := by
  unfold Broker.current?
  rw [hget, Option.filter_some]
  simp [Responder.isAnnounced]

theorem run_replayAll (uri : String) (rs : List Responder) :
    ∀ p : Pair, (∀ r ∈ rs, p.a.table.get? r.id = some r) →
      ((host uri).replayAll p.b.uri rs).run p
        = ((rs.filter Responder.isAnnounced).length, p.hearing (told uri rs)) := by
  induction rs with
  | nil =>
    intro p _
    rfl
  | cons r rest ih =>
    intro p hknown
    have hrest : ∀ q : Pair, q.a = p.a → ∀ x ∈ rest, q.a.table.get? x.id = some x := by
      intro q hq x hx
      exact hq ▸ hknown x (List.mem_cons_of_mem r hx)
    have hread : ((host uri).readRoutes (Broker.current? r)).run p
        = (Broker.current? r p.a.table, p) := rfl
    have hsent := run_sendAll uri (Broker.replayOf uri r) p
    have hafter := ih (p.hearing (Broker.replayOf uri r)) (hrest _ rfl)
    rw [uri_hearing] at hafter
    refine (run_bind_eq hread _).trans ?_
    rw [current?_of_mem (hknown r List.mem_cons_self)]
    cases hannounced : r.isAnnounced with
    | false =>
      rw [told, List.filter_cons_of_neg (by simp [hannounced])]
      exact ih p (hrest p rfl)
    | true =>
      rw [told, List.filter_cons_of_pos hannounced, List.flatMap_cons, hearing_append]
      exact (run_bind_eq hsent _).trans (run_bind_eq hafter _)

/-- The other broker hears what is told of the providers, and nothing else becomes of the two. -/
theorem replay_eq (p : Pair) (ha : p.a.Settled) :
    p.replay = ((p.a.table.responders.filter Responder.isAnnounced).length,
      p.hearing (told p.a.uri p.a.table.responders)) := by
  have hread : ((host p.a.uri).readRoutes RouteTable.responders).run p
      = (p.a.table.responders, p) := rfl
  refine (run_bind_eq hread _).trans ?_
  apply run_replayAll p.a.uri _ p
  intro r hr
  exact (ha.consistent.mem_responders r).mp hr

/-! ## What the other broker holds then -/

/-- A provider that is told of to a broker that does not know it. -/
theorem get?_hear_replayOf {b : Home} (hb : b.InOrder) {uri : String} (hne : uri ≠ b.uri)
    {r : Responder} (hunknown : b.table.get? r.id = none) (id : Uuid) :
    (b.hearAll (Broker.replayOf uri r)).table.get? id
      = if r.id = id then some (r.replayed uri) else b.table.get? id := by
  have hexposed : (b.hear (Broker.exposure uri r r.services)).table.get? id
      = if r.id = id then some ((remoteResponder r.id r.app.name uri).exposing r.services)
        else b.table.get? id := by
    rw [Home.get?_hear hb]
    by_cases hid : r.id = id
    · subst hid
      simp [Broker.exposure, Event.subject?, Event.effect, Event.exposed, hne, hunknown]
    · simp [Broker.exposure, Event.subject?, hid]
  by_cases hdown : r.status = .down
  · have hhear : b.hearAll (Broker.replayOf uri r)
        = (b.hear (Broker.exposure uri r r.services)).hear
          (.appStatusChanged r.id r.app.name .down) := by
      rw [Broker.replayOf, if_pos hdown]
      rfl
    rw [hhear, Home.get?_hear (hb.hear _), hexposed]
    by_cases hid : r.id = id
    · subst hid
      simp [Event.subject?, Event.effect, Responder.replayed, hdown]
    · simp [Event.subject?, hid]
  · have hhear : b.hearAll (Broker.replayOf uri r) = b.hear (Broker.exposure uri r r.services) := by
      rw [Broker.replayOf, if_neg hdown]
      rfl
    rw [hhear, hexposed, Responder.replayed, if_neg hdown]
    rfl

/-- Providers that are told of to a broker that knows none of them. -/
theorem get?_hear_flatMap {uri : String} (rs : List Responder) :
    ∀ {b : Home}, b.InOrder → uri ≠ b.uri → (rs.map Responder.id).Nodup →
      (∀ r ∈ rs, b.table.get? r.id = none) →
      (∀ r ∈ rs, (b.hearAll (rs.flatMap (Broker.replayOf uri))).table.get? r.id
        = some (r.replayed uri)) ∧
      ∀ id ∉ rs.map Responder.id,
        (b.hearAll (rs.flatMap (Broker.replayOf uri))).table.get? id = b.table.get? id := by
  induction rs with
  | nil => exact fun _ _ _ _ => ⟨fun _ h => absurd h List.not_mem_nil, fun _ _ => rfl⟩
  | cons r rest ih =>
    intro b hb hne hnodup hunknown
    obtain ⟨hfresh, hnodup⟩ := List.nodup_cons.mp hnodup
    have hfirst := get?_hear_replayOf hb hne (hunknown r List.mem_cons_self)
    have hstill : ∀ x ∈ rest,
        (b.hearAll (Broker.replayOf uri r)).table.get? x.id = none := by
      intro x hx
      have hother : r.id ≠ x.id := by
        intro heq
        exact hfresh (heq ▸ List.mem_map_of_mem hx)
      rw [hfirst, if_neg hother]
      exact hunknown x (List.mem_cons_of_mem r hx)
    have huri : uri ≠ (b.hearAll (Broker.replayOf uri r)).uri := by rwa [Home.uri_hearAll]
    obtain ⟨hmem, hnot⟩ := ih (hb.hearAll _) huri hnodup hstill
    rw [List.flatMap_cons, Home.hearAll_append]
    constructor
    · intro x hx
      rcases List.mem_cons.mp hx with rfl | hx
      · rw [hnot x.id hfresh, hfirst, if_pos rfl]
      · exact hmem x hx
    · intro id hid
      rw [List.map_cons, List.mem_cons, not_or] at hid
      rw [hnot id hid.2, hfirst, if_neg (Ne.symm hid.1)]

/-- The other broker joins the one: it is elsewhere, and knows none of the providers that are
connected to the one. -/
structure Joins (p : Pair) : Prop where
  a : p.a.Settled
  b : p.b.InOrder
  apart : p.a.uri ≠ p.b.uri
  unknown : ∀ id r, p.a.table.get? id = some r → r.isRemote = false → p.b.table.get? id = none

variable {p : Pair}

/-- After a replay the other broker holds what was replayed to it, and what it held before. -/
theorem Joins.get?_replay (hp : p.Joins) (id : Uuid) :
    p.replay.2.b.table.get? id
      = match (p.a.table.get? id).filter Responder.isAnnounced with
        | some r => some (r.replayed p.a.uri)
        | none => p.b.table.get? id := by
  have hlisted : ∀ r, r ∈ p.a.table.responders.filter Responder.isAnnounced
      ↔ p.a.table.get? r.id = some r ∧ r.isAnnounced = true := by
    intro r
    rw [List.mem_filter, hp.a.consistent.mem_responders]
  have hnodup : ((p.a.table.responders.filter Responder.isAnnounced).map Responder.id).Nodup :=
    hp.a.consistent.nodup_ids.sublist (List.filter_sublist.map Responder.id)
  have hnone : ∀ r ∈ p.a.table.responders.filter Responder.isAnnounced,
      p.b.table.get? r.id = none := by
    intro r hr
    obtain ⟨hget, hannounced⟩ := (hlisted r).mp hr
    exact hp.unknown r.id r hget (r.isAnnounced_iff.mp hannounced).1
  obtain ⟨hmem, hnot⟩ := get?_hear_flatMap _ hp.b hp.apart hnodup hnone
  rw [replay_eq p hp.a]
  cases hfound : (p.a.table.get? id).filter Responder.isAnnounced with
  | some r =>
    obtain ⟨hget, hannounced⟩ := Option.filter_eq_some_iff.mp hfound
    have hid : r.id = id := hp.a.consistent.keyed id r hget
    subst hid
    exact hmem r ((hlisted r).mpr ⟨hget, hannounced⟩)
  | none =>
    apply hnot id
    intro hmapped
    obtain ⟨r, hr, rfl⟩ := List.mem_map.mp hmapped
    obtain ⟨hget, hannounced⟩ := (hlisted r).mp hr
    rw [hget, Option.filter_some, if_pos hannounced] at hfound
    cases hfound

/-- What two brokers hold of a provider that was replayed. -/
theorem replayed_agrees_iff {t t' : RouteTable} {id : Uuid} {r : Responder} {uri : String}
    (hget : t.get? id = some r) (hget' : t'.get? id = some (r.replayed uri))
    (hannounced : r.isAnnounced = true) (hlive : r.status ≠ .stopped) :
    (∀ l, t'.Holds id l (Route.Through uri) ↔ t.Holds id l Route.Direct)
      ↔ r.status ≠ .connected := by
  obtain ⟨hdirect, hsome⟩ := r.isAnnounced_iff.mp hannounced
  obtain ⟨l, hl⟩ := List.exists_mem_of_ne_nil _ hsome
  have hthrough : ∀ l, t'.Holds id l (Route.Through uri)
      ↔ r.status ≠ .down ∧ l ∈ r.services := by
    intro l
    rw [RouteTable.holds_iff hget', Responder.isServing_replayed, Responder.mem_replayed]
    apply and_congr_right
    intro _
    exact and_iff_left rfl
  have hover : ∀ l, t.Holds id l Route.Direct ↔ r.status = .serving ∧ l ∈ r.services := by
    intro l
    rw [RouteTable.holds_iff hget, Responder.isServing_iff]
    apply and_congr_right
    intro _
    exact and_iff_left (Responder.direct_of_isRemote hdirect)
  simp only [hthrough, hover]
  cases hstatus : r.status with
  | connected =>
    refine iff_of_false ?_ fun h => h rfl
    intro h
    exact AppStatus.noConfusion ((h l).mp ⟨nofun, hl⟩).1
  | serving => exact iff_of_true (fun l => by simp) nofun
  | down => exact iff_of_true (fun l => by simp) nofun
  | stopped => exact absurd hstatus hlive

/-- Some provider that is connected to a broker has services, but does not serve and is not
down. -/
def Idle (h : Home) : Prop :=
  ∃ id r, h.table.get? id = some r ∧ r.isAnnounced = true ∧ r.status = .connected

/-- What two brokers hold of a provider after the one replayed its routes. -/
theorem Joins.agrees_iff (hp : p.Joins) (id : Uuid) :
    (∀ l, p.replay.2.b.table.Holds id l (Route.Through p.a.uri)
        ↔ p.a.table.Holds id l Route.Direct)
      ↔ (∀ r, p.a.table.get? id = some r → r.isAnnounced = true → r.status ≠ .connected) ∧
        ∀ l, ¬p.b.table.Holds id l (Route.Through p.a.uri) := by
  have hafter := hp.get?_replay id
  cases hfound : (p.a.table.get? id).filter Responder.isAnnounced with
  | some r =>
    rw [hfound] at hafter
    obtain ⟨hget, hannounced⟩ := Option.filter_eq_some_iff.mp hfound
    have hnone := hp.unknown id r hget (r.isAnnounced_iff.mp hannounced).1
    rw [replayed_agrees_iff hget hafter hannounced (hp.a.consistent.live id r hget)]
    constructor
    · intro hstatus
      refine ⟨?_, fun l => RouteTable.not_holds hnone l _⟩
      intro x hx _
      cases hget.symm.trans hx
      exact hstatus
    · intro h
      exact h.1 r hget hannounced
  | none =>
    rw [hfound] at hafter
    have hquiet : ∀ r, p.a.table.get? id = some r → r.isAnnounced ≠ true := by
      intro r hr hannounced
      rw [hr, Option.filter_some, if_pos hannounced] at hfound
      cases hfound
    have hnot : ∀ l, ¬p.a.table.Holds id l Route.Direct := by
      rintro l ⟨r, hr, -, hl, link, hroute⟩
      refine hquiet r hr (r.isAnnounced_iff.mpr ⟨?_, List.ne_nil_of_mem hl⟩)
      rw [Responder.isRemote, hroute]
    have hsame : ∀ l, p.replay.2.b.table.Holds id l (Route.Through p.a.uri)
        ↔ p.b.table.Holds id l (Route.Through p.a.uri) := by
      intro l
      unfold RouteTable.Holds
      rw [hafter]
    simp only [hsame, hnot, iff_false]
    constructor
    · intro h
      constructor
      · intro r hr hannounced
        exact absurd hannounced (hquiet r hr)
      · exact h
    · exact And.right

/-- After a replay the other broker takes no provider for serving that is announced and does not
serve exactly if none is idle.  What is neither down nor idle and was not removed serves. -/
theorem Joins.unserved_iff (hp : p.Joins) :
    (∀ id r q, p.a.table.get? id = some r → r.isAnnounced = true → r.isServing = false →
        p.replay.2.b.table.get? id = some q → q.isServing = false) ↔ ¬Idle p.a := by
  have hafter : ∀ {id r}, p.a.table.get? id = some r → r.isAnnounced = true →
      p.replay.2.b.table.get? id = some (r.replayed p.a.uri) := by
    intro id r hr hannounced
    rw [hp.get?_replay, hr, Option.filter_some, if_pos hannounced]
  constructor
  · rintro hlaw ⟨id, r, hr, hannounced, hstatus⟩
    have hunserved : r.isServing = false := by simp [Responder.isServing, hstatus]
    have hfalse := hlaw id r _ hr hannounced hunserved (hafter hr hannounced)
    have htrue : (r.replayed p.a.uri).isServing = true := by
      rw [Responder.isServing_replayed, hstatus]
      decide
    cases hfalse.symm.trans htrue
  · intro hidle id r q hr hannounced hunserved hq
    cases (hafter hr hannounced).symm.trans hq
    apply Bool.eq_false_iff.mpr
    intro hserving
    have hup := (Responder.isServing_replayed p.a.uri r).mp hserving
    cases hstatus : r.status with
    | connected => exact hidle ⟨id, r, hr, hannounced, hstatus⟩
    | serving => simp [Responder.isServing, hstatus] at hunserved
    | down => exact hup hstatus
    | stopped => exact hp.a.consistent.live id r hr hstatus

/-- Whatever happened to two brokers before: after the one replayed its routes to the other,
which knew none of the providers that are connected to it, the other one takes the same
providers for serving the same services through the one as the one itself, unless a provider is
idle, or it took some for serving through the one before.  It takes a provider for serving that
has services and does not serve exactly if one is idle. -/
theorem replay_agrees_iff {uriA uriB : String} (hne : uriA ≠ uriB) (appA appB : String)
    (movesA movesB : List Home.Move)
    (hunknown : ∀ id r, ((Home.new uriA appA).run movesA).table.get? id = some r →
      r.isRemote = false → ((Home.new uriB appB).run movesB).table.get? id = none) :
    let p : Pair := ⟨(Home.new uriA appA).run movesA, (Home.new uriB appB).run movesB⟩
    let after := p.replay.2
    after.a = p.a ∧
    ((∀ id l, after.b.table.Holds id l (Route.Through uriA) ↔ p.a.table.Holds id l Route.Direct)
      ↔ ¬Idle p.a ∧ ∀ id l, ¬p.b.table.Holds id l (Route.Through uriA)) ∧
    ((∀ id r q, p.a.table.get? id = some r → r.isAnnounced = true → r.isServing = false →
        after.b.table.get? id = some q → q.isServing = false) ↔ ¬Idle p.a) := by
  intro p after
  have hsettledA : p.a.Settled := (Home.settled_new uriA appA).run movesA
  have hsettledB : p.b.Settled := (Home.settled_new uriB appB).run movesB
  have huriA : p.a.uri = uriA := (Home.settled_new uriA appA).uri_run movesA
  have huriB : p.b.uri = uriB := (Home.settled_new uriB appB).uri_run movesB
  have hp : p.Joins := ⟨hsettledA, hsettledB.inOrder, by rwa [huriA, huriB], hunknown⟩
  refine ⟨?_, ?_, hp.unserved_iff⟩
  · change p.replay.2.a = p.a
    rw [replay_eq p hsettledA]
    rfl
  · have hagrees := hp.agrees_iff
    rw [huriA] at hagrees
    rw [forall_congr' hagrees, forall_and]
    apply and_congr_left
    intro _
    constructor
    · rintro h ⟨id, r, hr, hannounced, hstatus⟩
      exact h id r hr hannounced hstatus
    · intro h id r hr hannounced hstatus
      exact h ⟨id, r, hr, hannounced, hstatus⟩

namespace Sample

/-- A provider connects with a service, and is set to be merely connected. -/
def idling : List Home.Move :=
  [.act (.connect (setup [echo]) (.outside 0)), .act (.setStatus someId .connected)]

/-- What the broker has of the provider then. -/
def idler : Responder where
  app := (setup [echo]).app
  route := .direct (.outside 0)
  services := [echo]

/-- The broker, and one that joins. -/
def joining : Pair := ⟨(Home.new "a" "").run idling, (Home.new "b" "").run []⟩

end Sample

open Sample in
/-- A provider that is merely connected is taken for serving by a broker that joins. -/
theorem idle_served :
    joining.a.table.get? someId = some idler ∧ joining.b.table.get? someId = none ∧
      joining.replay.2.b.table.Holds someId echo (Route.Through "a") ∧
      ¬∀ id l, joining.replay.2.b.table.Holds id l (Route.Through "a")
        ↔ joining.a.table.Holds id l Route.Direct := by
  have hhere : joining.a.table.get? someId = some idler := by decide +kernel
  have hserved : joining.replay.2.b.table.get? someId = some (idler.replayed "a") := by
    decide +kernel
  obtain ⟨-, hagrees, -⟩ := replay_agrees_iff (by decide : "a" ≠ "b") "" "" idling []
    fun _ _ _ _ => rfl
  refine ⟨hhere, rfl, ?_, fun h => (hagrees.mp h).1 ⟨someId, idler, hhere, by decide, rfl⟩⟩
  exact ⟨_, hserved, by decide, by decide +kernel, rfl⟩

end Pair

end ServiceMesh
