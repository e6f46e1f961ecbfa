import ServiceMesh.Broker
import ServiceMesh.Control.Consumers
import ServiceMesh.Proofs.Routes.Lookup

/-!
# A broker at home

A `Home` is what the routes of a broker depend on: its consumers, its route table, and
the events that it published and that are still on their way.  To hear an event is to run
the consumers.  An event that a broker publishes is heard by itself first.

An event concerns one provider at most.  `Event.effect` says what becomes of that provider
in the table, and `Home.get?_hear` that nothing else becomes of it.
-/

namespace ServiceMesh

/-- A broker with its routes, and its events that are on their way. -/
structure Home where
  /-- Where the broker is reached. -/
  uri : String
  /-- The consumers. -/
  consumers : Consumers
  /-- The routes. -/
  table : RouteTable := {}
  /-- The events that were published and are on their way, oldest first. -/
  outbox : List Event := []

namespace Home

/-- A broker without routes. -/
def new (uri localApp : String) : Home where
  uri := uri
  consumers := { localApp := localApp, selfUri := some uri }

/-- The surroundings of the consumers. -/
def consumerHost : ConsumerHost (StateM Home) where
  atomically f := modify fun h =>
    { h with consumers := (f h.consumers h.table).1, table := (f h.consumers h.table).2.1 }
  refresh _ _ := pure ()

/-- Hears an event. -/
def hear (event : Event) (h : Home) : Home := ((consumerHost.consume event).run h).2

/-- Hears an event of its own and sends it out. -/
def publish (event : Event) (h : Home) : Home :=
  { h.hear event with outbox := h.outbox ++ [event] }

end Home

/-! ## Events -/

namespace Event

/-- The provider that an event is about, if it is about one. -/
def subject? : Event → Option Uuid
  | servicesExposed id .. => some id
  | servicesHidden id .. => some id
  | appStatusChanged id .. => some id
  | _ => none

/-- What becomes of a provider by an exposure. -/
def exposed (selfUri : Option String) (id : Uuid) (appName : String) (services : List Locator) :
    Option String → Option Responder → Option Responder
  | none, o => o.map fun known => known.exposing services
  | some uri, o =>
      if some uri = selfUri then o
      else match o with
        | none => some ((remoteResponder id appName uri).exposing services)
        | some known =>
            if isRelocated known uri then some ((remoteResponder id appName uri).exposing services)
            else some (known.exposing services)

/-- What becomes of the provider that an event is about. -/
def effect (selfUri : Option String) : Event → Option Responder → Option Responder
  | servicesExposed id appName services brokerUri, o =>
      exposed selfUri id appName services brokerUri o
  | servicesHidden _ _ services, o => o.map fun r => r.withdrawing services
  | appStatusChanged _ _ status, o =>
      if status = .stopped then none else o.map fun r => { r with status := status }
  | _, o => o

/-- What becomes of a provider by events about it. -/
def effects (selfUri : Option String) (events : List Event) (o : Option Responder) :
    Option Responder :=
  events.foldl (fun o event => event.effect selfUri o) o

theorem effects_append (selfUri : Option String) (events more : List Event)
    (o : Option Responder) :
    effects selfUri (events ++ more) o = effects selfUri more (effects selfUri events o) :=
  List.foldl_append

end Event

/-! ## Events in the table -/

namespace RouteTable

variable {t : RouteTable}

theorem get?_expose_known (hk : t.Keyed) {known : Responder} {id : Uuid}
    (h : t.get? id = some known) (ls : List Locator) (other : Uuid) :
    (t.expose known ls).2.1.get? other
      = if id = other then some (known.exposing ls) else t.get? other := by
  have hid : known.id = id := hk id known h
  rw [get?_expose hk, registrant_of_get? (by rw [hid]; exact h), hid]

theorem get?_expose_new (hk : t.Keyed) {r : Responder} (h : t.get? r.id = none)
    (ls : List Locator) (other : Uuid) :
    (t.expose r ls).2.1.get? other
      = if r.id = other then some (r.exposing ls) else t.get? other := by
  rw [get?_expose hk, registrant_of_none h]

/-- An exposure that is heard concerns one provider. -/
theorem get?_applyExposed (hk : t.Keyed) (selfUri : Option String) (id : Uuid) (appName : String)
    (services : List Locator) (brokerUri : Option String) (other : Uuid) :
    (applyExposed selfUri id appName services brokerUri t).1.get? other
      = if id = other then Event.exposed selfUri id appName services brokerUri (t.get? id)
        else t.get? other := by
  cases brokerUri with
  | none =>
    cases h : t.get? id with
    | none =>
      simp only [applyExposed, h, Event.exposed]
      by_cases hid : id = other
      · simp [← hid, h]
      · simp [hid]
    | some known =>
      simp only [applyExposed, h, Event.exposed]
      exact get?_expose_known hk h services other
  | some uri =>
    by_cases hself : some uri = selfUri
    · subst hself
      simp only [applyExposed, Event.exposed, Option.isSome_some, and_self, if_true]
      by_cases hid : id = other
      · simp [hid]
      · simp [hid]
    · cases h : t.get? id with
      | none =>
        simp only [applyExposed, h, Event.exposed, hself]
        exact get?_expose_new hk (r := remoteResponder id appName uri) h services other
      | some known =>
        by_cases hmoved : isRelocated known uri = true
        · simp only [applyExposed, h, Event.exposed, hself, hmoved]
          have hnone : (t.remove id).2.1.get? (remoteResponder id appName uri).id = none := by
            rw [get?_remove]
            exact if_pos rfl
          refine (get?_expose_new (hk.remove id) hnone services other).trans ?_
          rw [get?_remove]
          by_cases hid : id = other
          · simp [hid, remoteResponder, Responder.id]
          · simp [hid, remoteResponder, Responder.id]
        · simp only [applyExposed, h, Event.exposed, hself, hmoved]
          exact get?_expose_known hk h services other

theorem Keyed.applyExposed (hk : t.Keyed) (selfUri : Option String) (id : Uuid)
    (appName : String) (services : List Locator) (brokerUri : Option String) :
    (applyExposed selfUri id appName services brokerUri t).1.Keyed := by
  unfold ServiceMesh.applyExposed
  split
  · exact hk
  · split
    · split
      · exact (hk.remove id).expose _ services
      · exact hk.expose _ services
    · exact hk.expose _ services
    · exact hk.expose _ services
    · exact hk

/-- An event that is heard concerns the provider that it is about. -/
theorem get?_apply (hk : t.Keyed) (c : Consumers) (event : Event) (id : Uuid) :
    (c.apply event t).2.1.get? id
      = if event.subject? = some id then event.effect c.selfUri (t.get? id) else t.get? id := by
  cases event with
  | servicesExposed x appName services brokerUri =>
    refine (get?_applyExposed hk c.selfUri x appName services brokerUri id).trans ?_
    by_cases hid : x = id
    · subst hid
      simp [Event.subject?, Event.effect]
    · simp [Event.subject?, hid]
  | servicesHidden x appName services =>
    refine (get?_hide hk x services id).trans ?_
    by_cases hid : x = id
    · subst hid
      simp [Event.subject?, Event.effect]
    · simp [Event.subject?, hid]
  | appStatusChanged x appName status =>
    by_cases hs : status = .stopped
    · subst hs
      refine (get?_setStatus_stopped t x id).trans ?_
      simp [Event.subject?, Event.effect]
    · refine (get?_setStatus hk x hs id).trans ?_
      by_cases hid : x = id
      · subst hid
        simp [Event.subject?, Event.effect, hs]
      · simp [Event.subject?, hid]
  | configChanged appName key value => rfl
  | portsUpdated x ports => rfl
  | clusterChanged destination uris => rfl
  | cacheInvalidate appName keys => rfl

theorem Keyed.apply (hk : t.Keyed) (c : Consumers) (event : Event) :
    (c.apply event t).2.1.Keyed := by
  cases event with
  | servicesExposed x appName services brokerUri => exact hk.applyExposed _ _ _ _ _
  | servicesHidden x appName services => exact hk.hide x services
  | appStatusChanged x appName status => exact hk.setStatus x status
  | configChanged appName key value => exact hk
  | portsUpdated x ports => exact hk
  | clusterChanged destination uris => exact hk
  | cacheInvalidate appName keys => exact hk

end RouteTable

theorem Consumers.selfUri_apply (c : Consumers) (event : Event) (t : RouteTable) :
    (c.apply event t).1.selfUri = c.selfUri := by
  cases event with
  | servicesExposed x appName services brokerUri => rfl
  | servicesHidden x appName services => rfl
  | appStatusChanged x appName status =>
    simp only [Consumers.apply]
    split <;> rfl
  | configChanged appName key value =>
    simp only [Consumers.apply]
    split <;> rfl
  | portsUpdated x ports => rfl
  | clusterChanged destination uris => rfl
  | cacheInvalidate appName keys =>
    simp only [Consumers.apply]
    split <;> rfl

namespace Home

theorem hear_eq (event : Event) (h : Home) :
    h.hear event = { h with
      consumers := (h.consumers.apply event h.table).1
      table := (h.consumers.apply event h.table).2.1 } := by
  cases event <;> rfl

/-- The responders stand under their ids, and the broker knows its own address. -/
structure InOrder (h : Home) : Prop where
  /-- Each responder stands under its own id. -/
  keyed : h.table.Keyed
  /-- Exposures through the broker itself are told from others. -/
  self : h.consumers.selfUri = some h.uri

theorem inOrder_new (uri localApp : String) : (new uri localApp).InOrder where
  keyed := RouteTable.keyed_empty
  self := rfl

variable {h : Home}

theorem InOrder.hear (ho : h.InOrder) (event : Event) : (h.hear event).InOrder := by
  rw [hear_eq]
  exact ⟨ho.keyed.apply h.consumers event,
    (Consumers.selfUri_apply h.consumers event h.table).trans ho.self⟩

/-- What becomes of the table by an event that is heard. -/
theorem get?_hear (ho : h.InOrder) (event : Event) (id : Uuid) :
    (h.hear event).table.get? id
      = if event.subject? = some id then event.effect (some h.uri) (h.table.get? id)
        else h.table.get? id := by
  rw [hear_eq, ← ho.self]
  exact RouteTable.get?_apply ho.keyed h.consumers event id

@[simp] theorem uri_hear (event : Event) (h : Home) : (h.hear event).uri = h.uri := by
  rw [hear_eq]

@[simp] theorem outbox_hear (event : Event) (h : Home) : (h.hear event).outbox = h.outbox := by
  rw [hear_eq]

@[simp] theorem uri_publish (event : Event) (h : Home) : (h.publish event).uri = h.uri :=
  uri_hear event h

theorem InOrder.publish (ho : h.InOrder) (event : Event) : (h.publish event).InOrder :=
  ⟨(ho.hear event).keyed, (ho.hear event).self⟩

/-- A broker that hears of its own what it did already is left as it was. -/
theorem get?_publish (ho : h.InOrder) {event : Event}
    (hdone : ∀ id, event.subject? = some id →
      event.effect (some h.uri) (h.table.get? id) = h.table.get? id) (id : Uuid) :
    (h.publish event).table.get? id = h.table.get? id := by
  refine (get?_hear ho event id).trans ?_
  split
  · next hid => exact hdone id hid
  · rfl

end Home

end ServiceMesh
