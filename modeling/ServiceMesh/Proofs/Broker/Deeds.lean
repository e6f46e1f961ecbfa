import ServiceMesh.Proofs.Broker.Home

/-!
# What a broker does about a provider

A broker acts by a `Deed`: a provider connects or is disconnected, serves or withdraws
services, changes its status.  A deed runs the broker's own definitions, and an event that
it publishes is heard by the broker itself first.

A deed concerns one provider.  `Deed.effect` says what becomes of that provider in the
table and which events are published, and `Home.InOrder.perform` that this is all that
becomes of the broker.
-/

namespace ServiceMesh

/-- What a broker does about a provider. -/
inductive Deed where
  /-- A provider connects over a link. -/
  | connect (setup : Setup) (link : LinkId)
  /-- The link of a provider closed. -/
  | disconnect (id : Uuid) (link : LinkId)
  /-- A provider serves services. -/
  | expose (id : Uuid) (services : List Locator)
  /-- A provider withdraws services. -/
  | hide (id : Uuid) (services : List Locator)
  /-- The status of a provider changes. -/
  | setStatus (id : Uuid) (status : AppStatus)

namespace Home

/-- The surroundings of the broker. -/
def host (uri : String) : BrokerHost (StateM Home) where
  uri := uri
  routes f := modifyGet fun h => ((f h.table).1, { h with table := (f h.table).2.1 })
  publish event := modify (publish event)
  sendTo _ _ := pure (.ok ())
  linkUri _ := pure ""
  watch _ _ := pure ()

end Home

namespace Deed

/-- The provider that a deed is about. -/
def subject : Deed → Uuid
  | connect setup _ => setup.app.instanceId
  | disconnect id _ => id
  | expose id _ => id
  | hide id _ => id
  | setStatus id _ => id

/-- A deed as the broker does it. -/
def task (host : BrokerHost (StateM Home)) : Deed → StateM Home Unit
  | connect setup link => do let _ ← host.connect setup link
  | disconnect id link => do let _ ← host.disconnect id link
  | expose id services => do let _ ← host.expose id services
  | hide id services => do let _ ← host.hide id services
  | setStatus id status => do let _ ← host.setStatus id status

end Deed

namespace Home

/-- Does a deed. -/
def perform (d : Deed) (h : Home) : Home := ((d.task (host h.uri)).run h).2

end Home

/-! ## What a deed does and tells -/

namespace Deed

/-- What stands in the table for a provider that connected over a link. -/
def admitted (setup : Setup) (link : LinkId) (o : Option Responder) : Responder :=
  let r := (o.filter fun r => !Broker.givesWay r link).getD
    { app := setup.app, route := .direct link }
  if setup.services.isEmpty then r else r.exposing setup.services

/-- Acts on a provider that is connected here. -/
def ifHere (o : Option Responder) (act : Responder → Option Responder × Event) :
    Option Responder × List Event :=
  match o.filter fun r => !r.isRemote with
  | some r => ((act r).1, [(act r).2])
  | none => (o, [])

/-- What becomes of the provider that a deed is about, and what is told about it. -/
def effect (uri : String) : Deed → Option Responder → Option Responder × List Event
  | connect setup link, o =>
      match Broker.refusal setup with
      | some _ => (o, [])
      | none => (some (admitted setup link o),
          if setup.services.isEmpty then []
          else [Broker.exposure uri (admitted setup link o) setup.services])
  | disconnect id link, o =>
      match o.filter fun r => r.link? = some link with
      | some r => (none, [.appStatusChanged id r.app.name .stopped])
      | none => (o, [])
  | expose _ services, o => ifHere o fun r =>
      (some (r.exposing services), Broker.exposure uri (r.exposing services) services)
  | hide id services, o => ifHere o fun r =>
      (some (r.withdrawing services), .servicesHidden id r.app.name services)
  | setStatus id status, o => ifHere o fun r =>
      (if status = .stopped then none else some { r with status := status },
        .appStatusChanged id r.app.name status)

end Deed

namespace Home

variable {h : Home}

/-! ## Deeds of the broker -/

/-- The home with another table. -/
def withTable (t : RouteTable) (h : Home) : Home := { h with table := t }

theorem InOrder.withTable (ho : h.InOrder) {t : RouteTable} (hk : t.Keyed) :
    (h.withTable t).InOrder where
  keyed := hk
  self := ho.self

/-- A section on the table is performed at once, then what follows. -/
theorem run_routes {α β : Type} (uri : String)
    (f : RouteTable → α × RouteTable × List RouteChange) (next : α → StateM Home β) (h : Home) :
    ((host uri).routes f >>= next).run h
      = (next (f h.table).1).run (h.withTable (f h.table).2.1) := rfl

theorem run_forget {α : Type} (x : StateM Home α) (h : Home) :
    (do let _ ← x : StateM Home Unit).run h = ((), (x.run h).2) := rfl

/-- What becomes of a broker that is connected to: nothing on a refusal, else the table takes the
connection in and an exposure is published if there are services. -/
theorem perform_connect (setup : Setup) (link : LinkId) (h : Home) :
    h.perform (.connect setup link)
      = match Broker.refusal setup with
        | some _ => h
        | none =>
            let taken := Broker.takeIn setup link h.table
            if setup.services.isEmpty then h.withTable taken.2.1
            else (h.withTable taken.2.1).publish
              (Broker.exposure h.uri taken.1 setup.services) := by
  cases hr : Broker.refusal setup with
  | some reason =>
    simp only [perform, Deed.task, BrokerHost.connect, hr]
    rfl
  | none =>
    cases hs : setup.services.isEmpty with
    | true =>
      simp only [perform, Deed.task, BrokerHost.connect, hr, hs]
      rfl
    | false =>
      simp only [perform, Deed.task, BrokerHost.connect, hr, hs]
      rfl

/-- What becomes of a broker when a connection ends: whoever had it is dismissed, and its stop is
published. -/
theorem perform_disconnect (id : Uuid) (link : LinkId) (h : Home) :
    h.perform (.disconnect id link)
      = match (Broker.dismiss id link h.table).1 with
        | none => h.withTable (Broker.dismiss id link h.table).2.1
        | some r => (h.withTable (Broker.dismiss id link h.table).2.1).publish
            (.appStatusChanged id r.app.name .stopped) := by
  unfold perform Deed.task BrokerHost.disconnect
  simp only [run_forget, run_routes]
  cases (Broker.dismiss id link h.table).1 with
  | none => rfl
  | some r => rfl

/-- A deed on a local responder is performed and published, or not at all if there is none. -/
theorem run_withLocal (id : Uuid)
    (act : Responder → RouteTable → Event × RouteTable × List RouteChange) (h : Home) :
    ((do let _ ← (host h.uri).withLocal id act : StateM Home Unit).run h).2
      = match Broker.local? id h.table with
        | none => h
        | some r => (h.withTable (act r h.table).2.1).publish (act r h.table).1 := by
  unfold BrokerHost.withLocal
  simp only [run_forget, run_routes]
  cases Broker.local? id h.table with
  | none => rfl
  | some r => rfl

end Home

namespace RouteTable

variable {t : RouteTable}

/-- The table in which a provider that stood on another link made way. -/
def makeWay (id : Uuid) (link : LinkId) (t : RouteTable) : RouteTable :=
  match t.get? id with
  | some previous => if Broker.givesWay previous link then (t.remove id).2.1 else t
  | none => t

/-- Whoever gives way to a new connection is gone, and everybody else stays. -/
theorem get?_makeWay (x : Uuid) (link : LinkId) (id : Uuid) :
    (t.makeWay x link).get? id
      = if x = id then (t.get? x).filter fun r => !Broker.givesWay r link else t.get? id := by
  unfold makeWay
  cases h : t.get? x with
  | none =>
    by_cases hid : x = id
    · simp [← hid, h]
    · simp [hid]
  | some previous =>
    simp only
    split
    · next hgives => simp [get?_remove, hgives, Option.filter_some]
    · next hgives =>
      by_cases hid : x = id
      · simp [← hid, h, hgives, Option.filter_some]
      · simp [hid]

theorem Keyed.makeWay (hk : t.Keyed) (x : Uuid) (link : LinkId) : (t.makeWay x link).Keyed := by
  unfold RouteTable.makeWay
  split
  · split
    · exact hk.remove x
    · exact hk
  · exact hk

/-- A connection without services is registered. -/
theorem takeIn_of_isEmpty {setup : Setup} (hs : setup.services.isEmpty = true) (link : LinkId) :
    (Broker.takeIn setup link t).1
        = ((t.makeWay setup.app.instanceId link).register
            { app := setup.app, route := .direct link } []).1 ∧
      (Broker.takeIn setup link t).2.1
        = ((t.makeWay setup.app.instanceId link).register
            { app := setup.app, route := .direct link } []).2.1 := by
  unfold Broker.takeIn makeWay
  cases h : t.get? setup.app.instanceId with
  | none => simp [hs, h]
  | some previous =>
    cases hgives : Broker.givesWay previous link with
    | true => simp [hs, h, hgives]
    | false => simp [hs, h, hgives]

/-- A connection with services is exposed. -/
theorem takeIn_of_not_isEmpty {setup : Setup} (hs : setup.services.isEmpty = false)
    (link : LinkId) :
    (Broker.takeIn setup link t).1
        = ((t.makeWay setup.app.instanceId link).expose
            { app := setup.app, route := .direct link } setup.services).1 ∧
      (Broker.takeIn setup link t).2.1
        = ((t.makeWay setup.app.instanceId link).expose
            { app := setup.app, route := .direct link } setup.services).2.1 := by
  unfold Broker.takeIn makeWay
  cases h : t.get? setup.app.instanceId with
  | none => simp [hs, h]
  | some previous =>
    cases hgives : Broker.givesWay previous link with
    | true => simp [hs, h, hgives]
    | false => simp [hs, h, hgives]

/-- Whoever did not give way is the one that registers. -/
theorem registrant_makeWay (setup : Setup) (link : LinkId) :
    (t.makeWay setup.app.instanceId link).registrant { app := setup.app, route := .direct link }
      = ((t.get? setup.app.instanceId).filter fun r => !Broker.givesWay r link).getD
          { app := setup.app, route := .direct link } := by
  unfold registrant
  rw [get?_makeWay]
  simp [Responder.id]

/-- Who is taken in depends on what the table has under the id, and on nothing else. -/
theorem takeIn_fst (setup : Setup) (link : LinkId) :
    (Broker.takeIn setup link t).1 = Deed.admitted setup link (t.get? setup.app.instanceId) := by
  unfold Deed.admitted
  cases hs : setup.services.isEmpty with
  | true =>
    rw [(takeIn_of_isEmpty hs link).1, register_fst, registrant_makeWay, Responder.addServices_nil]
    rfl
  | false =>
    rw [(takeIn_of_not_isEmpty hs link).1, expose_fst, registrant_makeWay]
    rfl

/-- After a connection was taken in the table has under its id who was admitted. -/
theorem get?_takeIn (hk : t.Keyed) (setup : Setup) (link : LinkId) (id : Uuid) :
    (Broker.takeIn setup link t).2.1.get? id
      = if setup.app.instanceId = id then
          some (Deed.admitted setup link (t.get? setup.app.instanceId))
        else t.get? id := by
  have hway := hk.makeWay setup.app.instanceId link
  unfold Deed.admitted
  cases hs : setup.services.isEmpty with
  | true =>
    rw [(takeIn_of_isEmpty hs link).2, get?_register hway, registrant_makeWay,
      Responder.addServices_nil, get?_makeWay]
    by_cases hid : setup.app.instanceId = id <;> simp [Responder.id, hid]
  | false =>
    rw [(takeIn_of_not_isEmpty hs link).2, get?_expose hway, registrant_makeWay, get?_makeWay]
    by_cases hid : setup.app.instanceId = id <;> simp [Responder.id, hid]

theorem Keyed.takeIn (hk : t.Keyed) (setup : Setup) (link : LinkId) :
    (Broker.takeIn setup link t).2.1.Keyed := by
  have hway := hk.makeWay setup.app.instanceId link
  cases hs : setup.services.isEmpty with
  | true =>
    rw [(takeIn_of_isEmpty hs link).2]
    exact hway.register _ []
  | false =>
    rw [(takeIn_of_not_isEmpty hs link).2]
    exact hway.expose _ setup.services

/-- Whoever is dismissed is under the id and has the link that ended. -/
theorem dismiss_fst (x : Uuid) (link : LinkId) :
    (Broker.dismiss x link t).1.map (fun r => r.app.name)
      = ((t.get? x).filter fun r => decide (r.link? = some link)).map fun r => r.app.name := by
  unfold Broker.dismiss
  cases h : t.get? x with
  | none => rfl
  | some r =>
    by_cases hl : r.link? = some link
    · simp [hl, remove, h, Option.filter_some]
    · simp [hl, Option.filter_some]

/-- Only the responder with the link that ended is gone. -/
theorem get?_dismiss (x : Uuid) (link : LinkId) (id : Uuid) :
    (Broker.dismiss x link t).2.1.get? id
      = if x = id then (t.get? x).filter fun r => !decide (r.link? = some link)
        else t.get? id := by
  unfold Broker.dismiss
  cases h : t.get? x with
  | none =>
    by_cases hid : x = id
    · simp [← hid, h]
    · simp [hid]
  | some r =>
    by_cases hl : r.link? = some link
    · simp [hl, get?_remove, Option.filter_some]
    · by_cases hid : x = id
      · simp [hl, ← hid, h, Option.filter_some]
      · simp [hl, hid]

theorem Keyed.dismiss (hk : t.Keyed) (x : Uuid) (link : LinkId) :
    (Broker.dismiss x link t).2.1.Keyed := by
  unfold Broker.dismiss
  split
  · split
    · exact hk.remove x
    · exact hk
  · exact hk

end RouteTable

namespace Event

/-- An exposure through the broker itself is not heard. -/
theorem effect_exposure (uri : String) (r : Responder) (services : List Locator)
    (o : Option Responder) : (Broker.exposure uri r services).effect (some uri) o = o := by
  simp [Broker.exposure, effect, exposed]

end Event

namespace Home

variable {h : Home}

/-- What becomes of a broker by a deed. -/
structure Performed (d : Deed) (h h' : Home) : Prop where
  /-- The broker stays in order. -/
  inOrder : h'.InOrder
  /-- It stays where it is. -/
  uri : h'.uri = h.uri
  /-- The table changes where the deed is about it. -/
  table : ∀ id, h'.table.get? id
    = if d.subject = id then (d.effect h.uri (h.table.get? id)).1 else h.table.get? id
  /-- What is told goes out. -/
  outbox : h'.outbox = h.outbox ++ (d.effect h.uri (h.table.get? d.subject)).2

/-- A deed that leaves everything as it is. -/
theorem Performed.of_effect_eq (ho : h.InOrder) {d : Deed}
    (he : d.effect h.uri (h.table.get? d.subject) = (h.table.get? d.subject, [])) :
    Performed d h h where
  inOrder := ho
  uri := rfl
  table id := by
    split
    · next hid => rw [← hid, he]
    · rfl
  outbox := by rw [he, List.append_nil]

/-- A deed that changes the table and is not told. -/
theorem Performed.of_silent (ho : h.InOrder) {d : Deed} {t : RouteTable} {o : Option Responder}
    (hk : t.Keyed) (he : d.effect h.uri (h.table.get? d.subject) = (o, []))
    (ht : ∀ id, t.get? id = if d.subject = id then o else h.table.get? id) :
    Performed d h (h.withTable t) where
  inOrder := ho.withTable hk
  uri := rfl
  table id := by
    refine (ht id).trans ?_
    split
    · next hid => rw [← hid, he]
    · rfl
  outbox := by
    rw [he, List.append_nil]
    rfl

/-- A deed that changes the table and is told by an event that leaves it so. -/
theorem Performed.of_told (ho : h.InOrder) {d : Deed} {t : RouteTable} {o : Option Responder}
    {event : Event} (hk : t.Keyed)
    (he : d.effect h.uri (h.table.get? d.subject) = (o, [event]))
    (ht : ∀ id, t.get? id = if d.subject = id then o else h.table.get? id)
    (hdone : ∀ id, event.subject? = some id → event.effect (some h.uri) (t.get? id) = t.get? id) :
    Performed d h ((h.withTable t).publish event) where
  inOrder := (ho.withTable hk).publish event
  uri := uri_publish event _
  table id := by
    refine (get?_publish (ho.withTable hk) hdone id).trans ((ht id).trans ?_)
    split
    · next hid => rw [← hid, he]
    · rfl
  outbox := by
    rw [he]
    rfl

/-- A connection is performed as `Performed` says, also when it is refused. -/
theorem InOrder.perform_connect (ho : h.InOrder) (setup : Setup) (link : LinkId) :
    Performed (.connect setup link) h (h.perform (.connect setup link)) := by
  rw [Home.perform_connect]
  cases hr : Broker.refusal setup with
  | some reason => exact .of_effect_eq ho (by simp [Deed.effect, hr])
  | none =>
    have ht := RouteTable.get?_takeIn ho.keyed setup link
    have hk := ho.keyed.takeIn setup link
    cases hs : setup.services.isEmpty with
    | true => exact .of_silent ho hk (by simp [Deed.effect, hr, hs, Deed.subject]) ht
    | false =>
      simp only [RouteTable.takeIn_fst]
      refine .of_told ho hk (by simp [Deed.effect, hr, hs, Deed.subject]) ht ?_
      intro id _
      exact Event.effect_exposure _ _ _ _

/-- If nothing passes, all of it passes the opposite. -/
theorem filter_not_of_filter_eq_none {o : Option Responder} {p : Responder → Bool}
    (h : o.filter p = none) : o.filter (fun r => !p r) = o := by
  cases o with
  | none => rfl
  | some r =>
    rw [Option.filter_some] at h ⊢
    cases hp : p r with
    | true => simp [hp] at h
    | false => rfl

/-- If something passes, nothing passes the opposite. -/
theorem filter_not_of_filter_eq_some {o : Option Responder} {p : Responder → Bool} {r : Responder}
    (h : o.filter p = some r) : o.filter (fun r => !p r) = none := by
  obtain ⟨rfl, hp⟩ := Option.filter_eq_some_iff.mp h
  simp [Option.filter_some, hp]

/-- The end of a connection is performed as `Performed` says, also when it is of another link. -/
theorem InOrder.perform_disconnect (ho : h.InOrder) (id : Uuid) (link : LinkId) :
    Performed (.disconnect id link) h (h.perform (.disconnect id link)) := by
  have ht := RouteTable.get?_dismiss (t := h.table) id link
  have hk := ho.keyed.dismiss id link
  have hname := RouteTable.dismiss_fst (t := h.table) id link
  rw [Home.perform_disconnect]
  cases hg : (h.table.get? id).filter fun r => decide (r.link? = some link) with
  | none =>
    rw [hg, Option.map_none, Option.map_eq_none_iff] at hname
    rw [hname]
    have he : (Deed.disconnect id link).effect h.uri (h.table.get? id)
        = (h.table.get? id, []) := by
      simp [Deed.effect, hg]
    refine .of_silent ho hk he ?_
    intro x
    refine (ht x).trans ?_
    rw [filter_not_of_filter_eq_none hg]
    rfl
  | some r =>
    rw [hg, Option.map_some] at hname
    obtain ⟨r', hr', hname'⟩ := Option.map_eq_some_iff.mp hname
    rw [hr']
    simp only [hname']
    have he : (Deed.disconnect id link).effect h.uri (h.table.get? id)
        = (none, [.appStatusChanged id r.app.name .stopped]) := by
      simp [Deed.effect, hg]
    have hgone : ∀ x, (Broker.dismiss id link h.table).2.1.get? x
        = if id = x then none else h.table.get? x := by
      intro x
      rw [ht, filter_not_of_filter_eq_some hg]
    refine .of_told ho hk he hgone ?_
    intro x hx
    cases hx
    rw [hgone, if_pos rfl]
    rfl

/-- The deeds about providers that are connected here. -/
theorem perform_of_local (id : Uuid) {d : Deed}
    {act : Responder → RouteTable → Event × RouteTable × List RouteChange}
    (htask : d.task (host h.uri) = do let _ ← (host h.uri).withLocal id act) :
    h.perform d = match (h.table.get? id).filter fun r => !r.isRemote with
      | none => h
      | some r => (h.withTable (act r h.table).2.1).publish (act r h.table).1 := by
  unfold perform
  rw [htask]
  exact run_withLocal id act h

theorem get?_of_here {t : RouteTable} {id : Uuid} {r : Responder}
    (hr : ((t.get? id).filter fun r => !r.isRemote) = some r) : t.get? id = some r :=
  (Option.filter_eq_some_iff.mp hr).1

/-- An exposure is performed as `Performed` says, also for a responder that is not here. -/
theorem InOrder.perform_expose (ho : h.InOrder) (id : Uuid) (services : List Locator) :
    Performed (.expose id services) h (h.perform (.expose id services)) := by
  rw [perform_of_local id (d := .expose id services) rfl]
  cases hr : (h.table.get? id).filter fun r => !r.isRemote with
  | none => exact .of_effect_eq ho (by simp [Deed.effect, Deed.subject, Deed.ifHere, hr])
  | some r =>
    have hget := get?_of_here hr
    have ht := RouteTable.get?_expose_known ho.keyed hget services
    have hfst : (h.table.expose r services).1 = r.exposing services := by
      rw [RouteTable.expose_fst, RouteTable.registrant_of_get?]
      rw [ho.keyed id r hget]
      exact hget
    simp only [hfst]
    refine .of_told ho (ho.keyed.expose r services) ?_ ht ?_
    · simp [Deed.effect, Deed.subject, Deed.ifHere, hr, host]
    · intro x _
      exact Event.effect_exposure _ _ _ _

/-- A withdrawal is performed as `Performed` says, also for a responder that is not here. -/
theorem InOrder.perform_hide (ho : h.InOrder) (id : Uuid) (services : List Locator) :
    Performed (.hide id services) h (h.perform (.hide id services)) := by
  rw [perform_of_local id (d := .hide id services) rfl]
  cases hr : (h.table.get? id).filter fun r => !r.isRemote with
  | none => exact .of_effect_eq ho (by simp [Deed.effect, Deed.subject, Deed.ifHere, hr])
  | some r =>
    have hget := get?_of_here hr
    have ht := RouteTable.get?_hide ho.keyed id services
    rw [hget] at ht
    refine .of_told ho (ho.keyed.hide id services) ?_ ht ?_
    · simp [Deed.effect, Deed.subject, Deed.ifHere, hr]
    · intro x hx
      cases hx
      rw [ht, if_pos rfl, Option.map_some]
      simp [Event.effect]

/-- A change of status is performed as `Performed` says, also for a responder that is not here. -/
theorem InOrder.perform_setStatus (ho : h.InOrder) (id : Uuid) (status : AppStatus) :
    Performed (.setStatus id status) h (h.perform (.setStatus id status)) := by
  rw [perform_of_local id (d := .setStatus id status) rfl]
  cases hr : (h.table.get? id).filter fun r => !r.isRemote with
  | none => exact .of_effect_eq ho (by simp [Deed.effect, Deed.subject, Deed.ifHere, hr])
  | some r =>
    have hget := get?_of_here hr
    have hk := ho.keyed.setStatus id status
    by_cases hs : status = .stopped
    · subst hs
      have ht := RouteTable.get?_setStatus_stopped h.table id
      refine .of_told ho hk ?_ ht ?_
      · simp [Deed.effect, Deed.subject, Deed.ifHere, hr]
      · intro x hx
        cases hx
        rw [ht, if_pos rfl]
        rfl
    · have ht := RouteTable.get?_setStatus ho.keyed id hs
      rw [hget] at ht
      refine .of_told ho hk ?_ ht ?_
      · simp [Deed.effect, Deed.subject, Deed.ifHere, hr, hs]
      · intro x hx
        cases hx
        rw [ht, if_pos rfl]
        simp [Event.effect, hs]

/-- A deed makes of the provider that it is about what `Deed.effect` says, and of nothing
else anything. -/
theorem InOrder.perform (ho : h.InOrder) (d : Deed) : Performed d h (h.perform d) := by
  cases d with
  | connect setup link => exact ho.perform_connect setup link
  | disconnect id link => exact ho.perform_disconnect id link
  | expose id services => exact ho.perform_expose id services
  | hide id services => exact ho.perform_hide id services
  | setStatus id status => exact ho.perform_setStatus id status

end Home

end ServiceMesh
