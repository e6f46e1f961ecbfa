import ServiceMesh.Proofs.Broker.Deeds
import ServiceMesh.Proofs.Routes.Scan

/-!
# Everything a broker does to its routes is a list of changes

A broker changes its route table by the changes of a table alone, whether it hears an event,
does a deed or prunes.  So what every change keeps holds of the table of a broker, too: the
indices of the table stay consistent (`RouteTable.Reaches.consistent`).
-/

namespace ServiceMesh

namespace RouteTable

variable {t t' t'' : RouteTable}

/-- A table becomes another one by changes. -/
def Reaches (t t' : RouteTable) : Prop := ∃ changes : List Change, changes.foldl Change.apply t = t'

theorem Reaches.refl (t : RouteTable) : t.Reaches t := ⟨[], rfl⟩

theorem Reaches.trans (h : t.Reaches t') (h' : t'.Reaches t'') : t.Reaches t'' := by
  obtain ⟨changes, rfl⟩ := h
  obtain ⟨more, rfl⟩ := h'
  exact ⟨changes ++ more, List.foldl_append⟩

/-- Whatever is reached from a consistent table is consistent. -/
theorem Reaches.consistent (h : t.Reaches t') (ht : t.Consistent) : t'.Consistent := by
  obtain ⟨changes, rfl⟩ := h
  exact ht.foldl_apply changes

/-! ## Single changes -/

/-- Removing a responder is one operation. -/
theorem reaches_remove (t : RouteTable) (id : Uuid) : t.Reaches (t.remove id).2.1 :=
  ⟨[.remove id], rfl⟩

/-- A change of status is one operation. -/
theorem reaches_setStatus (t : RouteTable) (id : Uuid) (status : AppStatus) :
    t.Reaches (t.setStatus id status).2.1 := ⟨[.setStatus id status], rfl⟩

/-- Hiding services is one operation, whether or not the responder is known. -/
theorem reaches_hide (t : RouteTable) (id : Uuid) (ls : List Locator) :
    t.Reaches (t.hide id ls).2.1 := ⟨[.hide id ls], rfl⟩

/-- A responder that is in the table may be exposed as the table holds it. -/
theorem reaches_expose_known {id : Uuid} {known : Responder} (h : t.get? id = some known)
    (ls : List Locator) : t.Reaches (t.expose known ls).2.1 := by
  refine ⟨[.expose (.known id) ls], ?_⟩
  simp only [List.foldl_cons, List.foldl_nil, Change.apply, Handed.resolve, h]

/-- A responder without services may be exposed, known or not. -/
theorem reaches_expose (t : RouteTable) (app : AppMetadata) (route : Route) (ls : List Locator) :
    t.Reaches (t.expose { app := app, route := route } ls).2.1 :=
  ⟨[.expose (.fresh app route) ls], rfl⟩

/-- A responder without services may be registered, known or not. -/
theorem reaches_register (t : RouteTable) (app : AppMetadata) (route : Route)
    (ls : List Locator) : t.Reaches (t.register { app := app, route := route } ls).2.1 :=
  ⟨[.register (.fresh app route) ls], rfl⟩

/-! ## What a broker does -/

/-- Applying an exposure from elsewhere performs an operation or none. -/
theorem reaches_applyExposed (t : RouteTable) (selfUri : Option String) (id : Uuid)
    (appName : String) (services : List Locator) (brokerUri : Option String) :
    t.Reaches (applyExposed selfUri id appName services brokerUri t).1 := by
  unfold applyExposed
  split
  · exact .refl t
  · cases hget : t.get? id with
    | none =>
      cases brokerUri with
      | none => exact .refl t
      | some uri => exact t.reaches_expose _ _ services
    | some known =>
      cases brokerUri with
      | none => exact reaches_expose_known hget services
      | some uri =>
        simp only
        split
        · exact (t.reaches_remove id).trans (reaches_expose _ _ _ services)
        · exact reaches_expose_known hget services

/-- Every event that is applied performs operations of the table. -/
theorem reaches_apply (t : RouteTable) (c : Consumers) (event : Event) :
    t.Reaches (c.apply event t).2.1 := by
  cases event with
  | servicesExposed id appName services brokerUri => exact t.reaches_applyExposed _ _ _ _ _
  | servicesHidden id appName services => exact t.reaches_hide id services
  | appStatusChanged id appName status => exact t.reaches_setStatus id status
  | configChanged appName key value => exact .refl t
  | portsUpdated id ports => exact .refl t
  | clusterChanged destination uris => exact .refl t
  | cacheInvalidate appName keys => exact .refl t

/-- A connection that is taken in performs operations of the table. -/
theorem reaches_takeIn (t : RouteTable) (setup : Setup) (link : LinkId) :
    t.Reaches (Broker.takeIn setup link t).2.1 := by
  have hway : t.Reaches (t.makeWay setup.app.instanceId link) := by
    unfold makeWay
    split
    · split
      · exact t.reaches_remove _
      · exact .refl t
    · exact .refl t
  cases hservices : setup.services.isEmpty with
  | true =>
    rw [(takeIn_of_isEmpty hservices link).2]
    exact hway.trans (reaches_register _ _ _ _)
  | false =>
    rw [(takeIn_of_not_isEmpty hservices link).2]
    exact hway.trans (reaches_expose _ _ _ _)

/-- A connection that ends performs operations of the table. -/
theorem reaches_dismiss (t : RouteTable) (id : Uuid) (link : LinkId) :
    t.Reaches (Broker.dismiss id link t).2.1 := by
  unfold Broker.dismiss
  split
  · split
    · exact t.reaches_remove id
    · exact .refl t
  · exact .refl t

/-- Removing several responders is removing one after the other. -/
theorem reaches_removeAll (ids : List Uuid) :
    ∀ t : RouteTable, t.Reaches (Broker.removeAll ids t).1 := by
  induction ids with
  | nil =>
    intro t
    exact .refl t
  | cons id rest ih =>
    intro t
    exact (t.reaches_remove id).trans (ih _)

/-- Pruning performs removals only. -/
theorem reaches_prune (t : RouteTable) (uri : String) :
    t.Reaches (Broker.pruneSection uri t).2.1 := reaches_removeAll (Broker.through uri t) t

end RouteTable

namespace Home

variable {h : Home}

/-- A broker that hears an event performs operations of its table. -/
theorem reaches_hear (event : Event) (h : Home) : h.table.Reaches (h.hear event).table := by
  rw [hear_eq]
  exact h.table.reaches_apply h.consumers event

/-- Publishing an event applies it at home, too. -/
theorem reaches_publish {t : RouteTable} (ht : h.table.Reaches t) (event : Event) :
    h.table.Reaches ((h.withTable t).publish event).table :=
  ht.trans (reaches_hear event (h.withTable t))

/-- A deed on a local responder performs what it says of the responder that is there. -/
theorem reaches_withLocal (id : Uuid) {d : Deed}
    {act : Responder → RouteTable → Event × RouteTable × List RouteChange}
    (htask : d.task (host h.uri) = do let _ ← (host h.uri).withLocal id act)
    (hact : ∀ r, h.table.get? id = some r → h.table.Reaches (act r h.table).2.1) :
    h.table.Reaches (h.perform d).table := by
  rw [perform_of_local id htask]
  cases hr : (h.table.get? id).filter fun r => !r.isRemote with
  | none => exact .refl h.table
  | some r => exact reaches_publish (hact r (get?_of_here hr)) _

/-- A deed is a list of changes. -/
theorem reaches_perform (d : Deed) (h : Home) : h.table.Reaches (h.perform d).table := by
  cases d with
  | connect setup link =>
    have htaken := h.table.reaches_takeIn setup link
    rw [perform_connect]
    cases Broker.refusal setup with
    | some reason => exact .refl h.table
    | none =>
      simp only
      split
      · exact htaken
      · exact reaches_publish htaken _
  | disconnect id link =>
    have hdismissed := h.table.reaches_dismiss id link
    rw [perform_disconnect]
    split
    · exact hdismissed
    · exact reaches_publish hdismissed _
  | expose id services =>
    apply reaches_withLocal id rfl
    intro r hr
    exact RouteTable.reaches_expose_known hr services
  | hide id services =>
    apply reaches_withLocal id rfl
    intro r _
    exact h.table.reaches_hide id services
  | setStatus id status =>
    apply reaches_withLocal id rfl
    intro r _
    exact h.table.reaches_setStatus id status

end Home

end ServiceMesh
