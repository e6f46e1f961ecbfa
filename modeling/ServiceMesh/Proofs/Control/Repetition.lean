import ServiceMesh.Proofs.Broker.Home
import ServiceMesh.Proofs.Control.Desk
import ServiceMesh.Proofs.Routes.Log

/-!
# Envelopes that are delivered twice

What an event makes of a provider, it makes of it once: to hear the event again leaves the
provider as it is (`Event.effect_effect`).  An event that leaves every look-up in the route
table as it is leaves the table as it is, indices included, since it tells no change
(`RouteTable.apply_eq_self`).  So do the settings and the ports not change either, and the
addresses of a pool are set to what they are.

`Desk.delivered_twice` says so of any envelope at any desk whose table is the outcome of
changes.
-/

namespace ServiceMesh

/-! ## Routes -/

namespace Event

theorem isRelocated_exposing (id : Uuid) (appName uri : String) (ls : List Locator) :
    isRelocated ((remoteResponder id appName uri).exposing ls) uri = false := by
  simp [isRelocated, remoteResponder]

theorem exposed_exposed (selfUri : Option String) (id : Uuid) (appName : String)
    (services : List Locator) (brokerUri : Option String) (o : Option Responder) :
    exposed selfUri id appName services brokerUri (exposed selfUri id appName services brokerUri o)
      = exposed selfUri id appName services brokerUri o := by
  cases brokerUri with
  | none =>
    cases o with
    | none => rfl
    | some known => simp [exposed]
  | some uri =>
    by_cases hself : some uri = selfUri
    · simp [exposed, hself]
    · cases o with
      | none => simp [exposed, hself, isRelocated_exposing]
      | some known =>
        by_cases hmoved : isRelocated known uri = true
        · simp [exposed, hself, hmoved, isRelocated_exposing]
        · have hstays : isRelocated (known.exposing services) uri = false := by
            rw [Bool.not_eq_true] at hmoved
            exact hmoved
          simp [exposed, hself, hmoved, hstays]

/-- What becomes of a provider by an event that is heard again. -/
theorem effect_effect (selfUri : Option String) (event : Event) (o : Option Responder) :
    event.effect selfUri (event.effect selfUri o) = event.effect selfUri o := by
  cases event with
  | servicesExposed id appName services brokerUri => exact exposed_exposed _ _ _ _ _ o
  | servicesHidden id appName services =>
    cases o with
    | none => rfl
    | some r => simp [effect]
  | appStatusChanged id appName status =>
    cases o with
    | none => simp [effect]
    | some r =>
      simp only [effect]
      split
      · rfl
      · rfl
  | _ => rfl

end Event

namespace RouteTable

variable {t : RouteTable}

theorem sighting?_eq_of_get? {t' : RouteTable} (h : ∀ id, t'.get? id = t.get? id) :
    t'.sighting? = t.sighting? := by
  apply funext
  intro id
  exact congrArg (Option.map _) (h id)

theorem expose_eq_self (hk : t.Keyed) {r : Responder} (hr : t.Arrives r) {ls : List Locator}
    (h : ∀ id, (t.expose r ls).2.1.get? id = t.get? id) : (t.expose r ls).2.1 = t :=
  (reported_expose hk hr ls).eq_self (sighting?_eq_of_get? h)

/-- An exposure that changes no look-up moves no provider, and leaves the table as it is. -/
theorem applyExposed_eq_self (hk : t.Keyed) {selfUri : Option String} {id : Uuid}
    {appName : String} {services : List Locator} {brokerUri : Option String}
    (h : ∀ other, (applyExposed selfUri id appName services brokerUri t).1.get? other
      = t.get? other) :
    (applyExposed selfUri id appName services brokerUri t).1 = t := by
  have hid := h id
  rw [get?_applyExposed hk, if_pos rfl] at hid
  unfold applyExposed at h ⊢
  split
  · rfl
  · next hself =>
    rw [if_neg hself] at h
    split
    · next known uri hknown =>
      rw [hknown] at h hid
      have hstays : isRelocated known uri = false := by
        have hother : some uri ≠ selfUri := by
          intro he
          exact hself ⟨rfl, he⟩
        by_contra hmoved
        rw [Bool.not_eq_false] at hmoved
        simp only [Event.exposed, hother, if_false, hmoved, if_true, Option.some.injEq] at hid
        rw [← hid, Event.isRelocated_exposing] at hmoved
        cases hmoved
      simp only [hstays] at h ⊢
      exact expose_eq_self hk (arrives_of_get? ((hk id known hknown).symm ▸ hknown)) h
    · next known hknown =>
      rw [hknown] at h
      exact expose_eq_self hk (arrives_of_get? ((hk id known hknown).symm ▸ hknown)) h
    · next uri hnone =>
      rw [hnone] at h
      exact expose_eq_self hk (fun _ => ⟨rfl, rfl⟩) h
    · rfl

/-- An event that changes no look-up leaves the table as it is, indices included. -/
theorem apply_eq_self (hk : t.Keyed) {c : Consumers} {event : Event}
    (h : ∀ id, (c.apply event t).2.1.get? id = t.get? id) : (c.apply event t).2.1 = t := by
  cases event with
  | servicesExposed id appName services brokerUri => exact applyExposed_eq_self hk h
  | servicesHidden id appName services =>
    exact (reported_hide hk id services).eq_self (sighting?_eq_of_get? h)
  | appStatusChanged id appName status =>
    exact (reported_setStatus hk id status).eq_self (sighting?_eq_of_get? h)
  | _ => rfl

/-- To hear an event again leaves the table as it is. -/
theorem apply_apply (hk : t.Keyed) {c c' : Consumers} (hself : c'.selfUri = c.selfUri)
    (event : Event) : (c'.apply event (c.apply event t).2.1).2.1 = (c.apply event t).2.1 := by
  apply apply_eq_self (hk.apply c event)
  intro id
  rw [get?_apply (hk.apply c event), get?_apply hk, hself]
  split
  · rw [Event.effect_effect]
  · rfl

end RouteTable

/-! ## Settings and ports -/

theorem dropSettings_dropSettings (config : Dict String String) (keys : List String) :
    dropSettings (dropSettings config keys) keys = dropSettings config keys := by
  unfold dropSettings
  split
  · rfl
  · apply Dict.foldl_erase_eq_self
    intro k hk
    rw [Dict.get?_foldl_erase, if_pos hk]

/-- To hear an event again leaves the settings and the ports as they are. -/
theorem Consumers.apply_apply (c : Consumers) (event : Event) (t t' : RouteTable) :
    ((c.apply event t).1.apply event t').1 = (c.apply event t).1 := by
  cases event with
  | servicesExposed id appName services brokerUri => rfl
  | servicesHidden id appName services => rfl
  | appStatusChanged id appName status =>
    by_cases hs : status = .stopped
    · simp [apply, hs]
    · simp [apply, hs]
  | configChanged appName key value =>
    by_cases hto : Event.addresses appName c.localApp = true
    · simp [apply, hto]
    · simp [apply, hto]
  | portsUpdated id ports => simp [apply]
  | clusterChanged destination uris => rfl
  | cacheInvalidate appName keys =>
    by_cases hto : (appName.map (Event.addresses · c.localApp)).getD true = true
    · simp [apply, hto, dropSettings_dropSettings]
    · simp [apply, hto]

namespace Desk

theorem hear_hear {d : Desk} (hk : d.table.Keyed) (event : Event) :
    (d.hear event).hear event = d.hear event := by
  have hconsumers := d.consumers.apply_apply event d.table (d.consumers.apply event d.table).2.1
  have htable := RouteTable.apply_apply hk
    (d.consumers.selfUri_apply event d.table) event
  simp only [hear, hconsumers, htable]

/-! ## Endpoint sets -/

/-- Two desks agree on all that the consumers keep: the settings and the ports, the route
table with its indices, and the addresses of each pool. -/
structure Agrees (d d' : Desk) : Prop where
  consumers : d'.consumers = d.consumers
  table : d'.table = d.table
  endpoints : ∀ destination,
    (d'.pool? destination).map Pool.endpoints = (d.pool? destination).map Pool.endpoints

theorem Agrees.trans {d d' d'' : Desk} (h : d.Agrees d') (h' : d'.Agrees d'') : d.Agrees d'' where
  consumers := h'.consumers.trans h.consumers
  table := h'.table.trans h.table
  endpoints destination := (h'.endpoints destination).trans (h.endpoints destination)

theorem Agrees.symm {d d' : Desk} (h : d.Agrees d') : d'.Agrees d where
  consumers := h.consumers.symm
  table := h.table.symm
  endpoints destination := (h.endpoints destination).symm

theorem Shifted.agrees {d d' : Desk} (h : d.Shifted d') : d.Agrees d' := by
  refine ⟨h.consumers, h.table, ?_⟩
  intro destination
  unfold pool?
  rw [h.fleet]
  simp only [h.pool]

/-- Two desks agree on all but the pool with a reference. -/
structure AgreesBut (ref : Nat) (d d' : Desk) : Prop where
  consumers : d'.consumers = d.consumers
  table : d'.table = d.table
  fleet : d'.fleet = d.fleet
  pool : ∀ r, r ≠ ref → (d'.site r).pool = (d.site r).pool

namespace AgreesBut

variable {ref : Nat} {d d' d'' : Desk}

theorem shifted (h : AgreesBut ref d d') (h' : d'.Shifted d'') : AgreesBut ref d d'' where
  consumers := h'.consumers.trans h.consumers
  table := h'.table.trans h.table
  fleet := h'.fleet.trans h.fleet
  pool r hr := (h'.pool r).trans (h.pool r hr)

theorem set (s : Site) (d' : Desk) (h : AgreesBut ref d d') :
    AgreesBut ref d ((siteAt ref).set s d') where
  consumers := h.consumers
  table := h.table
  fleet := h.fleet
  pool r hr := by
    refine (congrArg Site.pool ?_).trans (h.pool r hr)
    exact Function.update_of_ne hr s d'.site

/-- Desks that agree on the addresses of the one pool left, too, agree. -/
theorem agrees (h : AgreesBut ref d d')
    (hpool : (d'.site ref).pool.endpoints = (d.site ref).pool.endpoints) : d.Agrees d' := by
  refine ⟨h.consumers, h.table, ?_⟩
  intro destination
  unfold pool?
  rw [h.fleet, Option.map_map, Option.map_map]
  cases d.fleet.get? destination with
  | none => rfl
  | some r =>
    by_cases hr : r = ref
    · rw [hr]
      exact congrArg some hpool
    · exact congrArg some (congrArg Pool.endpoints (h.pool r hr))

end AgreesBut

section

variable {resolves : String → Bool} {source : String} {env : Envelope} {d d' : Desk}
  {destination : String} {uris : List String} {ref : Nat}

/-- What a run on one pool leaves, if links and natures are all that changes meanwhile. -/
theorem runs_within {α : Type} {C : Course Site} {f : Fiber Site α} {post : α → Site → Prop}
    (hshift : ∀ s links nature, C.Inv s →
      C.Inv { s with links := links, nature := nature }
        ∧ C.Later s { s with links := links, nature := nature })
    (hpost : ∀ a, C.Stable (post a)) (hd : C.Inv (d.site ref))
    (hf : Fiber.Heeds C f post (d.site ref)) {a : α}
    (h : (f.within (siteAt ref)).Runs Shifted d a d') :
    C.Inv (d'.site ref) ∧ AgreesBut ref d d' ∧ post a (d'.site ref) := by
  have hmeanwhile : ∀ e e' : Desk, e.Shifted e' → (C.within (siteAt ref) (AgreesBut ref d)).Inv e →
      (C.within (siteAt ref) (AgreesBut ref d)).Inv e'
        ∧ (C.within (siteAt ref) (AgreesBut ref d)).Later e e' := by
    intro e e' hshifted he
    obtain ⟨links, nature, hsite⟩ := hshifted.site ref
    obtain ⟨hinv, hlater⟩ := hshift (e.site ref) links nature he.1
    rw [← hsite] at hinv hlater
    exact ⟨⟨hinv, he.2.shifted hshifted⟩, hlater⟩
  have hheeds := hf.within (siteAt ref) (J := AgreesBut ref d) AgreesBut.set
  obtain ⟨⟨hinv, hbut⟩, hend⟩ := hheeds.runs hmeanwhile
    (fun a => Fiber.stable_within (siteAt ref) (hpost a)) ⟨hd, rfl, rfl, rfl, fun _ _ => rfl⟩ h
  exact ⟨hinv, hbut, hend⟩

theorem poolOf_spec (destination : String) (d : Desk) :
    (poolOf destination d).2.fleet.get? destination = some (poolOf destination d).1 := by
  unfold poolOf
  split
  · next ref h => exact h
  · exact Dict.get?_insert_self _ _ _

theorem poolOf_of_get? (h : d.fleet.get? destination = some ref) :
    poolOf destination d = (ref, d) := by
  unfold poolOf
  rw [h]

/-- After an endpoint set changed, the pool of its destination has the addresses that were
taken up. -/
theorem Delivered.settled (henv : env.event? = some (.clusterChanged destination uris))
    (h : Delivered resolves source env d d') :
    ∃ ref, d'.fleet.get? destination = some ref
      ∧ (d'.site ref).Settled resolves uris := by
  obtain ⟨e, f, g, summary, -, hmade, hrun, hafter⟩ := h.of_cluster henv
  obtain ⟨-, hbut, hsettled⟩ := runs_within (C := Site.setting resolves uris)
    (fun _ _ _ _ => ⟨trivial, id⟩) (fun _ _ _ hlater _ hs => hlater hs) trivial
    (Site.heeds_refresh _) hrun
  refine ⟨(poolOf destination e).1, ?_, ?_⟩
  · rw [hafter.fleet, hbut.fleet, hmade.fleet]
    exact poolOf_spec destination e
  · exact (congrArg Pool.uris (hafter.pool _)).trans hsettled

/-- An endpoint set that is what it is set to changes nothing. -/
theorem Delivered.again (henv : env.event? = some (.clusterChanged destination uris))
    (hpool : d.fleet.get? destination = some ref) (hsettled : (d.site ref).Settled resolves uris)
    (h : Delivered resolves source env d d') : d.Agrees d' := by
  obtain ⟨e, f, g, summary, hbefore, hmade, hrun, hafter⟩ := h.of_cluster henv
  rw [poolOf_of_get? (hbefore.fleet ▸ hpool)] at hmade hrun
  have hfound := hbefore.trans hmade
  have hsame : (f.site ref).pool.endpoints = (d.site ref).pool.endpoints :=
    congrArg Pool.endpoints (hfound.pool ref)
  obtain ⟨hkept, hbut, -⟩ := runs_within
    (C := .ofInv fun s => s.pool.endpoints = (f.site ref).pool.endpoints)
    (fun _ _ _ hs => ⟨hs, trivial⟩) (fun _ => Fiber.stable_const True) rfl
    (Site.abides_refresh ((congrArg Pool.Endpoints.configured hsame).trans hsettled) _ rfl) hrun
  exact (hfound.agrees.trans (hbut.agrees hkept)).trans hafter.agrees

end

/-! ## Any envelope -/

/-- At a desk whose route table is the outcome of any changes, whatever its settings, ports and
pools: an envelope that was delivered twice leaves what it leaves when it is delivered once,
whichever links are opened, fail to be opened or are closed meanwhile.  An envelope of an
unknown type, or whose bytes cannot be read, leaves all as it was.  If nobody stands in line
at a pool, an envelope is delivered to the end. -/
theorem delivered_twice (resolves : String → Bool) (source : String) (env : Envelope)
    (changes : List RouteTable.Change) (keeps : Desk) :
    let d := { keeps with table := RouteTable.after changes }
    (∀ d₁ d₂, Delivered resolves source env d d₁ → Delivered resolves source env d₁ d₂ →
      d₁.Agrees d₂) ∧
    (env.event? = none → ∀ d₁, Delivered resolves source env d d₁ → d.Agrees d₁) ∧
    (d.Idle → ∃ d₁, Delivered resolves source env d d₁ ∧ d₁.Idle) := by
  intro d
  have hk : d.table.Keyed := (RouteTable.consistent_after changes).keyed
  refine ⟨?_, ?_, ?_⟩
  · intro d₁ d₂ hfirst hsecond
    cases henv : env.event? with
    | none => exact (hsecond.of_none henv).agrees
    | some event =>
      by_cases hcluster : event.type = .clusterChanged
      · cases event with
        | clusterChanged destination uris =>
          obtain ⟨ref, hpool, hsettled⟩ := hfirst.settled henv
          exact hsecond.again henv hpool hsettled
        | _ => cases hcluster
      · have hheard := (delivered_iff henv hcluster).mp hfirst
        have hagain := (delivered_iff henv hcluster).mp hsecond
        have hagain' := (hheard.hear event).trans hagain
        rw [hear_hear hk] at hagain'
        exact hheard.agrees.symm.trans hagain'.agrees
  · intro hnone d₁ hfirst
    exact (hfirst.of_none hnone).agrees
  · intro hidle
    obtain ⟨count, d₁, hrun, hidle'⟩ := (prompt_deliver source env).runs hidle
    exact ⟨d₁, ⟨count, hrun⟩, hidle'⟩

end Desk

end ServiceMesh
