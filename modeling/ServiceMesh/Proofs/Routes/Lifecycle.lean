import ServiceMesh.Proofs.Broker.Reach
import ServiceMesh.Proofs.Routes.Log

/-!
# The life of a provider in a route table

A provider connects, serves, may go down and serve again, and stops at last
(`AppStatus.Leads`, `Moves`).  Whoever is stopped is gone from the table.

Each operation of a route table keeps to that by itself (`Onward`), but one: a status that is
set is taken over as it is.  It may lead back to `connected`, or from there to `down`
(`AppStatus.Against`).  A control event sets the status that it was sent with in the same way.

So after any operations and events of a new table, the next one keeps providers on their way,
and tells only of changes on that way, exactly if it is not such a setting of a status
(`RouteTable.lifecycle_iff`).
-/

namespace ServiceMesh

/-! ## The way of a provider -/

namespace AppStatus

/-- A status leads to another one. -/
inductive Leads : AppStatus → AppStatus → Prop
  | serves : Leads .connected .serving
  | rests : Leads .serving .down
  | returns : Leads .down .serving

/-- A status is set where no status leads, and is not that of a stop. -/
inductive Against : AppStatus → AppStatus → Prop
  | back {before : AppStatus} (h : before ≠ .connected) : Against before .connected
  | early : Against .connected .down

/-- Serving is never against the order, whatever was before. -/
theorem not_against_serving {before : AppStatus} : ¬Against before .serving := nofun

/-- Stopping is never against the order, whatever was before. -/
theorem not_against_stopped {before : AppStatus} : ¬Against before .stopped := nofun

/-- A provider in the table that gets another status goes on exactly if that is not against its
way. -/
theorem leads_iff {before after : AppStatus} (hbefore : before ≠ .stopped)
    (hafter : after ≠ .stopped) (hne : before ≠ after) :
    Leads before after ↔ ¬Against before after := by
  cases before with
  | connected =>
    cases after with
    | connected => exact absurd rfl hne
    | serving => exact iff_of_true .serves nofun
    | down => exact iff_of_false nofun (not_not.mpr .early)
    | stopped => exact absurd rfl hafter
  | serving =>
    cases after with
    | connected => exact iff_of_false nofun (not_not.mpr (.back nofun))
    | serving => exact absurd rfl hne
    | down => exact iff_of_true .rests nofun
    | stopped => exact absurd rfl hafter
  | down =>
    cases after with
    | connected => exact iff_of_false nofun (not_not.mpr (.back nofun))
    | serving => exact iff_of_true .returns nofun
    | down => exact absurd rfl hne
    | stopped => exact absurd rfl hafter
  | stopped => exact absurd rfl hbefore

/-- Staying is never against the order. -/
theorem not_against_self {status : AppStatus} : ¬Against status status := by
  rintro ⟨h⟩
  exact h rfl

end AppStatus

open AppStatus (Leads Against)

/-- The status of a provider before and after something happened, if it is in the table. -/
inductive Moves : Option AppStatus → Option AppStatus → Prop
  | stays (o : Option AppStatus) : Moves o o
  | comes {status : AppStatus} (h : status = .connected ∨ status = .serving) :
      Moves none (some status)
  | goes {before after : AppStatus} (h : Leads before after) : Moves (some before) (some after)
  | stops (before : AppStatus) : Moves (some before) none

/-- Between statuses of responders that are there, moving is not going against the order. -/
theorem moves_some_iff {before after : AppStatus} (hbefore : before ≠ .stopped)
    (hafter : after ≠ .stopped) : Moves (some before) (some after) ↔ ¬Against before after := by
  by_cases hsame : before = after
  · subst hsame
    exact iff_of_true (.stays _) AppStatus.not_against_self
  · rw [← AppStatus.leads_iff hbefore hafter hsame]
    constructor
    · rintro (⟨_⟩ | ⟨_⟩ | ⟨h⟩)
      · exact absurd rfl hsame
      · exact h
    · exact .goes

/-- Whoever is not stopped may serve. -/
theorem moves_serving {o : Option AppStatus} (h : o ≠ some .stopped) :
    Moves o (some .serving) := by
  cases o with
  | none => exact .comes (.inr rfl)
  | some before =>
    exact (moves_some_iff (fun hs => h (congrArg some hs)) (by decide)).mpr
      AppStatus.not_against_serving

/-- A change that is told is on the way of the provider. -/
def RouteChange.Leads : RouteChange → Prop
  | .statusChanged _ _ _ before after => AppStatus.Leads before after
  | _ => True

/-- What an exposure that is heard makes of a provider serves, unless it is ignored. -/
theorem Event.exposed_cases (selfUri : Option String) (id : Uuid) (appName : String)
    (services : List Locator) (brokerUri : Option String) (o : Option Responder) :
    exposed selfUri id appName services brokerUri o = o ∨
      ∃ r, exposed selfUri id appName services brokerUri o = some r ∧
        r.status = .serving := by
  cases brokerUri with
  | none =>
    cases o with
    | none => exact .inl rfl
    | some known => exact .inr ⟨_, rfl, rfl⟩
  | some uri =>
    simp only [exposed]
    split
    · exact .inl rfl
    · cases o with
      | none => exact .inr ⟨_, rfl, rfl⟩
      | some known =>
        simp only
        split
        · exact .inr ⟨_, rfl, rfl⟩
        · exact .inr ⟨_, rfl, rfl⟩

namespace RouteTable

/-- The status of the provider with an id. -/
def status? (t : RouteTable) (id : Uuid) : Option AppStatus := (t.get? id).map Responder.status

/-- All providers stay on their way from one table to another, and so do all changes that are
told. -/
structure Onward (t t' : RouteTable) (told : List RouteChange) : Prop where
  moves : ∀ id, Moves (t.status? id) (t'.status? id)
  leads : ∀ change ∈ told, change.Leads

section

variable {t t' : RouteTable} {told : List RouteChange} {x : Uuid} {r : Responder}
  {status : AppStatus}

theorem Onward.refl (t : RouteTable) : Onward t t [] := by
  constructor
  · intro _
    exact .stays _
  · exact List.forall_mem_nil _

/-- A step that goes onward satisfies both sides of the equivalence, where nothing is forced. -/
theorem Onward.iff (h : Onward t t' told) {forced : Prop} (hforced : ¬forced) :
    ((∀ id, Moves (t.status? id) (t'.status? id)) ↔ ¬forced) ∧
    ((∀ change ∈ told, change.Leads) ↔ ¬forced) :=
  ⟨iff_of_true h.moves hforced, iff_of_true h.leads hforced⟩

/-- No responder in a consistent table is stopped. -/
theorem Consistent.status?_ne_stopped (h : t.Consistent) (id : Uuid) :
    t.status? id ≠ some .stopped := by
  intro hs
  obtain ⟨r, hr, hstatus⟩ := Option.map_eq_some_iff.mp hs
  exact h.live id r hr hstatus

/-- An operation that concerns one provider. -/
theorem moves_of_get? {o : Option Responder}
    (hget : ∀ id, t'.get? id = if x = id then o else t.get? id)
    (hx : Moves (t.status? x) (o.map Responder.status)) (id : Uuid) :
    Moves (t.status? id) (t'.status? id) := by
  rw [status?, status?, hget]
  split
  · next hid => exact hid ▸ hx
  · exact .stays _

/-! ## Operations that keep providers on their way -/

/-- Registering goes onward: a newcomer is connected, and a known responder stays as it is. -/
theorem onward_register (hk : t.Keyed) (hr : t.Arrives r) (ls : List Locator) :
    Onward t (t.register r ls).2.1 (t.register r ls).2.2 where
  moves := by
    refine moves_of_get? (get?_register hk r ls) ?_
    cases h : t.get? r.id with
    | none =>
      rw [registrant_of_none h, status?, h]
      exact .comes (.inl (hr h).1)
    | some known =>
      rw [registrant_of_get? h, status?, h]
      exact .stays _
  leads := by
    rw [register_told hk]
    split
    · exact List.forall_mem_singleton.mpr trivial
    · exact List.forall_mem_nil _

/-- Taking services back goes onward: it changes no status. -/
theorem onward_unregister (hk : t.Keyed) (x : Uuid) (ls : List Locator) :
    Onward t (t.unregister x ls).2.1 (t.unregister x ls).2.2 where
  moves := by
    refine moves_of_get? (get?_unregister hk x ls) ?_
    rw [Option.map_map]
    exact .stays _
  leads := by
    cases h : t.get? x with
    | none =>
      rw [unregister, h]
      exact List.forall_mem_nil _
    | some r =>
      rw [unregister_told h]
      split
      · exact List.forall_mem_nil _
      · exact List.forall_mem_singleton.mpr trivial

/-- Removing goes onward: whoever goes is stopped. -/
theorem onward_remove (t : RouteTable) (x : Uuid) :
    Onward t (t.remove x).2.1 (t.remove x).2.2 where
  moves := by
    refine moves_of_get? (o := none) (t.get?_remove x) ?_
    cases t.status? x with
    | none => exact .stays _
    | some before => exact .stops before
  leads := by
    cases h : t.get? x with
    | none =>
      rw [remove, h]
      exact List.forall_mem_nil _
    | some r =>
      rw [remove, h]
      exact List.forall_mem_singleton.mpr trivial

/-! ## The setting of a status -/

/-- A status is set against the way of a provider. -/
def Forces (t : RouteTable) (x : Uuid) (status : AppStatus) : Prop :=
  ∃ r, t.get? x = some r ∧ Against r.status status

/-- What a setting tells is on the way of the provider exactly if the setting is. -/
theorem leads_setStatus_iff (hr : t.get? x = some r) (hlive : r.status ≠ .stopped)
    (hs : status ≠ .stopped) :
    (∀ change ∈ (t.setStatus x status).2.2, change.Leads) ↔ ¬Against r.status status := by
  rw [setStatus_of_get? hr hs]
  by_cases hsame : r.status = status
  · rw [if_pos hsame, hsame]
    exact iff_of_true (List.forall_mem_nil _) AppStatus.not_against_self
  · rw [if_neg hsame, List.forall_mem_singleton]
    exact AppStatus.leads_iff hlive hs hsame

/-- A change of status goes onward unless it forces somebody back. -/
theorem onward_setStatus_iff (h : t.Consistent) (x : Uuid) (status : AppStatus) :
    ((∀ id, Moves (t.status? id) ((t.setStatus x status).2.1.status? id))
      ↔ ¬t.Forces x status) ∧
    ((∀ change ∈ (t.setStatus x status).2.2, change.Leads) ↔ ¬t.Forces x status) := by
  by_cases hs : status = .stopped
  · have hforces : ¬t.Forces x status := by
      rintro ⟨r, -, hagainst⟩
      exact AppStatus.not_against_stopped (hs ▸ hagainst)
    rw [hs, setStatus_stopped, ← hs]
    exact (t.onward_remove x).iff hforces
  · cases hr : t.get? x with
    | none =>
      have hforces : ¬t.Forces x status := by
        rintro ⟨r, hr', -⟩
        cases hr.symm.trans hr'
      have hsame : (t.setStatus x status).2 = (t, []) := by
        simp only [setStatus, hs, if_false, hr]
      rw [hsame]
      exact (Onward.refl t).iff hforces
    | some r =>
      have hlive := h.live x r hr
      have hforces : t.Forces x status ↔ Against r.status status := by
        simp only [Forces, hr, Option.some.injEq, exists_eq_left']
      have hget := get?_setStatus h.keyed x hs
      rw [hr, Option.map_some] at hget
      rw [hforces, leads_setStatus_iff hr hlive hs, ← moves_some_iff hlive hs]
      refine ⟨⟨fun hmoves => ?_, fun hmoves => moves_of_get? hget ?_⟩, Iff.rfl⟩
      · have hx := hmoves x
        rwa [status?, status?, hget, if_pos rfl, hr] at hx
      · rw [status?, hr]
        exact hmoves

/-- A setting that is not against the way of the provider. -/
theorem onward_setStatus (h : t.Consistent) (hforces : ¬t.Forces x status) :
    Onward t (t.setStatus x status).2.1 (t.setStatus x status).2.2 :=
  ⟨(onward_setStatus_iff h x status).1.mpr hforces, (onward_setStatus_iff h x status).2.mpr hforces⟩

/-! ## Operations that set a status themselves -/

theorem not_forces_serving : ¬t.Forces x .serving := by
  rintro ⟨r, -, hagainst⟩
  exact AppStatus.not_against_serving hagainst

/-- Whoever arrives can be registered. -/
theorem Arrives.registrable (h : t.Arrives r) : t.Registrable r := by
  intro hnone
  obtain ⟨hstatus, hservices⟩ := h hnone
  exact ⟨hservices, by rw [hstatus]; decide⟩

/-- Exposing goes onward: it ends with serving. -/
theorem onward_expose (h : t.Consistent) (hr : t.Arrives r) (ls : List Locator) :
    Onward t (t.expose r ls).2.1 (t.expose r ls).2.2 where
  moves := moves_of_get? (get?_expose h.keyed r ls) (moves_serving (h.status?_ne_stopped r.id))
  leads := by
    rw [expose_told]
    exact List.forall_mem_append.mpr ⟨(onward_register h.keyed hr ls).leads,
      (onward_setStatus (h.register hr.registrable ls) not_forces_serving).leads⟩

/-- Withdrawing moves along the order: to down, or nowhere. -/
theorem moves_withdrawing (r : Responder) (ls : List Locator) :
    Moves (some r.status) (some (r.withdrawing ls).status) := by
  simp only [Responder.withdrawing]
  split
  · next hdown =>
    have hserving : r.status = .serving :=
      (Responder.isServing_iff _).mp (Bool.and_eq_true_iff.mp hdown).2
    rw [hserving]
    exact .goes .rests
  · exact .stays _

/-- Hiding goes onward. -/
theorem onward_hide (h : t.Consistent) (x : Uuid) (ls : List Locator) :
    Onward t (t.hide x ls).2.1 (t.hide x ls).2.2 where
  moves := by
    refine moves_of_get? (get?_hide h.keyed x ls) ?_
    rw [status?]
    cases t.get? x with
    | none => exact .stays _
    | some r => exact moves_withdrawing r ls
  leads := by
    rcases hide_cases t x ls with heq | ⟨r, hr, hserving, heq⟩
    · rw [heq]
      exact (onward_unregister h.keyed x ls).leads
    · have hforces : ¬(t.unregister x ls).2.1.Forces x .down := by
        rintro ⟨r', hr', hagainst⟩
        cases hr.symm.trans hr'
        rw [hserving] at hagainst
        cases hagainst
      rw [heq]
      exact List.forall_mem_append.mpr ⟨(onward_unregister h.keyed x ls).leads,
        (onward_setStatus (h.unregister x ls) hforces).leads⟩

/-- Applying an exposure from elsewhere goes onward.  Whoever comes from elsewhere is gone here
before it is known there. -/
theorem onward_applyExposed (h : t.Consistent) (selfUri : Option String) (id : Uuid)
    (appName : String) (services : List Locator) (brokerUri : Option String) :
    Onward t (applyExposed selfUri id appName services brokerUri t).1
      (applyExposed selfUri id appName services brokerUri t).2 where
  moves := by
    refine moves_of_get? (get?_applyExposed h.keyed selfUri id appName services brokerUri) ?_
    rcases Event.exposed_cases selfUri id appName services brokerUri (t.get? id) with
      heq | ⟨r, heq, hr⟩
    · rw [heq]
      exact .stays _
    · rw [heq, Option.map_some, hr]
      exact moves_serving (h.status?_ne_stopped id)
  leads := by
    have hfresh (t : RouteTable) (uri : String) : t.Arrives (remoteResponder id appName uri) := by
      intro _
      exact ⟨rfl, rfl⟩
    have hknown {known : Responder} (hget : t.get? id = some known) : t.Arrives known :=
      arrives_of_get? ((h.keyed id known hget).symm ▸ hget)
    unfold applyExposed
    split
    · exact List.forall_mem_nil _
    · split
      · next known uri hget _ =>
        split
        · exact List.forall_mem_append.mpr ⟨(t.onward_remove id).leads,
            (onward_expose (h.remove id) (hfresh _ uri) services).leads⟩
        · exact (onward_expose h (hknown hget) services).leads
      · next known hget _ => exact (onward_expose h (hknown hget) services).leads
      · next uri _ _ => exact (onward_expose h (hfresh t uri) services).leads
      · exact List.forall_mem_nil _

end

/-! ## Runs -/

/-- An operation of a table, or an event that consumers hear. -/
inductive Op where
  | change (change : Change)
  | hear (consumers : Consumers) (event : Event)

namespace Op

/-- The table after an operation or an event. -/
def apply (t : RouteTable) : Op → RouteTable
  | change c => c.apply t
  | hear consumers event => (consumers.apply event t).2.1

/-- What is told of an operation or an event. -/
def told (t : RouteTable) : Op → List RouteChange
  | change c => c.told t
  | hear consumers event => (consumers.apply event t).2.2

/-- The provider of which a status is set. -/
def sets? : Op → Option (Uuid × AppStatus)
  | change (.setStatus id status) => some (id, status)
  | hear _ (.appStatusChanged id _ status) => some (id, status)
  | _ => none

/-- A status is set against the way of a provider. -/
def Forces (t : RouteTable) (op : Op) : Prop :=
  ∃ id status, op.sets? = some (id, status) ∧ t.Forces id status

variable {t : RouteTable}

/-- Every operation performs operations of the table. -/
theorem reaches_apply (t : RouteTable) (op : Op) : t.Reaches (op.apply t) := by
  cases op with
  | change c => exact ⟨[c], rfl⟩
  | hear consumers event => exact t.reaches_apply consumers event

/-- An operation that sets no status, or one that is heard. -/
theorem onward_of_sets?_eq_none (h : t.Consistent) {op : Op} (hsets : op.sets? = none) :
    Onward t (op.apply t) (op.told t) := by
  cases op with
  | change c =>
    cases c with
    | register handed services =>
      simp only [apply, told, Change.apply, Change.told]
      cases hr : handed.resolve t with
      | none => exact .refl t
      | some r => exact onward_register h.keyed (Handed.arrives h.keyed hr) services
    | unregister id services => exact onward_unregister h.keyed id services
    | remove id => exact t.onward_remove id
    | setStatus id status => cases hsets
    | expose handed services =>
      simp only [apply, told, Change.apply, Change.told]
      cases hr : handed.resolve t with
      | none => exact .refl t
      | some r => exact onward_expose h (Handed.arrives h.keyed hr) services
    | hide id services => exact onward_hide h id services
  | hear consumers event =>
    cases event with
    | servicesExposed id appName services brokerUri => exact onward_applyExposed h _ _ _ _ _
    | servicesHidden id appName services => exact onward_hide h id services
    | appStatusChanged id appName status => cases hsets
    | configChanged appName key value => exact .refl t
    | portsUpdated id ports => exact .refl t
    | clusterChanged destination uris => exact .refl t
    | cacheInvalidate appName keys => exact .refl t

/-- An operation that sets a status, or an event that does. -/
theorem eq_setStatus_of_sets? {op : Op} {id : Uuid} {status : AppStatus}
    (hsets : op.sets? = some (id, status)) :
    op.apply t = (t.setStatus id status).2.1 ∧ op.told t = (t.setStatus id status).2.2 := by
  cases op with
  | change c =>
    cases c with
    | setStatus _ _ =>
      cases hsets
      exact ⟨rfl, rfl⟩
    | _ => cases hsets
  | hear consumers event =>
    cases event with
    | appStatusChanged _ _ _ =>
      cases hsets
      exact ⟨rfl, rfl⟩
    | _ => cases hsets

/-- Every operation goes onward unless it forces somebody back. -/
theorem onward_iff (h : t.Consistent) (op : Op) :
    ((∀ id, Moves (t.status? id) ((op.apply t).status? id)) ↔ ¬op.Forces t) ∧
    ((∀ change ∈ op.told t, change.Leads) ↔ ¬op.Forces t) := by
  cases hsets : op.sets? with
  | none =>
    have hforces : ¬op.Forces t := by
      rintro ⟨id, status, hsets', -⟩
      cases hsets.symm.trans hsets'
    exact (onward_of_sets?_eq_none h hsets).iff hforces
  | some target =>
    obtain ⟨id, status⟩ := target
    have hforces : op.Forces t ↔ t.Forces id status := by simp [Forces, hsets]
    obtain ⟨happly, htold⟩ := eq_setStatus_of_sets? (t := t) hsets
    rw [hforces, happly, htold]
    exact onward_setStatus_iff h id status

/-- A new table after operations and events. -/
def after (ops : List Op) : RouteTable := ops.foldl apply {}

/-- The table is consistent after any operations. -/
theorem consistent_after (ops : List Op) : (after ops).Consistent := by
  suffices h : ∀ t : RouteTable, t.Consistent → (ops.foldl apply t).Consistent from
    h {} consistent_empty
  induction ops with
  | nil =>
    intro _ ht
    exact ht
  | cons op rest ih =>
    intro t ht
    exact ih _ ((reaches_apply t op).consistent ht)

end Op

/-- Whatever happened to a new table, and whatever is done next: all providers stay on their way,
from connected to serving, from there to down and back, and to a stop, exactly if the status that
is set is not against the way of its provider.  The same holds of the changes that are told.
In any case nobody in the table is stopped, and whoever is removed is. -/
theorem lifecycle_iff (ops : List Op) (op : Op) :
    let t := Op.after ops
    ((∀ id, Moves (t.status? id) ((op.apply t).status? id)) ↔ ¬op.Forces t) ∧
    ((∀ change ∈ op.told t, change.Leads) ↔ ¬op.Forces t) ∧
    (∀ id, (op.apply t).status? id ≠ some .stopped) ∧
    ∀ id r, (t.remove id).1 = some r → r.status = .stopped ∧ (t.remove id).2.1.get? id = none := by
  intro t
  have h : t.Consistent := Op.consistent_after ops
  obtain ⟨hmoves, hleads⟩ := Op.onward_iff h op
  refine ⟨hmoves, hleads, ((op.reaches_apply t).consistent h).status?_ne_stopped, ?_⟩
  intro id r hgone
  refine ⟨?_, (t.get?_remove id id).trans (if_pos rfl)⟩
  cases hr : t.get? id with
  | none =>
    simp only [remove, hr] at hgone
    cases hgone
  | some known =>
    simp only [remove, hr] at hgone
    cases hgone
    rfl

/-- A provider that serves is set back by an event. -/
theorem set_back_to_connected :
    let app : AppMetadata := { instanceId := default, name := "clock", ip := "" }
    let ops := [Op.change (.expose (.fresh app (.direct (.outside 0))) [])]
    let op := Op.hear { localApp := "clock" } (.appStatusChanged default "clock" .connected)
    ¬∀ id, Moves ((Op.after ops).status? id) ((op.apply (Op.after ops)).status? id) := by
  intro app ops op hmoves
  have hforces : op.Forces (Op.after ops) :=
    ⟨default, .connected, rfl, ⟨app, .direct (.outside 0), .serving, []⟩, rfl, .back (by decide)⟩
  exact (lifecycle_iff ops op).1.mp hmoves hforces

end RouteTable

end ServiceMesh
