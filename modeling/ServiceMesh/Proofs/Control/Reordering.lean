import Mathlib.Data.Finset.Basic
import ServiceMesh.Proofs.Broker.Reach
import ServiceMesh.Proofs.Control.Desk

/-!
# Events about different providers

An event about a provider changes that provider in the route table, and the ports of that
provider, and no other (`Desk.get?_hear`, `Desk.ports_hear`).  So two events about different
providers leave the same providers with the same ports, whichever is heard first.

The indices of the table are shared: a hash or an application may belong to both providers,
and the order in which an index lists them depends on the order of the events.  As maps of
sets the indices do not depend on it: those of a consistent table are given by its look-up
(`RouteTable.Consistent.alike`).
-/

namespace ServiceMesh

/-! ## Tables with the same look-up -/

theorem Dict.Sets.map_toFinset {κ : Type} [DecidableEq κ] {d : Dict κ (List Uuid)} (h : d.Sets)
    (k : κ) : (d.get? k).map List.toFinset
      = if (d.getD k []).toFinset = ∅ then none else some (d.getD k []).toFinset := by
  unfold getD
  cases hk : d.get? k with
  | none => rfl
  | some ids =>
    have hne : ids ≠ [] := (h k ids hk).1
    simp [hne]

namespace RouteTable

/-- Two tables have the same responders, and the same indices as maps of sets. -/
structure Alike (t t' : RouteTable) : Prop where
  responders : ∀ id, t'.get? id = t.get? id
  byHash : ∀ hash, (t'.byHash.get? hash).map List.toFinset
    = (t.byHash.get? hash).map List.toFinset
  byApp : ∀ name, (t'.byApp.get? name).map List.toFinset
    = (t.byApp.get? name).map List.toFinset

variable {t t' : RouteTable}

theorem Indexes.alike {κ : Type} [DecidableEq κ] {d d' : Dict κ (List Uuid)}
    {has : Responder → κ → Prop} (h : Indexes d t has) (h' : Indexes d' t' has)
    (hget : ∀ id, t'.get? id = t.get? id) (k : κ) :
    (d'.get? k).map List.toFinset = (d.get? k).map List.toFinset := by
  have hsets : (d'.getD k []).toFinset = (d.getD k []).toFinset := by
    ext id
    rw [List.mem_toFinset, List.mem_toFinset, h.2, h'.2, hget]
  rw [Dict.Sets.map_toFinset h.1, Dict.Sets.map_toFinset h'.1, hsets]

/-- Consistent tables with the same look-up have the same indices. -/
theorem Consistent.alike (h : t.Consistent) (h' : t'.Consistent)
    (hget : ∀ id, t'.get? id = t.get? id) : t.Alike t' where
  responders := hget
  byHash := h.hashes.alike h'.hashes hget
  byApp := h.apps.alike h'.apps hget

end RouteTable

/-! ## Events about a provider -/

namespace Event

/-- The provider whose services, status or ports an event changes. -/
def provider? : Event → Option Uuid
  | servicesExposed id .. => some id
  | servicesHidden id .. => some id
  | appStatusChanged id .. => some id
  | portsUpdated id _ => some id
  | _ => none

/-- What becomes of the ports of the provider that an event is about. -/
def portsEffect : Event → Option (TextMap UInt16) → Option (TextMap UInt16)
  | appStatusChanged _ _ status, o => if status = .stopped then none else o
  | portsUpdated _ ports, _ => some ports
  | _, o => o

theorem type_ne_of_provider? {event : Event} {x : Uuid} (h : event.provider? = some x) :
    event.type ≠ .clusterChanged := by
  cases event with
  | clusterChanged destination uris => cases h
  | _ =>
    intro ht
    cases ht

end Event

theorem Consumers.ports_apply (c : Consumers) (event : Event) (t : RouteTable) (id : Uuid) :
    (c.apply event t).1.ports.get? id
      = if event.provider? = some id then event.portsEffect (c.ports.get? id)
        else c.ports.get? id := by
  cases event with
  | servicesExposed x appName services brokerUri => simp [apply, Event.portsEffect]
  | servicesHidden x appName services => simp [apply, Event.portsEffect]
  | appStatusChanged x appName status =>
    by_cases hs : status = .stopped
    · simp [apply, Event.provider?, Event.portsEffect, hs, Dict.get?_erase]
    · simp [apply, Event.portsEffect, hs]
  | configChanged appName key value =>
    simp only [apply, Event.provider?, reduceCtorEq, if_false]
    split
    · rfl
    · rfl
  | portsUpdated x ports =>
    simp [apply, Event.provider?, Event.portsEffect, Dict.get?_insert]
  | clusterChanged destination uris => rfl
  | cacheInvalidate appName keys =>
    simp only [apply, Event.provider?, reduceCtorEq, if_false]
    split
    · rfl
    · rfl

namespace Desk

variable {d : Desk}

theorem selfUri_hear (event : Event) (d : Desk) :
    (d.hear event).consumers.selfUri = d.consumers.selfUri :=
  d.consumers.selfUri_apply event d.table

theorem consistent_hear (h : d.table.Consistent) (event : Event) :
    (d.hear event).table.Consistent := (d.table.reaches_apply d.consumers event).consistent h

/-- An event about a provider leaves every other one as it is. -/
theorem get?_hear (hk : d.table.Keyed) (event : Event) (id : Uuid) :
    (d.hear event).table.get? id
      = if event.provider? = some id then event.effect d.consumers.selfUri (d.table.get? id)
        else d.table.get? id := by
  refine (RouteTable.get?_apply hk d.consumers event id).trans ?_
  cases event with
  | portsUpdated x ports => simp [Event.subject?, Event.effect]
  | _ => rfl

theorem ports_hear (event : Event) (d : Desk) (id : Uuid) :
    (d.hear event).consumers.ports.get? id
      = if event.provider? = some id then event.portsEffect (d.consumers.ports.get? id)
        else d.consumers.ports.get? id := d.consumers.ports_apply event d.table id

section

variable {e₁ e₂ : Event} {x y : Uuid} (hx : e₁.provider? = some x) (hy : e₂.provider? = some y)
  (hne : x ≠ y)

include hx hy hne

/-- Whichever of two events about different providers is heard first, the same providers are
left. -/
theorem get?_hear_comm (h : d.table.Consistent) (id : Uuid) :
    ((d.hear e₂).hear e₁).table.get? id = ((d.hear e₁).hear e₂).table.get? id := by
  rw [get?_hear (consistent_hear h e₂).keyed, get?_hear (consistent_hear h e₁).keyed,
    get?_hear h.keyed, get?_hear h.keyed, selfUri_hear, selfUri_hear, hx, hy]
  by_cases hid : x = id
  · subst hid
    simp [Ne.symm hne]
  · simp [hid]

theorem ports_hear_comm (id : Uuid) :
    ((d.hear e₂).hear e₁).consumers.ports.get? id
      = ((d.hear e₁).hear e₂).consumers.ports.get? id := by
  rw [ports_hear, ports_hear, ports_hear, ports_hear, hx, hy]
  by_cases hid : x = id
  · subst hid
    simp [Ne.symm hne]
  · simp [hid]

theorem alike_hear_comm (h : d.table.Consistent) :
    ((d.hear e₁).hear e₂).table.Alike ((d.hear e₂).hear e₁).table :=
  (consistent_hear (consistent_hear h e₁) e₂).alike (consistent_hear (consistent_hear h e₂) e₁)
    (get?_hear_comm hx hy hne h)

end

/-! ## Deliveries -/

/-- A desk becomes another one while two envelopes are delivered one after the other. -/
def DeliveredInTurn (resolves : String → Bool) (source : String) (first second : Envelope)
    (d d' : Desk) : Prop :=
  ∃ e, Delivered resolves source first d e ∧ Delivered resolves source second e d'

section

variable (resolves : String → Bool) (source : String) {env₁ env₂ : Envelope} {e₁ e₂ : Event}
  {x y : Uuid} (h₁ : env₁.event? = some e₁) (h₂ : env₂.event? = some e₂)
  (hx : e₁.provider? = some x) (hy : e₂.provider? = some y)

include h₁ h₂ hx hy

/-- Two envelopes with events about providers are delivered in turn exactly if the events are
heard in turn. -/
theorem deliveredInTurn_iff {d' : Desk} : DeliveredInTurn resolves source env₁ env₂ d d'
    ↔ ((d.hear e₁).hear e₂).Shifted d' := by
  have hfirst := Event.type_ne_of_provider? hx
  have hsecond := Event.type_ne_of_provider? hy
  constructor
  · rintro ⟨e, hd, he⟩
    exact (((delivered_iff h₁ hfirst).mp hd).hear e₂).trans ((delivered_iff h₂ hsecond).mp he)
  · intro h
    exact ⟨d.hear e₁, (delivered_iff h₁ hfirst).mpr (.refl _), (delivered_iff h₂ hsecond).mpr h⟩

/-- At a desk whose route table is the outcome of any changes, whatever its ports: two
envelopes with events about different providers can be delivered in either order, and both
orders leave the same responders, the same indices as maps of sets, and the same ports. -/
theorem deliveries_commute (hne : x ≠ y) (changes : List RouteTable.Change) (keeps : Desk) :
    let d := { keeps with table := RouteTable.after changes }
    (∃ d₁₂, DeliveredInTurn resolves source env₁ env₂ d d₁₂) ∧
    (∃ d₂₁, DeliveredInTurn resolves source env₂ env₁ d d₂₁) ∧
    ∀ d₁₂ d₂₁, DeliveredInTurn resolves source env₁ env₂ d d₁₂ →
      DeliveredInTurn resolves source env₂ env₁ d d₂₁ →
        d₁₂.table.Alike d₂₁.table ∧
          ∀ id, d₂₁.consumers.ports.get? id = d₁₂.consumers.ports.get? id := by
  intro d
  have h : d.table.Consistent := RouteTable.consistent_after changes
  have hthere := @deliveredInTurn_iff d resolves source _ _ _ _ _ _ h₁ h₂ hx hy
  have hback := @deliveredInTurn_iff d resolves source _ _ _ _ _ _ h₂ h₁ hy hx
  refine ⟨⟨_, hthere.mpr (.refl _)⟩, ⟨_, hback.mpr (.refl _)⟩, ?_⟩
  intro d₁₂ d₂₁ h₁₂ h₂₁
  have hleft := hthere.mp h₁₂
  have hright := hback.mp h₂₁
  rw [hleft.table, hright.table, hleft.consumers, hright.consumers]
  exact ⟨alike_hear_comm hx hy hne h, ports_hear_comm hx hy hne⟩

end

namespace Sample

def mailer : Locator := ⟨"post", "Mailer", "3", by decide, by decide, by decide, by decide⟩

def left : Uuid := ⟨List.replicate 16 5, rfl⟩

def right : Uuid := ⟨List.replicate 16 6, rfl⟩

/-- An instance of the one application that there is. -/
def app (id : Uuid) : AppMetadata := { instanceId := id, name := "mailer", ip := "" }

/-- Two providers of one service come. -/
def changes : List RouteTable.Change :=
  [.expose (.fresh (app left) (.peer "local://b2")) [mailer],
    .expose (.fresh (app right) (.direct (.outside 0))) [mailer]]

def keeps : Desk where
  consumers := { localApp := "broker", selfUri := some "local://b1" }
  fleet := { settings := {} }
  site _ := { pool := Pool.new "" {} }

/-- The one provider moves to another broker. -/
def moves : Event := .servicesExposed left "mailer" [mailer] (some "local://b3")

/-- The other one is stopped. -/
def stops : Event := .appStatusChanged right "mailer" .stopped

def envelope (event : Event) : Envelope := .wrap .nil 0 "b2" event

end Sample

open Sample in
/-- Of two instances of an application, which serve the same, one moves and one is stopped. -/
theorem move_and_stop_commute :
    let d := { keeps with table := RouteTable.after changes }
    (envelope moves).event? = some moves ∧ (envelope stops).event? = some stops ∧
    moves.provider? = some left ∧ stops.provider? = some right ∧
    left ≠ right ∧
    ∃ d₁₂ d₂₁, DeliveredInTurn (fun _ => true) "b1" (envelope moves) (envelope stops) d d₁₂ ∧
      DeliveredInTurn (fun _ => true) "b1" (envelope stops) (envelope moves) d d₂₁ ∧
      d₁₂.table.Alike d₂₁.table ∧
      ∀ id, d₂₁.consumers.ports.get? id = d₁₂.consumers.ports.get? id := by
  have hmoves : (envelope moves).event? = some moves := by decide +kernel
  have hstops : (envelope stops).event? = some stops := by decide +kernel
  have hne : left ≠ right := by decide
  obtain ⟨⟨d₁₂, h₁₂⟩, ⟨d₂₁, h₂₁⟩, hsame⟩ :=
    deliveries_commute (fun _ => true) "b1" hmoves hstops rfl rfl hne changes keeps
  exact ⟨hmoves, hstops, rfl, rfl, hne, d₁₂, d₂₁, h₁₂, h₂₁, hsame d₁₂ d₂₁ h₁₂ h₂₁⟩

end Desk

end ServiceMesh
