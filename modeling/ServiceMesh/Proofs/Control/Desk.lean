import Mathlib.Logic.Function.Basic
import ServiceMesh.Proofs.Concurrency.Parts
import ServiceMesh.Proofs.Concurrency.Runs
import ServiceMesh.Proofs.Pool.Refreshing
import ServiceMesh.Simulation.Action.Events

/-!
# Envelopes at the consumers of a broker

A `Desk` is what the consumers of a broker act on: their settings and ports, the route table,
and the pools by destination, each with what its operations meet with.  An envelope is
*delivered* by a bus whose only handlers are the consumers (`Desk.Delivered`).  Between two
turns of a delivery the links and the natures of the pools may change.

An envelope carries one event at most (`Envelope.event?`).  If it carries none, a delivery
does nothing.  An event that changes no endpoint set is taken in by one section
(`delivered_iff`); the addresses of a pool are set at its turn (`Delivered.of_cluster`).  A
delivery at which nobody stands in line comes to its end (`prompt_deliver`).
-/

namespace ServiceMesh

/-- The event that an envelope carries, if its type is known and its bytes can be read. -/
def Envelope.event? (env : Envelope) : Option Event :=
  (EventType.ofWireName? env.eventType).bind fun t => Event.decode? t env.data

/-- What the consumers of a broker act on. -/
structure Desk where
  /-- The settings and the ports. -/
  consumers : Consumers
  /-- The routes. -/
  table : RouteTable := {}
  /-- The pools by destination. -/
  fleet : Fleet Nat
  /-- The pools by their references, with what their operations meet with. -/
  site : Nat → Site
  /-- The reference of the next pool. -/
  next : Nat := 0

namespace Desk

open Relation (ReflTransGen)

/-! ## Sections -/

/-- The pool of a destination. -/
def pool? (d : Desk) (destination : String) : Option Pool :=
  (d.fleet.get? destination).map fun ref => (d.site ref).pool

/-- A pool as a part of the desk. -/
def siteAt (ref : Nat) : Part Desk Site where
  get d := d.site ref
  set s d := { d with site := Function.update d.site ref s }
  get_set s d := Function.update_self ref s d.site
  set_get d := by rw [Function.update_eq_self]
  set_set s s' d := by rw [Function.update_idem]

/-- The pool of a destination, made if there is none. -/
def poolOf (destination : String) (d : Desk) : Nat × Desk :=
  match d.fleet.get? destination with
  | some ref => (ref, d)
  | none =>
      (d.next, { d with
        fleet := d.fleet.add destination d.next
        site := Function.update d.site d.next { pool := Pool.new destination d.fleet.settings }
        next := d.next + 1 })

/-- Takes in an event that changes no endpoint set. -/
def hear (event : Event) (d : Desk) : Desk :=
  { d with
    consumers := (d.consumers.apply event d.table).1
    table := (d.consumers.apply event d.table).2.1 }

/-! ## Deliveries -/

/-- The surroundings of the consumers. -/
def consumerHost (resolves : String → Bool) : ConsumerHost (Fiber Desk) where
  atomically f := Fiber.change fun d =>
    { d with consumers := (f d.consumers d.table).1, table := (f d.consumers d.table).2.1 }
  refresh destination uris := do
    let ref ← Fiber.atomically (poolOf destination)
    let _ ← ((Site.host resolves).refresh uris).within (siteAt ref)

/-- The surroundings of a bus with the consumers. -/
def busHost (resolves : String → Bool) (source : String) :
    BusHost (Fiber Desk) EventHandler Broadcaster where
  bus := pure (consumingBus source)
  run
    | .note _, _ => pure ()
    | .consume, event => (consumerHost resolves).consume event
  broadcast _ _ := pure ()
  stamp := pure (.nil, 0)

/-- Delivers an envelope, and counts the handlers that ran. -/
def deliver (resolves : String → Bool) (source : String) (env : Envelope) : Fiber Desk Nat :=
  (busHost resolves source).dispatch env

/-- The links and the natures of pools changed, and nothing else. -/
structure Shifted (d d' : Desk) : Prop where
  consumers : d'.consumers = d.consumers
  table : d'.table = d.table
  fleet : d'.fleet = d.fleet
  next : d'.next = d.next
  site : ∀ ref, ∃ links nature, d'.site ref = { d.site ref with links := links, nature := nature }

/-- A desk becomes another one while an envelope is delivered. -/
def Delivered (resolves : String → Bool) (source : String) (env : Envelope) (d d' : Desk) :
    Prop :=
  ∃ count, (deliver resolves source env).Runs Shifted d count d'

/-! ## Shifts -/

namespace Shifted

variable {d d' d'' : Desk}

theorem refl (d : Desk) : d.Shifted d := by
  refine ⟨rfl, rfl, rfl, rfl, ?_⟩
  intro _
  exact ⟨_, _, rfl⟩

theorem trans (h : d.Shifted d') (h' : d'.Shifted d'') : d.Shifted d'' := by
  refine ⟨h'.consumers.trans h.consumers, h'.table.trans h.table, h'.fleet.trans h.fleet,
    h'.next.trans h.next, ?_⟩
  intro ref
  obtain ⟨_, _, hsite⟩ := h.site ref
  obtain ⟨links, nature, hsite'⟩ := h'.site ref
  exact ⟨links, nature, by rw [hsite', hsite]⟩

theorem of_reflTransGen (h : ReflTransGen Shifted d d') : d.Shifted d' := by
  induction h with
  | refl => exact refl d
  | tail _ hlast ih => exact ih.trans hlast

theorem pool (h : d.Shifted d') (ref : Nat) : (d'.site ref).pool = (d.site ref).pool := by
  obtain ⟨_, _, hsite⟩ := h.site ref
  rw [hsite]

theorem hear (h : d.Shifted d') (event : Event) : (d.hear event).Shifted (d'.hear event) := by
  refine ⟨?_, ?_, h.fleet, h.next, h.site⟩
  · simp only [Desk.hear, h.consumers, h.table]
  · simp only [Desk.hear, h.consumers, h.table]

end Shifted

/-! ## Dispatch -/

theorem ofWireName?_eq_some_iff {s : String} {t : EventType} :
    EventType.ofWireName? s = some t ↔ t.wireName = s := by
  constructor
  · intro h
    simpa using List.find?_some h
  · rintro rfl
    cases t <;> decide

/-- The consumers are one handler of each type that is known. -/
theorem handlersOf_consumingBus (source eventType : String) :
    (consumingBus source).handlersOf eventType
      = ((EventType.ofWireName? eventType).map fun t => (t, EventHandler.consume)).toList := by
  have hhandlers : (consumingBus source).handlers
      = EventType.all.map fun t => (t, EventHandler.consume) := rfl
  unfold EventBus.handlersOf
  rw [hhandlers]
  cases ht : EventType.ofWireName? eventType with
  | none =>
    have hnone := List.find?_eq_none.mp ht
    apply List.filter_eq_nil_iff.mpr
    intro e he
    obtain ⟨t, htmem, rfl⟩ := List.mem_map.mp he
    exact hnone t htmem
  | some t =>
    have hone : ∀ t : EventType,
        EventType.all.filter (fun t' => t'.wireName == t.wireName) = [t] := by
      intro t
      cases t <;> decide
    rw [← ofWireName?_eq_some_iff.mp ht, List.filter_map]
    exact congrArg _ (hone t)

/-- A delivery takes in the event that the envelope carries. -/
theorem deliver_eq (resolves : String → Bool) (source : String) (env : Envelope) :
    deliver resolves source env = match env.event? with
      | some event => do
          (consumerHost resolves).consume event
          return 1
      | none => return 0 := by
  have hdeliver : deliver resolves source env
      = (busHost resolves source).runAll env ((consumingBus source).handlersOf env.eventType) :=
    rfl
  rw [hdeliver, handlersOf_consumingBus, Envelope.event?]
  cases ht : EventType.ofWireName? env.eventType with
  | none => rfl
  | some t =>
    have his : env.is t = true := by simp [Envelope.is, ofWireName?_eq_some_iff.mp ht]
    simp only [Option.map_some, Option.toList_some, BusHost.runAll, Envelope.unwrap, his,
      if_true, Option.bind_some]
    cases Event.decode? t env.data with
    | none => rfl
    | some event => rfl

/-! ## What a delivery does -/

section

variable {resolves : String → Bool} {source : String} {env : Envelope} {event : Event}
  {d d' : Desk}

theorem Delivered.of_none (henv : env.event? = none)
    (h : Delivered resolves source env d d') : d.Shifted d' := by
  obtain ⟨count, hrun⟩ := h
  rw [deliver_eq, henv] at hrun
  exact .of_reflTransGen hrun.of_done.2

/-- An event that changes no endpoint set is taken in by one section. -/
theorem delivered_iff (henv : env.event? = some event) (hroutes : event.type ≠ .clusterChanged) :
    Delivered resolves source env d d' ↔ (d.hear event).Shifted d' := by
  have hconsume : (consumerHost resolves).consume event = Fiber.change (hear event) := by
    cases event with
    | clusterChanged destination uris => exact absurd rfl hroutes
    | _ => rfl
  have hdeliver : deliver resolves source env = do
      Fiber.change (hear event)
      return 1 := by
    rw [deliver_eq, henv, ← hconsume]
  unfold Delivered
  rw [hdeliver]
  constructor
  · rintro ⟨count, hrun⟩
    obtain ⟨_, e, hfirst, hrest⟩ := hrun.of_bind
    obtain ⟨f, hbefore, -, hafter⟩ := hfirst.of_atomically
    have hheard := (Shifted.of_reflTransGen hbefore).hear event
    exact (hheard.trans (.of_reflTransGen hafter)).trans (.of_reflTransGen hrest.of_done.2)
  · intro h
    exact ⟨1, .turn .here (.wait h (.ended 1 d'))⟩

/-- The addresses of a pool are set at its turn. -/
theorem Delivered.of_cluster {destination : String} {uris : List String}
    (henv : env.event? = some (.clusterChanged destination uris))
    (h : Delivered resolves source env d d') :
    ∃ e f g summary, d.Shifted e ∧ (poolOf destination e).2.Shifted f ∧
      (((Site.host resolves).refresh uris).within (siteAt (poolOf destination e).1)).Runs Shifted
        f summary g ∧ g.Shifted d' := by
  obtain ⟨count, hrun⟩ := h
  rw [deliver_eq, henv] at hrun
  obtain ⟨_, u, hconsume, hcount⟩ := hrun.of_bind
  obtain ⟨ref, f, hpool, hrefresh⟩ := hconsume.of_bind
  obtain ⟨e, hbefore, rfl, hmade⟩ := hpool.of_atomically
  obtain ⟨summary, g, hrefreshed, hrest⟩ := hrefresh.of_bind
  refine ⟨e, f, g, summary, .of_reflTransGen hbefore, .of_reflTransGen hmade, hrefreshed, ?_⟩
  exact (Shifted.of_reflTransGen hrest.of_done.2).trans (.of_reflTransGen hcount.of_done.2)

/-! ## Deliveries come to an end -/

/-- Nobody stands in line at a pool. -/
def Idle (d : Desk) : Prop := ∀ ref, (d.site ref).Idle

theorem idle_iff (ref : Nat) :
    (fun d : Desk => ((siteAt ref).get d).Idle ∧ ∀ r, r ≠ ref → (d.site r).Idle) = Idle := by
  funext d
  refine propext ⟨?_, fun h => ⟨h ref, fun r _ => h r⟩⟩
  intro h r
  by_cases hr : r = ref
  · rw [hr]
    exact h.1
  · exact h.2 r hr

theorem idle_poolOf (destination : String) (hd : d.Idle) : (poolOf destination d).2.Idle := by
  unfold poolOf
  split
  · exact hd
  · intro ref
    by_cases hr : ref = d.next
    · simp [hr, Site.Idle]
    · simpa [Function.update_of_ne hr] using hd ref

theorem prompt_within (ref : Nat) (uris : List String) :
    Fiber.Prompt Idle (((Site.host resolves).refresh uris).within (siteAt ref)) := by
  rw [← idle_iff ref]
  apply (Site.prompt_refresh uris).within (siteAt ref)
  intro s d hd r hr
  simpa [siteAt, Function.update_of_ne hr] using hd r hr

/-- A delivery goes to its end without waiting if nobody stands in line. -/
theorem prompt_deliver (source : String) (env : Envelope) :
    Fiber.Prompt Idle (deliver resolves source env) := by
  have hchange : ∀ event, Fiber.Prompt Idle (Fiber.change (hear event)) := by
    intro _
    exact .step (fun _ hd => hd) .done
  rw [deliver_eq]
  cases env.event? with
  | none => exact .pure 0
  | some event =>
    refine Fiber.Prompt.bind ?_ fun _ => .pure 1
    cases event with
    | clusterChanged destination uris =>
      apply (Fiber.Prompt.atomically fun d hd => idle_poolOf destination hd).bind
      intro ref
      apply (prompt_within ref uris).bind
      intro _
      exact .pure ()
    | _ => exact hchange _

end

end Desk

end ServiceMesh
