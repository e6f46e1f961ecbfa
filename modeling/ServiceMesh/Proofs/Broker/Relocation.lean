import ServiceMesh.Proofs.Broker.Pair

/-!
# A provider that moves to another broker

A provider connects to the one broker and then, under the same id, to the other.  Its
first link closes, the one broker takes it out and tells that it stopped.  The other
broker cannot tell that this is about the link that the provider left: to hear it takes
out the provider that is connected there.

So it depends on the order what becomes of the provider.  It has moved, that is, the other
broker holds it over its link and the one broker holds it through the other, exactly if
the other broker had heard of the stop before the provider connected to it
(`Pair.moved_iff`).  If it hears of it afterwards, which is always so if the first link
closes afterwards, the other broker is left without the provider.
-/

namespace ServiceMesh

namespace Event

/-- The event is an exposure. -/
def IsExposure (event : Event) : Prop :=
  ∃ id appName services brokerUri, event = .servicesExposed id appName services brokerUri

/-- The event tells that a provider stopped. -/
def IsStop (event : Event) : Prop := ∃ id appName, event = .appStatusChanged id appName .stopped

/-- To hear of a stop takes the provider out, however it is reached. -/
theorem IsStop.effect {event : Event} (h : event.IsStop) (selfUri : Option String)
    (o : Option Responder) : event.effect selfUri o = none := by
  obtain ⟨id, appName, rfl⟩ := h
  rfl

/-- An exposure leaves a provider on its link. -/
theorem IsExposure.effect {event : Event} (h : event.IsExposure) (selfUri : Option String)
    {r : Responder} {link : LinkId} (hr : r.route = .direct link) :
    ∃ r', event.effect selfUri (some r) = some r' ∧ r'.route = .direct link := by
  obtain ⟨id, appName, services, brokerUri, rfl⟩ := h
  cases brokerUri with
  | none => exact ⟨_, rfl, hr⟩
  | some uri =>
    have hstays : isRelocated r uri = false := by simp [isRelocated, hr]
    by_cases hself : some uri = selfUri
    · exact ⟨r, by simp [Event.effect, exposed, hself], hr⟩
    · exact ⟨r.exposing services, by simp [Event.effect, exposed, hself, hstays], hr⟩

end Event

namespace Deed

/-- A provider that is new stands on its link. -/
theorem route_admitted (setup : Setup) (link : LinkId) :
    (admitted setup link none).route = .direct link := by
  unfold admitted
  dsimp only
  split <;> rfl

theorem isServing_admitted {setup : Setup} (hservices : setup.services ≠ []) (link : LinkId)
    (o : Option Responder) : (admitted setup link o).isServing = true := by
  have hsome : setup.services.isEmpty = false := by simp [hservices]
  simp [admitted, hsome]

/-- What a provider that connects is told with are exposures. -/
theorem isExposure_of_mem_connect {uri : String} {setup : Setup} {link : LinkId}
    {o : Option Responder} {event : Event} (he : event ∈ ((connect setup link).effect uri o).2) :
    event.IsExposure := by
  simp only [effect] at he
  split at he
  · cases he
  · split at he
    · cases he
    · rw [List.mem_singleton.mp he]
      exact ⟨_, _, _, _, rfl⟩

theorem effect_connect {setup : Setup} (haccept : Broker.refusal setup = none) (uri : String)
    (link : LinkId) (o : Option Responder) :
    ((connect setup link).effect uri o).1 = some (admitted setup link o) := by
  simp [effect, haccept]

/-- A provider whose link closed is taken out, and told to have stopped. -/
theorem effect_disconnect (uri : String) (id : Uuid) {link : LinkId} {r : Responder}
    (hr : r.route = .direct link) :
    ∃ event, event.IsStop ∧ (disconnect id link).effect uri (some r) = (none, [event]) := by
  refine ⟨.appStatusChanged id r.app.name .stopped, ⟨_, _, rfl⟩, ?_⟩
  simp [effect, Option.filter_some, Responder.link?, hr]

end Deed

namespace Pair

/-- The provider has moved: the other broker has it on its link, serving, and the one
broker reaches it through the other. -/
def Moved (uriB : String) (link : LinkId) (id : Uuid) (p : Pair) : Prop :=
  (∃ r, p.b.table.get? id = some r ∧ r.route = .direct link ∧ r.isServing = true) ∧
    ∃ r, p.a.table.get? id = some r ∧ r.route = .peer uriB

namespace View

/-- Nobody knows the provider. -/
def Unknown (v : View) : Prop := v.a = none ∧ v.toA = []

/-- The provider stands on its link at the one broker, which the other may only have told
of exposures. -/
def Stands (link : LinkId) (v : View) : Prop :=
  (∃ r, v.a = some r ∧ r.route = .direct link) ∧ ∀ event ∈ v.toA, event.IsExposure

/-- The last event on its way to the other broker tells that the provider stopped, or it
was heard and the other broker has no such provider. -/
def Stopping (v : View) : Prop :=
  (∃ before event, v.toB = before ++ [event] ∧ event.IsStop) ∨ (v.toB = [] ∧ v.b = none)

/-- The provider stands on its link at the other broker, and the one broker will reach it
there when it hears of that. -/
def Moving (uriA uriB : String) (link : LinkId) (v : View) : Prop :=
  (∃ r, v.b = some r ∧ r.route = .direct link ∧ r.isServing = true) ∧ v.toB = [] ∧
    ∃ r, Event.effects (some uriA) v.toA v.a = some r ∧ r.route = .peer uriB

variable {uriA uriB : String} {id : Uuid} {link : LinkId} {v v' : View}

theorem quiet_toA (h : v.toA = []) (hnext : Next uriA uriB id v none v') : v'.toA = [] := by
  cases hnext with
  | other => exact h
  | toA hnow =>
    rw [h] at hnow
    cases hnow
  | toB hnow => exact h

theorem Stands.quiet (h : Stands link v) (hnext : Next uriA uriB id v none v') :
    Stands link v' := by
  cases hnext with
  | other => exact h
  | @toA event rest hnow =>
    obtain ⟨⟨r, hr, hroute⟩, htold⟩ := h
    rw [hnow] at htold
    have hexposure := htold event (List.mem_cons_self ..)
    obtain ⟨r', hr', hroute'⟩ := hexposure.effect (some uriA) hroute
    refine ⟨⟨r', ?_, hroute'⟩, fun e he => htold e (List.mem_cons_of_mem _ he)⟩
    simp only [hr]
    exact hr'
  | toB hnow => exact h

theorem Stopping.quiet (h : Stopping v) (hnext : Next uriA uriB id v none v') :
    Stopping v' := by
  cases hnext with
  | other => exact h
  | toA hnow => exact h
  | @toB event rest hnow =>
    rcases h with ⟨before, stop, htoB, hstop⟩ | ⟨hnone, -⟩
    · cases before with
      | nil =>
        rw [htoB] at hnow
        cases hnow
        exact Or.inr ⟨rfl, hstop.effect _ _⟩
      | cons first more =>
        rw [htoB] at hnow
        cases hnow
        exact Or.inl ⟨more, stop, rfl, hstop⟩
    · rw [hnone] at hnow
      cases hnow

theorem Moving.quiet (h : Moving uriA uriB link v) (hnext : Next uriA uriB id v none v') :
    Moving uriA uriB link v' := by
  obtain ⟨hstands, hnone, hreached⟩ := h
  cases hnext with
  | other => exact ⟨hstands, hnone, hreached⟩
  | toA hnow =>
    rw [hnow] at hreached
    exact ⟨hstands, hnone, hreached⟩
  | toB hnow =>
    rw [hnone] at hnow
    cases hnow

end View

/-! ## The deeds of a provider that moves -/

namespace View

variable {uriA uriB : String} {id : Uuid} {link link' : LinkId} {v v' : View}
  {setup : Setup}

theorem Unknown.quiet (h : Unknown v) (hnext : Next uriA uriB id v none v') : Unknown v' := by
  cases hnext with
  | other => exact h
  | toA hnow =>
    rw [h.2] at hnow
    cases hnow
  | toB hnow => exact h

theorem Unknown.connect (h : Unknown v) (haccept : Broker.refusal setup = none)
    (hnext : Next uriA uriB id v (some (.atA (.connect setup link))) v') :
    Stands link v' ∧ v'.toA = [] := by
  cases hnext with
  | atA =>
    refine ⟨⟨⟨Deed.admitted setup link none, ?_, Deed.route_admitted setup link⟩, ?_⟩, h.2⟩
    · simp only [h.1]
      exact Deed.effect_connect haccept uriA link none
    · simp [h.2]

theorem Stands.connect (h : Stands link v)
    (hnext : Next uriA uriB id v (some (.atB (.connect setup link'))) v') : Stands link v' := by
  cases hnext with
  | atB =>
    refine ⟨h.1, ?_⟩
    intro event he
    rcases List.mem_append.mp he with he | he
    · exact h.2 event he
    · exact Deed.isExposure_of_mem_connect he

theorem Stands.disconnect (h : Stands link v)
    (hnext : Next uriA uriB id v (some (.atA (.disconnect id link))) v') :
    Stopping v' ∧ v'.a = none ∧ v'.toA = v.toA := by
  obtain ⟨⟨r, hr, hroute⟩, -⟩ := h
  cases hnext with
  | atA =>
    obtain ⟨event, hstop, heffect⟩ := Deed.effect_disconnect uriA id hroute
    rw [hr, heffect]
    exact ⟨Or.inl ⟨v.toB, event, rfl, hstop⟩, rfl, rfl⟩

theorem Stopping.none_of_delivered (h : v.Stopping) (hnone : v.toB = []) :
    v.b = none := by
  rcases h with ⟨before, event, htoB, -⟩ | ⟨-, hb⟩
  · rw [hnone] at htoB
    simp at htoB
  · exact hb

/-- A provider that comes to the other broker before the stop arrived there. -/
theorem Stopping.connect (h : Stopping v) (hlate : v.toB ≠ [])
    (hnext : Next uriA uriB id v (some (.atB (.connect setup link'))) v') : Stopping v' := by
  cases hnext with
  | atB =>
    rcases h with hcoming | ⟨hnone, -⟩
    · exact Or.inl hcoming
    · exact absurd hnone hlate

/-- A provider that comes to the other broker after the stop arrived there. -/
theorem Stopping.move (h : Stopping v) (hne : uriA ≠ uriB) (hunknown : Unknown v)
    (hheard : v.toB = []) (haccept : Broker.refusal setup = none)
    (hservices : setup.services ≠ [])
    (hnext : Next uriA uriB id v (some (.atB (.connect setup link'))) v') :
    Moving uriA uriB link' v' := by
  have hb : v.b = none := h.none_of_delivered hheard
  have hsome : setup.services.isEmpty = false := by simp [hservices]
  cases hnext with
  | atB =>
    refine ⟨⟨Deed.admitted setup link' none, ?_, Deed.route_admitted setup link',
      Deed.isServing_admitted hservices link' none⟩, hheard, ?_⟩
    · rw [hb]
      exact Deed.effect_connect haccept uriB link' none
    · refine ⟨(remoteResponder (Deed.admitted setup link' none).id
        (Deed.admitted setup link' none).app.name uriB).exposing setup.services, ?_, rfl⟩
      simp [hb, hunknown.1, hunknown.2, Deed.effect, haccept, hsome, Event.effects,
        Broker.exposure, Event.effect, Event.exposed, hne.symm]

end View

/-! ## Whether the provider has moved -/

variable {uriA uriB : String} {id : Uuid} {setupA setupB : Setup} {link link' : LinkId}
  {p : Pair}

/-- The first link closes after the provider connected to the other broker. -/
theorem Placed.stopping_of_late (hp : Placed uriA uriB p) (hstart : (view id p).Unknown)
    (haccept : Broker.refusal setupA = none) {steps : List Step}
    (hdeeds : deedsAbout id steps = [.atA (.connect setupA link), .atB (.connect setupB link'),
      .atA (.disconnect id link)]) : (view id (p.run steps)).Stopping := by
  obtain ⟨first, steps, rfl, hdeeds, hstands⟩ := hp.run_deed View.Unknown.quiet
    (fun h hnext => (h.connect haccept hnext).1) hdeeds hstart
  obtain ⟨second, steps, rfl, hdeeds, hstands'⟩ := (hp.run first).run_deed View.Stands.quiet
    (fun h hnext => h.connect hnext) hdeeds hstands
  obtain ⟨third, steps, rfl, hdeeds, hstopping⟩ := ((hp.run first).run second).run_deed
    View.Stands.quiet (fun h hnext => (h.disconnect hnext).1) hdeeds hstands'
  rw [run_append, run_append, run_append]
  exact (((hp.run first).run second).run third).run_end View.Stopping.quiet hdeeds hstopping

/-- The first link closes before the provider connects to the other broker. -/
theorem Placed.stopping_of_early (hp : Placed uriA uriB p) (hstart : (view id p).Unknown)
    (haccept : Broker.refusal setupA = none) {steps : List Step}
    (hdeeds : deedsAbout id steps = [.atA (.connect setupA link), .atA (.disconnect id link)]) :
    (view id (p.run steps)).Stopping ∧ (view id (p.run steps)).Unknown := by
  obtain ⟨first, steps, rfl, hdeeds, hstands⟩ := hp.run_deed View.Unknown.quiet
    (fun h hnext => h.connect haccept hnext) hdeeds hstart
  obtain ⟨second, steps, rfl, hdeeds, hstopping⟩ := (hp.run first).run_deed
    (P := fun v => View.Stands link v ∧ v.toA = [])
    (Q := fun v => View.Stopping v ∧ View.Unknown v)
    (fun h hnext => ⟨h.1.quiet hnext, View.quiet_toA h.2 hnext⟩)
    (fun h hnext => by
      obtain ⟨hstopping, hnone, htold⟩ := h.1.disconnect hnext
      exact ⟨hstopping, hnone, htold.trans h.2⟩) hdeeds hstands
  rw [run_append, run_append]
  exact ((hp.run first).run second).run_end (P := fun v => View.Stopping v ∧ View.Unknown v)
    (fun h hnext => ⟨h.1.quiet hnext, h.2.quiet hnext⟩) hdeeds hstopping

theorem about?_eq_some {s s' : Step} (h : s.about? id = some s') : s' = s := by
  cases s with
  | atA d =>
    simp only [Step.about?] at h
    split at h <;> cases h
    rfl
  | atB d =>
    simp only [Step.about?] at h
    split at h <;> cases h
    rfl
  | toA => cases h
  | toB => cases h

/-- Among the deeds about a provider are all of its disconnections. -/
theorem disconnect_mem_deedsAbout {steps : List Step} :
    .atA (.disconnect id link) ∈ deedsAbout id steps ↔ .atA (.disconnect id link) ∈ steps := by
  constructor
  · intro h
    obtain ⟨s, hs, habout⟩ := List.mem_filterMap.mp h
    rw [about?_eq_some habout]
    exact hs
  · intro h
    exact List.mem_filterMap.mpr ⟨_, h, by simp [Step.about?, Deed.subject]⟩

/-- The other broker is left without the provider. -/
theorem not_moved_of_stopping (h : (view id p).Stopping) (hdelivered : p.a.outbox = []) :
    ¬ Moved uriB link id p ∧ p.b.table.get? id = none := by
  have htoB : (view id p).toB = [] := by
    simp only [view, outgoing, hdelivered, List.filter_nil]
  have hnone : p.b.table.get? id = none := h.none_of_delivered htoB
  refine ⟨?_, hnone⟩
  rintro ⟨⟨r, hr, -⟩, -⟩
  rw [hnone] at hr
  cases hr

theorem moved_of_moving (h : (view id p).Moving uriA uriB link) (hdelivered : p.b.outbox = []) :
    Moved uriB link id p := by
  have htoA : (view id p).toA = [] := by
    simp only [view, outgoing, hdelivered, List.filter_nil]
  obtain ⟨hthere, -, hreached⟩ := h
  rw [htoA] at hreached
  exact ⟨hthere, hreached⟩

/-- After any run of two brokers in which a provider connects to the one, connects to the other,
and is taken out at the one because its first link closed, the last two in either order: once all
events have arrived, the provider has moved exactly if it was taken out, and the other broker had
heard of that, before it connected to the other broker.  If not, the other broker is left without
it.  If it was taken out after it came to the other broker, or if the stop was still on its way
when it came, the stop removes it there. -/
theorem moved_iff (hne : uriA ≠ uriB) (appA appB : String)
    (hid : setupB.app.instanceId = id) (hacceptA : Broker.refusal setupA = none)
    (hacceptB : Broker.refusal setupB = none) (hservices : setupB.services ≠ [])
    {before after : List Step}
    (hdeeds : deedsAbout id before = [.atA (.connect setupA link)] ∧
        deedsAbout id after = [.atA (.disconnect id link)] ∨
      deedsAbout id before = [.atA (.connect setupA link), .atA (.disconnect id link)] ∧
        deedsAbout id after = [])
    (hdeliveredA : ((new uriA uriB appA appB).run
      (before ++ .atB (.connect setupB link') :: after)).a.outbox = [])
    (hdeliveredB : ((new uriA uriB appA appB).run
      (before ++ .atB (.connect setupB link') :: after)).b.outbox = []) :
    let p := (new uriA uriB appA appB).run (before ++ .atB (.connect setupB link') :: after)
    let heard := .atA (.disconnect id link) ∈ before ∧
      outgoing id ((new uriA uriB appA appB).run before).a = []
    (Moved uriB link' id p ↔ heard) ∧ (¬ heard → p.b.table.get? id = none) := by
  intro p heard
  have hplaced := placed_new uriA uriB appA appB
  have hstart : (view id (new uriA uriB appA appB)).Unknown := ⟨rfl, rfl⟩
  have habout : Step.about? id (.atB (.connect setupB link'))
      = some (.atB (.connect setupB link')) := by
    simp [Step.about?, Deed.subject, hid]
  rcases hdeeds with ⟨hbefore, hafter⟩ | ⟨hbefore, hafter⟩
  · have hall : deedsAbout id (before ++ .atB (.connect setupB link') :: after)
        = [.atA (.connect setupA link), .atB (.connect setupB link'),
            .atA (.disconnect id link)] := by
      unfold deedsAbout at hbefore hafter ⊢
      rw [List.filterMap_append, hbefore, List.filterMap_cons, habout, hafter]
      rfl
    have hstopping : (view id p).Stopping := hplaced.stopping_of_late hstart hacceptA hall
    obtain ⟨hnot, hnone⟩ := not_moved_of_stopping hstopping hdeliveredA
    refine ⟨iff_of_false hnot ?_, fun _ => hnone⟩
    rintro ⟨hmem, -⟩
    rw [← disconnect_mem_deedsAbout, hbefore] at hmem
    cases List.mem_singleton.mp hmem
  · obtain ⟨hstopping, hunknown⟩ := hplaced.stopping_of_early hstart hacceptA hbefore
    have hmem : .atA (.disconnect id link) ∈ before := by
      rw [← disconnect_mem_deedsAbout, hbefore]
      exact List.mem_cons_of_mem _ (List.mem_singleton_self _)
    have hmid := hplaced.run before
    have hnext := hmid.next id (.atB (.connect setupB link'))
    rw [habout] at hnext
    have hrun : p = (((new uriA uriB appA appB).run before).step
        (.atB (.connect setupB link'))).run after := run_append _ _ _
    by_cases hheard : outgoing id ((new uriA uriB appA appB).run before).a = []
    · have hmoving := (hmid.step _).run_end View.Moving.quiet hafter
        (hstopping.move hne hunknown hheard hacceptB hservices hnext)
      rw [← hrun] at hmoving
      have hmoved := moved_of_moving hmoving hdeliveredB
      constructor
      · exact iff_of_true hmoved ⟨hmem, hheard⟩
      · intro hnot
        exact absurd ⟨hmem, hheard⟩ hnot
    · have hlate := (hmid.step _).run_end View.Stopping.quiet hafter
        (hstopping.connect hheard hnext)
      rw [← hrun] at hlate
      obtain ⟨hnot, hnone⟩ := not_moved_of_stopping hlate hdeliveredA
      constructor
      · apply iff_of_false hnot
        intro h
        exact hheard h.2
      · intro _
        exact hnone

namespace Sample

/-- A provider comes to the one broker. -/
def comes : List Step := [.atA (.connect (setup [echo]) (.outside 0)), .toB]

/-- Its link to the one broker closes. -/
def leaves : List Step := [.atA (.disconnect someId (.outside 0)), .toB, .toA]

/-- The provider comes to the other broker. -/
def comesThere : Step := .atB (.connect (setup [echo]) (.outside 1))

end Sample

open Sample in
/-- A provider that leaves before it comes to the other broker moves there.  One that comes
there and then leaves is lost. -/
theorem moved_of_left_of_came :
    Moved "b" (.outside 1) someId
        ((new "a" "b" "" "").run (comes ++ leaves ++ comesThere :: [.toA])) ∧
      ((new "a" "b" "" "").run (comes ++ comesThere :: leaves)).b.table.get? someId = none := by
  have hne : "a" ≠ "b" := by decide
  have hid : (setup [echo]).app.instanceId = someId := rfl
  have haccept : Broker.refusal (setup [echo]) = none := by rfl
  have hservices : (setup [echo]).services ≠ [] := by simp [setup]
  have hcomes : deedsAbout someId comes = [.atA (.connect (setup [echo]) (.outside 0))] := by rfl
  have hleaves : deedsAbout someId leaves = [.atA (.disconnect someId (.outside 0))] := by rfl
  constructor
  · have hboth : deedsAbout someId (comes ++ leaves) = [.atA (.connect (setup [echo]) (.outside 0)),
        .atA (.disconnect someId (.outside 0))] := by rfl
    refine (moved_iff hne "" "" hid haccept haccept hservices (Or.inr ⟨hboth, rfl⟩)
      (by rfl) (by rfl)).1.mpr ⟨?_, by rfl⟩
    simp [leaves]
  · apply (moved_iff hne "" "" hid haccept haccept hservices (Or.inl ⟨hcomes, hleaves⟩)
      (by rfl) (by rfl)).2
    intro h
    simp [comes] at h

end Pair

end ServiceMesh
