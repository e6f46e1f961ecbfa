import ServiceMesh.Proofs.Broker.Pair

/-!
# How far two brokers agree on the routes to a provider

A broker tells the other brokers of the providers that connect to it, and they follow.
For a provider that only ever connects to one broker, the two agree when all events have
arrived, with one exception.  A provider that connects again over another link replaces
its former self, and that is not told: services that it does not list again are dropped
here and kept elsewhere.

`Arrears` keeps account of these services along a run of the broker.  `Mirrors` says how
the two tables stand to each other; every deed preserves it (`Mirrors.perform`).  The
brokers agree on the provider exactly when nothing is in arrears that the other broker
holds as serving (`Pair.routes_agree_iff`).
-/

namespace ServiceMesh

/-- What other brokers hold of a provider beyond what was told last. -/
structure Arrears where
  /-- The services that were dropped here without being told. -/
  left : List Locator := []
  /-- Whether the provider was last told to serve. -/
  serving : Bool := false
deriving DecidableEq, Repr

namespace Arrears

/-- The services of a responder that makes way for a provider that connects. -/
def dropped (link : LinkId) (here : Option Responder) : List Locator :=
  ((here.filter fun r => Broker.givesWay r link).map Responder.services).getD []

/-- What is left when services are withdrawn, all of them if none is listed. -/
def rest (left services : List Locator) : List Locator :=
  if services.isEmpty then [] else left.filter (· ∉ services)

/-- The account after a deed about a provider for which `here` stands in the table. -/
def after (g : Arrears) (here : Option Responder) : Deed → Arrears
  | .connect setup link =>
      match Broker.refusal setup with
      | some _ => g
      | none =>
          { left := (g.left ++ dropped link here).filter (· ∉ setup.services)
            serving := g.serving || !setup.services.isEmpty }
  | .disconnect _ link =>
      match here.filter fun r => r.link? = some link with
      | some _ => {}
      | none => g
  | .expose _ services =>
      match here.filter fun r => !r.isRemote with
      | some _ => { left := g.left.filter (· ∉ services), serving := true }
      | none => g
  | .hide _ services =>
      match here.filter fun r => !r.isRemote with
      | some r =>
          { left := rest g.left services
            serving := g.serving
              && !((rest g.left services).isEmpty && (r.withdrawing services).services.isEmpty) }
      | none => g
  | .setStatus _ status =>
      match here.filter fun r => !r.isRemote with
      | some _ => if status = .stopped then {} else { g with serving := status == .serving }
      | none => g

end Arrears

/-! ## Events -/

namespace Event

/-- An event leaves a provider that is reached through another broker reached so. -/
theorem isRemote_effect {selfUri : Option String} {event : Event} {o : Option Responder}
    (ho : ∀ r, o = some r → r.isRemote = true) {r : Responder}
    (hr : event.effect selfUri o = some r) : r.isRemote = true := by
  have hpeer : ∀ id appName brokerUri services,
      ((remoteResponder id appName brokerUri).exposing services).isRemote = true :=
    fun _ _ _ _ => rfl
  cases event with
  | servicesExposed id appName services brokerUri =>
    cases brokerUri with
    | none =>
      obtain ⟨known, hknown, rfl⟩ := Option.map_eq_some_iff.mp hr
      exact ho known hknown
    | some uri =>
      simp only [effect, exposed] at hr
      split at hr
      · exact ho r hr
      · cases o with
        | none =>
          cases hr
          exact hpeer ..
        | some known =>
          simp only at hr
          split at hr
          · cases hr
            exact hpeer ..
          · cases hr
            exact ho known rfl
  | servicesHidden id appName services =>
    obtain ⟨known, hknown, rfl⟩ := Option.map_eq_some_iff.mp hr
    have hsame : (known.withdrawing services).isRemote = known.isRemote := by
      rw [Responder.isRemote, Responder.withdrawing_route]
      rfl
    rw [hsame]
    exact ho known hknown
  | appStatusChanged id appName status =>
    simp only [effect] at hr
    split at hr
    · cases hr
    · obtain ⟨known, hknown, rfl⟩ := Option.map_eq_some_iff.mp hr
      exact ho known hknown
  | configChanged appName key value => exact ho r hr
  | portsUpdated id ports => exact ho r hr
  | clusterChanged destination uris => exact ho r hr
  | cacheInvalidate appName keys => exact ho r hr

end Event

/-! ## A table and its mirror -/

/-- How what stands for a provider at the broker to which it connects, and at another
broker that heard everything, go together. -/
inductive Mirrors (uri : String) : Option Responder → Option Responder → Arrears → Prop where
  /-- Neither broker knows the provider. -/
  | gone {g : Arrears} (hleft : g.left = []) : Mirrors uri none none g
  /-- The provider never served anything. -/
  | untold {r : Responder} {g : Arrears} (hhere : r.isRemote = false) (hnone : r.services = [])
      (hleft : g.left = []) : Mirrors uri (some r) none g
  /-- The other broker holds the services of the provider, and what is in arrears. -/
  | told {r q : Responder} {g : Arrears} (hhere : r.isRemote = false) (hroute : q.route = .peer uri)
      (hservices : ∀ l, l ∈ q.services ↔ l ∈ r.services ∨ l ∈ g.left)
      (hleft : ∀ l ∈ g.left, l ∉ r.services) (hserving : q.isServing = g.serving)
      (hstatus : r.services ≠ [] → r.status = q.status) : Mirrors uri (some r) (some q) g

namespace Mirrors

variable {uri selfUri : String} {a b : Option Responder} {g : Arrears}

/-- A provider that connects makes way for itself. -/
theorem makeWay (h : Mirrors uri a b g) (app : AppMetadata) (link : LinkId) :
    Mirrors uri
      (some ((a.filter fun r => !Broker.givesWay r link).getD
        { app := app, route := .direct link })) b
      { g with left := g.left ++ Arrears.dropped link a } := by
  cases h with
  | gone hleft => exact .untold rfl rfl (by simp [hleft, Arrears.dropped])
  | @untold r _ hhere hnone hleft =>
    cases hgives : Broker.givesWay r link with
    | true =>
      simp only [Option.filter_some, hgives, Arrears.dropped]
      exact .untold rfl rfl (by simp [hleft, hnone])
    | false =>
      simp only [Option.filter_some, hgives, Arrears.dropped]
      exact .untold hhere hnone (by simp [hleft])
  | @told r q _ hhere hroute hservices hleft hserving hstatus =>
    cases hgives : Broker.givesWay r link with
    | true =>
      simp only [Option.filter_some, hgives, Arrears.dropped]
      refine .told rfl hroute ?_ ?_ hserving ?_
      · intro l
        simp [hservices l, or_comm]
      · intro l _ hl
        cases hl
      · intro hne
        exact absurd rfl hne
    | false =>
      simp only [Option.filter_some, hgives, Arrears.dropped]
      refine .told hhere hroute ?_ ?_ hserving hstatus
      · intro l
        simp [hservices l]
      · intro l hl
        exact hleft l (by simpa using hl)

/-- A provider serves services, and that is told. -/
theorem exposing (hne : uri ≠ selfUri) {r : Responder} (h : Mirrors uri (some r) b g)
    (services : List Locator) :
    Mirrors uri (some (r.exposing services))
      ((Broker.exposure uri (r.exposing services) services).effect (some selfUri) b)
      { left := g.left.filter (· ∉ services), serving := true } := by
  have hother : ¬ some uri = some selfUri := by
    intro he
    exact hne (Option.some.inj he)
  cases h with
  | untold hhere hnone hleft =>
    have hheard : (Broker.exposure uri (r.exposing services) services).effect (some selfUri) none
        = some ((remoteResponder r.id r.app.name uri).exposing services) := by
      simp [Broker.exposure, Event.effect, Event.exposed, hother]
    rw [hheard]
    refine .told hhere rfl ?_ ?_ rfl fun _ => rfl
    · intro l
      simp [hnone, hleft, remoteResponder]
    · intro l hl
      simp [hleft] at hl
  | @told _ q _ hhere hroute hservices hleft hserving hstatus =>
    have hstays : isRelocated q uri = false := by simp [isRelocated, hroute]
    have hheard : (Broker.exposure uri (r.exposing services) services).effect (some selfUri)
        (some q) = some (q.exposing services) := by
      simp [Broker.exposure, Event.effect, Event.exposed, hother, hstays]
    rw [hheard]
    refine .told hhere hroute ?_ ?_ rfl fun _ => rfl
    · intro l
      by_cases hl : l ∈ services
      · simp [hl]
      · simp [hl, hservices l]
    · intro l hl
      obtain ⟨hin, hout⟩ := List.mem_filter.mp hl
      simp only [decide_eq_true_eq] at hout
      simp [hleft l hin, hout]

/-- A provider withdraws services, and that is told. -/
theorem withdrawing {r : Responder} (h : Mirrors uri (some r) b g) (services : List Locator) :
    Mirrors uri (some (r.withdrawing services)) (b.map fun q => q.withdrawing services)
      { left := Arrears.rest g.left services
        serving := g.serving && !((Arrears.rest g.left services).isEmpty
          && (r.withdrawing services).services.isEmpty) } := by
  have hremote : (r.withdrawing services).isRemote = r.isRemote := by
    rw [Responder.isRemote, Responder.withdrawing_route]
    rfl
  have hrest : ∀ l, l ∈ Arrears.rest g.left services
      ↔ l ∈ g.left ∧ services ≠ [] ∧ l ∉ services := by
    intro l
    unfold Arrears.rest
    cases services with
    | nil => simp
    | cons x more => simp
  cases h with
  | untold hhere hnone hleft =>
    refine .untold (hremote.trans hhere) ?_ ?_
    · apply List.eq_nil_iff_forall_not_mem.mpr
      intro l hl
      simp [hnone] at hl
    · apply List.eq_nil_iff_forall_not_mem.mpr
      intro l hl
      have hin := ((hrest l).mp hl).1
      simp [hleft] at hin
  | @told _ q _ hhere hroute hservices hleft hserving hstatus =>
    have hkept : ∀ l, l ∈ (q.withdrawing services).services
        ↔ l ∈ (r.withdrawing services).services ∨ l ∈ Arrears.rest g.left services := by
      intro l
      rw [Responder.mem_withdrawing, Responder.mem_withdrawing, hrest, hservices, or_and_right]
    have hempty : (q.withdrawing services).services.isEmpty
        = ((Arrears.rest g.left services).isEmpty
          && (r.withdrawing services).services.isEmpty) := by
      rw [Bool.eq_iff_iff, Bool.and_eq_true]
      simp only [List.isEmpty_iff, List.eq_nil_iff_forall_not_mem, hkept, not_or]
      constructor
      · intro hno
        constructor
        · intro l
          exact (hno l).2
        · intro l
          exact (hno l).1
      · intro hno l
        exact ⟨hno.2 l, hno.1 l⟩
    refine .told (hremote.trans hhere) ((Responder.withdrawing_route q services).trans hroute)
      hkept ?_ ?_ ?_
    · intro l hl hin
      exact hleft l ((hrest l).mp hl).1 ((Responder.mem_withdrawing r services l).mp hin).1
    · rw [Responder.isServing_withdrawing, hserving, hempty]
    · intro hne
      obtain ⟨l, hl⟩ := List.exists_mem_of_ne_nil _ hne
      rw [Responder.withdrawing_status_of_mem hl,
        Responder.withdrawing_status_of_mem ((hkept l).mpr (Or.inl hl))]
      exact hstatus (List.ne_nil_of_mem ((Responder.mem_withdrawing r services l).mp hl).1)

/-- A provider changes its status, and that is told. -/
theorem setStatus {r : Responder} (h : Mirrors uri (some r) b g) (status : AppStatus) :
    Mirrors uri (some { r with status := status }) (b.map fun q => { q with status := status })
      { g with serving := status == .serving } := by
  cases h with
  | untold hhere hnone hleft => exact .untold hhere hnone hleft
  | told hhere hroute hservices hleft hserving hstatus =>
    refine .told hhere hroute hservices hleft rfl ?_
    intro _
    rfl

/-- Every deed preserves how the tables go together.  Whoever made way for a connection is in
arrears until it lists its services again. -/
theorem perform (hne : uri ≠ selfUri) (h : Mirrors uri a b g) (d : Deed) :
    Mirrors uri (d.effect uri a).1 (Event.effects (some selfUri) (d.effect uri a).2 b)
      (g.after a d) := by
  cases d with
  | connect setup link =>
    cases hr : Broker.refusal setup with
    | some reason =>
      simp only [Deed.effect, Arrears.after, hr]
      exact h
    | none =>
      have hway := h.makeWay setup.app link
      simp only [Deed.effect, Arrears.after, hr, Deed.admitted]
      cases hs : setup.services.isEmpty with
      | true =>
        have hnil : setup.services = [] := List.isEmpty_iff.mp hs
        have hall : (g.left ++ Arrears.dropped link a).filter (· ∉ setup.services)
            = g.left ++ Arrears.dropped link a := List.filter_eq_self.mpr (by simp [hnil])
        rw [hall]
        simpa [Event.effects] using hway
      | false =>
        simpa [Event.effects] using hway.exposing hne setup.services
  | disconnect id link =>
    simp only [Deed.effect, Arrears.after]
    cases hf : a.filter fun r => r.link? = some link with
    | none => exact h
    | some r => exact .gone rfl
  | expose id services =>
    simp only [Deed.effect, Arrears.after, Deed.ifHere]
    cases hf : a.filter fun r => !r.isRemote with
    | none => exact h
    | some r =>
      rw [(Option.filter_eq_some_iff.mp hf).1] at h
      exact h.exposing hne services
  | hide id services =>
    simp only [Deed.effect, Arrears.after, Deed.ifHere]
    cases hf : a.filter fun r => !r.isRemote with
    | none => exact h
    | some r =>
      rw [(Option.filter_eq_some_iff.mp hf).1] at h
      exact h.withdrawing services
  | setStatus id status =>
    simp only [Deed.effect, Arrears.after, Deed.ifHere]
    cases hf : a.filter fun r => !r.isRemote with
    | none => exact h
    | some r =>
      rw [(Option.filter_eq_some_iff.mp hf).1] at h
      by_cases hs : status = .stopped
      · subst hs
        exact .gone rfl
      · simp only [hs, if_false]
        have hset := h.setStatus status
        simpa [Event.effects, Event.effect, hs] using hset

end Mirrors

/-! ## Runs -/

/-- The broker holds a provider as serving a service, reached as `via` says. -/
def RouteTable.Holds (t : RouteTable) (id : Uuid) (l : Locator) (via : Route → Prop) : Prop :=
  ∃ r, t.get? id = some r ∧ r.isServing = true ∧ l ∈ r.services ∧ via r.route

/-- Over a link of its own. -/
def Route.Direct (route : Route) : Prop := ∃ link, route = .direct link

/-- Through another broker. -/
def Route.Through (uri : String) (route : Route) : Prop := route = .peer uri

theorem Responder.direct_of_isRemote {r : Responder} (h : r.isRemote = false) :
    r.route.Direct := by
  cases hroute : r.route with
  | direct link => exact ⟨link, rfl⟩
  | peer uri => simp [isRemote, hroute] at h

theorem RouteTable.holds_iff {t : RouteTable} {id : Uuid} {r : Responder} (h : t.get? id = some r)
    (l : Locator) (via : Route → Prop) :
    t.Holds id l via ↔ r.isServing = true ∧ l ∈ r.services ∧ via r.route := by
  constructor
  · rintro ⟨r', hr', hrest⟩
    rw [h] at hr'
    cases hr'
    exact hrest
  · intro hrest
    exact ⟨r, h, hrest⟩

theorem RouteTable.not_holds {t : RouteTable} {id : Uuid} (h : t.get? id = none) (l : Locator)
    (via : Route → Prop) : ¬ t.Holds id l via := by
  rintro ⟨r, hr, -⟩
  rw [h] at hr
  cases hr

/-- The two brokers agree on a provider when nothing is in arrears that the other one holds
as serving, and only then. -/
theorem Mirrors.agree_iff {uri : String} {t t' : RouteTable} {id : Uuid} {g : Arrears}
    (h : Mirrors uri (t.get? id) (t'.get? id) g) :
    (∀ l, t'.Holds id l (Route.Through uri) ↔ t.Holds id l Route.Direct)
      ↔ ¬ (g.serving = true ∧ g.left ≠ []) := by
  generalize ha : t.get? id = a at h
  generalize hb : t'.get? id = b at h
  cases h with
  | gone hleft =>
    refine iff_of_true ?_ fun hg => hg.2 hleft
    intro l
    exact iff_of_false (RouteTable.not_holds hb l _) (RouteTable.not_holds ha l _)
  | untold hhere hnone hleft =>
    refine iff_of_true ?_ fun hg => hg.2 hleft
    intro l
    apply iff_of_false (RouteTable.not_holds hb l _)
    intro hl
    obtain ⟨-, hin, -⟩ := (RouteTable.holds_iff ha l _).mp hl
    rw [hnone] at hin
    cases hin
  | @told r q _ hhere hroute hservices hleft hserving hstatus =>
    constructor
    · rintro hagree ⟨hg, hne⟩
      obtain ⟨l, hl⟩ := List.exists_mem_of_ne_nil _ hne
      have hheld : t'.Holds id l (Route.Through uri) := by
        rw [RouteTable.holds_iff hb]
        exact ⟨hserving.trans hg, (hservices l).mpr (Or.inr hl), hroute⟩
      obtain ⟨-, hin, -⟩ := (RouteTable.holds_iff ha l _).mp ((hagree l).mp hheld)
      exact hleft l hl hin
    · intro hg l
      rw [RouteTable.holds_iff ha, RouteTable.holds_iff hb]
      constructor
      · rintro ⟨hq, hl, -⟩
        have hin : l ∈ r.services := by
          rcases (hservices l).mp hl with hin | hin
          · exact hin
          · exact absurd ⟨hserving.symm.trans hq, List.ne_nil_of_mem hin⟩ hg
        refine ⟨?_, hin, Responder.direct_of_isRemote hhere⟩
        rw [Responder.isServing, hstatus (List.ne_nil_of_mem hin)]
        exact hq
      · rintro ⟨hr, hin, -⟩
        refine ⟨?_, (hservices l).mpr (Or.inl hin), hroute⟩
        rw [Responder.isServing, ← hstatus (List.ne_nil_of_mem hin)]
        exact hr

namespace Pair

/-- The account after a step that may be a deed about the provider. -/
def note (g : Arrears) (here : Option Responder) : Option Step → Arrears
  | some (.atA d) => g.after here d
  | _ => g

/-- The account of a provider after a run. -/
def arrears (id : Uuid) : List Step → Pair → Arrears → Arrears
  | [], _, g => g
  | s :: rest, p, g => arrears id rest (p.step s) (note g (p.a.table.get? id) (s.about? id))

/-- The provider only ever connects to the one broker. -/
def OnlyAtA (id : Uuid) (steps : List Step) : Prop :=
  ∀ setup link, .atB (.connect setup link) ∈ steps → setup.app.instanceId ≠ id

/-- How the views of a provider that only connects to the one broker are. -/
structure Follows (uriA uriB : String) (v : View) (g : Arrears) : Prop where
  /-- When all events have arrived, the other broker mirrors the one. -/
  mirrors : Mirrors uriA v.a (Event.effects (some uriB) v.toB v.b) g
  /-- The other broker knows the provider through the one, if at all. -/
  remote : ∀ r, v.b = some r → r.isRemote = true
  /-- The other broker tells nothing about it. -/
  silent : v.toA = []

/-- A broker tells nothing about a provider that is not connected to it. -/
theorem effect_of_isRemote {d : Deed} (hd : ∀ setup link, d ≠ .connect setup link) (uri : String)
    {o : Option Responder} (ho : ∀ r, o = some r → r.isRemote = true) :
    d.effect uri o = (o, []) := by
  have hnotHere : (o.filter fun r => !r.isRemote) = none := by
    cases o with
    | none => rfl
    | some r => simp [Option.filter_some, ho r rfl]
  cases d with
  | connect setup link => exact absurd rfl (hd setup link)
  | disconnect id link =>
    have hno : (o.filter fun r => decide (r.link? = some link)) = none := by
      cases o with
      | none => rfl
      | some r =>
        have hremote := ho r rfl
        cases hroute : r.route with
        | direct own => simp [Responder.isRemote, hroute] at hremote
        | peer uri => simp [Option.filter_some, Responder.link?, hroute]
    simp [Deed.effect, hno]
  | expose id services => simp [Deed.effect, Deed.ifHere, hnotHere]
  | hide id services => simp [Deed.effect, Deed.ifHere, hnotHere]
  | setStatus id status => simp [Deed.effect, Deed.ifHere, hnotHere]

/-- A table that follows another still does after its next step.  A deed at the second broker does
not concern a provider that has no link there. -/
theorem Follows.next {uriA uriB : String} (hne : uriA ≠ uriB) {id : Uuid} {v v' : View}
    {g : Arrears} (h : Follows uriA uriB v g) {s : Option Step}
    (hs : ∀ setup link, s ≠ some (.atB (.connect setup link)))
    (hnext : View.Next uriA uriB id v s v') : Follows uriA uriB v' (note g v.a s) := by
  cases hnext with
  | other => exact h
  | @atA d hid =>
    refine ⟨?_, h.remote, h.silent⟩
    rw [Event.effects_append]
    exact h.mirrors.perform hne d
  | @atB d hid =>
    have hquiet := effect_of_isRemote (d := d) (fun setup link he => hs setup link (by rw [he]))
      uriB h.remote
    simp only [hquiet, List.append_nil]
    exact h
  | toA hnow =>
    rw [h.silent] at hnow
    cases hnow
  | toB hnow =>
    refine ⟨?_, fun r => Event.isRemote_effect h.remote, h.silent⟩
    have hall := h.mirrors
    rw [hnow] at hall
    exact hall

theorem ne_connect_of_onlyAtA {id : Uuid} {s : Step} {rest : List Step}
    (h : OnlyAtA id (s :: rest)) (setup : Setup) (link : LinkId) :
    s.about? id ≠ some (.atB (.connect setup link)) := by
  intro he
  cases s with
  | atA d =>
    simp only [Step.about?] at he
    split at he <;> cases he
  | atB d =>
    simp only [Step.about?] at he
    split at he
    · next hid =>
      cases he
      exact h setup link (List.mem_cons_self ..) hid
    · cases he
  | toA => cases he
  | toB => cases he

theorem Follows.run {uriA uriB : String} (hne : uriA ≠ uriB) {id : Uuid} {steps : List Step}
    (honly : OnlyAtA id steps) {p : Pair} (hp : Placed uriA uriB p) {g : Arrears}
    (h : Follows uriA uriB (view id p) g) :
    Follows uriA uriB (view id (p.run steps)) (arrears id steps p g) := by
  induction steps generalizing p g with
  | nil => exact h
  | cons s rest ih =>
    refine ih (fun setup link hmem => honly setup link (List.mem_cons_of_mem _ hmem))
      (hp.step s) ?_
    exact h.next hne (ne_connect_of_onlyAtA honly) (hp.next id s)

/-- After any run of two brokers, in which deeds and deliveries about any providers come in
any order, and for any provider that only connects to the one broker: once its events have
arrived, the other broker holds the provider as serving the same services through the one
as the one holds over its link, unless services are in arrears that the other broker still
holds as serving, and then it does not. -/
theorem routes_agree_iff {uriA uriB : String} (hne : uriA ≠ uriB) (appA appB : String)
    (steps : List Step) (id : Uuid) (honly : OnlyAtA id steps)
    (hdelivered : ((new uriA uriB appA appB).run steps).a.outbox = []) :
    (∀ l, ((new uriA uriB appA appB).run steps).b.table.Holds id l (Route.Through uriA)
        ↔ ((new uriA uriB appA appB).run steps).a.table.Holds id l Route.Direct)
      ↔ ¬ ((arrears id steps (new uriA uriB appA appB) {}).serving = true ∧
          (arrears id steps (new uriA uriB appA appB) {}).left ≠ []) := by
  have hstart : Follows uriA uriB (view id (new uriA uriB appA appB)) {} :=
    ⟨.gone rfl, fun r hr => (by cases hr), rfl⟩
  have hend := hstart.run hne honly (placed_new uriA uriB appA appB)
  refine Mirrors.agree_iff ?_
  have hall := hend.mirrors
  simpa [view, outgoing, hdelivered, Event.effects] using hall

/-- A provider that serves and connects again over another link, with no services. -/
def Sample.reconnected : List Step :=
  [.atA (.connect (setup [echo]) (.outside 0)), .toB, .atA (.connect (setup []) (.outside 1))]

open Sample in
/-- The other broker keeps the service that the provider did not list again. -/
theorem routes_disagree_of_reconnected :
    "a" ≠ "b" ∧ OnlyAtA someId reconnected ∧
      ((new "a" "b" "" "").run reconnected).a.outbox = [] ∧
      ¬ ∀ l, ((new "a" "b" "" "").run reconnected).b.table.Holds someId l (Route.Through "a")
        ↔ ((new "a" "b" "" "").run reconnected).a.table.Holds someId l Route.Direct := by
  have hne : "a" ≠ "b" := by decide
  have honly : OnlyAtA someId reconnected := by
    intro setup link h
    simp [reconnected] at h
  have hdelivered : ((new "a" "b" "" "").run reconnected).a.outbox = [] := by rfl
  have harrears : arrears someId reconnected (new "a" "b" "" "") {}
      = { left := [echo], serving := true } := by decide +kernel
  refine ⟨hne, honly, hdelivered, ?_⟩
  rw [routes_agree_iff hne "" "" reconnected someId honly hdelivered, harrears]
  simp

end Pair

end ServiceMesh
