import ServiceMesh.Proofs.Broker.Deeds

/-!
# Two brokers that tell each other

A `Pair` is two brokers that are members of one cluster.  Each of them acts by deeds, and
what it publishes reaches the other one, once and in order, at any later time.  A run is
any list of steps: deeds of either broker, and deliveries in either direction.

`Pair.view` shows a pair as one provider meets it: what stands for the provider in the
two tables, and the events about it that are on their way.  By `Pair.view_step` a step
that is not about the provider leaves its view alone, and the others act on the view as
`Deed.effect` and `Event.effect` say.  Runs of a pair are therefore studied one provider
at a time, whatever happens to the other providers meanwhile.
-/

namespace ServiceMesh

/-- Two brokers. -/
structure Pair where
  /-- The one broker. -/
  a : Home
  /-- The other broker. -/
  b : Home

namespace Pair

/-- What happens next. -/
inductive Step where
  /-- The one broker acts. -/
  | atA (d : Deed)
  /-- The other broker acts. -/
  | atB (d : Deed)
  /-- The oldest event of the other broker reaches the one. -/
  | toA
  /-- The oldest event of the one broker reaches the other. -/
  | toB

/-- Two brokers without routes. -/
def new (uriA uriB appA appB : String) : Pair where
  a := Home.new uriA appA
  b := Home.new uriB appB

/-- The oldest event of a broker reaches another one. -/
def deliver (sender receiver : Home) : Home × Home :=
  match sender.outbox with
  | [] => (sender, receiver)
  | event :: rest => ({ sender with outbox := rest }, receiver.hear event)

/-- What becomes of two brokers by a step. -/
def step (p : Pair) : Step → Pair
  | .atA d => { p with a := p.a.perform d }
  | .atB d => { p with b := p.b.perform d }
  | .toA => ⟨(deliver p.b p.a).2, (deliver p.b p.a).1⟩
  | .toB => ⟨(deliver p.a p.b).1, (deliver p.a p.b).2⟩

/-- What becomes of two brokers by steps one after the other. -/
def run (p : Pair) (steps : List Step) : Pair := steps.foldl step p

/-- A step, if it is a deed about a provider. -/
def Step.about? (id : Uuid) : Step → Option Step
  | atA d => if d.subject = id then some (atA d) else none
  | atB d => if d.subject = id then some (atB d) else none
  | toA => none
  | toB => none

/-- The deeds about a provider, in order. -/
def deedsAbout (id : Uuid) (steps : List Step) : List Step := steps.filterMap (Step.about? id)

/-- Both brokers are in order. -/
structure InOrder (p : Pair) : Prop where
  /-- The one is. -/
  a : p.a.InOrder
  /-- The other is. -/
  b : p.b.InOrder

theorem inOrder_new (uriA uriB appA appB : String) : (new uriA uriB appA appB).InOrder :=
  ⟨Home.inOrder_new uriA appA, Home.inOrder_new uriB appB⟩

/-! ## The view of a provider -/

/-- Two brokers as a provider meets them. -/
structure View where
  /-- What stands for the provider in the table of the one broker. -/
  a : Option Responder
  /-- What stands for it in the table of the other. -/
  b : Option Responder
  /-- The events about it that are on their way to the one. -/
  toA : List Event
  /-- The events about it that are on their way to the other. -/
  toB : List Event

/-- The events of a broker about a provider that are on their way. -/
def outgoing (id : Uuid) (h : Home) : List Event :=
  h.outbox.filter fun event => event.subject? = some id

/-- The view of a provider. -/
def view (id : Uuid) (p : Pair) : View where
  a := p.a.table.get? id
  b := p.b.table.get? id
  toA := outgoing id p.b
  toB := outgoing id p.a

/-- How a view changes: by a deed about the provider, by a delivery of an event about it,
or not at all.  The deed is noted. -/
inductive View.Next (uriA uriB : String) (id : Uuid) : View → Option Step → View → Prop where
  | other (v : View) : Next uriA uriB id v none v
  | atA (v : View) {d : Deed} (h : d.subject = id) : Next uriA uriB id v (some (.atA d))
      { v with a := (d.effect uriA v.a).1, toB := v.toB ++ (d.effect uriA v.a).2 }
  | atB (v : View) {d : Deed} (h : d.subject = id) : Next uriA uriB id v (some (.atB d))
      { v with b := (d.effect uriB v.b).1, toA := v.toA ++ (d.effect uriB v.b).2 }
  | toA (v : View) {event : Event} {rest : List Event} (h : v.toA = event :: rest) :
      Next uriA uriB id v none
        { v with a := event.effect (some uriA) v.a, toA := rest }
  | toB (v : View) {event : Event} {rest : List Event} (h : v.toB = event :: rest) :
      Next uriA uriB id v none
        { v with b := event.effect (some uriB) v.b, toB := rest }

end Pair

/-! ## What deeds tell is about their provider -/

namespace Deed

theorem id_admitted {setup : Setup} {o : Option Responder}
    (ho : ∀ r, o = some r → r.id = setup.app.instanceId) (link : LinkId) :
    (admitted setup link o).id = setup.app.instanceId := by
  have hbase : ((o.filter fun r => !Broker.givesWay r link).getD
      { app := setup.app, route := .direct link }).id = setup.app.instanceId := by
    cases hf : o.filter fun r => !Broker.givesWay r link with
    | none => rfl
    | some r => exact ho r (Option.filter_eq_some_iff.mp hf).1
  unfold admitted
  dsimp only
  split
  · exact hbase
  · exact hbase

theorem mem_ifHere {o : Option Responder} {act : Responder → Option Responder × Event}
    {event : Event} (he : event ∈ (ifHere o act).2) : ∃ r, o = some r ∧ event = (act r).2 := by
  unfold ifHere at he
  cases hf : o.filter fun r => !r.isRemote with
  | none =>
    rw [hf] at he
    cases he
  | some r =>
    rw [hf] at he
    exact ⟨r, (Option.filter_eq_some_iff.mp hf).1, List.mem_singleton.mp he⟩

theorem subject?_effect (uri : String) (d : Deed) {o : Option Responder}
    (ho : ∀ r, o = some r → r.id = d.subject) {event : Event}
    (he : event ∈ (d.effect uri o).2) : event.subject? = some d.subject := by
  cases d with
  | connect setup link =>
    simp only [effect] at he
    split at he
    · cases he
    · split at he
      · cases he
      · rw [List.mem_singleton.mp he]
        exact congrArg some (id_admitted ho link)
  | disconnect id link =>
    simp only [effect] at he
    split at he
    · rw [List.mem_singleton.mp he]
      rfl
    · cases he
  | expose id services =>
    obtain ⟨r, hr, rfl⟩ := mem_ifHere he
    exact congrArg some (ho r hr)
  | hide id services =>
    obtain ⟨r, -, rfl⟩ := mem_ifHere he
    rfl
  | setStatus id status =>
    obtain ⟨r, -, rfl⟩ := mem_ifHere he
    rfl

end Deed

namespace Pair

/-! ## Steps in the view of a provider -/

theorem outgoing_perform {h : Home} (ho : h.InOrder) (id : Uuid) (d : Deed) :
    outgoing id (h.perform d)
      = if d.subject = id then outgoing id h ++ (d.effect h.uri (h.table.get? id)).2
        else outgoing id h := by
  have htold : ∀ event ∈ (d.effect h.uri (h.table.get? d.subject)).2,
      event.subject? = some d.subject :=
    fun event => Deed.subject?_effect h.uri d (ho.keyed d.subject)
  unfold outgoing
  rw [(ho.perform d).outbox, List.filter_append]
  by_cases hid : d.subject = id
  · subst hid
    have hall : (d.effect h.uri (h.table.get? d.subject)).2.filter
        (fun event => event.subject? = some d.subject)
          = (d.effect h.uri (h.table.get? d.subject)).2 :=
      List.filter_eq_self.mpr fun event he => decide_eq_true (htold event he)
    rw [if_pos rfl, hall]
  · have hnone : (d.effect h.uri (h.table.get? d.subject)).2.filter
        (fun event => event.subject? = some id) = [] := by
      apply List.filter_eq_nil_iff.mpr
      intro event he
      rw [htold event he]
      simp [hid]
    rw [if_neg hid, hnone, List.append_nil]

theorem deliver_of_nil {sender : Home} (h : sender.outbox = []) (receiver : Home) :
    deliver sender receiver = (sender, receiver) := by
  simp [deliver, h]

theorem deliver_of_cons {sender : Home} {event : Event} {rest : List Event}
    (h : sender.outbox = event :: rest) (receiver : Home) :
    deliver sender receiver = ({ sender with outbox := rest }, receiver.hear event) := by
  simp [deliver, h]

theorem table_deliver_fst (sender receiver : Home) :
    (deliver sender receiver).1.table = sender.table := by
  unfold deliver
  split <;> rfl

theorem outgoing_deliver_snd (sender receiver : Home) (id : Uuid) :
    outgoing id (deliver sender receiver).2 = outgoing id receiver := by
  cases hout : sender.outbox with
  | nil => rw [deliver_of_nil hout]
  | cons event rest =>
    rw [deliver_of_cons hout, outgoing, Home.outbox_hear]
    rfl

/-- A delivery as a provider meets it: nothing happens, or an event about it arrives. -/
theorem view_deliver (sender : Home) {receiver : Home} (hr : receiver.InOrder) (id : Uuid) :
    (outgoing id (deliver sender receiver).1 = outgoing id sender ∧
        (deliver sender receiver).2.table.get? id = receiver.table.get? id) ∨
      ∃ event rest, outgoing id sender = event :: rest ∧
        outgoing id (deliver sender receiver).1 = rest ∧
        (deliver sender receiver).2.table.get? id
          = event.effect (some receiver.uri) (receiver.table.get? id) := by
  cases hout : sender.outbox with
  | nil =>
    rw [deliver_of_nil hout]
    exact Or.inl ⟨rfl, rfl⟩
  | cons event rest =>
    rw [deliver_of_cons hout]
    have hget := Home.get?_hear hr event id
    by_cases hid : event.subject? = some id
    · rw [if_pos hid] at hget
      refine Or.inr ⟨event, _, ?_, rfl, hget⟩
      simp [outgoing, hout, hid]
    · rw [if_neg hid] at hget
      refine Or.inl ⟨?_, hget⟩
      simp [outgoing, hout, hid]

theorem inOrder_deliver {sender receiver : Home} (hs : sender.InOrder) (hr : receiver.InOrder) :
    (deliver sender receiver).1.InOrder ∧ (deliver sender receiver).2.InOrder := by
  cases hout : sender.outbox with
  | nil =>
    rw [deliver_of_nil hout]
    exact ⟨hs, hr⟩
  | cons event rest =>
    rw [deliver_of_cons hout]
    exact ⟨⟨hs.keyed, hs.self⟩, hr.hear event⟩

theorem uri_deliver (sender receiver : Home) :
    (deliver sender receiver).1.uri = sender.uri ∧
      (deliver sender receiver).2.uri = receiver.uri := by
  cases hout : sender.outbox with
  | nil =>
    rw [deliver_of_nil hout]
    exact ⟨rfl, rfl⟩
  | cons event rest =>
    rw [deliver_of_cons hout]
    exact ⟨rfl, Home.uri_hear event receiver⟩

theorem InOrder.step {p : Pair} (hp : p.InOrder) (s : Step) : (p.step s).InOrder := by
  cases s with
  | atA d => exact ⟨(hp.a.perform d).inOrder, hp.b⟩
  | atB d => exact ⟨hp.a, (hp.b.perform d).inOrder⟩
  | toA => exact ⟨(inOrder_deliver hp.b hp.a).2, (inOrder_deliver hp.b hp.a).1⟩
  | toB => exact ⟨(inOrder_deliver hp.a hp.b).1, (inOrder_deliver hp.a hp.b).2⟩

theorem uri_step {p : Pair} (hp : p.InOrder) (s : Step) :
    (p.step s).a.uri = p.a.uri ∧ (p.step s).b.uri = p.b.uri := by
  cases s with
  | atA d => exact ⟨(hp.a.perform d).uri, rfl⟩
  | atB d => exact ⟨rfl, (hp.b.perform d).uri⟩
  | toA => exact (uri_deliver p.b p.a).symm
  | toB => exact uri_deliver p.a p.b

/-- A step changes the view of a provider as a step about it does, or not at all. -/
theorem view_step {p : Pair} (hp : p.InOrder) (id : Uuid) (s : Step) :
    View.Next p.a.uri p.b.uri id (view id p) (s.about? id) (view id (p.step s)) := by
  cases s with
  | atA d =>
    have htable := (hp.a.perform d).table id
    have hout := outgoing_perform hp.a id d
    by_cases hid : d.subject = id
    · rw [if_pos hid] at htable hout
      have hview : view id (p.step (.atA d)) = { view id p with
          a := (d.effect p.a.uri (view id p).a).1
          toB := (view id p).toB ++ (d.effect p.a.uri (view id p).a).2 } := by
        simp only [view, Pair.step, htable, hout]
      rw [hview, Step.about?, if_pos hid]
      exact .atA _ hid
    · rw [if_neg hid] at htable hout
      have hview : view id (p.step (.atA d)) = view id p := by
        simp only [view, Pair.step, htable, hout]
      rw [hview, Step.about?, if_neg hid]
      exact .other _
  | atB d =>
    have htable := (hp.b.perform d).table id
    have hout := outgoing_perform hp.b id d
    by_cases hid : d.subject = id
    · rw [if_pos hid] at htable hout
      have hview : view id (p.step (.atB d)) = { view id p with
          b := (d.effect p.b.uri (view id p).b).1
          toA := (view id p).toA ++ (d.effect p.b.uri (view id p).b).2 } := by
        simp only [view, Pair.step, htable, hout]
      rw [hview, Step.about?, if_pos hid]
      exact .atB _ hid
    · rw [if_neg hid] at htable hout
      have hview : view id (p.step (.atB d)) = view id p := by
        simp only [view, Pair.step, htable, hout]
      rw [hview, Step.about?, if_neg hid]
      exact .other _
  | toA =>
    have hown := outgoing_deliver_snd p.b p.a id
    rcases view_deliver p.b hp.a id with
      ⟨hout, htable⟩ | ⟨event, rest, hnow, hout, htable⟩
    · have hview : view id (p.step .toA) = view id p := by
        simp only [view, Pair.step, table_deliver_fst, htable, hout, hown]
      rw [hview]
      exact .other _
    · have hview : view id (p.step .toA) = { view id p with
          a := event.effect (some p.a.uri) (view id p).a
          toA := rest } := by
        simp only [view, Pair.step, table_deliver_fst, htable, hout, hown]
      rw [hview]
      exact .toA _ hnow
  | toB =>
    have hown := outgoing_deliver_snd p.a p.b id
    rcases view_deliver p.a hp.b id with
      ⟨hout, htable⟩ | ⟨event, rest, hnow, hout, htable⟩
    · have hview : view id (p.step .toB) = view id p := by
        simp only [view, Pair.step, table_deliver_fst, htable, hout, hown]
      rw [hview]
      exact .other _
    · have hview : view id (p.step .toB) = { view id p with
          b := event.effect (some p.b.uri) (view id p).b
          toB := rest } := by
        simp only [view, Pair.step, table_deliver_fst, htable, hout, hown]
      rw [hview]
      exact .toB _ hnow

/-! ## Runs -/

theorem run_append (p : Pair) (steps more : List Step) :
    p.run (steps ++ more) = (p.run steps).run more := List.foldl_append

/-- Two brokers in order that are reached at two addresses. -/
structure Placed (uriA uriB : String) (p : Pair) : Prop where
  /-- Both brokers are in order. -/
  inOrder : p.InOrder
  /-- Where the one is reached. -/
  a : p.a.uri = uriA
  /-- Where the other is reached. -/
  b : p.b.uri = uriB

theorem placed_new (uriA uriB appA appB : String) :
    Placed uriA uriB (new uriA uriB appA appB) :=
  ⟨inOrder_new uriA uriB appA appB, rfl, rfl⟩

variable {uriA uriB : String} {p : Pair}

theorem Placed.step (hp : Placed uriA uriB p) (s : Step) : Placed uriA uriB (p.step s) where
  inOrder := hp.inOrder.step s
  a := (uri_step hp.inOrder s).1.trans hp.a
  b := (uri_step hp.inOrder s).2.trans hp.b

theorem Placed.run (hp : Placed uriA uriB p) (steps : List Step) :
    Placed uriA uriB (p.run steps) := by
  induction steps generalizing p with
  | nil => exact hp
  | cons s rest ih => exact ih (hp.step s)

theorem Placed.next (hp : Placed uriA uriB p) (id : Uuid) (s : Step) :
    View.Next uriA uriB id (view id p) (s.about? id) (view id (p.step s)) := by
  have hnext := view_step hp.inOrder id s
  rw [hp.a, hp.b] at hnext
  exact hnext

/-- What deliveries preserve holds until the next deed about the provider. -/
theorem Placed.run_quiet {id : Uuid} {P : View → Prop}
    (hP : ∀ {v v'}, P v → View.Next uriA uriB id v none v' → P v') {steps : List Step}
    (hquiet : ∀ s ∈ steps, s.about? id = none) (hp : Placed uriA uriB p)
    (h : P (view id p)) : P (view id (p.run steps)) := by
  induction steps generalizing p with
  | nil => exact h
  | cons s rest ih =>
    have hnext := hp.next id s
    rw [hquiet s (List.mem_cons_self ..)] at hnext
    refine ih ?_ (hp.step s) (hP h hnext)
    intro s' hs'
    exact hquiet s' (List.mem_cons_of_mem _ hs')

/-- Up to the next deed about the provider, and that deed. -/
theorem Placed.run_deed {id : Uuid} {P Q : View → Prop} {s : Step} {more : List Step}
    (hP : ∀ {v v'}, P v → View.Next uriA uriB id v none v' → P v')
    (hQ : ∀ {v v'}, P v → View.Next uriA uriB id v (some s) v' → Q v') {steps : List Step}
    (hdeeds : deedsAbout id steps = s :: more) (hp : Placed uriA uriB p) (h : P (view id p)) :
    ∃ before after, steps = before ++ after ∧ deedsAbout id after = more ∧
      Q (view id (p.run before)) := by
  obtain ⟨quiet, s', after, rfl, hquiet, hs, hafter⟩ := List.filterMap_eq_cons_iff.mp hdeeds
  refine ⟨quiet ++ [s'], after, by simp, hafter, ?_⟩
  have hbefore := hp.run_quiet hP hquiet h
  have hnext := (hp.run quiet).next id s'
  rw [hs] at hnext
  rw [run_append]
  exact hQ hbefore hnext

/-- After the last deed about the provider. -/
theorem Placed.run_end {id : Uuid} {P : View → Prop}
    (hP : ∀ {v v'}, P v → View.Next uriA uriB id v none v' → P v') {steps : List Step}
    (hdeeds : deedsAbout id steps = []) (hp : Placed uriA uriB p) (h : P (view id p)) :
    P (view id (p.run steps)) :=
  hp.run_quiet hP (List.filterMap_eq_nil_iff.mp hdeeds) h

/-! ## A provider to try the brokers with -/

namespace Sample

/-- The provider. -/
def someId : Uuid := ⟨List.replicate 16 1, rfl⟩

/-- A service. -/
def echo : Locator := ⟨"", "Echo", "", by decide, by decide, by decide, by decide⟩

/-- The provider connects with some services. -/
def setup (services : List Locator) : Setup where
  app := { instanceId := someId, name := "echo", ip := "" }
  services := services

end Sample

end Pair

end ServiceMesh
