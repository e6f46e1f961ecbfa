import ServiceMesh.Proofs.Concurrency.Discipline
import ServiceMesh.Proofs.Routes.Aim
import ServiceMesh.Proofs.Routes.Junction

/-!
# What a router sends

Whatever goes out for a call is either the call itself, over the link of a responder that
is connected here, or its relay, to a broker at which the responder is
(`Junction.Sent.Right`).  This is kept by every section of a call, whoever the others are
and whatever changes in between.

A relay that comes to another broker leaves it unchanged and over the link of a responder
that is connected there.  So no call crosses more than one link between brokers, however
many brokers there are and whatever their tables say (`Traffic.relayed_at_most_once`).
-/

namespace ServiceMesh

/-- Whoever may get a call is in the table. -/
theorem RouteTable.get?_of_mem_eligible {t : RouteTable} {c : Composite} {routing : Routing}
    {x : Responder} (h : x ∈ Router.eligible t c routing) : ∃ id, t.get? id = some x := by
  have hserving := (List.mem_filter.mp (List.mem_filter.mp h).1).1
  have hlisted := (List.mem_filter.mp hserving).1
  obtain ⟨id, -, hget⟩ := List.mem_filterMap.mp ((perm_sortById _).mem_iff.mp hlisted)
  exact ⟨id, hget⟩

namespace Router

theorem brokerId_aim (draw : Draw) (p : Payload) (r : Router) (table : RouteTable) :
    (aim draw p r table).2.brokerId = r.brokerId := by
  have hchoose : ∀ routing data keys,
      (r.choose draw routing data keys).2.brokerId = r.brokerId := by
    intro routing data keys
    unfold choose
    split
    · rfl
    · rfl
  unfold aim
  split
  · rfl
  · simp only
    split
    · exact hchoose _ _ _
    · exact hchoose _ _ _

end Router

namespace Sent

/-- The call went, as it came, over the link of a responder that is connected here. -/
def Direct (s : Sent) : Prop :=
  s.payload = s.call ∧ (∃ n, s.link = .inside n) ∧
    ∃ draw router table target, (Router.aim draw s.call router table).1 = .ok target ∧
      target.responder.route = .direct s.link

/-- The call went to a remote responder, as a relay. -/
def Remote (brokerId : String) (s : Sent) : Prop :=
  (∃ draw router table target uri, (Router.aim draw s.call router table).1 = .ok target ∧
    target.responder.route = .peer uri) ∧ Router.IsRelay brokerId s.call s.payload

/-- What was sent is what may be sent for the call. -/
def Right (brokerId : String) (s : Sent) : Prop := s.Direct ∨ s.Remote brokerId

end Sent

namespace Junction

/-- The broker still has its id, and whatever was sent is right. -/
structure Right (brokerId : String) (j : Junction) : Prop where
  named : j.router.brokerId = brokerId
  sent : ∀ s ∈ j.sent, s.Right brokerId

/-- The discipline of a junction.  A call never has anything in hand. -/
def discipline (brokerId : String) : Discipline Junction Empty where
  settles e := e.elim
  carries e := e.elim
  Inv _ j := Right brokerId j
  mono _ hj := hj

section

variable {brokerId : String} {α β : Type} {j : Junction}

/-- What was sent remains right as long as neither the broker nor the record changes. -/
theorem Right.of_eq {j' : Junction} (h : Right brokerId j)
    (hrouter : j'.router.brokerId = j.router.brokerId) (hsent : j'.sent = j.sent) :
    Right brokerId j' := by
  constructor
  · rw [hrouter]
    exact h.named
  · rw [hsent]
    exact h.sent

/-- One more payload that is right keeps everything sent right. -/
theorem Right.put (h : Right brokerId j) {call : Payload} {link : LinkId} {p : Payload}
    (hs : Sent.Right brokerId ⟨call, link, p⟩) : Right brokerId (j.put call link p) := by
  refine ⟨h.named, ?_⟩
  intro s hmem
  rcases List.mem_append.mp hmem with hmem | hmem
  · exact h.sent s hmem
  · rw [List.mem_singleton.mp hmem]
    exact hs

/-! ## Sections that send nothing -/

theorem steady_done (a : α) : Fiber.Steady (discipline brokerId) (pure a : Fiber Junction α) :=
  trivial

theorem steady_read (f : Junction → α) : Fiber.Steady (discipline brokerId) (Fiber.read f) := by
  intro _ _ h
  exact ⟨h, trivial⟩

/-- What is done to the pool does not change what was sent. -/
theorem steady_onSite (f : Site → α × Site) :
    Fiber.Steady (discipline brokerId) (Fiber.atomically (onSite f)) := by
  intro _ _ h
  exact ⟨Right.of_eq h rfl rfl, trivial⟩

/-- A section on the router keeps the discipline if it keeps the id of the broker. -/
theorem steady_onRouter {f : Router → RouteTable → α × Router}
    (hf : ∀ r t, (f r t).2.brokerId = r.brokerId) :
    Fiber.Steady (discipline brokerId) (Fiber.atomically (onRouter f)) := by
  intro j _ h
  exact ⟨Right.of_eq h (hf j.router j.table.1) rfl, trivial⟩

/-- Measuring the time of a body sends nothing besides. -/
theorem steady_timed {body : Fiber Junction α} (h : Fiber.Steady (discipline brokerId) body) :
    Fiber.Steady (discipline brokerId) (timed body) := by
  apply h.bind
  intro _
  apply (steady_read _).bind
  intro _
  exact steady_done _

/-- A body within a time sends nothing besides. -/
theorem steady_within {body : Fiber Junction α} (h : Fiber.Steady (discipline brokerId) body)
    (call : Payload) (ms : Nat) :
    Fiber.Steady (discipline brokerId) ((wire call).within ms body) := by
  refine ⟨h, trivial, ?_⟩
  intro r
  cases r with
  | inl a => exact trivial
  | inr u => exact trivial

end

/-! ## Sending over a link -/

section

variable {brokerId : String} {α : Type} {call : Payload} {link : LinkId} {p : Payload}

/-- A payload that is right may be sent. -/
theorem steady_put (hs : Sent.Right brokerId ⟨call, link, p⟩) {next : Unit → Fiber Junction α}
    (hnext : Fiber.Steady (discipline brokerId) (next ())) :
    Fiber.Steady (discipline brokerId) (Fiber.change (put call link p) >>= next) := by
  intro _ _ h
  exact ⟨Right.put h hs, hnext⟩

/-- A request over a link sends its payload, which is right. -/
theorem steady_wire_request (hs : Sent.Right brokerId ⟨call, link, p⟩) :
    Fiber.Steady (discipline brokerId) ((wire call).request link p) :=
  steady_put hs (steady_read _)

/-- A message over a link sends its payload, which is right. -/
theorem steady_wire_send (hs : Sent.Right brokerId ⟨call, link, p⟩) :
    Fiber.Steady (discipline brokerId) ((wire call).send link p) :=
  steady_put hs (steady_read _)

/-- A stream over a link sends its payload, which is right. -/
theorem steady_wire_stream (hs : Sent.Right brokerId ⟨call, link, p⟩) :
    Fiber.Steady (discipline brokerId) ((wire call).stream link p) :=
  steady_put hs (steady_read _)

/-- A request within a time sends its payload once. -/
theorem steady_requestWithin (hs : Sent.Right brokerId ⟨call, link, p⟩) (ms : Nat) :
    Fiber.Steady (discipline brokerId) ((wire call).requestWithin ms link p) := by
  apply (steady_within (steady_wire_request hs) call ms).bind
  intro result
  cases result with
  | some result => exact trivial
  | none => exact trivial

/-! ## Through the pool -/

/-- Getting a link to a broker sends nothing. -/
theorem steady_ensure (uri : String) :
    Fiber.Steady (discipline brokerId) ((peers call).ensure uri) := by
  apply (steady_onSite _).bind
  intro found
  cases found with
  | some link => exact steady_done _
  | none =>
    apply (steady_onSite _).bind
    intro opened
    cases opened with
    | ok link => exact steady_onSite _
    | error fault =>
      apply (steady_onSite _).bind
      intro _
      exact steady_done _

/-- Getting a usable link to a broker sends nothing. -/
theorem steady_connectionTo (uri : String) :
    Fiber.Steady (discipline brokerId) ((peers call).connectionTo uri) := by
  apply (steady_onSite _).bind
  intro usable
  cases usable with
  | true => exact steady_ensure uri
  | false =>
    apply (steady_onSite _).bind
    intro _
    exact steady_done _

/-- A relay goes to the broker of a remote responder, over whatever link there is. -/
theorem steady_requestTo (uri : String) (hs : ∀ link, Sent.Right brokerId ⟨call, link, p⟩) :
    Fiber.Steady (discipline brokerId) ((peers call).requestTo uri p) := by
  apply (steady_connectionTo uri).bind
  intro found
  cases found with
  | error fault => exact steady_done _
  | ok link =>
    apply (steady_onSite _).bind
    intro _
    apply (steady_onSite _).bind
    intro ms
    apply (steady_timed (steady_requestWithin (hs link) ms)).bind
    intro measured
    apply (steady_onSite _).bind
    intro _
    exact steady_done _

end

/-! ## Routing -/

section

variable {brokerId : String} {α : Type} {peered : Bool} {p : Payload}

/-- A call that is aimed at a responder here is sent over its link as it came. -/
theorem direct_of_aim {draw : Draw} {r : Router} {t : Providers} {target : Target} {link : LinkId}
    (haim : (Router.aim draw p r t).1 = .ok target)
    (hroute : target.responder.route = .direct link) : Sent.Direct ⟨p, link, p⟩ := by
  obtain ⟨id, hget⟩ := RouteTable.get?_of_mem_eligible (Router.of_aim haim).2
  exact ⟨rfl, t.2 id _ hget link hroute, draw, r, t, target, haim, hroute⟩

/-- What follows the choice of a target may rely on it. -/
theorem steady_aim {next : Except Fault Target → Fiber Junction α}
    (hok : ∀ draw r (t : Providers) target, (Router.aim draw p r t).1 = .ok target →
      Fiber.Steady (discipline brokerId) (next (.ok target)))
    (herror : ∀ fault, Fiber.Steady (discipline brokerId) (next (.error fault))) :
    Fiber.Steady (discipline brokerId) ((host peered p).aim p >>= next) := by
  intro j others h
  refine ⟨h, ?_⟩
  intro j others h
  refine ⟨Right.of_eq h (Router.brokerId_aim _ p j.router j.table.1) rfl, ?_⟩
  simp only [onRouter]
  cases haim : (Router.aim _ p j.router j.table.1).1 with
  | ok target => exact hok _ _ j.table target haim
  | error fault => exact herror fault

/-- What follows the making of a relay may rely on its being one. -/
theorem steady_relayed (peered : Bool) (hid : (utf8 brokerId).length ≤ maxContentLength)
    {draw : Draw} {r : Router} {t : RouteTable} {target : Target} {uri : String}
    (haim : (Router.aim draw p r t).1 = .ok target) (hroute : target.responder.route = .peer uri)
    {next : Except Fault Payload → Fiber Junction α}
    (hnext : ∀ q, (∀ link, Sent.Right brokerId ⟨p, link, q⟩) →
      Fiber.Steady (discipline brokerId) (next (.ok q))) :
    Fiber.Steady (discipline brokerId) ((host peered p).relayed target p.data >>= next) := by
  intro j others h
  refine ⟨Right.of_eq h rfl rfl, ?_⟩
  have hid' : (utf8 j.router.brokerId).length ≤ maxContentLength := by
    rw [h.named]
    exact hid
  obtain ⟨q, hq, hrelay⟩ := Router.isRelay_relayed hid' haim hroute
  rw [h.named] at hrelay
  simp only [onRouter, hq]
  apply hnext q
  intro link
  exact .inr ⟨⟨draw, r, t, target, uri, haim, hroute⟩, hrelay⟩

/-- A call to a responder here sends what is right. -/
theorem steady_requestDirect {target : Target} {link : LinkId}
    (hs : Sent.Right brokerId ⟨p, link, p⟩) :
    Fiber.Steady (discipline brokerId) ((host peered p).requestDirect target link p) := by
  apply (steady_onRouter fun r t => rfl).bind
  intro _
  apply (steady_onRouter fun r t => rfl).bind
  intro ms
  apply (steady_timed (steady_requestWithin hs ms)).bind
  intro measured
  apply (steady_onRouter fun r t => rfl).bind
  intro _
  exact steady_done _

/-- A request sends what is right, whether the responder is here or elsewhere. -/
theorem steady_request (hid : (utf8 brokerId).length ≤ maxContentLength) :
    Fiber.Steady (discipline brokerId) ((host peered p).request p) := by
  refine steady_aim ?_ fun fault => steady_done _
  intro draw r t target haim
  cases hroute : target.responder.route with
  | direct link =>
    simp only [hroute]
    exact steady_requestDirect (.inl (direct_of_aim haim hroute))
  | peer uri =>
    simp only [hroute, RouterHost.requestRemote]
    cases peered with
    | false => exact steady_done _
    | true =>
      apply steady_relayed true hid haim hroute
      intro q hq
      exact steady_requestTo uri hq

/-- Calls that are passed on without accounts, in whichever way a link is used. -/
theorem steady_pass (hid : (utf8 brokerId).length ≤ maxContentLength)
    {use : LinkId → Payload → Fiber Junction (Except Fault α)}
    (huse : ∀ link q, Sent.Right brokerId ⟨p, link, q⟩ →
      Fiber.Steady (discipline brokerId) (use link q)) :
    Fiber.Steady (discipline brokerId) ((host peered p).pass p use) := by
  refine steady_aim ?_ fun fault => steady_done _
  intro draw r t target haim
  cases hroute : target.responder.route with
  | direct link =>
    simp only [hroute]
    exact huse link p (.inl (direct_of_aim haim hroute))
  | peer uri =>
    cases peered with
    | false =>
      simp only [hroute, host]
      exact steady_done _
    | true =>
      simp only [hroute, host]
      apply (steady_connectionTo uri).bind
      intro found
      cases found with
      | error fault => exact steady_done _
      | ok link =>
        apply steady_relayed true hid haim hroute
        intro q hq
        exact huse link q (hq link)

end

end Junction

/-- Every call sends what it may. -/
theorem Asked.steady {brokerId : String} (hid : (utf8 brokerId).length ≤ maxContentLength)
    (peered : Bool) (asked : Asked) :
    Fiber.Steady (Junction.discipline brokerId) (asked.run peered) := by
  cases asked with
  | request p =>
    apply (Junction.steady_request hid).bind
    intro _
    exact Junction.steady_done _
  | send p =>
    refine (Junction.steady_pass hid ?_).bind fun _ => Junction.steady_done _
    intro link q hq
    exact Junction.steady_wire_send hq
  | stream p =>
    refine (Junction.steady_pass hid ?_).bind fun _ => Junction.steady_done _
    intro link q hq
    exact Junction.steady_wire_stream hq

namespace Traffic

open Router.Sample (app clock metadata)

/-- Between two sections all is right at the junction, and the calls under way keep it so. -/
def Right (brokerId : String) (t : Traffic) : Prop :=
  t.junction.Right brokerId ∧
    ∃ held, Fiber.Keeping (Junction.discipline brokerId) t.tasks held

/-- Nothing was sent at the beginning. -/
theorem right_new (site : Site) (router : Router) (table : Providers) :
    (new site router table).Right router.brokerId := by
  refine ⟨⟨rfl, ?_⟩, [], .nil⟩
  intro s hs
  cases hs

/-- At every move what was sent is right. -/
theorem Right.move {brokerId : String} {t : Traffic} (h : t.Right brokerId)
    (hid : (utf8 brokerId).length ≤ maxContentLength) (peered : Bool) (m : Move) :
    (t.move peered m).Right brokerId := by
  obtain ⟨hj, held, htasks⟩ := h
  cases m with
  | start asked => exact ⟨hj, held, htasks.start (asked.steady hid peered).keeps⟩
  | turn task place =>
    have hturn : (Junction.discipline brokerId).Inv (held ++ []) t.junction := hj
    obtain ⟨held', hj', htasks'⟩ := htasks.advanceAt task place hturn
    exact ⟨hj', held', htasks'⟩
  | shift site router table => exact ⟨hj.of_eq rfl rfl, held, htasks⟩

/-- After any moves what was sent is right. -/
theorem Right.run {brokerId : String} (hid : (utf8 brokerId).length ≤ maxContentLength)
    (peered : Bool) (moves : List Move) :
    ∀ {t : Traffic}, t.Right brokerId → (t.run peered moves).Right brokerId := by
  induction moves with
  | nil =>
    intro t h
    exact h
  | cons m rest ih =>
    intro t h
    exact ih (h.move hid peered m)

/-- A call that is aimed at a remote responder had no relay entry, and can be written with
one.  Whatever goes out for a call, by any of the three ways to call and in any order of
sections, is the call itself over the link of a provider, or its relay: the entries as they
were read, then the relay entry, with the same routing and data.  And a relay is aimed at
no remote responder by any router on any table: wherever it comes to, it only goes out as
it is, over the link of a provider. -/
theorem relayed_at_most_once (site : Site) (router : Router) (table : Providers)
    (hid : (utf8 router.brokerId).length ≤ maxContentLength) (peered : Bool) (moves : List Move) :
    let sent := ((new site router table).run peered moves).junction.sent
    (∀ draw r p t target uri, r.brokerId = router.brokerId →
      (Router.aim draw p r t).1 = .ok target → target.responder.route = .peer uri →
        ∃ q, r.relayed target p.data = .ok q ∧ Router.IsRelay router.brokerId p q) ∧
    (∀ s ∈ sent, s.Direct ∨ s.Remote router.brokerId) ∧
    ∀ s ∈ sent, s.Remote router.brokerId →
      (∀ draw r t target, (Router.aim draw s.payload r t).1 = .ok target →
        ∃ link, target.responder.route = .direct link) ∧
      ∀ site' router' table' peered' moves', (utf8 router'.brokerId).length ≤ maxContentLength →
        ∀ s' ∈ ((new site' router' table').run peered' moves').junction.sent,
          s'.call = s.payload → s'.Direct := by
  intro sent
  refine ⟨?_, ?_, ?_⟩
  · intro draw r p t target uri hr haim hroute
    rw [← hr] at hid ⊢
    exact Router.isRelay_relayed hid haim hroute
  · exact ((right_new site router table).run hid peered moves).1.sent
  · intro s _ hs
    have hdirect : ∀ draw r t target, (Router.aim draw s.payload r t).1 = .ok target →
        ∃ link, target.responder.route = .direct link := by
      intro _ _ _ _ haim
      exact hs.2.direct haim
    refine ⟨hdirect, ?_⟩
    intro site' router' table' peered' moves' hid' s' hs' hcall
    have hright := ((right_new site' router' table').run hid' peered' moves').1.sent s' hs'
    apply hright.resolve_right
    intro hremote
    obtain ⟨draw, r, t, target, uri, haim, hpeer⟩ := hremote.1
    rw [hcall] at haim
    obtain ⟨link, hlink⟩ := hdirect draw r t target haim
    rw [hpeer] at hlink
    cases hlink

namespace Sample

/-- A pool with the address of one broker. -/
def site : Site := { pool := { Pool.new "peers" {} with uris := ["x"] } }

/-- A provider is connected at that broker. -/
def comesThere : List RouteTable.Change := [.expose (.fresh app (.peer "x")) [clock]]

theorem provided_comesThere : (RouteTable.after comesThere).Provided := by
  have hconsistent := RouteTable.consistent_after comesThere
  have hvalues : (RouteTable.after comesThere).byId.values
      = [⟨app, .peer "x", .serving, [clock]⟩] := by rfl
  intro id x hget link hroute
  rw [← hconsistent.keyed id x hget] at hget
  have hvalue := (hconsistent.mem_values x).mpr hget
  rw [hvalues] at hvalue
  rw [List.mem_singleton.mp hvalue] at hroute
  cases hroute

/-- A call is routed in each of the three ways to call, section by section. -/
def passes : List Move :=
  let call : Payload := ⟨metadata.bytes, [7]⟩
  List.flatten [
    [.start (.request call), .start (.send call), .start (.stream call)],
    .replicate 9 (.turn 0 .here),
    [.turn 0 (.first .here)],
    .replicate 9 (.turn 1 .here),
    .replicate 9 (.turn 2 .here)]

end Sample

open Sample in
/-- A call for a provider at another broker goes there as a relay, whichever way it is made. -/
theorem passes_relay :
    let sent := ((new site (.fresh "b" .roundRobin 0 false 1000)
      ⟨RouteTable.after comesThere, provided_comesThere⟩).run true passes).junction.sent
    sent.length = 3 ∧ ∀ s ∈ sent, s.link = .outside 0 ∧ s.Remote "b" := by
  intro sent
  have hid : (utf8 "b").length ≤ maxContentLength := by decide +kernel
  obtain ⟨-, hsent, -⟩ := relayed_at_most_once site (.fresh "b" .roundRobin 0 false 1000)
    ⟨RouteTable.after comesThere, provided_comesThere⟩ hid true passes
  have hlinks : sent.map Sent.link = [.outside 0, .outside 0, .outside 0] := by decide +kernel
  constructor
  · rw [← List.length_map, hlinks]
    rfl
  · intro s hs
    have hlink : s.link = .outside 0 := by
      have hmem := List.mem_map_of_mem (f := Sent.link) hs
      rw [hlinks] at hmem
      simpa using hmem
    refine ⟨hlink, (hsent s hs).resolve_left ?_⟩
    rintro ⟨-, ⟨n, hn⟩, -⟩
    rw [hlink] at hn
    cases hn

end Traffic

end ServiceMesh
