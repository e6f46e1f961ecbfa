import ServiceMesh.Proofs.Concurrency.Runs
import ServiceMesh.Proofs.Pool.Opening
import ServiceMesh.Proofs.Routes.Aim
import ServiceMesh.Proofs.Routes.Junction

/-!
# Requests from start to end

A request is the choice of a target, and then what *follows* from it
(`RouterHost.request_eq`).  A run of a request chooses in one section, on the router and the
table as they then are, and the rest of the run goes on from there (`Junction.runs_request`).

What follows is the same whatever the strategy.  It changes the pool, the links and the record
of what was sent, and for a provider that is connected here the accounts of the router.  An
invariant that is *apart* from all these is kept, and what can be said of the faults that
openings of links and calls end with can be said of the fault with which the request ends
(`Junction.Apart`).
-/

namespace ServiceMesh

namespace RouterHost

variable {m : Type → Type u} [Monad m]

/-- What follows from the choice of a target. -/
def follow (h : RouterHost m) (p : Payload) : Except Fault Target → m (Except Fault Payload)
  | .error fault => return .error fault
  | .ok target =>
      match target.responder.route with
      | .direct link => h.requestDirect target link p
      | .peer brokerUri => h.requestRemote target brokerUri p

/-- A request is a choice and what follows from it. -/
theorem request_eq (h : RouterHost m) (p : Payload) : h.request p = h.aim p >>= h.follow p := by
  unfold request follow
  congr 1

end RouterHost

namespace Junction

open ServiceMesh.Fiber (Abides Runs)
open Relation (ReflTransGen)

variable {meanwhile : Junction → Junction → Prop} {peered : Bool} {p : Payload}

/-! ## The choice -/

/-- Where a call goes that is routed now. -/
def target (draw : Draw) (p : Payload) (j : Junction) : Except Fault Target :=
  (Router.aim draw p j.router j.table.1).1

/-- The junction once a call was routed. -/
def aimed (draw : Draw) (p : Payload) (j : Junction) : Junction :=
  { j with router := (Router.aim draw p j.router j.table.1).2 }

/-- A run of a choice draws, and later chooses. -/
theorem runs_aim {j t : Junction} {a : Except Fault Target}
    (h : Runs meanwhile ((host peered p).aim p) j a t) :
    ∃ s u, ReflTransGen meanwhile j s ∧ ReflTransGen meanwhile s u ∧
      u.target s.site.nature.draw p = a ∧
      ReflTransGen meanwhile (u.aimed s.site.nature.draw p) t := by
  obtain ⟨draw, s', hdraw, hchoice⟩ := h.of_bind
  obtain ⟨s, hbefore, rfl, hdrawn⟩ := hdraw.of_atomically
  obtain ⟨u, hchoosing, rfl, hafter⟩ := hchoice.of_atomically
  exact ⟨s, u, hbefore, hdrawn.trans hchoosing, rfl, hafter⟩

/-- A run of a request chooses a target, and is then a run of what follows. -/
theorem runs_request {j t : Junction} {a : Except Fault Payload}
    (h : Runs meanwhile ((host peered p).request p) j a t) :
    ∃ s u v, ReflTransGen meanwhile j s ∧ ReflTransGen meanwhile s u ∧
      ReflTransGen meanwhile (u.aimed s.site.nature.draw p) v ∧
      Runs meanwhile ((host peered p).follow p (u.target s.site.nature.draw p)) v a t := by
  rw [RouterHost.request_eq] at h
  obtain ⟨_, v, hchoice, hfollow⟩ := h.of_bind
  obtain ⟨s, u, hbefore, hdrawn, rfl, hafter⟩ := runs_aim hchoice
  exact ⟨s, u, v, hbefore, hdrawn, hafter, hfollow⟩

/-! ## What follows -/

/-- A result is no fault, or one of a kind. -/
def Ends (V : Fault → Prop) {α : Type} (result : Except Fault α) : Prop :=
  ∀ fault, result = .error fault → V fault

theorem Ends.ok {V : Fault → Prop} {α : Type} (a : α) : Ends V (.ok a : Except Fault α) := by
  intro fault h
  cases h

theorem Ends.error {V : Fault → Prop} {α : Type} {fault : Fault} (h : V fault) :
    Ends V (.error fault : Except Fault α) := by
  intro fault' h'
  cases h'
  exact h

/-- An invariant of a junction that does not depend on the pool, the links and what was sent.
Where it holds, openings of links and calls only end with faults of a kind. -/
structure Apart (Inv : Junction → Prop) (V : Fault → Prop) : Prop where
  apart : ∀ {j : Junction} {site : Site} {sent : List Sent}, site.nature = j.site.nature →
    Inv j → Inv { j with site := site, sent := sent }
  refused : ∀ {j : Junction} {fault : Fault}, Inv j → j.site.nature.refusal = some fault → V fault
  answered : ∀ {j : Junction}, Inv j → Ends V j.site.nature.reply
  closed : ∀ uri, V (.connectionClosed uri)
  late : ∀ ms, V (.timeout ms)

section

variable {Inv : Junction → Prop} {V : Fault → Prop} {α : Type}

theorem Apart.onPool (h : Apart Inv V) {f : Pool → Links → α × Pool × Links} {Q : α → Prop}
    (hf : ∀ pool links, Q (f pool links).1) (call : Payload) :
    Abides Inv ((peers call).atomically f) Q := by
  refine .step ?_
  intro _ hj
  exact ⟨h.apart rfl hj, .pure (hf _ _)⟩

/-- A section on the pool, whatever it says. -/
theorem Apart.change (h : Apart Inv V) {f : Pool → Links → α × Pool × Links} (call : Payload) :
    Abides Inv ((peers call).atomically f) fun _ => True := by
  apply h.onPool
  intro _ _
  exact trivial

theorem Apart.timed {body : Fiber Junction α} {Q : α → Prop} (hbody : Abides Inv body Q) :
    Abides Inv (Junction.timed body) fun measured => Q measured.1 := by
  apply hbody.bind
  intro a ha
  have hread : Abides Inv (Fiber.read (·.site.nature.latencyMs)) fun _ => True :=
    .step fun _ hj => ⟨hj, .pure trivial⟩
  apply hread.bind
  intro _ _
  exact .pure ha

theorem Apart.requestWithin (h : Apart Inv V) (call : Payload) (ms : Nat) (link : LinkId)
    (q : Payload) : Abides Inv ((wire call).requestWithin ms link q) (Ends V) := by
  have hrequest : Abides Inv ((wire call).request link q) (Ends V) :=
    .step fun _ hj => ⟨h.apart rfl hj, .await (.step fun _ hj => ⟨hj, .pure (h.answered hj)⟩)⟩
  have hwithin : Abides Inv ((wire call).within ms ((wire call).request link q)) fun result =>
      ∀ a, result = some a → Ends V a := by
    have hlapse : Abides Inv (Fiber.until_ (·.site.nature.lapsed)) fun _ => True :=
      .await (.pure trivial)
    refine .race hrequest hlapse (fun b hb => .pure fun a ha => ?_) fun c _ => .pure fun a ha => ?_
    · cases ha
      exact hb
    · cases ha
  apply hwithin.bind
  intro result hresult
  cases result with
  | some a => exact .pure (hresult a rfl)
  | none => exact .pure (.error (h.late ms))

/-- A link to a broker is there, or it is not there for one of the faults of the kind. -/
theorem Apart.ensure (h : Apart Inv V) (call : Payload) (uri : String) :
    Abides Inv ((peers call).ensure uri) (Ends V) := by
  have hdial : Abides Inv ((wire call).openLink uri) (Ends V) := by
    refine .step ?_
    intro j hj
    refine ⟨h.apart (Site.nature_dial uri j.site) hj, .pure ?_⟩
    simp only [onSite, Site.dial]
    split
    · rename_i fault hfault
      exact .error (h.refused hj hfault)
    · exact .ok _
  apply (h.change call).bind
  intro found _
  cases found with
  | some link => exact .pure (.ok link)
  | none =>
    apply hdial.bind
    intro opened hopened
    cases opened with
    | ok link =>
      refine h.onPool ?_ call
      intro pool links
      unfold Pool.adopt
      split
      · split
        · exact .ok _
        · exact .ok _
      · exact .error (h.closed uri)
    | error fault =>
      apply (h.change call).bind
      intro _ _
      exact .pure (.error (hopened fault rfl))

/-- A call over a link of the pool ends with the answer, or takes too long. -/
theorem Apart.call (h : Apart Inv V) (call : Payload) (uri : String) (link : LinkId)
    (q : Payload) : Abides Inv ((peers call).call uri link q) (Ends V) := by
  apply (h.change call).bind
  intro _ _
  apply (h.change call).bind
  intro ms _
  apply (Apart.timed (h.requestWithin call ms link q)).bind
  intro measured hmeasured
  apply (h.change call).bind
  intro _ _
  exact .pure hmeasured

/-- A call to a broker keeps the invariant, however it ends. -/
theorem Apart.requestTo (h : Apart Inv V) (call : Payload) (uri : String) (q : Payload) :
    Abides Inv ((peers call).requestTo uri q) fun _ => True := by
  have hconnection : Abides Inv ((peers call).connectionTo uri) fun _ => True := by
    apply (h.change call).bind
    intro usable _
    cases usable with
    | true =>
      apply (h.ensure call uri).mono
      intro _ _
      exact trivial
    | false =>
      apply (h.change call).bind
      intro _ _
      exact .pure trivial
  apply hconnection.bind
  intro found _
  cases found with
  | ok link =>
    apply (h.call call uri link q).mono
    intro _ _
    exact trivial
  | error fault => exact .pure trivial

end

/-! ## Requests that are answered -/

/-- Calls are answered. -/
def Answering (j : Junction) : Prop := j.site.nature.answered = true

section

variable {α : Type} (call : Payload)

theorem prompt_onPool (f : Pool → Links → α × Pool × Links) :
    Fiber.Prompt Answering ((peers call).atomically f) := by
  refine .atomically ?_
  intro _ hj
  exact hj

theorem prompt_onRouter (f : Router → RouteTable → α × Router) :
    Fiber.Prompt Answering (Fiber.atomically (onRouter f)) := by
  refine .atomically ?_
  intro _ hj
  exact hj

theorem prompt_timed {body : Fiber Junction α} (h : Fiber.Prompt Answering body) :
    Fiber.Prompt Answering (timed body) := by
  apply h.bind
  intro _
  apply (Fiber.Prompt.atomically fun _ hj => hj).bind
  intro _
  exact .pure _

theorem prompt_requestWithin (ms : Nat) (link : LinkId) (q : Payload) :
    Fiber.Prompt Answering ((wire call).requestWithin ms link q) := by
  have hrequest : Fiber.Prompt Answering ((wire call).request link q) :=
    .step (fun _ hj => hj) fun _ => .await (fun _ hj => hj) (.atomically fun _ hj => hj)
  have hwithin : Fiber.Prompt Answering ((wire call).within ms ((wire call).request link q)) :=
    .race hrequest (fun _ => rfl) fun _ => .done _
  apply hwithin.bind
  intro result
  cases result with
  | some a => exact .pure _
  | none => exact .pure _

theorem opening_prompt : (peers call).Opening fun _ f => Fiber.Prompt Answering f where
  done := .pure
  bind hf hg := hf.bind hg
  all hfs := .all hfs
  openLink uri :=
    .atomically fun j hj => (congrArg Nature.answered (Site.nature_dial uri j.site)).trans hj
  atomically _ := prompt_onPool call _

theorem prompt_requestTo (uri : String) (q : Payload) :
    Fiber.Prompt Answering ((peers call).requestTo uri q) := by
  have hconnection : Fiber.Prompt Answering ((peers call).connectionTo uri) := by
    apply (prompt_onPool call _).bind
    intro usable
    cases usable with
    | true => exact (opening_prompt call).ensure uri
    | false =>
      apply (prompt_onPool call _).bind
      intro _
      exact .pure _
  apply hconnection.bind
  intro found
  cases found with
  | error fault => exact .pure _
  | ok link =>
    apply (prompt_onPool call _).bind
    intro _
    apply (prompt_onPool call _).bind
    intro ms
    apply (prompt_timed (prompt_requestWithin call ms link q)).bind
    intro _
    apply (prompt_onPool call _).bind
    intro _
    exact .pure _

end

theorem prompt_aim : Fiber.Prompt Answering ((host peered p).aim p) := by
  apply (Fiber.Prompt.atomically fun _ hj => hj).bind
  intro _
  exact prompt_onRouter _

theorem prompt_follow (aimed : Except Fault Target) :
    Fiber.Prompt Answering ((host peered p).follow p aimed) := by
  cases aimed with
  | error fault => exact .pure _
  | ok target =>
    cases hroute : target.responder.route with
    | direct link =>
      simp only [RouterHost.follow, hroute]
      apply (prompt_onRouter _).bind
      intro _
      apply (prompt_onRouter _).bind
      intro ms
      apply (prompt_timed (prompt_requestWithin p ms link p)).bind
      intro _
      apply (prompt_onRouter _).bind
      intro _
      exact .pure _
    | peer uri =>
      simp only [RouterHost.follow, hroute]
      cases peered with
      | false => exact .pure _
      | true =>
        apply (prompt_onRouter _).bind
        intro relayed
        cases relayed with
        | error fault => exact .pure _
        | ok q => exact prompt_requestTo p uri q

/-- Where calls are answered, a request comes to its end. -/
theorem prompt_request : Fiber.Prompt Answering ((host peered p).request p) := by
  rw [RouterHost.request_eq]
  exact prompt_aim.bind prompt_follow

end Junction

end ServiceMesh
