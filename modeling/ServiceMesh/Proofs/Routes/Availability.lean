import ServiceMesh.Proofs.Routes.Forwards
import ServiceMesh.Proofs.Routes.Keys
import ServiceMesh.Proofs.Routes.Requests

/-!
# When a request finds nobody available

A responder is *usable* if it is connected here, or else if the broker at which it is
connected is configured and healthy in the pool of brokers (`Junction.Usable`).

The router chooses among all responders that accept a call, usable or not, and does not try
another one if the chosen one turns out not to be usable.  So a request says that nobody is
available exactly if nobody accepts the call, or if the one that was chosen is not usable when
the pool is asked for a link to its broker: `Junction.no_available_iff`.  In the latter case
others may be usable all the same (`Junction.no_available_beside_usable`).
-/

namespace ServiceMesh

namespace Junction

open ServiceMesh.Fiber (Abides Runs kept_meanwhile)
open Relation (ReflTransGen)

/-- A call that goes to the responder now gets as far as a link. -/
def Usable (peered : Bool) (j : Junction) (x : Responder) : Prop :=
  ∀ uri, x.route = .peer uri → peered = true ∧ j.site.pool.isUsable uri = true

/-- The router and its table are in order, and nobody else says that nobody is available. -/
structure Fair (j : Junction) : Prop where
  router : j.router.Sound
  table : j.table.1.Consistent
  named : (utf8 j.router.brokerId).length ≤ maxContentLength
  refusal : ∀ d, j.site.nature.refusal ≠ some (.noAvailable d)
  reply : ∀ d, j.site.nature.reply ≠ .error (.noAvailable d)

/-- Faults other than that nobody is available. -/
def Other (fault : Fault) : Prop := ∀ d, fault ≠ .noAvailable d

theorem not_noAvailable {α : Type} {result : Except Fault α} (h : Ends Other result) :
    ¬∃ d, result = .error (.noAvailable d) := by
  rintro ⟨d, hd⟩
  exact h _ hd d rfl

theorem apart_fair : Apart Fair Other where
  apart hnature hj :=
    ⟨hj.router, hj.table, hj.named, hnature ▸ hj.refusal, hnature ▸ hj.reply⟩
  refused hj hfault d hd := hj.refusal d (hd ▸ hfault)
  answered hj fault hfault d hd := hj.reply d (hd ▸ hfault)
  closed _ _ h := by cases h
  late _ _ h := by cases h

variable {meanwhile : Junction → Junction → Prop} {peered : Bool} {p : Payload}

theorem Fair.aimed {j : Junction} (h : j.Fair) (draw : Draw) (p : Payload) :
    (j.aimed draw p).Fair :=
  ⟨h.router.aim draw p j.table.1, h.table,
    (Router.brokerId_aim draw p j.router j.table.1).symm ▸ h.named, h.refusal, h.reply⟩

/-! ## Calls to providers that are connected here -/

theorem fair_onRouter {α : Type} {f : Router → RouteTable → α × Router}
    (hsound : ∀ r t, r.Sound → (f r t).2.Sound)
    (hnamed : ∀ r t, (f r t).2.brokerId = r.brokerId) :
    Abides Fair (Fiber.atomically (onRouter f)) fun _ => True := by
  refine .step ?_
  intro j hj
  exact ⟨⟨hsound _ _ hj.router, hj.table, (hnamed j.router j.table.1).symm ▸ hj.named,
    hj.refusal, hj.reply⟩, .pure trivial⟩

/-- A call over the link of a provider never says that nobody is available. -/
theorem fair_requestDirect (target : Target) (link : LinkId) :
    Abides Fair ((host peered p).requestDirect target link p) (Ends Other) := by
  have hstart := fair_onRouter (f := fun r _ => ((), r.startCall target.responder.key))
    (fun _ _ hr => ⟨hr.balancer.start _, hr.sticky⟩) fun _ _ => rfl
  have hlimit := fair_onRouter (f := fun r _ => (r.callTimeoutMs, r)) (fun _ _ hr => hr)
    fun _ _ => rfl
  apply hstart.bind
  intro _ _
  apply hlimit.bind
  intro ms _
  apply (Apart.timed (apart_fair.requestWithin p ms link p)).bind
  intro measured hmeasured
  have hfinish := fair_onRouter
    (f := fun r _ => ((), r.finishCall target.responder.key measured.2 measured.1))
    (fun _ _ hr => ⟨hr.balancer.record _ _ _, hr.sticky⟩) fun _ _ => rfl
  apply hfinish.bind
  intro _ _
  exact .pure hmeasured

/-! ## Calls through the pool -/

/-- A call to a broker says that nobody is available exactly if the broker is not usable when the
pool is asked for a link.  Any other end is that of getting a link, or of a call over it. -/
theorem runs_requestTo (hmeanwhile : ∀ s t, meanwhile s t → s.Fair → t.Fair) {uri : String}
    {q : Payload} {v t : Junction} {a : Except Fault Payload} (hv : v.Fair)
    (h : Runs meanwhile ((peers p).requestTo uri q) v a t) :
    ∃ w, ReflTransGen meanwhile v w ∧
      ((∃ d, a = .error (.noAvailable d)) ↔ ¬w.site.pool.isUsable uri = true) := by
  obtain ⟨found, u, hconnection, hcall⟩ := h.of_bind
  obtain ⟨usable, u', hread, hensure⟩ := hconnection.of_bind
  obtain ⟨w, hbefore, rfl, hafter⟩ := hread.of_atomically
  refine ⟨w, hbefore, ?_⟩
  have hu' : u'.Fair := kept_meanwhile hmeanwhile hafter (kept_meanwhile hmeanwhile hbefore hv)
  simp only [onSite, Site.onPool] at hensure
  cases husable : w.site.pool.isUsable uri with
  | true =>
    simp only [husable, if_true] at hensure
    obtain ⟨hu, hfound⟩ := (apart_fair.ensure p uri).runs hmeanwhile hu' hensure
    simp only [not_true_eq_false, iff_false]
    cases found with
    | ok link => exact not_noAvailable ((apart_fair.call p uri link q).runs hmeanwhile hu hcall).2
    | error fault =>
      obtain ⟨rfl, -⟩ := hcall.of_done
      exact not_noAvailable (.error (hfound fault rfl))
  | false =>
    simp only [husable, Bool.false_eq_true, if_false] at hensure
    obtain ⟨destination, _, -, hdone⟩ := hensure.of_bind
    obtain ⟨rfl, -⟩ := hdone.of_done
    obtain ⟨rfl, -⟩ := hcall.of_done
    simp only [Bool.false_eq_true, not_false_eq_true, iff_true]
    exact ⟨_, rfl⟩

/-- A call to a remote responder says that nobody is available exactly if the responder is not
usable at some point. -/
theorem runs_requestRemote (hmeanwhile : ∀ s t, meanwhile s t → s.Fair → t.Fair) {draw : Draw}
    {r : Router} {table : RouteTable} {target : Target} {uri : String}
    (haim : (Router.aim draw p r table).1 = .ok target)
    (hroute : target.responder.route = .peer uri) {v t : Junction} {a : Except Fault Payload}
    (hv : v.Fair) (h : Runs meanwhile ((host peered p).requestRemote target uri p) v a t) :
    ∃ w, ReflTransGen meanwhile v w ∧
      ((∃ d, a = .error (.noAvailable d)) ↔ ¬w.Usable peered target.responder) := by
  cases peered with
  | false =>
    obtain ⟨rfl, -⟩ := h.of_done
    refine ⟨v, .refl, iff_of_true ⟨_, rfl⟩ ?_⟩
    intro husable
    cases (husable uri hroute).1
  | true =>
    obtain ⟨_, u, hrelay, hrequest⟩ := h.of_bind
    obtain ⟨v', hbefore, rfl, hafter⟩ := hrelay.of_atomically
    have hv' : v'.Fair := kept_meanwhile hmeanwhile hbefore hv
    obtain ⟨q, hq, -⟩ := Router.isRelay_relayed hv'.named haim hroute
    simp only [onRouter, hq] at hrequest
    obtain ⟨w, hasked, hiff⟩ :=
      runs_requestTo hmeanwhile (kept_meanwhile hmeanwhile hafter hv') hrequest
    refine ⟨w, hbefore.trans (hafter.trans hasked), hiff.trans (not_congr ?_)⟩
    constructor
    · intro husable uri' hroute'
      cases hroute.symm.trans hroute'
      exact ⟨rfl, husable⟩
    · intro husable
      exact (husable uri hroute).2

/-! ## Requests -/

/-- A readable call is routed at some point of every run of its request, among the others'
calls and whatever else happens meanwhile.  The request says that nobody is available exactly
if then nobody accepts the call, or if the one that was chosen is not usable at a later point.
It is no matter whether others who accept the call are usable. -/
theorem no_available_iff (hmeanwhile : ∀ s t, meanwhile s t → s.Fair → t.Fair) {c : Composite}
    {routing : Routing} (hread : Router.readMetadata p = .ok (c, routing)) {j t : Junction}
    {answer : Except Fault Payload} (hj : j.Fair)
    (hrun : Runs meanwhile ((host peered p).request p) j answer t) :
    ∃ draw u v, ReflTransGen meanwhile j u ∧ ReflTransGen meanwhile (u.aimed draw p) v ∧
      (∀ target, u.target draw p = .ok target →
        u.table.1.Accepts c routing target.responder) ∧
      ((∃ d, answer = .error (.noAvailable d)) ↔
        (¬∃ x, u.table.1.Accepts c routing x) ∨
          ∃ target, u.target draw p = .ok target ∧ ¬v.Usable peered target.responder) := by
  obtain ⟨s, u, v, hbefore, hdrawn, hafter, hfollow⟩ := runs_request hrun
  have hu : u.Fair := kept_meanwhile hmeanwhile (hbefore.trans hdrawn) hj
  have hv : v.Fair := kept_meanwhile hmeanwhile hafter (hu.aimed _ p)
  have hmem := hu.table.mem_eligible c routing
  refine ⟨s.site.nature.draw, u, ?_⟩
  rcases hu.router.aim_cases s.site.nature.draw u.table.1 hread with ⟨x, hx, haim⟩ | ⟨hnil, haim⟩
  · have haccepts := (hmem x).mp hx
    have htarget : u.target s.site.nature.draw p = .ok ⟨x, routing, c⟩ := haim
    rw [htarget] at hfollow ⊢
    suffices hsuffices : ∃ w, ReflTransGen meanwhile v w ∧
        ((∃ d, answer = .error (.noAvailable d)) ↔ ¬w.Usable peered x) by
      obtain ⟨w, hlater, hiff⟩ := hsuffices
      refine ⟨w, hbefore.trans hdrawn, hafter.trans hlater, ?_, ?_⟩
      · rintro target ⟨⟩
        exact haccepts
      · rw [hiff]
        constructor
        · intro hunusable
          exact .inr ⟨_, rfl, hunusable⟩
        · rintro (hnone | ⟨target, htarget, hunusable⟩)
          · exact absurd ⟨x, haccepts⟩ hnone
          · cases htarget
            exact hunusable
    cases hroute : x.route with
    | direct link =>
      simp only [RouterHost.follow, hroute] at hfollow
      have hanswer := (fair_requestDirect _ link).runs hmeanwhile hv hfollow
      refine ⟨v, .refl, iff_of_false (not_noAvailable hanswer.2) (not_not_intro ?_)⟩
      intro uri hpeer
      cases hroute.symm.trans hpeer
    | peer uri =>
      simp only [RouterHost.follow, hroute] at hfollow
      exact runs_requestRemote hmeanwhile haim hroute hv hfollow
  · have htarget : u.target s.site.nature.draw p = .error (.noAvailable routing.locator.gsv) := haim
    rw [htarget] at hfollow ⊢
    obtain ⟨rfl, -⟩ := hfollow.of_done
    refine ⟨v, hbefore.trans hdrawn, hafter, ?_, iff_of_true ⟨_, rfl⟩ (.inl ?_)⟩
    · intro target h
      cases h
    · rintro ⟨x, hx⟩
      have hx' := (hmem x).mpr hx
      rw [hnil] at hx'
      cases hx'

namespace Sample

open Router.Sample (pair remote near call metadata routing values_pair)

theorem provided_pair : (RouteTable.after pair).Provided := by
  have hconsistent := RouteTable.consistent_after pair
  intro id x hget link hroute
  rw [← hconsistent.keyed id x hget, ← hconsistent.mem_values, values_pair, List.mem_pair] at hget
  rcases hget with rfl | rfl
  · cases hroute
  · cases hroute
    exact ⟨2, rfl⟩

/-- A junction with the two providers, and with a pool of brokers. -/
def junction (strategy : Strategy) (uris : List String) : Junction where
  site := { pool := { Pool.new "meshrpc-broker" {} with uris := uris } }
  router := .fresh "b1" strategy 0 false 1000
  table := ⟨RouteTable.after pair, provided_pair⟩

end Sample

open Sample Router.Sample in
/-- The broker of the one provider is not configured.  The first request goes to that provider
and finds nobody available, while the other provider is connected here. -/
theorem no_available_beside_usable :
    let j := junction .roundRobin []
    ∃ answer t, Runs (fun _ _ => False) ((host true call).request call) j answer t ∧
      (∃ d, answer = .error (.noAvailable d)) ∧
      ∃ x, j.table.1.Accepts metadata routing x ∧ j.Usable true x := by
  intro j
  have hfair : j.Fair :=
    { router := Router.sound_fresh "b1" .roundRobin 0 false 1000
      table := RouteTable.consistent_after pair
      named := by decide +kernel
      refusal := fun _ h => by cases h
      reply := fun _ h => by cases h }
  have hprompt : Fiber.Prompt Answering ((host true call).request call) := prompt_request
  obtain ⟨answer, t, hrun, -⟩ := hprompt.runs (s := j) rfl
  obtain ⟨draw, u, v, hu, hv, -, hiff⟩ :=
    no_available_iff (fun _ _ h => False.elim h) readMetadata_call hfair hrun
  have hsame {s t : Junction} (h : ReflTransGen (fun _ _ => False) s t) : s = t :=
    kept_meanwhile (I := (s = ·)) (fun _ _ hnever => hnever.elim) h rfl
  obtain rfl := hsame hu
  obtain rfl := hsame hv
  have htarget : j.target draw call = .ok ⟨remote, routing, metadata⟩ := by
    simp only [target, Router.aim, readMetadata_call, j, junction, eligible_pair]
    rfl
  refine ⟨answer, t, hrun, hiff.mpr (.inr ⟨_, htarget, ?_⟩), near, ?_, ?_⟩
  · intro husable
    have hlisted := (husable "local://b2:9999" rfl).2
    cases hlisted
  · exact (accepts_iff values_pair near).mpr (.inr rfl)
  · intro uri hroute
    cases hroute

end Junction

end ServiceMesh
