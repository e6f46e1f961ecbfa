import ServiceMesh.Proofs.Balance.Burst
import ServiceMesh.Proofs.Routes.Availability
import ServiceMesh.Proofs.Routes.Reports
import ServiceMesh.Proofs.Routes.Stickiness

/-!
# Whom a router by latency tries

A balancer by latency that does not explore picks the first candidate that was never called, as
long as all candidates before it were measured (`Weighted.Tried.pick`).  A router tells its
balancer of the calls that it makes over links of providers, and of no others.

So while the responders stay as they are, calls that are made one after the other try the
responders in order up to the first that is remote.  That one is never measured, and all further
calls go there: `Junction.tries_up_to_remote`.
-/

namespace ServiceMesh

/-! ## The pick -/

namespace Weighted

/-- Some candidates were measured and others were never called, and nothing is explored. -/
structure Tried (b : Weighted) (tried untried : List String) : Prop where
  exploration : b.exploration = 0
  measured : ∀ c ∈ tried, (b.statsOf c).samples ≠ 0
  untouched : ∀ c ∈ untried, (b.statsOf c).samples = 0 ∧ (b.statsOf c).outstanding = 0

theorem tried_new (candidates : List String) : (withExploration 0).Tried [] candidates where
  exploration := rfl
  measured _ h := absurd h List.not_mem_nil
  untouched _ _ := ⟨rfl, rfl⟩

section

variable {b : Weighted} {tried rest : List String} {c : String}

/-- The first candidate that was never called is picked, if all before it were measured. -/
theorem Tried.pick (h : b.Tried tried (c :: rest)) {draw : Draw} (hdraw : ¬draw.unit < 0) :
    b.pick draw (tried ++ c :: rest) = some c :=
  pick_of_untried h.exploration (fun x hx hfree => h.measured x hx hfree.1)
    (h.untouched c List.mem_cons_self) hdraw

/-- The candidate of a call that completed was measured. -/
theorem Tried.called (h : b.Tried tried (c :: rest)) (hnodup : (tried ++ c :: rest).Nodup)
    (latencyMs : Float) (success : Bool) :
    ((b.start c).record c latencyMs success).Tried (tried ++ [c]) rest := by
  have hc : c ∉ tried ∧ c ∉ rest := by
    simpa using List.nodup_middle.mp hnodup |>.notMem
  have hother {d : String} (hd : c ≠ d) :
      ((b.start c).record c latencyMs success).statsOf d = b.statsOf d := by
    rw [statsOf_record, if_neg hd, statsOf_start, if_neg hd]
  refine ⟨h.exploration, ?_, ?_⟩
  · intro d hd
    rcases List.mem_append.mp hd with hd | hd
    · rw [hother (ne_of_mem_of_not_mem hd hc.1).symm]
      exact h.measured d hd
    · rw [List.mem_singleton.mp hd, statsOf_record, if_pos rfl]
      exact Nat.succ_ne_zero _
  · intro d hd
    rw [hother (ne_of_mem_of_not_mem hd hc.2).symm]
    exact h.untouched d (List.mem_cons_of_mem c hd)

end

end Weighted

/-! ## The choice -/

/-- A call that is not sticky goes where a balancer by latency picks. -/
theorem Router.aim_weighted {r : Router} {table : RouteTable} {b : Weighted} {p : Payload}
    {c : Composite} {routing : Routing} (hread : readMetadata p = .ok (c, routing))
    (hfree : (routing.sticky || r.alwaysSticky) = false) (hb : r.balancer = .weighted b)
    (hne : eligible table c routing ≠ []) (draw : Draw) :
    ∃ x ∈ eligible table c routing, (aim draw p r table).1 = .ok ⟨x, routing, c⟩ ∧
      b.pick draw ((eligible table c routing).map Responder.key) = some x.key := by
  have hchoice := b.choice_pick draw ((eligible table c routing).map Responder.key)
  simp only [aim, hread, choose, hfree, hb, Balancer.pick, Bool.false_eq_true, if_false]
  generalize b.pick draw _ = choice at hchoice ⊢
  cases hchoice with
  | @picked key hkey =>
    obtain ⟨x, hx, rfl, hfind⟩ := exists_find?_key hkey
    exact ⟨x, hx, by simp only [Option.bind_some, hfind], rfl⟩
  | nothing hnil => exact absurd (List.map_eq_nil_iff.mp hnil) hne

namespace Junction

open ServiceMesh.Fiber (Abides Runs kept_meanwhile)
open Relation (ReflTransGen)

/-- The balancer by latency of a router has its statistics, and some calls may go to the same
responders. -/
structure Settled (rs : List Responder) (calls : List Payload) (b : Weighted) (j : Junction) :
    Prop where
  balancer : j.router.balancer = .weighted b
  table : j.table.1.Consistent
  free : j.router.alwaysSticky = false
  draw : ¬j.site.nature.draw.unit < 0
  calls : ∀ p ∈ calls, ∃ c routing, Router.readMetadata p = .ok (c, routing) ∧
    routing.sticky = false ∧ Router.eligible j.table.1 c routing = rs

theorem apart_settled (rs : List Responder) (calls : List Payload) (b : Weighted) :
    Apart (Settled rs calls b) fun _ => True where
  apart hnature hj := ⟨hj.balancer, hj.table, hj.free, hnature ▸ hj.draw, hj.calls⟩
  refused _ _ := trivial
  answered _ _ _ := trivial
  closed _ := trivial
  late _ := trivial

section

variable {meanwhile : Junction → Junction → Prop} {peered : Bool} {p : Payload}
  {rs : List Responder} {calls : List Payload} {b : Weighted} {j s t : Junction}

theorem Settled.nodup (h : j.Settled rs calls b) (hp : p ∈ calls) :
    (rs.map Responder.key).Nodup := by
  obtain ⟨c, routing, -, -, rfl⟩ := h.calls p hp
  exact Router.nodup_keys h.table c routing

variable (hmeanwhile : ∀ b s t, meanwhile s t → s.Settled rs calls b → t.Settled rs calls b)

include hmeanwhile

theorem Settled.later (h : ReflTransGen meanwhile s t) (hs : s.Settled rs calls b) :
    t.Settled rs calls b := kept_meanwhile (hmeanwhile b) h hs

/-- A choice leaves the statistics alone. -/
theorem Settled.aim (hs : s.Settled rs calls b) (hp : p ∈ calls) (hne : rs ≠ [])
    {aimed : Except Fault Target} (h : Runs meanwhile ((host peered p).aim p) s aimed t) :
    t.Settled rs calls b ∧ ∃ draw target, ¬draw.unit < 0 ∧ aimed = .ok target ∧
      target.responder ∈ rs ∧
      b.pick draw (rs.map Responder.key) = some target.responder.key := by
  obtain ⟨v, u, hbefore, hdrawn, rfl, hafter⟩ := runs_aim h
  have hv := hs.later hmeanwhile hbefore
  have hu := hv.later hmeanwhile hdrawn
  obtain ⟨c, routing, hread, hsticky, heligible⟩ := hu.calls p hp
  have hfree : (routing.sticky || u.router.alwaysSticky) = false := by
    rw [hsticky, hu.free]
    rfl
  have hsome : Router.eligible u.table.1 c routing ≠ [] := heligible ▸ hne
  obtain ⟨x, hx, haim, hpick⟩ :=
    Router.aim_weighted hread hfree hu.balancer hsome v.site.nature.draw
  rw [heligible] at hx hpick
  have hstrategy : u.router.balancer.strategy = .weightedStats := by
    rw [hu.balancer]
    rfl
  have haimed : (u.aimed v.site.nature.draw p).Settled rs calls b :=
    { balancer := (Router.balancer_aim hstrategy _ p u.table.1).trans hu.balancer
      table := hu.table
      free := (u.router.alwaysSticky_aim _ p u.table.1).trans hu.free
      draw := hu.draw
      calls := hu.calls }
  exact ⟨haimed.later hmeanwhile hafter, _, _, hv.draw, haim, hx, hpick⟩

/-- A section on the router that only tells the balancer something. -/
theorem Settled.told {b' : Weighted} (hs : s.Settled rs calls b) {α : Type}
    {f : Router → RouteTable → α × Router}
    (hbalancer : ∀ r table, r.balancer = .weighted b → (f r table).2.balancer = .weighted b')
    (hsticky : ∀ r table, (f r table).2.alwaysSticky = r.alwaysSticky) {a : α}
    (h : Runs meanwhile (Fiber.atomically (onRouter f)) s a t) : t.Settled rs calls b' := by
  obtain ⟨u, hbefore, -, hafter⟩ := h.of_atomically
  have hu := hs.later hmeanwhile hbefore
  have hu' : (onRouter f u).2.Settled rs calls b' :=
    ⟨hbalancer _ _ hu.balancer, hu.table, (hsticky _ _).trans hu.free, hu.draw, hu.calls⟩
  exact hu'.later hmeanwhile hafter

/-- The balancer is told of a call over the link of a provider. -/
theorem Settled.requestDirect (hs : s.Settled rs calls b) {target : Target} {link : LinkId}
    {answer : Except Fault Payload}
    (h : Runs meanwhile ((host peered p).requestDirect target link p) s answer t) :
    ∃ latencyMs success, t.Settled rs calls
      ((b.start target.responder.key).record target.responder.key latencyMs success) := by
  obtain ⟨_, u, hstart, h⟩ := h.of_bind
  obtain ⟨ms, v, hlimit, h⟩ := h.of_bind
  obtain ⟨measured, w, htimed, h⟩ := h.of_bind
  obtain ⟨_, x, hfinish, h⟩ := h.of_bind
  obtain ⟨-, hend⟩ := h.of_done
  have hu : u.Settled rs calls (b.start target.responder.key) :=
    hs.told hmeanwhile (fun r _ hr => by rw [Router.startCall, hr]; rfl) (fun _ _ => rfl) hstart
  have hv := hu.told hmeanwhile (fun _ _ hr => hr) (fun _ _ => rfl) hlimit
  have hw := ((Apart.timed ((apart_settled rs calls _).requestWithin p ms link p)).runs
    (hmeanwhile _) hv htimed).1
  have hx := hw.told hmeanwhile (fun r _ hr => by rw [Router.finishCall, hr]; rfl)
    (fun _ _ => rfl) hfinish
  exact ⟨measured.2, !Pool.failed measured.1, hx.later hmeanwhile hend⟩

/-- The balancer is told nothing of a call to a remote responder. -/
theorem Settled.requestRemote (hs : s.Settled rs calls b) {target : Target} {uri : String}
    {answer : Except Fault Payload}
    (h : Runs meanwhile ((host peered p).requestRemote target uri p) s answer t) :
    t.Settled rs calls b := by
  have hremote : Abides (Settled rs calls b) ((host peered p).requestRemote target uri p)
      fun _ => True := by
    cases peered with
    | false => exact .pure trivial
    | true =>
      have hrelayed : Abides (Settled rs calls b) ((host true p).relayed target p.data)
          fun _ => True := .step fun _ hj =>
        ⟨⟨hj.balancer, hj.table, hj.free, hj.draw, hj.calls⟩, .pure trivial⟩
      apply hrelayed.bind
      intro relayed _
      cases relayed with
      | error fault => exact .pure trivial
      | ok q => exact (apart_settled rs calls b).requestTo p uri q
  exact (hremote.runs (hmeanwhile b) hs h).1

theorem Settled.follow (hs : s.Settled rs calls b) {target : Target}
    {answer : Except Fault Payload}
    (h : Runs meanwhile ((host peered p).follow p (.ok target)) s answer t) :
    (target.responder.isRemote = true ∧ t.Settled rs calls b) ∨
    (target.responder.isRemote = false ∧ ∃ latencyMs success, t.Settled rs calls
      ((b.start target.responder.key).record target.responder.key latencyMs success)) := by
  cases hroute : target.responder.route with
  | direct link =>
    simp only [RouterHost.follow, hroute] at h
    exact .inr ⟨by simp only [Responder.isRemote, hroute], hs.requestDirect hmeanwhile h⟩
  | peer uri =>
    simp only [RouterHost.follow, hroute] at h
    exact .inl ⟨by simp only [Responder.isRemote, hroute], hs.requestRemote hmeanwhile h⟩

end

/-! ## Calls one after the other -/

/-- Calls are requested one after the other, each when the one before it has completed, and go to
responders.  A request is a choice and what follows from it (`RouterHost.request_eq`). -/
inductive Series (meanwhile : Junction → Junction → Prop) (peered : Bool) :
    List Payload → Junction → List Responder → Junction → Prop
  | nothing (j : Junction) : Series meanwhile peered [] j [] j
  | call {p : Payload} {later : List Payload} {j u v t : Junction} {target : Target}
      {answer : Except Fault Payload} {responders : List Responder}
      (choice : Runs meanwhile ((host peered p).aim p) j (.ok target) u)
      (completion : Runs meanwhile ((host peered p).follow p (.ok target)) u answer v)
      (rest : Series meanwhile peered later v responders t) :
      Series meanwhile peered (p :: later) j (target.responder :: responders) t

section

variable {meanwhile : Junction → Junction → Prop} {peered : Bool} {rs responders : List Responder}
  {calls made : List Payload} {b : Weighted} {j t : Junction}

theorem Series.length_eq (h : Series meanwhile peered made j responders t) :
    responders.length = made.length := by
  induction h with
  | nothing j => rfl
  | call choice completion rest ih => exact congrArg (· + 1) ih

/-- Responders that are visited in order up to the first that is remote, which gets all further
visits, are all different exactly if none but the last is remote.  The visit after that to the
first remote responder is to the same one. -/
theorem nodup_visits_iff (hnodup : rs.Nodup) (hlength : responders.length = rs.length)
    (hvisits : ∀ k x, responders[k]? = some x →
      rs[min k (rs.findIdx Responder.isRemote)]? = some x) :
    responders.Nodup ↔ ∀ x ∈ rs.dropLast, x.isRemote = false := by
  constructor
  · intro hdifferent x hx
    obtain ⟨i, hi, rfl⟩ := List.getElem_of_mem hx
    rw [List.length_dropLast] at hi
    rw [List.getElem_dropLast, ← Bool.not_eq_true]
    intro hremote
    have hfirst : rs.findIdx Responder.isRemote ≤ i := by
      by_contra hlt
      exact Bool.false_ne_true
        ((List.not_of_lt_findIdx (Nat.lt_of_not_le hlt)).symm.trans hremote)
    have hnext : rs.findIdx Responder.isRemote + 1 < responders.length := by omega
    have hsame := hvisits _ _ (List.getElem?_eq_getElem (Nat.lt_of_succ_lt hnext))
    have hsame' := hvisits _ _ (List.getElem?_eq_getElem hnext)
    rw [Nat.min_self] at hsame
    rw [Nat.min_eq_right (Nat.le_succ _), hsame, Option.some.injEq,
      hdifferent.getElem_inj_iff] at hsame'
    omega
  · intro hdirect
    suffices hall : responders = rs from hall ▸ hnodup
    have hfirst : rs.length - 1 ≤ rs.findIdx Responder.isRemote := by
      by_contra hlt
      have hlt' : rs.findIdx Responder.isRemote < rs.dropLast.length := by
        rw [List.length_dropLast]
        exact Nat.lt_of_not_le hlt
      have hbound : rs.findIdx Responder.isRemote < rs.length :=
        Nat.lt_of_lt_of_le hlt' (List.dropLast_sublist rs).length_le
      have hremote := List.findIdx_getElem (w := hbound)
      have hlocal := hdirect _ (List.getElem_mem hlt')
      rw [List.getElem_dropLast, hremote] at hlocal
      cases hlocal
    apply List.ext_getElem hlength
    intro k hk hk'
    have hvisit := hvisits k _ (List.getElem?_eq_getElem hk)
    rw [Nat.min_eq_left (by omega), List.getElem?_eq_getElem hk'] at hvisit
    exact (Option.some.inj hvisit).symm

variable (hmeanwhile : ∀ b s t, meanwhile s t → s.Settled rs calls b → t.Settled rs calls b)

include hmeanwhile

/-- Where calls are answered, they can be made one after the other. -/
theorem Settled.exists_series (hne : rs ≠ []) (hmade : made ⊆ calls) (hj : j.Settled rs calls b)
    (hanswering : j.Answering) :
    ∃ responders t, Series meanwhile peered made j responders t := by
  induction made generalizing b j with
  | nil => exact ⟨[], j, .nothing j⟩
  | cons p later ih =>
    obtain ⟨hp, hlater⟩ := List.cons_subset.mp hmade
    have hprompt : Fiber.Prompt Answering ((host peered p).aim p) := prompt_aim
    obtain ⟨aimed, u, hchoice, hu⟩ := hprompt.runs hanswering
    obtain ⟨hsettled, -, target, -, rfl, -, -⟩ := hj.aim hmeanwhile hp hne hchoice
    obtain ⟨answer, v, hcompletion, hv⟩ := (prompt_follow (.ok target)).runs hu
    have hnext : ∃ b', v.Settled rs calls b' := by
      rcases hsettled.follow hmeanwhile hcompletion with ⟨-, hb⟩ | ⟨-, _, _, hb⟩
      · exact ⟨_, hb⟩
      · exact ⟨_, hb⟩
    obtain ⟨b', hb'⟩ := hnext
    obtain ⟨responders, t, hrest⟩ := ih hlater hb' hv
    exact ⟨_, t, .call hchoice hcompletion hrest⟩

/-- A call goes to the first responder that was never tried. -/
theorem Settled.aim_untried {p : Payload} (hj : j.Settled rs calls b) (hp : p ∈ calls)
    {tried untried : List Responder} {y : Responder} (hrs : rs = tried ++ y :: untried)
    (hb : b.Tried (tried.map Responder.key) ((y :: untried).map Responder.key)) {target : Target}
    (h : Runs meanwhile ((host peered p).aim p) j (.ok target) t) :
    t.Settled rs calls b ∧ target.responder = y := by
  have hy : y ∈ rs := by
    rw [hrs]
    exact List.mem_append_right tried List.mem_cons_self
  obtain ⟨ht, draw, _, hdraw, htarget, hmem, hpick⟩ :=
    hj.aim hmeanwhile hp (List.ne_nil_of_mem hy) h
  cases htarget
  have hkeys : rs.map Responder.key
      = tried.map Responder.key ++ y.key :: untried.map Responder.key := by
    rw [hrs, List.map_append, List.map_cons]
  rw [hkeys, hb.pick hdraw, Option.some.injEq] at hpick
  exact ⟨ht, List.inj_on_of_nodup_map (hj.nodup hp) hmem hy hpick.symm⟩

/-- The next calls go to the responders that were never tried, in order up to the first that is
remote.  A remote responder stays the first that was never tried, and a provider does not. -/
theorem Series.getElem? (h : Series meanwhile peered made j responders t) (hmade : made ⊆ calls)
    {tried untried : List Responder} (hrs : rs = tried ++ untried) (hj : j.Settled rs calls b)
    (hb : b.Tried (tried.map Responder.key) (untried.map Responder.key)) {k : Nat} {x : Responder}
    (hk : responders[k]? = some x)
    (hleft : k < untried.length ∨ ∃ y ∈ untried, y.isRemote = true) :
    untried[min k (untried.findIdx Responder.isRemote)]? = some x := by
  induction h generalizing b tried untried k with
  | nothing j => cases hk
  | @call p later j u v t target answer responders choice completion rest ih =>
    obtain ⟨hp, hlater⟩ := List.cons_subset.mp hmade
    cases untried with
    | nil => simp at hleft
    | cons y untried =>
      obtain ⟨hu, hfirst⟩ := hj.aim_untried hmeanwhile hp hrs hb choice
      rcases hu.follow hmeanwhile completion with ⟨hremote, hv⟩ | ⟨hdirect, _, _, hv⟩
      · rw [hfirst] at hremote
        rw [List.findIdx_cons, hremote, cond_true, Nat.min_zero]
        cases k with
        | zero => exact hfirst ▸ hk
        | succ k =>
          have hrest := ih hlater hrs hv hb hk (.inr ⟨y, List.mem_cons_self, hremote⟩)
          rwa [List.findIdx_cons, hremote, cond_true, Nat.min_zero] at hrest
      · rw [hfirst] at hdirect
        rw [hfirst] at hv
        rw [List.findIdx_cons, hdirect, cond_false]
        cases k with
        | zero => exact hfirst ▸ hk
        | succ k =>
          rw [Nat.add_min_add_right]
          have hrs' : rs = (tried ++ [y]) ++ untried := by simpa using hrs
          refine ih hlater hrs' hv ?_ hk ?_
          · rw [List.map_append]
            have hnodup := hj.nodup hp
            rw [hrs] at hnodup
            exact hb.called (by simpa using hnodup) _ _
          · simpa [hdirect] using hleft

/-- A new router by latency does not explore, and calls that are not sticky may go to the same
responders whatever happens meanwhile.  The calls can be made one after the other, where they are
answered.  Then they go to the responders in order up to the first that is remote, and all
further calls go to that one.  As many calls as there are responders go to different ones
exactly if no responder but the last is remote. -/
theorem tries_up_to_remote (hj : j.Settled rs calls (.withExploration 0)) :
    (rs ≠ [] → j.Answering → ∃ responders t, Series meanwhile peered calls j responders t) ∧
    ∀ responders t, Series meanwhile peered calls j responders t →
      (∀ k x, responders[k]? = some x → k < rs.length ∨ (∃ y ∈ rs, y.isRemote = true) →
        rs[min k (rs.findIdx Responder.isRemote)]? = some x) ∧
      (calls.length = rs.length →
        (responders.Nodup ↔ ∀ x ∈ rs.dropLast, x.isRemote = false)) := by
  refine ⟨fun hne => hj.exists_series hmeanwhile hne (List.Subset.refl calls), ?_⟩
  intro responders t h
  have hvisits (k : Nat) (x : Responder) (hk : responders[k]? = some x)
      (hleft : k < rs.length ∨ ∃ y ∈ rs, y.isRemote = true) :=
    h.getElem? hmeanwhile (List.Subset.refl calls) (List.nil_append rs).symm hj
      (Weighted.tried_new _) hk hleft
  refine ⟨hvisits, ?_⟩
  intro hlength
  have hnodup : rs.Nodup := by
    cases calls with
    | nil => rw [List.eq_nil_of_length_eq_zero hlength.symm]; exact List.nodup_nil
    | cons p later => exact (hj.nodup List.mem_cons_self).of_map
  have hresponders := h.length_eq.trans hlength
  apply nodup_visits_iff hnodup hresponders
  intro k x hk
  refine hvisits k x hk (.inl ?_)
  exact hresponders ▸ (List.getElem?_eq_some_iff.mp hk).1

end

open Sample Router.Sample in
/-- A remote provider comes before one that is connected here.  Two calls both go to the remote
one. -/
theorem remote_tried_again :
    let j := junction .weightedStats ["local://b2:9999"]
    ∃ t, Series (fun _ _ => False) true [call, call] j [remote, remote] t := by
  intro j
  have hsettled : j.Settled [remote, near] [call, call] (.withExploration 0) :=
    { balancer := rfl
      table := RouteTable.consistent_after pair
      free := rfl
      draw := by decide
      calls := fun p hp => by
        obtain rfl : p = call := by simpa using hp
        exact ⟨metadata, routing, readMetadata_call, rfl, eligible_pair⟩ }
  obtain ⟨hmade, hgo⟩ := tries_up_to_remote (fun _ _ _ h => False.elim h) hsettled
  obtain ⟨responders, t, hseries⟩ :
      ∃ responders t, Series (fun _ _ => False) true [call, call] j responders t :=
    hmade (List.cons_ne_nil remote [near]) rfl
  obtain ⟨hvisits, -⟩ := hgo responders t hseries
  have hall : responders = List.replicate 2 remote := by
    refine List.eq_replicate_iff.mpr ⟨hseries.length_eq, ?_⟩
    intro x hx
    obtain ⟨k, hk⟩ := List.mem_iff_getElem?.mp hx
    have hvisit := hvisits k x hk (.inr ⟨remote, List.mem_cons_self, rfl⟩)
    have hfirst : [remote, near].findIdx Responder.isRemote = 0 := rfl
    rw [hfirst, Nat.min_zero] at hvisit
    cases hvisit
    rfl
  rw [hall] at hseries
  exact ⟨t, hseries⟩

end Junction

end ServiceMesh
