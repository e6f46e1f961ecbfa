import ServiceMesh.Proofs.Balance.Choice
import ServiceMesh.Proofs.Concurrency.Courses
import ServiceMesh.Proofs.Concurrency.Promptness
import ServiceMesh.Proofs.Pool.Addresses
import ServiceMesh.Proofs.Pool.Adoption
import ServiceMesh.Proofs.Pool.Site

/-!
# Failover is complete

Who asks a pool for a link to some endpoint takes the candidates as they are, has one of them
selected, and tries it.  If that fails, it is ruled out and the next one is selected.  Each
attempt that fails changes the pool: a closed link of the address is forgotten, and the address
becomes unhealthy.

Which candidate is selected is of no account, as long as it is one of them
(`PoolHost.connectionBy`).  In a `Trial` the pool is alone, it is settled which addresses can be
opened, and the openings are on record.  A `Selection` may be any balancer with a memory of its
own, and may look at everything; that of the pool itself is one of them (`Selection.own`).

The loop over the candidates keeps one thing: those that were tried are given up and nothing
else has changed (`Trial.GivenUp`).  So the search ends after at most one attempt for each
candidate.  It finds a link if there is one to be had, and otherwise all addresses are unhealthy
(`Trial.failover_complete`).
-/

namespace ServiceMesh

open ServiceMesh.Fiber

/-! ## Any order of the candidates -/

namespace PoolHost

variable {σ : Type} (h : PoolHost (Fiber σ))

/-- A link to the first of the candidates, in whatever order they are selected, that can be
opened. -/
def firstBy (select : List String → Fiber σ (Option String)) :
    Nat → List String → Fiber σ (Except Fault (String × LinkId))
  | 0, _ => h.exhausted
  | fuel + 1, candidates => do
      match ← select candidates with
      | none => h.exhausted
      | some uri =>
          match ← h.ensure uri with
          | .ok link => return .ok (uri, link)
          | .error _ => firstBy select fuel (candidates.filter (· ≠ uri))

/-- A link to some endpoint, in whatever order they are selected. -/
def connectionBy (select : List String → Fiber σ (Option String)) :
    Fiber σ (Except Fault (String × LinkId)) := do
  let candidates ← h.read Pool.candidates
  h.firstBy select (candidates.length + 1) candidates

/-- The choice of the balancer of the pool. -/
def select (fingerprint : Option Bytes) (candidates : List String) : Fiber σ (Option String) := do
  let draw ← h.draw
  h.atomically fun p links =>
    let (choice, p) := p.choose draw fingerprint candidates
    (choice, p, links)

theorem firstOf_eq (fingerprint : Option Bytes) (fuel : Nat) (candidates : List String) :
    h.firstOf fingerprint fuel candidates = h.firstBy (h.select fingerprint) fuel candidates := by
  induction fuel generalizing candidates with
  | zero => rfl
  | succ fuel ih =>
    unfold firstOf firstBy select
    refine Eq.trans ?_ (Fiber.bind_assoc _ _ _).symm
    refine congrArg (h.draw >>= ·) (funext fun draw => congrArg (_ >>= ·) (funext ?_))
    intro choice
    cases choice with
    | none => rfl
    | some uri =>
      refine congrArg (h.ensure uri >>= ·) (funext ?_)
      intro result
      cases result with
      | ok link => rfl
      | error fault => exact ih _

theorem connection_eq (fingerprint : Option Bytes) :
    h.connection fingerprint = h.connectionBy (h.select fingerprint) :=
  congrArg (h.read Pool.candidates >>= ·) (funext fun _ => h.firstOf_eq fingerprint _ _)

end PoolHost

/-! ## Trials -/

/-- A pool that is asked for a link, and nobody else. -/
structure Trial (β : Type) where
  /-- The pool and the links. -/
  site : Site
  /-- What the selection remembers. -/
  memory : β
  /-- The addresses to which a link was tried to be opened, in order. -/
  dialed : List String := []

namespace Trial

variable {α β : Type}

/-- The pool. -/
def pool (t : Trial β) : Pool := t.site.pool

/-- The links. -/
def links (t : Trial β) : Links := t.site.links

/-- One section on the pool and the links. -/
def onPool (f : Pool → Links → α × Pool × Links) (t : Trial β) : α × Trial β :=
  ((t.site.onPool f).1, { t with site := (t.site.onPool f).2 })

/-- The state once a link to an address was tried to be opened, in vain. -/
def refused (uri : String) (t : Trial β) : Trial β := { t with dialed := t.dialed ++ [uri] }

/-- The state once a link to an address was opened. -/
def opened (uri : String) (t : Trial β) : Trial β :=
  { t.refused uri with site := t.site.addLink uri }

/-- Opens a link, unless the address refuses. -/
def dial (refusal : String → Option Fault) (uri : String) (t : Trial β) :
    Except Fault LinkId × Trial β :=
  match refusal uri with
  | some fault => (.error fault, t.refused uri)
  | none => (.ok t.site.fresh, t.opened uri)

/-- The surroundings of the pool.  What the search does not use is as in any others. -/
def host (others : PoolHost (Fiber (Trial β))) (draws : Trial β → Draw)
    (refusal : String → Option Fault) : PoolHost (Fiber (Trial β)) :=
  { others with
    wire := { others.wire with openLink := fun uri => Fiber.atomically (dial refusal uri) }
    atomically := fun f => Fiber.atomically (onPool f)
    draw := Fiber.read draws }

/-- The state once something was chosen: the balancer of the pool and the memory may differ. -/
def chosen (t : Trial β) (balancer : Balancer) (memory : β) : Trial β :=
  { t with site := { t.site with pool := { t.site.pool with balancer := balancer } }
           memory := memory }

end Trial

/-- A way to select one of the candidates, and when it is fit to do so. -/
structure Selection (β : Type) where
  /-- The balancer and the memory are as they should be. -/
  Fit : Balancer → β → Prop
  select : List String → Fiber (Trial β) (Option String)
  /-- One of the candidates is selected, if there are any, and nothing else happens. -/
  selects : ∀ candidates t, Fit t.pool.balancer t.memory → ∃ choice balancer memory,
    poll (select candidates) t = (done choice, t.chosen balancer memory) ∧
      Choice candidates choice ∧ Fit balancer memory
  /-- That an address became unhealthy does not matter. -/
  invalidate : ∀ {balancer memory} hash, Fit balancer memory →
    Fit (balancer.invalidate hash) memory

/-- The selection that a function of all that there is makes. -/
def Selection.ofFunction {β : Type} (choose : List String → Trial β → Option String × β)
    (h : ∀ candidates t, Choice candidates (choose candidates t).1) : Selection β where
  Fit _ _ := True
  select candidates := Fiber.atomically fun t =>
    ((choose candidates t).1, { t with memory := (choose candidates t).2 })
  selects candidates t _ := ⟨_, t.pool.balancer, _, rfl, h candidates t, trivial⟩
  invalidate _ _ := trivial

/-- The selection that the balancer of the pool makes. -/
def Selection.own {β : Type} (others : PoolHost (Fiber (Trial β))) (draws : Trial β → Draw)
    (refusal : String → Option Fault) (fingerprint : Option Bytes) : Selection β where
  Fit balancer _ := balancer.Sound
  select := (Trial.host others draws refusal).select fingerprint
  selects candidates t hfit := ⟨_, _, t.memory, rfl,
    hfit.choice_pick (draws t) t.pool.hash fingerprint candidates,
    hfit.pick (draws t) t.pool.hash fingerprint candidates⟩
  invalidate hash hfit := hfit.invalidate hash

/-! ## One attempt -/

namespace Pool

variable {uri : String} {p : Pool} {links : Links}

theorem takeOpen_of_open {link : LinkId} (hlink : p.active.get? uri = some link)
    (hopen : links.isClosed link = false) : takeOpen uri p links = (some link, p, links) := by
  unfold takeOpen
  rw [hlink]
  simp only [hopen, Bool.false_eq_true, if_false]

/-- Without an open link, none is in use any more. -/
theorem takeOpen_of_closed
    (h : ∀ link, p.active.get? uri = some link → links.isClosed link = true) :
    takeOpen uri p links = (none, { p with active := p.active.erase uri }, links) := by
  unfold takeOpen
  cases hlink : p.active.get? uri with
  | none => rw [Dict.erase_eq_self hlink]
  | some link => simp only [h link hlink, if_true]

theorem invalidate_markUnhealthy (h : uri ∈ p.uris) (links : Links) :
    (markUnhealthy uri p links).1.balancer = p.balancer.invalidate p.hash := by
  rw [markUnhealthy, if_pos ((isConfigured_iff p uri).mpr h)]
  rfl

theorem mem_candidates : uri ∈ p.candidates ↔ uri ∈ p.uris ∧ uri ∉ p.unhealthy := by
  simp [candidates]

end Pool

namespace Trial

variable {α β : Type} {others : PoolHost (Fiber (Trial β))} {draws : Trial β → Draw}
  {refusal : String → Option Fault} {uri : String} {s t u : Trial β}

/-- Some addresses were tried and given up, and nothing else has changed. -/
structure GivenUp (tried : List String) (s t : Trial β) : Prop where
  destination : t.pool.destination = s.pool.destination
  uris : t.pool.uris = s.pool.uris
  active : ∀ uri, t.pool.active.get? uri = if uri ∈ tried then none else s.pool.active.get? uri
  unhealthy : ∀ uri, uri ∈ t.pool.unhealthy ↔ uri ∈ tried ∨ uri ∈ s.pool.unhealthy
  links : t.links = s.links
  dialed : t.dialed = s.dialed ++ tried

/-- An address has an open link in use, and nothing has changed for the others. -/
structure Connected (uri : String) (link : LinkId) (s t : Trial β) : Prop where
  uris : t.pool.uris = s.pool.uris
  active : ∀ other,
    t.pool.active.get? other = if other = uri then some link else s.pool.active.get? other
  unhealthy : t.pool.unhealthy = s.pool.unhealthy
  isOpen : t.links.isClosed link = false
  links : ∀ other, other ≠ link → t.links.get? other = s.links.get? other
  dialed : ∃ last, t.dialed = s.dialed ++ last ∧ (last = [] ∨ last = [uri])

theorem GivenUp.append {tried more : List String} (h : GivenUp tried s t) (h' : GivenUp more t u) :
    GivenUp (tried ++ more) s u where
  destination := h'.destination.trans h.destination
  uris := h'.uris.trans h.uris
  active uri := by
    rw [h'.active, h.active]
    by_cases hmore : uri ∈ more
    · simp only [hmore, List.mem_append, or_true, if_true]
    · simp only [hmore, List.mem_append, or_false, if_false]
  unhealthy uri := by
    rw [h'.unhealthy, h.unhealthy, List.mem_append]
    constructor
    · rintro (hmore | htried | hbefore)
      · exact .inl (.inr hmore)
      · exact .inl (.inl htried)
      · exact .inr hbefore
    · rintro ((htried | hmore) | hbefore)
      · exact .inr (.inl htried)
      · exact .inl hmore
      · exact .inr (.inr hbefore)
  links := h'.links.trans h.links
  dialed := by rw [h'.dialed, h.dialed, List.append_assoc]

/-- A choice leaves the pool and the links as they are. -/
theorem givenUp_chosen (t : Trial β) (balancer : Balancer) (memory : β) :
    GivenUp [] t (t.chosen balancer memory) :=
  ⟨rfl, rfl, fun _ => by simp [chosen, pool], fun _ => by simp [chosen, pool], rfl,
    (List.append_nil _).symm⟩

/-- An address has a link, or can be opened. -/
def Reachable (refusal : String → Option Fault) (t : Trial β) (uri : String) : Prop :=
  (∃ link, t.pool.active.get? uri = some link ∧ t.links.isClosed link = false) ∨
    refusal uri = none

/-- What was given up is of no account for the other addresses. -/
theorem GivenUp.reachable_iff {tried : List String} (h : GivenUp tried s t) (huri : uri ∉ tried) :
    Reachable refusal t uri ↔ Reachable refusal s uri := by
  unfold Reachable
  rw [h.active, if_neg huri, h.links]

/-- An address that has an open link is connected by it. -/
theorem connected_self {link : LinkId} (hlink : s.pool.active.get? uri = some link)
    (hopen : s.links.isClosed link = false) : Connected uri link s s where
  uris := rfl
  active other := by
    by_cases hother : other = uri
    · rw [hother, hlink, if_pos rfl]
    · rw [if_neg hother]
  unhealthy := rfl
  isOpen := hopen
  links _ _ := rfl
  dialed := ⟨[], (List.append_nil _).symm, .inl rfl⟩

/-- A closed link of an address is forgotten. -/
def forget (uri : String) (t : Trial β) : Trial β :=
  { t with site :=
      { t.site with pool := { t.site.pool with active := t.site.pool.active.erase uri } } }

/-- A section on the pool, by what it gives. -/
theorem poll_section {f : Pool → Links → α × Pool × Links} {a : α} {p : Pool} {links : Links}
    (h : f s.pool s.links = (a, p, links)) :
    poll ((host others draws refusal).atomically f) s
      = (done a, { s with site := { s.site with pool := p, links := links } }) := by
  change (done (f s.pool s.links).1, { s with site :=
    { s.site with pool := (f s.pool s.links).2.1, links := (f s.pool s.links).2.2 } }) = _
  rw [h]

/-- An attempt to open a link, by what it gives. -/
theorem poll_openLink {result : Except Fault LinkId} (h : dial refusal uri s = (result, t)) :
    poll ((host others draws refusal).wire.openLink uri) s = (done result, t) := by
  change (done (dial refusal uri s).1, (dial refusal uri s).2) = _
  rw [h]

/-- The state of an address without an open link, once one was opened and taken into use. -/
def adopted (uri : String) (t : Trial β) : Trial β :=
  let opened := (t.forget uri).opened uri
  { opened with site :=
      { opened.site with
        pool := { opened.pool with active := opened.pool.active.insert uri t.site.fresh } } }

theorem connected_adopted (uri : String) (s : Trial β) :
    Connected uri s.site.fresh s (s.adopted uri) where
  uris := rfl
  active other := by
    change ((s.site.pool.active.erase uri).insert uri s.site.fresh).get? other = _
    rw [Dict.get?_insert, Dict.get?_erase]
    by_cases hother : uri = other
    · rw [if_pos hother, if_pos hother.symm]
    · rw [if_neg hother, if_neg hother, if_neg (Ne.symm hother)]
      rfl
  unhealthy := rfl
  isOpen := by
    change (s.site.links.add s.site.fresh _).isClosed s.site.fresh = false
    simp [Links.add, Links.isClosed, Links.get?]
  links _ hother := Dict.get?_insert_of_ne _ (Ne.symm hother) _
  dialed := ⟨[uri], rfl, .inr rfl⟩

/-- An address without an open link is connected once it was opened. -/
theorem poll_ensure_of_opened (husable : s.pool.isUsable uri = true)
    (hclosed : ∀ link, s.pool.active.get? uri = some link → s.links.isClosed link = true)
    (hdial : refusal uri = none) :
    poll ((host others draws refusal).ensure uri) s
      = (done (.ok s.site.fresh), s.adopted uri) := by
  have htake : poll ((host others draws refusal).atomically (Pool.takeOpen uri)) s
      = (done none, s.forget uri) := poll_section (Pool.takeOpen_of_closed hclosed)
  have hopen : poll ((host others draws refusal).wire.openLink uri) (s.forget uri)
      = (done (.ok s.site.fresh), (s.forget uri).opened uri) := by
    apply poll_openLink
    unfold dial
    rw [hdial]
    rfl
  have hadopt : poll ((host others draws refusal).atomically (Pool.adopt uri s.site.fresh))
      ((s.forget uri).opened uri) = (done (.ok s.site.fresh), s.adopted uri) :=
    poll_section (Pool.adopt_of_usable husable (Dict.get?_erase_self _ _))
  exact (poll_bind _ htake).trans ((poll_bind _ hopen).trans hadopt)

/-- The state of an address without an open link, once it was refused and taken out of use. -/
def ruledOut (uri : String) (t : Trial β) : Trial β :=
  let refused := (t.forget uri).refused uri
  { refused with site :=
      { refused.site with
        pool := (Pool.markUnhealthy uri refused.pool refused.links).1
        links := (Pool.markUnhealthy uri refused.pool refused.links).2 } }

theorem givenUp_ruledOut (husable : s.pool.isUsable uri = true) :
    GivenUp [uri] s (s.ruledOut uri) := by
  have hin : uri ∈ ((s.forget uri).refused uri).pool.uris :=
    ((Pool.isUsable_iff s.pool uri).mp husable).1
  have hactive : (s.ruledOut uri).pool.active = (s.pool.active.erase uri).erase uri :=
    Pool.active_markUnhealthy hin _
  have hlinks : (s.ruledOut uri).links = s.links.close? ((s.pool.active.erase uri).get? uri) :=
    Pool.links_markUnhealthy hin _
  exact
    { destination := (Pool.plain_markUnhealthy uri _ _).1
      uris := Pool.uris_markUnhealthy uri _ _
      active := fun other => by
        rw [hactive, Dict.erase_erase_self, Dict.get?_erase]
        simp only [List.mem_singleton, eq_comm (a := uri)]
      unhealthy := fun other => by
        rw [List.mem_singleton]
        exact Pool.mem_unhealthy_markUnhealthy hin _ other
      links := by
        rw [hlinks, Dict.get?_erase_self]
        rfl
      dialed := rfl }

theorem balancer_ruledOut (husable : s.pool.isUsable uri = true) :
    (s.ruledOut uri).pool.balancer = s.pool.balancer.invalidate s.pool.hash := by
  have hin : uri ∈ ((s.forget uri).refused uri).pool.uris :=
    ((Pool.isUsable_iff s.pool uri).mp husable).1
  exact Pool.invalidate_markUnhealthy hin _

/-- An address without an open link is ruled out once it was refused. -/
theorem poll_ensure_of_refused
    (hclosed : ∀ link, s.pool.active.get? uri = some link → s.links.isClosed link = true)
    {fault : Fault} (hdial : refusal uri = some fault) :
    poll ((host others draws refusal).ensure uri) s = (done (.error fault), s.ruledOut uri) := by
  have htake : poll ((host others draws refusal).atomically (Pool.takeOpen uri)) s
      = (done none, s.forget uri) := poll_section (Pool.takeOpen_of_closed hclosed)
  have hopen : poll ((host others draws refusal).wire.openLink uri) (s.forget uri)
      = (done (.error fault), (s.forget uri).refused uri) := by
    apply poll_openLink
    unfold dial
    rw [hdial]
  have hmark : poll ((host others draws refusal).change (Pool.markUnhealthy uri))
      ((s.forget uri).refused uri) = (done (), s.ruledOut uri) := poll_section rfl
  exact (poll_bind _ htake).trans ((poll_bind _ hopen).trans (poll_bind _ hmark))

variable (others draws refusal) in
/-- An attempt at an address that may be used connects it, if it can be reached, and otherwise
rules it out. -/
theorem poll_ensure (husable : s.pool.isUsable uri = true) :
    (Reachable refusal s uri ∧ ∃ link t,
        poll ((host others draws refusal).ensure uri) s = (done (.ok link), t) ∧
          Connected uri link s t) ∨
      ¬Reachable refusal s uri ∧ ∃ fault,
        poll ((host others draws refusal).ensure uri) s
          = (done (.error fault), s.ruledOut uri) := by
  by_cases hlink : ∃ link, s.pool.active.get? uri = some link ∧ s.links.isClosed link = false
  · obtain ⟨link, hactive, hopen⟩ := hlink
    have htake : poll ((host others draws refusal).atomically (Pool.takeOpen uri)) s
        = (done (some link), s) := poll_section (Pool.takeOpen_of_open hactive hopen)
    exact .inl ⟨.inl ⟨link, hactive, hopen⟩, link, s, poll_bind _ htake,
      connected_self hactive hopen⟩
  · have hclosed : ∀ link, s.pool.active.get? uri = some link → s.links.isClosed link = true := by
      intro link hactive
      exact (Bool.eq_false_or_eq_true _).resolve_right fun hopen =>
        hlink ⟨link, hactive, hopen⟩
    cases hdial : refusal uri with
    | none =>
      exact .inl ⟨.inr hdial, _, _, poll_ensure_of_opened husable hclosed hdial,
        connected_adopted uri s⟩
    | some fault =>
      refine .inr ⟨?_, fault, poll_ensure_of_refused hclosed hdial⟩
      rintro (hopen | hopens)
      · exact hlink hopen
      · rw [hdial] at hopens
        cases hopens

/-! ## The search -/

/-- How a search among candidates ends, after some of them were tried in vain. -/
inductive Ending (refusal : String → Option Fault) (candidates tried : List String)
    (s : Trial β) : Except Fault (String × LinkId) → Trial β → Prop
/-- One that was not tried before is connected. -/
| found {uri : String} {link : LinkId} {u t : Trial β} (hin : uri ∈ candidates) (hnew : uri ∉ tried)
    (hreachable : Reachable refusal s uri) (hgiven : GivenUp tried s u)
    (hconnected : Connected uri link u t) :
  Ending refusal candidates tried s (.ok (uri, link)) t
/-- All of them were tried. -/
| exhausted {t : Trial β} (hall : ∀ uri ∈ candidates, uri ∈ tried) (hgiven : GivenUp tried s t) :
  Ending refusal candidates tried s (.error (.noAvailable s.pool.destination)) t

/-- What a search among candidates does. -/
structure Search (refusal : String → Option Fault) (candidates tried : List String)
    (s : Trial β) (result : Except Fault (String × LinkId)) (t : Trial β) : Prop where
  nodup : tried.Nodup
  listed : ∀ uri ∈ tried, uri ∈ candidates
  unreachable : ∀ uri ∈ tried, ¬Reachable refusal s uri
  ending : Ending refusal candidates tried s result t

section

variable {candidates tried : List String} {result : Except Fault (String × LinkId)}

/-- One more attempt in vain before a search. -/
theorem Search.cons
    (h : Search refusal (candidates.filter (· ≠ uri)) tried u result t) (hin : uri ∈ candidates)
    (hunreachable : ¬Reachable refusal s uri) (hgiven : GivenUp [uri] s u) :
    Search refusal candidates (uri :: tried) s result t := by
  have hother {other : String} (hmem : other ∈ candidates.filter (· ≠ uri)) :
      other ∈ candidates ∧ other ≠ uri := by simpa using hmem
  have hreach {other : String} (hne : other ≠ uri) :
      Reachable refusal u other ↔ Reachable refusal s other :=
    hgiven.reachable_iff fun hmem => hne (List.mem_singleton.mp hmem)
  refine ⟨?_, ?_, ?_, ?_⟩
  · exact List.nodup_cons.mpr ⟨fun hmem => (hother (h.listed uri hmem)).2 rfl, h.nodup⟩
  · intro other hmem
    rcases List.mem_cons.mp hmem with rfl | hmem
    · exact hin
    · exact (hother (h.listed other hmem)).1
  · intro other hmem
    rcases List.mem_cons.mp hmem with rfl | hmem
    · exact hunreachable
    · intro hs
      exact h.unreachable other hmem ((hreach (hother (h.listed other hmem)).2).mpr hs)
  · cases h.ending with
    | found hmem hnew hreachable hmore hconnected =>
      obtain ⟨hlisted, hne⟩ := hother hmem
      refine .found hlisted ?_ ((hreach hne).mp hreachable) (hgiven.append hmore) hconnected
      intro htried
      rcases List.mem_cons.mp htried with heq | htried
      · exact hne heq
      · exact hnew htried
    | exhausted hall hmore =>
      rw [hgiven.destination]
      refine .exhausted ?_ (hgiven.append hmore)
      intro other hmem
      by_cases heq : other = uri
      · exact heq ▸ List.mem_cons_self
      · exact List.mem_cons_of_mem _ (hall other (by simpa using ⟨hmem, heq⟩))

end

/-- An address that was not given up may still be used. -/
theorem GivenUp.isUsable {tried : List String} (h : GivenUp tried s t) {uri : String}
    (huri : uri ∉ tried) (husable : s.pool.isUsable uri = true) : t.pool.isUsable uri = true := by
  obtain ⟨hin, hout⟩ := (Pool.isUsable_iff _ _).mp husable
  refine (Pool.isUsable_iff _ _).mpr ⟨h.uris ▸ hin, ?_⟩
  intro hmem
  rcases (h.unhealthy uri).mp hmem with htried | hbefore
  · exact huri htried
  · exact hout hbefore

/-- However they are selected, a search among candidates that may be used ends: each attempt in
vain leaves fewer of them. -/
theorem exists_search (sel : Selection β) (candidates : List String) {s : Trial β}
    (husable : ∀ uri ∈ candidates, s.pool.isUsable uri = true)
    (hfit : sel.Fit s.pool.balancer s.memory) :
    ∃ result t tried,
      (∀ fuel, candidates.length < fuel →
        poll ((host others draws refusal).firstBy sel.select fuel candidates) s
          = (done result, t)) ∧
      Search refusal candidates tried s result t := by
  induction hlength : candidates.length using Nat.strongRecOn generalizing candidates s with
  | ind k ih =>
    obtain ⟨choice, balancer, memory, hselect, hchoice, hfit'⟩ := sel.selects candidates s hfit
    have hchosen := givenUp_chosen s balancer memory
    have hsucc {fuel : Nat} (hfuel : k < fuel) : ∃ less, fuel = less + 1 ∧ k ≤ less :=
      ⟨fuel - 1, by omega, by omega⟩
    cases hchoice with
    | nothing hempty =>
      subst hempty
      refine ⟨_, _, [], ?_, List.nodup_nil, nofun, nofun, .exhausted nofun hchosen⟩
      intro fuel hfuel
      obtain ⟨fuel, rfl, -⟩ := hsucc hfuel
      exact poll_bind _ hselect
    | @picked uri hin =>
      have husable' : (s.chosen balancer memory).pool.isUsable uri = true := husable uri hin
      rcases poll_ensure others draws refusal husable' with
        ⟨hreachable, link, t, hensure, hconnected⟩ | ⟨hunreachable, fault, hensure⟩
      · refine ⟨_, t, [], ?_, List.nodup_nil, nofun, nofun,
          .found hin List.not_mem_nil hreachable hchosen hconnected⟩
        intro fuel hfuel
        obtain ⟨fuel, rfl, -⟩ := hsucc hfuel
        exact (poll_bind _ hselect).trans (poll_bind _ hensure)
      · have hruled := hchosen.append (givenUp_ruledOut husable')
        have hshorter : (candidates.filter (· ≠ uri)).length < k := by
          rw [← hlength]
          exact List.length_filter_lt_length_iff_exists.mpr ⟨uri, hin, by simp⟩
        have hleft : ∀ other ∈ candidates.filter (· ≠ uri),
            ((s.chosen balancer memory).ruledOut uri).pool.isUsable other = true := by
          intro other hmem
          obtain ⟨hother, hne⟩ : other ∈ candidates ∧ other ≠ uri := by simpa using hmem
          refine hruled.isUsable ?_ (husable other hother)
          intro h
          exact hne (List.mem_singleton.mp h)
        have hfit'' : sel.Fit ((s.chosen balancer memory).ruledOut uri).pool.balancer memory := by
          rw [balancer_ruledOut husable']
          exact sel.invalidate _ hfit'
        obtain ⟨result, t, tried, hpoll, hsearch⟩ := ih _ hshorter _ hleft hfit'' rfl
        refine ⟨result, t, uri :: tried, ?_,
          hsearch.cons hin hunreachable hruled⟩
        intro fuel hfuel
        obtain ⟨fuel, rfl, hle⟩ := hsucc hfuel
        have hrest := hpoll fuel (Nat.lt_of_lt_of_le hshorter hle)
        exact (poll_bind _ hselect).trans ((poll_bind _ hensure).trans hrest)

/-- A request for a link to some endpoint is complete: it is answered with a link if there is
one to be had, and it changes no more than it has to. -/
structure Failover (refusal : String → Option Fault) (tried : List String) (s : Trial β)
    (result : Except Fault (String × LinkId)) (t : Trial β) : Prop where
  /-- Each address is tried in vain once at most. -/
  once : tried.Nodup
  /-- Only addresses that may be used are tried. -/
  usable : ∀ uri ∈ tried, uri ∈ s.pool.candidates
  /-- A link is found if one of the addresses that may be used can be reached. -/
  found_iff : (∃ uri link, result = .ok (uri, link)) ↔
    ∃ uri ∈ s.pool.uris, uri ∉ s.pool.unhealthy ∧ Reachable refusal s uri
  /-- The link that is found is open and in use for its address, which was not tried before. -/
  found : ∀ {uri link}, result = .ok (uri, link) →
    uri ∈ s.pool.candidates ∧ uri ∉ tried ∧
      t.pool.active.get? uri = some link ∧ t.links.isClosed link = false
  /-- If no link is found, no address may be used any more. -/
  exhausted : ∀ {fault}, result = .error fault →
    fault = .noAvailable s.pool.destination ∧ ∀ uri ∈ t.pool.uris, uri ∈ t.pool.unhealthy
  /-- The addresses are as before. -/
  uris : t.pool.uris = s.pool.uris
  /-- Those that were tried in vain are not used any more. -/
  unhealthy : ∀ uri, uri ∈ t.pool.unhealthy ↔ uri ∈ tried ∨ uri ∈ s.pool.unhealthy
  /-- They have no link.  The others have the same, but for the one that was found. -/
  active : ∀ uri, (∀ link, result ≠ .ok (uri, link)) →
    t.pool.active.get? uri = if uri ∈ tried then none else s.pool.active.get? uri
  /-- Of the links, too, the others are as before. -/
  links : ∀ link, (∀ uri, result ≠ .ok (uri, link)) → t.links.get? link = s.links.get? link
  /-- Those that were tried in vain were dialed, and nobody else but the one that was found. -/
  dialed : ∃ last, t.dialed = s.dialed ++ tried ++ last ∧
    (last = [] ∨ ∃ uri link, result = .ok (uri, link) ∧ last = [uri])

theorem Search.failover {tried : List String} {result : Except Fault (String × LinkId)}
    (h : Search refusal s.pool.candidates tried s result t) :
    Failover refusal tried s result t := by
  have husable {uri : String} (h : uri ∈ s.pool.candidates) :
      uri ∈ s.pool.uris ∧ uri ∉ s.pool.unhealthy := Pool.mem_candidates.mp h
  cases h.ending with
  | @found uri link u _ hin hnew hreachable hgiven hconnected =>
    obtain ⟨last, hdialed, hlast⟩ := hconnected.dialed
    exact
      { once := h.nodup
        usable := h.listed
        found_iff := ⟨fun _ => ⟨uri, (husable hin).1, (husable hin).2, hreachable⟩,
          fun _ => ⟨uri, link, rfl⟩⟩
        found := by
          rintro _ _ ⟨⟩
          refine ⟨hin, hnew, ?_, hconnected.isOpen⟩
          rw [hconnected.active, if_pos rfl]
        exhausted := nofun
        uris := hconnected.uris.trans hgiven.uris
        unhealthy := fun other => by
          rw [hconnected.unhealthy]
          exact hgiven.unhealthy other
        active := fun other hother => by
          rw [hconnected.active, if_neg, hgiven.active]
          rintro rfl
          exact hother link rfl
        links := fun other hother => by
          rw [hconnected.links, hgiven.links]
          rintro rfl
          exact hother uri rfl
        dialed := by
          refine ⟨last, by rw [hdialed, hgiven.dialed], ?_⟩
          rcases hlast with hnone | hone
          · exact .inl hnone
          · exact .inr ⟨uri, link, rfl, hone⟩ }
  | exhausted hall hgiven =>
    exact
      { once := h.nodup
        usable := h.listed
        found_iff := by
          refine ⟨nofun, ?_⟩
          rintro ⟨uri, hin, hout, hreachable⟩
          have htried := hall uri (Pool.mem_candidates.mpr ⟨hin, hout⟩)
          exact absurd hreachable (h.unreachable uri htried)
        found := nofun
        exhausted := by
          rintro _ ⟨⟩
          refine ⟨rfl, fun uri hin => (hgiven.unhealthy uri).mpr ?_⟩
          rw [hgiven.uris] at hin
          by_cases hout : uri ∈ s.pool.unhealthy
          · exact .inr hout
          · exact .inl (hall uri (Pool.mem_candidates.mpr ⟨hin, hout⟩))
        uris := hgiven.uris
        unhealthy := hgiven.unhealthy
        active := fun uri _ => hgiven.active uri
        links := fun _ _ => by rw [hgiven.links]
        dialed := ⟨[], by rw [hgiven.dialed, List.append_nil], .inl rfl⟩ }

/-- Whoever selects the candidates, a request for a link to some endpoint tries each of them once
at most.  It finds a link if there is one to be had, and otherwise all addresses are unhealthy.
That the loop is cut off after some number of attempts makes no difference.  The balancer of the
pool is one of those that may select. -/
theorem failover_complete (others : PoolHost (Fiber (Trial β))) (draws : Trial β → Draw)
    (refusal : String → Option Fault) (sel : Selection β) (s : Trial β)
    (hfit : sel.Fit s.pool.balancer s.memory) :
    (∃ result t tried,
      poll ((host others draws refusal).connectionBy sel.select) s = (done result, t) ∧
        (∀ fuel, s.pool.candidates.length < fuel →
          poll ((host others draws refusal).firstBy sel.select fuel s.pool.candidates) s
            = (done result, t)) ∧
        Failover refusal tried s result t) ∧
      ∀ fingerprint, (host others draws refusal).connection fingerprint
        = (host others draws refusal).connectionBy
            (Selection.own others draws refusal fingerprint).select := by
  refine ⟨?_, fun fingerprint => (host others draws refusal).connection_eq fingerprint⟩
  have husable : ∀ uri ∈ s.pool.candidates, s.pool.isUsable uri = true := by
    intro uri h
    exact (Pool.isUsable_iff _ _).mpr (Pool.mem_candidates.mp h)
  obtain ⟨result, t, tried, hpoll, hsearch⟩ := exists_search sel s.pool.candidates husable hfit
  have hread : poll ((host others draws refusal).read Pool.candidates) s
      = (done s.pool.candidates, s) := rfl
  exact ⟨result, t, tried, (poll_bind _ hread).trans (hpoll _ (Nat.lt_succ_self _)), hpoll,
    hsearch.failover⟩

/-! ## A pool with a closed link -/

namespace Sample

/-- Surroundings that do nothing of their own. -/
def bare : PoolHost (Fiber (Trial Unit)) where
  wire :=
    { openLink := fun uri => .done (.error (.connectionClosed uri))
      request := fun _ _ => .done (.ok ⟨[], []⟩)
      send := fun _ _ => .done (.ok ())
      stream := fun _ _ => .done (.ok ⟨[], false, []⟩)
      within := fun _ body => some <$> body
      all := Fiber.all }
  atomically f := Fiber.atomically (onPool f)
  resolves _ := true
  exclusively body := body
  draw := Fiber.read fun _ => {}
  timed body := (·, 0.0) <$> body

/-- The last of the candidates. -/
def last : Selection Unit :=
  .ofFunction (fun candidates _ => (candidates.getLast?, ())) fun candidates _ => by
    cases hlast : candidates.getLast? with
    | none => exact .nothing (List.getLast?_eq_none_iff.mp hlast)
    | some uri => exact .picked (List.mem_of_getLast? hlast)

/-- Three addresses, of which the last one has a closed link. -/
def stale : Trial Unit where
  site :=
    { pool := { Pool.new "calc" {} with
        uris := ["tcp://a:1", "tcp://b:1", "tcp://c:1"]
        active := Dict.empty.insert "tcp://c:1" (.outside 0) }
      links := (Links.add {} (.outside 0) { uri := "tcp://c:1", carrier := .transport "" }).close
        (.outside 0)
      opened := [("tcp://c:1", .outside 0)] }
  memory := ()

/-- Only the first address can be opened. -/
def refusing (uri : String) : Option Fault :=
  if uri = "tcp://a:1" then none else some (.connectionClosed uri)

end Sample

open Sample in
/-- The address with the closed link and the one before it refuse, so the first one is found. -/
theorem failover_complete_stale :
    ∃ t tried, poll ((host bare (fun _ => {}) refusing).connectionBy last.select) stale
        = (done (.ok ("tcp://a:1", .outside 1)), t) ∧
      t.dialed = ["tcp://c:1", "tcp://b:1", "tcp://a:1"] ∧
      Failover refusing tried stale (.ok ("tcp://a:1", .outside 1)) t := by
  obtain ⟨⟨result, t, tried, hpoll, -, hfailover⟩, -⟩ :=
    failover_complete bare (fun _ => {}) refusing last stale trivial
  have hresult : (poll ((host bare (fun _ => {}) refusing).connectionBy last.select) stale).1
      = done (.ok ("tcp://a:1", .outside 1)) := rfl
  have hdialed : (poll ((host bare (fun _ => {}) refusing).connectionBy last.select) stale).2.dialed
      = ["tcp://c:1", "tcp://b:1", "tcp://a:1"] := rfl
  rw [hpoll] at hresult hdialed
  cases hresult
  exact ⟨t, tried, hpoll, hdialed, hfailover⟩

end Trial

end ServiceMesh
