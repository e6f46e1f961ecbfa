import ServiceMesh.Proofs.Pool.Accounts
import ServiceMesh.Proofs.Pool.Acts

/-!
# Calls over links that were replaced

A call through a pool finds a link, and is made over it.  While it is under way the link may
be closed, and another one be taken into use for the same address.  At its end the call knows
the address alone.

A run of a call beside any acts of the pool is a search for a link, the start of the call over
it, and its end, with acts of others between these (`Site.runs_call`).  The end is one section
on the pool.  If the call failed with its link, that section takes the address out of use and
closes the link that is in use for it then; otherwise it leaves the use of the addresses as it
is (`Pool.callEnd_finishCall`).  So the end of a call spares a link that replaced its own
exactly if the call did not fail (`Site.replacement_spared_iff`).
-/

namespace ServiceMesh

namespace Pool

/-! ## The end of a call -/

variable {uri : String} {link : LinkId} {α : Type} {p : Pool} {links : Links}

/-- If another link is in use for an address, it stays in use and as open as it was, and its
address is not unhealthy. -/
def Spares (uri : String) (link : LinkId) (s t : Pool × Links) : Prop :=
  ∀ other, s.1.active.get? uri = some other → other ≠ link →
    t.1.active.get? uri = some other ∧ t.2.isClosed other = s.2.isClosed other ∧
      uri ∉ t.1.unhealthy

/-- An address is taken out of use, and the link that was in use for it is closed. -/
structure TakenOut (uri : String) (s t : Pool × Links) : Prop where
  unhealthy : uri ∈ t.1.unhealthy
  unused : t.1.active.get? uri = none
  closed : ∀ link, s.1.active.get? uri = some link → t.2.isClosed link = true

/-- Nothing happens to the other addresses and to the links that are not in use for this
one. -/
structure Confined (uri : String) (s t : Pool × Links) : Prop where
  uris : t.1.uris = s.1.uris
  active : ∀ other, other ≠ uri → t.1.active.get? other = s.1.active.get? other
  unhealthy : ∀ other, other ≠ uri → (other ∈ t.1.unhealthy ↔ other ∈ s.1.unhealthy)
  closed : ∀ link, s.1.active.get? uri ≠ some link → t.2.isClosed link = s.2.isClosed link

/-- The use of the addresses is the same. -/
structure SameUse (s t : Pool × Links) : Prop where
  uris : t.1.uris = s.1.uris
  active : t.1.active = s.1.active
  unhealthy : t.1.unhealthy = s.1.unhealthy
  links : t.2 = s.2

namespace SameUse

variable {s t u : Pool × Links}

theorem refl (s : Pool × Links) : SameUse s s := ⟨rfl, rfl, rfl, rfl⟩

theorem trans_confined (h : SameUse s t) (h' : Confined uri t u) : Confined uri s u where
  uris := h'.uris.trans h.uris
  active other hne := by rw [h'.active other hne, h.active]
  unhealthy other hne := by rw [h'.unhealthy other hne, h.unhealthy]
  closed link hlink := by rw [h'.closed link (h.active ▸ hlink), h.links]

theorem confined (h : SameUse s t) : Confined uri s t :=
  h.trans_confined ⟨rfl, fun _ _ => rfl, fun _ _ => Iff.rfl, fun _ _ => rfl⟩

theorem takenOut (h : SameUse s t) (h' : TakenOut uri t u) : TakenOut uri s u where
  unhealthy := h'.unhealthy
  unused := h'.unused
  closed link hlink := h'.closed link (h.active ▸ hlink)

end SameUse

theorem takenOut_markUnhealthy (h : uri ∈ p.uris) (links : Links) :
    TakenOut uri (p, links) (markUnhealthy uri p links) where
  unhealthy := (mem_unhealthy_markUnhealthy h links uri).mpr (.inl rfl)
  unused := by
    rw [active_markUnhealthy h]
    exact Dict.get?_erase_self p.active uri
  closed link hlink := by
    rw [links_markUnhealthy h, hlink]
    simp [Links.close?, Links.isClosed_close]

theorem confined_markUnhealthy (uri : String) (p : Pool) (links : Links) :
    Confined uri (p, links) (markUnhealthy uri p links) := by
  by_cases h : uri ∈ p.uris
  · refine ⟨uris_markUnhealthy uri p links, ?_, ?_, ?_⟩
    · intro other hne
      rw [active_markUnhealthy h]
      exact Dict.get?_erase_of_ne p.active fun heq => hne heq.symm
    · intro other hne
      rw [mem_unhealthy_markUnhealthy h]
      exact or_iff_right hne
    · intro link hlink
      rw [links_markUnhealthy h]
      cases hpooled : p.active.get? uri with
      | none => rfl
      | some pooled =>
        have hne : pooled ≠ link := by
          intro heq
          exact hlink (heq ▸ hpooled)
        simp [Links.close?, Links.isClosed_close, hne]
  · rw [markUnhealthy_of_not_mem h]
    exact (SameUse.refl _).confined

/-- What the end of a call to an address does to the pool and the links. -/
structure CallEnd (uri : String) (result : Except Fault α) (s t : Pool × Links) : Prop where
  /-- Other addresses and their links are left alone. -/
  elsewhere : Confined uri s t
  /-- A call that failed with its link takes its address out of use. -/
  failed : breaks result = true → uri ∈ s.1.uris → TakenOut uri s t
  /-- Any other call leaves the use of the addresses as it is. -/
  passed : ¬(breaks result = true ∧ uri ∈ s.1.uris) → SameUse s t

/-- The end of a call keeps the accounts, and then may take the address out of use. -/
theorem finishCall_eq (uri : String) (latencyMs : Float) (result : Except Fault α) (p : Pool)
    (links : Links) :
    ∃ q : Pool, SameUse (p, links) (q, links) ∧
      finishCall uri latencyMs result p links
        = if breaks result then markUnhealthy uri q links else (q, links) :=
  ⟨{ p with balancer := p.balancer.record uri latencyMs (!Pool.failed result) },
    ⟨rfl, rfl, rfl, rfl⟩, rfl⟩

theorem callEnd_finishCall (uri : String) (latencyMs : Float) (result : Except Fault α) (p : Pool)
    (links : Links) :
    CallEnd uri result (p, links) (finishCall uri latencyMs result p links) := by
  obtain ⟨q, hsame, hend⟩ := finishCall_eq uri latencyMs result p links
  have huris : q.uris = p.uris := hsame.uris
  rw [hend]
  by_cases hbreaks : breaks result = true
  · rw [if_pos hbreaks]
    refine ⟨hsame.trans_confined (confined_markUnhealthy uri q links), ?_, ?_⟩
    · intro _ h
      exact hsame.takenOut (takenOut_markUnhealthy (huris ▸ h) links)
    · intro h
      rw [markUnhealthy_of_not_mem fun hmem => h ⟨hbreaks, huris ▸ hmem⟩]
      exact hsame
  · rw [if_neg hbreaks]
    exact ⟨hsame.confined, fun h => absurd h hbreaks, fun _ => hsame⟩

/-- Another link than that of the call comes to harm exactly if the call failed with its own. -/
theorem CallEnd.spares_iff {result : Except Fault α} {s t : Pool × Links} (hs : s.1.Coherent)
    (h : CallEnd uri result s t) (link : LinkId) :
    Spares uri link s t ↔
      ¬(breaks result = true ∧ ∃ other, s.1.active.get? uri = some other ∧ other ≠ link) := by
  constructor
  · rintro hspares ⟨hbreaks, other, hother, hne⟩
    have hkept := (hspares other hother hne).1
    rw [(h.failed hbreaks (hs.usable hother).1).unused] at hkept
    cases hkept
  · intro hnone other hother hne
    have hsame := h.passed fun hfailed => hnone ⟨hfailed.1, other, hother, hne⟩
    refine ⟨hsame.active ▸ hother, by rw [hsame.links], ?_⟩
    rw [hsame.unhealthy]
    exact (hs.usable hother).2

end Pool

/-! ## Calls -/

/-- How a call through a pool finds its link. -/
inductive Search where
  /-- By the choice of the balancer. -/
  | any (fingerprint : Option Bytes)
  /-- By an address. -/
  | one (uri : String)

namespace Search

/-- Finds a link. -/
def link (h : PoolHost (Fiber Site)) : Search → Fiber Site (Except Fault (String × LinkId))
  | any fingerprint => h.connection fingerprint
  | one uri => do
      match ← h.connectionTo uri with
      | .ok link => return .ok (uri, link)
      | .error fault => return .error fault

/-- Finds a link and calls over it. -/
def request (h : PoolHost (Fiber Site)) (payload : Payload) :
    Search → Fiber Site (Except Fault Payload)
  | any fingerprint => h.request payload fingerprint
  | one uri => h.requestTo uri payload

/-- What follows from the search for a link. -/
def follow (h : PoolHost (Fiber Site)) (payload : Payload) :
    Except Fault (String × LinkId) → Fiber Site (Except Fault Payload)
  | .ok (uri, link) => h.call uri link payload
  | .error fault => return .error fault

theorem request_eq (h : PoolHost (Fiber Site)) (payload : Payload) (search : Search) :
    search.request h payload = search.link h >>= follow h payload := by
  cases search with
  | any fingerprint =>
    refine congrArg (h.connection fingerprint >>= ·) (funext ?_)
    intro found
    cases found with
    | ok e => rfl
    | error fault => rfl
  | one uri =>
    refine Eq.trans ?_ (Fiber.bind_assoc _ _ _).symm
    refine congrArg (h.connectionTo uri >>= ·) (funext ?_)
    intro found
    cases found with
    | ok link => rfl
    | error fault => rfl

theorem spares_link {resolves : String → Bool} {I : Site → Prop}
    (hI : ∀ s t, Site.Acted resolves s t → I s → I t) (search : Search) :
    Fiber.Spares I (search.link (Site.host resolves)) := by
  cases search with
  | any fingerprint => exact (Site.compositional_spares hI).connection fingerprint
  | one uri =>
    apply ((Site.compositional_spares hI).connectionTo uri).bind
    intro found
    cases found with
    | ok link => trivial
    | error fault => trivial

end Search

namespace Site

open ServiceMesh.Fiber (Runs)
open Relation (ReflTransGen)

variable {resolves : String → Bool}

/-- Acts keep the addresses of a pool coherent. -/
theorem Acted.coherent {s t : Site} (h : Acted resolves s t) (hs : s.pool.Coherent) :
    t.pool.Coherent := by
  obtain ⟨act, hact⟩ := h
  have hpool : t.pool = (act.apply resolves (s.pool, s.links)).1 := congrArg Prod.fst hact
  rw [hpool]
  cases act with
  | relink links => exact hs
  | _ =>
    refine (Pool.Act.careful resolves ?_ (s.pool, s.links)).coherent hs
    intro _ h
    cases h

/-- A site after a section on its pool. -/
def after (f : Pool → Links → Pool × Links) (s : Site) : Site :=
  (s.onPool fun p links => ((), f p links)).2

/-- A run of a call over a link is its start and its end, among the acts of others.  What the call
reads and the wait for its reply leave the site to the others. -/
theorem runs_call {uri : String} {link : LinkId} {payload : Payload} {s t : Site}
    {result : Except Fault Payload}
    (h : Runs (Acted resolves) ((host resolves).call uri link payload) s result t) :
    ∃ v u latencyMs, ReflTransGen (Acted resolves) s v ∧
      ReflTransGen (Acted resolves) (v.after fun p links => (p.startCall uri, links)) u ∧
      ReflTransGen (Acted resolves) (u.after (Pool.finishCall uri latencyMs result)) t := by
  obtain ⟨_, s₁, hstart, h⟩ := h.of_bind
  obtain ⟨v, hbefore, -, hstarted⟩ := hstart.of_atomically
  obtain ⟨timeoutMs, s₂, hlimit, h⟩ := h.of_bind
  obtain ⟨measured, s₃, htimed, h⟩ := h.of_bind
  obtain ⟨_, s₄, hfinish, h⟩ := h.of_bind
  obtain ⟨u, hwaiting, -, hfinished⟩ := hfinish.of_atomically
  obtain ⟨rfl, hafter⟩ := h.of_done
  have hread := acted_runs (fun I hI => spares_read hI _) hlimit
  have hwait :=
    acted_runs (fun I hI => (compositional_spares hI).timed timeoutMs link payload) htimed
  exact ⟨v, u, measured.2, hbefore, (hstarted.trans hread).trans (hwait.trans hwaiting),
    hfinished.trans hafter⟩

/-- A call through a pool searches for a link, and is made over the link that it found.
Whatever acts others do before, between and after its sections: if the call failed with its
link, its end takes the address out of use, and otherwise leaves it as it is.  Another link
that is in use for the address then stays so, as open as it was and healthy, exactly if the
call did not fail. -/
theorem replacement_spared_iff {destination : String} {settings : PoolSettings} {s t : Site}
    (hs : ReflTransGen (Acted resolves) { pool := Pool.new destination settings } s)
    {search : Search} {payload : Payload} {result : Except Fault Payload}
    (h : Runs (Acted resolves) (search.request (host resolves) payload) s result t) :
    ∃ found w, Runs (Acted resolves) (search.link (host resolves)) s found w ∧
      (∀ fault, found = .error fault → result = .error fault) ∧
      ∀ uri link, found = .ok (uri, link) → ∃ v u latencyMs,
        ReflTransGen (Acted resolves) w v ∧
        ReflTransGen (Acted resolves) (v.after fun p links => (p.startCall uri, links)) u ∧
        ReflTransGen (Acted resolves) (u.after (Pool.finishCall uri latencyMs result)) t ∧
        Pool.CallEnd uri result (u.pool, u.links)
          (Pool.finishCall uri latencyMs result u.pool u.links) ∧
        (Pool.Spares uri link (u.pool, u.links)
            (Pool.finishCall uri latencyMs result u.pool u.links) ↔
          ¬(Pool.breaks result = true ∧
            ∃ other, u.pool.active.get? uri = some other ∧ other ≠ link)) := by
  rw [Search.request_eq] at h
  obtain ⟨found, w, hsearch, hfollow⟩ := h.of_bind
  refine ⟨found, w, hsearch, ?_, ?_⟩
  · rintro fault rfl
    exact hfollow.of_done.1.symm
  · rintro uri link rfl
    obtain ⟨v, u, latencyMs, hbefore, hduring, hafter⟩ := runs_call hfollow
    have hw : ReflTransGen (Acted resolves) s w :=
      acted_runs (fun I hI => search.spares_link hI) hsearch
    have hstart : Acted resolves v (v.after fun p links => (p.startCall uri, links)) :=
      ⟨.startCall uri, rfl⟩
    have hu : u.pool.Coherent :=
      Fiber.kept_meanwhile (I := fun s : Site => s.pool.Coherent) (fun _ _ => Acted.coherent)
        (((hs.trans hw).trans hbefore).tail hstart |>.trans hduring)
        (Pool.coherent_new destination settings)
    have hend := Pool.callEnd_finishCall uri latencyMs result u.pool u.links
    exact ⟨v, u, latencyMs, hbefore, hduring, hafter, hend, hend.spares_iff hu link⟩

namespace Sample

/-- An address is set, and a link to it is taken into use.  Calls wait for their replies. -/
def moves : List Move :=
  .start (.refresh ["local://p1"]) ::
    List.replicate 2 (.turn 0 .here) ++ List.replicate 4 (.turn 0 (.first .here)) ++
    .turn 0 .here :: .start (.connectionTo "local://p1") ::
    List.replicate 4 (.turn 1 .here) ++ [.shift { answered := false }]

/-- A site with a link in use. -/
def site : Site := ((Scene.new "g!Calc:1" {}).run (fun _ => true) moves).site

/-- A call over the link. -/
def call : Fiber Site (Except Fault Payload) :=
  (Search.one "local://p1").request (host fun _ => true) ⟨[], []⟩

/-- The address becomes unhealthy and recovers with another link, and a call learns that its
own link is closed. -/
def recovered (s : Site) : Site :=
  let marked := s.after (Pool.markUnhealthy "local://p1")
  let dialed := (marked.dial "local://p1").2
  let checked := dialed.after fun p links =>
    (Pool.finishCheck [("local://p1", .outside 1)] p links).2
  { checked with nature := { reply := .error (.connectionClosed "local://p1") } }

theorem acted_recovered (s : Site) : ReflTransGen (Acted fun _ => true) s (recovered s) := by
  have hmark (s : Site) : Acted (fun _ => true) s (s.after (Pool.markUnhealthy "local://p1")) :=
    ⟨.markUnhealthy "local://p1", rfl⟩
  have hdial (s : Site) : Acted (fun _ => true) s (s.dial "local://p1").2 :=
    .of_pool_eq (pool_dial _ _)
  have hcheck (s : Site) : Acted (fun _ => true) s (s.after fun p links =>
      (Pool.finishCheck [("local://p1", .outside 1)] p links).2) :=
    ⟨.finishCheck [("local://p1", .outside 1)], rfl⟩
  exact (((ReflTransGen.single (hmark s)).tail (hdial _)).tail (hcheck _)).tail (.of_pool_eq rfl)

/-- The site when the call is about to end. -/
def before : Site := recovered (Fiber.poll call site).2

/-- The site when the call is over. -/
def ended : Site := (Fiber.poll (Fiber.poll call site).1 before).2

/-- How the call ends. -/
def lost : Except Fault Payload := .error (.connectionClosed "local://p1")

end Sample

open Sample in
/-- The link of a call is closed while the call waits, and another one is in use for the
address when the call ends.  Then that one is closed, and the address is out of use. -/
theorem replacement_harmed :
    (before.pool.active.get? "local://p1" = some (.outside 1) ∧
      before.links.isClosed (.outside 1) = false) ∧
    (ended.pool.unhealthy = ["local://p1"] ∧ ended.links.isClosed (.outside 1) = true) ∧
    ∃ found w, Runs (Acted fun _ => true) ((Search.one "local://p1").link (host fun _ => true))
        site found w ∧
      ∀ uri link, found = .ok (uri, link) → ∃ (u : Site) (latencyMs : Float),
        ReflTransGen (Acted fun _ => true) (u.after (Pool.finishCall uri latencyMs lost)) ended ∧
        (Pool.Spares uri link (u.pool, u.links)
            (Pool.finishCall uri latencyMs lost u.pool u.links) ↔
          ¬∃ other, u.pool.active.get? uri = some other ∧ other ≠ link) := by
  have hreached : ReflTransGen (Acted fun _ => true) { pool := Pool.new "g!Calc:1" {} } site :=
    Scene.acted_run (fun _ => true) "g!Calc:1" {} moves
  have hended : (Fiber.poll (Fiber.poll call site).1 before).1 = .done lost :=
    Fiber.eq_done_of_result? (by decide +kernel)
  have hrun : Runs (Acted fun _ => true) call site lost ended :=
    .poll (.waits (acted_recovered _) (.of_poll (Prod.ext hended rfl)))
  obtain ⟨found, w, hsearch, -, hfound⟩ := replacement_spared_iff hreached hrun
  refine ⟨by decide +kernel, by decide +kernel, found, w, hsearch, ?_⟩
  intro uri link h
  obtain ⟨v, u, latencyMs, -, -, hafter, -, hiff⟩ := hfound uri link h
  have hbreaks : Pool.breaks lost = true := rfl
  exact ⟨u, latencyMs, hafter, by simpa only [hbreaks, true_and] using hiff⟩

end Site

end ServiceMesh
