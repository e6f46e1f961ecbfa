import ServiceMesh.Proofs.Pool.Ownership
import ServiceMesh.Proofs.Pool.Refreshing

/-!
# What a new set of addresses changes

A pool that is set to a list of addresses changes in four places: the addresses, the links in
use, the unhealthy addresses and the statistics of the balancer.  Which of its addresses are
gone is decided by two lists, the old one and the new one, and each that is gone is let go of
by itself.

For an address that stays, nothing changes in any of the four (`Pool.Untouched`); one that is
gone is gone from all of them, and its link is closed (`Pool.LetGo`).  Since no two addresses of
an intact pool share a link, neither gets in the way of the other.  A lazy pool opens no links
then, so this is all that setting the addresses does, and doing it again does nothing
(`Site.refresh_turnover`).
-/

namespace ServiceMesh

namespace Balancer

/-- What is known of the candidates does not depend on the rings. -/
@[simp] theorem statsOf?_invalidate (b : Balancer) (hash : UInt32) (candidate : String) :
    (b.invalidate hash).statsOf? candidate = b.statsOf? candidate := by
  cases b with
  | roundRobin state => rfl
  | random => rfl
  | consistentHash state => rfl
  | weighted state => rfl

theorem statsOf?_evict (b : Balancer) (gone candidate : String) :
    (b.evict gone).statsOf? candidate
      = if gone = candidate then none else b.statsOf? candidate := by
  cases b with
  | weighted state => exact Dict.get?_erase state.stats gone candidate
  | roundRobin state => exact (ite_self none).symm
  | random => exact (ite_self none).symm
  | consistentHash state => exact (ite_self none).symm

theorem statsOf?_foldl_evict (gone : List String) (candidate : String) : ∀ b : Balancer,
    (gone.foldl evict b).statsOf? candidate
      = if candidate ∈ gone then none else b.statsOf? candidate := by
  induction gone with
  | nil =>
    intro _
    rfl
  | cons first rest ih =>
    intro b
    rw [List.foldl_cons, ih, statsOf?_evict]
    by_cases hfirst : first = candidate
    · simp [hfirst]
    · simp [hfirst, Ne.symm hfirst]

end Balancer

namespace Pool

/-! ## Several addresses are let go -/

variable {removed : List String} {s : Pool × Links}

theorem active_discardAll (removed : List String) (s : Pool × Links) (uri : String) :
    (discardAll removed s).1.active.get? uri
      = if uri ∈ removed then none else s.1.active.get? uri := by
  rw [← Dict.get?_foldl_erase]
  congr 1
  induction removed generalizing s with
  | nil => rfl
  | cons first rest ih => exact ih (discard s.1 s.2 first)

theorem settings_discardAll (removed : List String) (s : Pool × Links) :
    (discardAll removed s).1.settings = s.1.settings := by
  induction removed generalizing s with
  | nil => rfl
  | cons first rest ih => exact ih (discard s.1 s.2 first)

/-- A link that none of them uses is left as it is. -/
theorem link_discardAll {link : LinkId}
    (h : ∀ uri ∈ removed, s.1.active.get? uri ≠ some link) :
    (discardAll removed s).2.get? link = s.2.get? link := by
  induction removed generalizing s with
  | nil => rfl
  | cons first rest ih =>
    obtain ⟨hfirst, hrest⟩ := List.forall_mem_cons.mp h
    refine (ih ?_).trans ?_
    · intro uri huri
      simp only [discard, Dict.get?_erase]
      split
      · intro hnone
        cases hnone
      · exact hrest uri huri
    · simp only [discard]
      cases hlink : s.1.active.get? first with
      | none => rfl
      | some other =>
        have hne : other ≠ link := by
          intro heq
          exact hfirst (heq ▸ hlink)
        rw [Links.close?, Links.get?_close, if_neg hne]

/-- The links of all of them are closed. -/
theorem closed_discardAll {uri : String} (huri : uri ∈ removed) {link : LinkId}
    (hlink : s.1.active.get? uri = some link) : (discardAll removed s).2.isClosed link = true := by
  have haccounted : Accounted (uri, link) s := .inl hlink
  apply (accounted_discardAll removed haccounted).resolve_left
  intro hpooled
  rw [active_discardAll, if_pos huri] at hpooled
  cases hpooled

/-! ## What changes, address by address -/

/-- Nothing changes for an address. -/
structure Untouched (uri : String) (s t : Pool × Links) : Prop where
  active : t.1.active.get? uri = s.1.active.get? uri
  link : ∀ link, s.1.active.get? uri = some link → t.2.get? link = s.2.get? link
  unhealthy : uri ∈ t.1.unhealthy ↔ uri ∈ s.1.unhealthy
  stats : t.1.balancer.statsOf? uri = s.1.balancer.statsOf? uri

/-- Nothing is left of an address, and its link is closed. -/
structure LetGo (uri : String) (s t : Pool × Links) : Prop where
  active : t.1.active.get? uri = none
  closed : ∀ link, s.1.active.get? uri = some link → t.2.isClosed link = true
  unhealthy : uri ∉ t.1.unhealthy
  stats : t.1.balancer.statsOf? uri = none

/-- A pool is set to a list of addresses, and nothing else happens to it. -/
structure Turnover (resolves : String → Bool) (given : List String) (summary : RefreshSummary)
    (s t : Pool × Links) : Prop where
  /-- The first occurrences of the addresses that some transport takes, in order. -/
  uris : t.1.uris = (given.filter resolves).eraseDups
  added : summary.added = t.1.uris.filter fun uri => uri ∉ s.1.uris
  removed : summary.removed = s.1.uris.filter fun uri => uri ∉ t.1.uris
  rejected : summary.rejected = given.filter fun uri => !resolves uri
  stay : ∀ uri ∈ s.1.uris, uri ∈ t.1.uris → Untouched uri s t
  leave : ∀ uri ∈ s.1.uris, uri ∉ t.1.uris → LetGo uri s t
  /-- No link is opened to an address that is new. -/
  come : ∀ uri, uri ∉ s.1.uris → t.1.active.get? uri = none ∧ uri ∉ t.1.unhealthy
  settings : t.1.settings = s.1.settings

/-- Those that are rejected are those that no transport takes, as often as they are given. -/
theorem sift_snd (resolves : String → Bool) (uris : List String) :
    ∀ {kept : List String}, (∀ uri ∈ kept, resolves uri = true) →
      (sift resolves kept uris).2 = uris.filter fun uri => !resolves uri := by
  induction uris with
  | nil => exact fun _ => rfl
  | cons uri rest ih =>
    intro kept hkept
    unfold sift
    cases hcontains : kept.contains uri with
    | true =>
      have hresolves : resolves uri = true := hkept uri (by simpa using hcontains)
      rw [if_pos rfl, ih hkept, List.filter_cons_of_neg (by simp [hresolves])]
    | false =>
      rw [if_neg Bool.false_ne_true]
      cases hresolves : resolves uri with
      | true =>
        rw [if_pos rfl, List.filter_cons_of_neg (by simp [hresolves])]
        apply ih
        intro other hother
        rcases List.mem_append.mp hother with h | h
        · exact hkept other h
        · exact (List.mem_singleton.mp h).symm ▸ hresolves
      | false =>
        rw [if_neg Bool.false_ne_true, List.filter_cons_of_pos (by simp [hresolves])]
        exact congrArg (uri :: ·) (ih hkept)

section

variable (resolves : String → Bool) (uris : List String) {p : Pool} (links : Links)

theorem mem_gone (uri : String) :
    uri ∈ p.gone resolves uris ↔ uri ∈ p.uris ∧ uri ∉ takenUp resolves uris := by
  simp [gone]

theorem statsOf?_setUris (uri : String) :
    (setUris resolves uris p links).2.1.balancer.statsOf? uri
      = if uri ∈ p.gone resolves uris then none else p.balancer.statsOf? uri := by
  have hletGo : (p.letGo resolves uris links).1.balancer
      = (p.gone resolves uris).foldl Balancer.evict p.balancer := balancer_discardAll _ _
  rw [← Balancer.statsOf?_foldl_evict, ← hletGo, setUris_eq]
  cases (p.change resolves uris).isUnchanged with
  | true => rfl
  | false => exact Balancer.statsOf?_invalidate _ _ _

theorem settings_setUris : (setUris resolves uris p links).2.1.settings = p.settings := by
  rw [setUris_eq]
  cases (p.change resolves uris).isUnchanged with
  | true => exact settings_discardAll _ _
  | false => exact settings_discardAll _ _

theorem intact_setUris (h : p.Intact) : (setUris resolves uris p links).2.1.Intact := by
  have hbefore {uri : String} {link : LinkId}
      (hget : (setUris resolves uris p links).2.1.active.get? uri = some link) :
      p.active.get? uri = some link := by
    rw [(endpoints_setUris resolves uris p links).1] at hget
    exact (get?_discardAll hget).2
  exact { (careful_setUris resolves uris p links).coherent h.toCoherent with
    unshared := fun hfirst hsecond => h.unshared (hbefore hfirst) (hbefore hsecond) }

/-- The addresses of an intact pool stay, leave or come, each by itself. -/
theorem turnover_setUris (h : p.Intact) :
    Turnover resolves uris (setUris resolves uris p links).1 (p, links)
      (setUris resolves uris p links).2 := by
  have huris := uris_setUris resolves uris p links
  obtain ⟨hactive, hunhealthy⟩ := endpoints_setUris resolves uris p links
  have hlinks : (setUris resolves uris p links).2.2 = (p.letGo resolves uris links).2 := by
    rw [setUris_eq]
  have hsummary : (setUris resolves uris p links).1 = p.change resolves uris := by rw [setUris_eq]
  have hget (uri : String) : (setUris resolves uris p links).2.1.active.get? uri
      = if uri ∈ p.gone resolves uris then none else p.active.get? uri := by
    rw [hactive]
    exact active_discardAll _ _ uri
  have hmem (uri : String) : uri ∈ (setUris resolves uris p links).2.1.unhealthy
      ↔ uri ∉ p.gone resolves uris ∧ uri ∈ p.unhealthy := by
    rw [hunhealthy]
    exact mem_unhealthy_discardAll
  constructor
  · exact huris
  · rw [hsummary, huris]
    simp [change]
  · rw [hsummary, huris]
    simp [change, gone]
  · rw [hsummary]
    apply sift_snd resolves uris
    intro _ hnil
    exact absurd hnil List.not_mem_nil
  · intro uri _ hstays
    rw [huris] at hstays
    have hnot : uri ∉ p.gone resolves uris := by
      intro hgone
      exact ((mem_gone _ _ _).mp hgone).2 hstays
    refine ⟨(hget uri).trans (if_neg hnot), ?_, (hmem uri).trans ?_, ?_⟩
    · intro link hlink
      rw [hlinks]
      apply link_discardAll
      intro other hother hshared
      rw [h.unshared hshared hlink] at hother
      exact hnot hother
    · exact and_iff_right hnot
    · exact (statsOf?_setUris resolves uris links uri).trans (if_neg hnot)
  · intro uri hwas hleaves
    rw [huris] at hleaves
    have hgone : uri ∈ p.gone resolves uris := (mem_gone _ _ _).mpr ⟨hwas, hleaves⟩
    refine ⟨(hget uri).trans (if_pos hgone), ?_, ?_, ?_⟩
    · intro link hlink
      rw [hlinks]
      exact closed_discardAll hgone hlink
    · intro hin
      exact ((hmem uri).mp hin).1 hgone
    · exact (statsOf?_setUris resolves uris links uri).trans (if_pos hgone)
  · intro uri hnew
    refine ⟨?_, fun hin => hnew (h.configured ((hmem uri).mp hin).2)⟩
    rw [hget]
    split
    · rfl
    · cases hlink : p.active.get? uri with
      | none => rfl
      | some link => exact absurd (h.usable hlink).1 hnew
  · exact settings_setUris resolves uris links

end

end Pool

namespace Site

open ServiceMesh.Fiber

/-- Without waiting, a lazy pool is set to a list of addresses in one section. -/
theorem poll_refresh {s : Site} (hidle : Idle s) (hlazy : s.pool.settings.eagerConnect = false)
    (resolves : String → Bool) (uris : List String) :
    ∃ t, poll ((host resolves).refresh uris) s
        = (done (Pool.setUris resolves uris s.pool s.links).1, t) ∧ Idle t ∧
      (t.pool, t.links) = (Pool.setUris resolves uris s.pool s.links).2 := by
  let set := (onPool (Pool.setUris resolves uris) s.joinLine.2).2
  have hset : set.pool.settings.eagerConnect = false :=
    (congrArg PoolSettings.eagerConnect (Pool.settings_setUris resolves uris s.links)).trans hlazy
  have hline : set.line = [s.nextTicket] := by
    change s.line ++ [s.nextTicket] = _
    rw [hidle, List.nil_append]
  have hsection : poll ((host resolves).atomically (Pool.setUris resolves uris)) s.joinLine.2
      = (done (Pool.setUris resolves uris s.pool s.links).1, set) := rfl
  have hread : poll ((host resolves).read (·.settings.eagerConnect)) set = (done false, set) := by
    rw [← hset]
    rfl
  have hbody : poll (do
      let summary ← (host resolves).atomically (Pool.setUris resolves uris)
      if ← (host resolves).read (·.settings.eagerConnect) then
        let _ ← (host resolves).wire.all (summary.added.map (host resolves).ensure)
      return summary) s.joinLine.2 = (done (Pool.setUris resolves uris s.pool s.links).1, set) := by
    rw [poll_bind _ hsection, poll_bind _ hread]
    rfl
  obtain ⟨hpoll, hleft⟩ := poll_inLine hidle hbody hline
  exact ⟨set.leaveLine s.nextTicket, hpoll, hleft, rfl⟩

/-- Without waiting, a lazy and intact pool that is set to a list of addresses is that list, in
order and without repetitions; for each address that stays nothing changes, and nothing is left
of one that is gone.  Setting the addresses again changes nothing. -/
theorem refresh_turnover {s : Site} (hintact : s.pool.Intact)
    (hlazy : s.pool.settings.eagerConnect = false) (hidle : Idle s) (resolves : String → Bool)
    (uris : List String) :
    ∃ summary t, poll ((host resolves).refresh uris) s = (done summary, t) ∧
      Pool.Turnover resolves uris summary (s.pool, s.links) (t.pool, t.links) ∧
      t.pool.Intact ∧
      ∃ again u, poll ((host resolves).refresh uris) t = (done again, u) ∧
        again.isUnchanged = true ∧ u.pool = t.pool ∧ u.links = t.links := by
  obtain ⟨t, hpoll, hidle', hset⟩ := poll_refresh hidle hlazy resolves uris
  have hturnover := Pool.turnover_setUris resolves uris s.links hintact
  have hpool : t.pool = (Pool.setUris resolves uris s.pool s.links).2.1 := congrArg Prod.fst hset
  rw [← hset] at hturnover
  refine ⟨_, t, hpoll, hturnover, ?_, ?_⟩
  · rw [hpool]
    exact Pool.intact_setUris resolves uris s.links hintact
  · have hlazy' : t.pool.settings.eagerConnect = false := by
      rw [show t.pool.settings = s.pool.settings from hturnover.settings]
      exact hlazy
    obtain ⟨u, hagain, -, hsame⟩ := poll_refresh hidle' hlazy' resolves uris
    have hrefreshed : t.pool.refreshed = true := by
      rw [hpool, Pool.setUris_eq]
    rw [Pool.setUris_again resolves uris hturnover.uris] at hagain hsame
    refine ⟨_, u, hagain, rfl, ?_, congrArg Prod.snd hsame⟩
    refine (congrArg Prod.fst hsame).trans ?_
    change { t.pool with refreshed := true } = t.pool
    rw [← hrefreshed]

namespace Sample

/-- A pool by latency gets links to two of its three addresses, and the third is taken out of
use. -/
def linking : List Move :=
  .start (.refresh ["tcp://a:1", "tcp://b:1", "tcp://c:1"]) ::
    List.replicate 2 (.turn 0 .here) ++ List.replicate 4 (.turn 0 (.first .here)) ++
    .turn 0 .here :: .start (.connectionTo "tcp://a:1") ::
    List.replicate 4 (.turn 1 .here) ++ .start (.connectionTo "tcp://b:1") ::
    List.replicate 4 (.turn 2 .here) ++ .start (.markUnhealthy "tcp://c:1") ::
    [.turn 3 .here]

/-- The site then. -/
def linked : Site :=
  ((Scene.new "g!Calc:1" { strategy := .weightedStats }).run (fun uri => uri != "?") linking).site

end Sample

open Sample in
/-- One address with a link and one out of use stay, in another order, and one with a link is
gone. -/
theorem refresh_turnover_linked :
    (linked.pool.active.keys = ["tcp://a:1", "tcp://b:1"] ∧
      linked.pool.unhealthy = ["tcp://c:1"]) ∧
    ∃ summary t, poll ((host fun uri => uri != "?").refresh
          ["tcp://c:1", "?", "tcp://d:1", "tcp://c:1", "tcp://a:1"]) linked = (done summary, t) ∧
      Pool.Turnover (fun uri => uri != "?")
        ["tcp://c:1", "?", "tcp://d:1", "tcp://c:1", "tcp://a:1"] summary
        (linked.pool, linked.links) (t.pool, t.links) ∧
      t.pool.Intact ∧
      ∃ again u, poll ((host fun uri => uri != "?").refresh
          ["tcp://c:1", "?", "tcp://d:1", "tcp://c:1", "tcp://a:1"]) t = (done again, u) ∧
        again.isUnchanged = true ∧ u.pool = t.pool ∧ u.links = t.links := by
  have hintact : linked.pool.Intact := Scene.intact_run _ _ _ linking
  have hlazy : linked.pool.settings.eagerConnect = false := by decide +kernel
  have hidle : linked.line = [] := by decide +kernel
  exact ⟨by decide +kernel, refresh_turnover hintact hlazy hidle _ _⟩

end Site

end ServiceMesh
