import ServiceMesh.Proofs.Pool.Reports
import ServiceMesh.Proofs.Routes.Keys
import ServiceMesh.Proofs.Routes.Log

/-!
# What a table and a router tell their balancer

A router whose balancer watches the table is told of the responders that the table no longer
lists (`RouteTable.mem_gone_iff`), and of the calls that it makes over links of providers.

Like pools, routers therefore keep statistics of nobody who is gone, unless a call to him
started or completed when he was gone (`statistics_follow`).
-/

namespace ServiceMesh

namespace RouteTable

/-- The ids of the responders of which a call tells that they are gone. -/
def Change.gone (t : RouteTable) (change : Change) : List Uuid :=
  (change.told t).filterMap RouteChange.gone?

section

variable {t : RouteTable}

theorem gone_register (r : Responder) (ls : List Locator) :
    (t.register r ls).2.2.filterMap RouteChange.gone? = [] := by
  unfold register
  simp only
  split
  · rfl
  · rfl

theorem gone_unregister (x : Uuid) (ls : List Locator) :
    (t.unregister x ls).2.2.filterMap RouteChange.gone? = [] := by
  unfold unregister
  split
  · rfl
  · simp only
    split
    · rfl
    · rfl

theorem gone_remove (x : Uuid) :
    (t.remove x).2.2.filterMap RouteChange.gone? = if (t.get? x).isSome then [x] else [] := by
  cases h : t.get? x with
  | none => simp [remove, h]
  | some r => simp [remove, h, RouteChange.gone?]

theorem gone_setStatus (x : Uuid) (status : AppStatus) (hs : status ≠ .stopped) :
    (t.setStatus x status).2.2.filterMap RouteChange.gone? = [] := by
  unfold setStatus
  rw [if_neg hs]
  split
  · rfl
  · simp only
    split
    · rfl
    · rfl

theorem gone_expose (r : Responder) (ls : List Locator) :
    (t.expose r ls).2.2.filterMap RouteChange.gone? = [] := by
  change ((t.register r ls).2.2 ++ _).filterMap RouteChange.gone? = []
  rw [List.filterMap_append, gone_register]
  exact gone_setStatus _ .serving (by decide)

theorem gone_hide (x : Uuid) (ls : List Locator) :
    (t.hide x ls).2.2.filterMap RouteChange.gone? = [] := by
  unfold hide
  simp only
  split
  · split
    · rw [List.filterMap_append, gone_unregister]
      exact gone_setStatus x .down (by decide)
    · exact gone_unregister x ls
  · exact gone_unregister x ls

theorem mem_gone_of_kept {t' : RouteTable} {told : List RouteChange}
    (hgone : told.filterMap RouteChange.gone? = []) {id : Uuid}
    (hkept : (t.get? id).isSome → (t'.get? id).isSome) :
    id ∈ told.filterMap RouteChange.gone? ↔ (t.get? id).isSome ∧ ¬(t'.get? id).isSome := by
  rw [hgone]
  apply iff_of_false List.not_mem_nil
  intro h
  exact h.2 (hkept h.1)

theorem mem_gone_remove (x id : Uuid) :
    id ∈ (t.remove x).2.2.filterMap RouteChange.gone?
      ↔ (t.get? id).isSome ∧ ¬((t.remove x).2.1.get? id).isSome := by
  have hmem : id ∈ (t.remove x).2.2.filterMap RouteChange.gone? ↔ (t.get? x).isSome ∧ id = x := by
    rw [gone_remove]
    split
    · simp [*]
    · simp [*]
  rw [hmem, get?_remove]
  by_cases hx : x = id
  · simp [hx]
  · rw [if_neg hx]
    apply iff_of_false (fun h => hx h.2.symm)
    intro h
    exact h.2 h.1

/-- A call tells that a responder is gone exactly if it was listed and no longer is. -/
theorem mem_gone_iff (hk : t.Keyed) (change : Change) (id : Uuid) :
    id ∈ change.gone t ↔ (t.get? id).isSome ∧ ¬((change.apply t).get? id).isSome := by
  unfold Change.gone
  cases change with
  | register handed services =>
    cases hr : handed.resolve t with
    | none =>
      simp only [Change.told, Change.apply, hr]
      apply mem_gone_of_kept rfl
      intro h
      exact h
    | some r =>
      simp only [Change.told, Change.apply, hr]
      apply mem_gone_of_kept (gone_register r services)
      intro h
      rw [get?_register hk]
      split
      · rfl
      · exact h
  | unregister x services =>
    apply mem_gone_of_kept (gone_unregister x services)
    intro h
    rw [Change.apply, get?_unregister hk]
    split
    · next hx => rwa [Option.isSome_map, hx]
    · exact h
  | remove x => exact mem_gone_remove x id
  | setStatus x status =>
    by_cases hs : status = .stopped
    · subst hs
      rw [Change.told, Change.apply, setStatus_stopped]
      exact mem_gone_remove x id
    · apply mem_gone_of_kept (gone_setStatus x status hs)
      intro h
      rw [Change.apply, get?_setStatus hk x hs]
      split
      · next hx => rwa [Option.isSome_map, hx]
      · exact h
  | expose handed services =>
    cases hr : handed.resolve t with
    | none =>
      simp only [Change.told, Change.apply, hr]
      apply mem_gone_of_kept rfl
      intro h
      exact h
    | some r =>
      simp only [Change.told, Change.apply, hr]
      apply mem_gone_of_kept (gone_expose r services)
      intro h
      rw [get?_expose hk]
      split
      · rfl
      · exact h
  | hide x services =>
    apply mem_gone_of_kept (gone_hide x services)
    intro h
    rw [Change.apply, get?_hide hk]
    split
    · next hx => rwa [Option.isSome_map, hx]
    · exact h

end

end RouteTable

namespace Balancer

/-- A balancer by latency only makes of changes that some responders are gone. -/
theorem foldl_observe {b : Balancer} (h : b.strategy = .weightedStats)
    (changes : List RouteChange) :
    changes.foldl observe b
      = b.hear (.left ((changes.filterMap RouteChange.gone?).map Uuid.toText)) := by
  obtain ⟨state, rfl⟩ := eq_weighted h
  have hfold (ls : List Locator) (state : Weighted) :
      ls.foldl (fun b l => b.invalidate l.hash) (weighted state) = weighted state := by
    induction ls with
    | nil => rfl
    | cons l rest ih => exact ih
  clear h
  induction changes generalizing state with
  | nil => rfl
  | cons change rest ih =>
    rw [List.foldl_cons, observe, hfold]
    cases hgone : change.gone? with
    | none =>
      rw [List.filterMap_cons_none hgone]
      exact ih state
    | some id =>
      rw [List.filterMap_cons_some hgone, List.map_cons]
      exact ih (state.evict id.toText)

end Balancer

namespace Router

/-- Something that happens to a table or to the router whose balancer watches it. -/
inductive Event where
  /-- The table changes, and its changes are observed. -/
  | change (change : RouteTable.Change)
  /-- A call is routed. -/
  | route (draw : Draw) (p : Payload)
  /-- A call over the link of a provider starts. -/
  | startCall (key : String)
  /-- A call over the link of a provider completes. -/
  | finishCall (key : String) (latencyMs : Float) (result : Except Fault Payload)
  /-- What is kept for a hash is forgotten. -/
  | invalidate (hash : UInt32)

/-- A router and its table. -/
abbrev Watching := Router × { t : RouteTable // t.Consistent }

/-- The router and the table after something happened. -/
def Event.apply (s : Watching) : Event → Watching
  | change c =>
      ({ s.1 with balancer := (c.told s.2).foldl Balancer.observe s.1.balancer },
        ⟨c.apply s.2, s.2.2.apply c⟩)
  | route draw p => ((aim draw p s.1 s.2).2, s.2)
  | startCall key => (s.1.startCall key, s.2)
  | finishCall key latencyMs result => (s.1.finishCall key latencyMs result, s.2)
  | invalidate hash => (s.1.invalidate hash, s.2)

/-- What the balancer is told. -/
def Event.note (s : Watching) : Event → Note
  | change c => .left ((c.gone s.2).map Uuid.toText)
  | startCall key => .started key
  | finishCall key latencyMs result => .completed key latencyMs (!Pool.failed result)
  | _ => .left []

theorem balancer_aim {r : Router} (h : r.balancer.strategy = .weightedStats) (draw : Draw)
    (p : Payload) (table : RouteTable) : (aim draw p r table).2.balancer = r.balancer := by
  have hchoose (routing : Routing) (data : Bytes) (keys : List String) :
      (r.choose draw routing data keys).2.balancer = r.balancer := by
    unfold choose
    split
    · rfl
    · exact Balancer.pick_snd h draw _ _ keys
  unfold aim
  split
  · rfl
  · simp only
    split
    · exact hchoose _ _ _
    · exact hchoose _ _ _

theorem Event.hears {s : Watching} (h : s.1.balancer.strategy = .weightedStats) (event : Event) :
    (event.apply s).1.balancer = s.1.balancer.hear (event.note s) := by
  cases event with
  | change c => exact Balancer.foldl_observe h (c.told s.2)
  | route draw p => exact balancer_aim h draw p s.2
  | startCall key => rfl
  | finishCall key latencyMs result => rfl
  | invalidate hash => exact Balancer.invalidate_eq h hash

/-- A table lists a responder with a key. -/
def Listed (t : RouteTable) (key : String) : Prop := ∃ id, (t.get? id).isSome ∧ id.toText = key

theorem Event.gone_iff (s : Watching) (event : Event) (key : String) :
    key ∈ (event.note s).gone ↔ Listed s.2 key ∧ ¬Listed (event.apply s).2 key := by
  have hsilent : key ∈ ([] : List String) ↔ Listed s.2 key ∧ ¬Listed s.2 key :=
    iff_of_false List.not_mem_nil fun h => h.2 h.1
  cases event with
  | change c =>
    have hgone := RouteTable.mem_gone_iff s.2.2.keyed c
    simp only [note, Note.gone, List.mem_map, hgone]
    constructor
    · rintro ⟨id, ⟨hbefore, hafter⟩, rfl⟩
      refine ⟨⟨id, hbefore, rfl⟩, ?_⟩
      rintro ⟨other, hother, hkey⟩
      rw [Uuid.toText_injective hkey] at hother
      exact hafter hother
    · rintro ⟨⟨id, hbefore, rfl⟩, hafter⟩
      exact ⟨id, ⟨hbefore, fun h => hafter ⟨id, h, rfl⟩⟩, rfl⟩
  | route draw p => exact hsilent
  | startCall k => exact hsilent
  | finishCall k latencyMs result => exact hsilent
  | invalidate hash => exact hsilent

/-- A table and a router tell the balancer of calls and of responders that are gone. -/
def reporter : Reporter Watching Event where
  step := Event.apply
  balancer s := s.1.balancer
  Here s := Listed s.2
  note := Event.note
  hears := Event.hears
  gone_iff := Event.gone_iff

end Router

/-- After any sections of a new pool, and after anything that happens to a new router and the
table that its balancer watches: while no call is in flight, the statistics by latency count
no call, and of an address that is not configured, or of a responder that is not listed, there
are statistics exactly if a call to it started or completed when it was gone, and it has not
come back since. -/
theorem statistics_follow (resolves : String → Bool) (destination : String)
    (settings : PoolSettings) (acts : List Pool.Act) (brokerId : String) (exploration : Float)
    (alwaysSticky : Bool) (callTimeoutMs : Nat) (events : List Router.Event) :
    let pool := (Pool.new destination { settings with strategy := .weightedStats }, ({} : Links))
    let router : Router.Watching :=
      (.fresh brokerId .weightedStats exploration alwaysSticky callTimeoutMs,
        ⟨{}, RouteTable.consistent_empty⟩)
    ((Pool.reporter resolves).inFlight pool acts = [] →
      (Pool.reporter resolves).Follows pool acts) ∧
    (Router.reporter.inFlight router events = [] → Router.reporter.Follows router events) := by
  intro pool router
  constructor
  · apply Reporter.follows rfl
    intro _
    rfl
  · apply Reporter.follows rfl
    intro _
    rfl

namespace Router.Sample

/-- An address is set, a call to it starts, and the address is taken away. -/
def leaving : List Pool.Act := [.setUris ["local://p1"], .startCall "local://p1", .setUris []]

/-- The call to the address completes. -/
def late : Pool.Act := .finishCall "local://p1" 100 (.ok ⟨[], []⟩)

/-- A provider comes, a call to it starts, and the provider goes. -/
def leavingHere : List Event :=
  [.change (.expose (.fresh app (.direct (.inside 0))) [clock]), .startCall app.instanceId.toText,
    .change (.remove app.instanceId)]

/-- The call to the provider completes. -/
def lateHere : Event := .finishCall app.instanceId.toText 100 (.ok ⟨[], []⟩)

end Router.Sample

open Router Router.Sample in
/-- A call that completes late leaves statistics of an address that is not configured, and of a
provider that is not listed.  Both calls complete when their candidate is away already. -/
theorem statistics_of_gone :
    let pool := ((Pool.reporter fun _ => true).run
      (Pool.new "d" { strategy := .weightedStats }, {}) (leaving ++ [late])).1
    let router := Router.reporter.run
      (.fresh "b" .weightedStats 0 false 1000, ⟨{}, RouteTable.consistent_empty⟩)
      (leavingHere ++ [lateHere])
    ("local://p1" ∉ pool.uris ∧
      ∃ stats, pool.balancer.statsOf? "local://p1" = some stats ∧ stats.outstanding = 0) ∧
    (router.2.1.get? app.instanceId = none ∧
      ∃ stats, router.1.balancer.statsOf? app.instanceId.toText = some stats ∧
        stats.outstanding = 0) := by
  intro pool router
  obtain ⟨hpool, hrouter⟩ := statistics_follow (fun _ => true) "d" {} (leaving ++ [late]) "b" 0
    false 1000 (leavingHere ++ [lateHere])
  obtain ⟨hidle, hcalled⟩ := hpool rfl
  obtain ⟨hidle', hcalled'⟩ := hrouter rfl
  have haway : "local://p1" ∉ pool.uris := List.not_mem_nil
  have haway' : ¬Listed router.2.1 app.instanceId.toText := by
    rintro ⟨id, hid, -⟩
    cases hid
  have hlast : (Pool.reporter fun _ => true).CalledGone _ (leaving ++ [late]) "local://p1" :=
    (Reporter.calledGone_concat haway).mpr ⟨List.not_mem_nil, .inl rfl⟩
  have hlast' :
      Router.reporter.CalledGone _ (leavingHere ++ [lateHere]) app.instanceId.toText :=
    (Reporter.calledGone_concat haway').mpr ⟨haway', .inl rfl⟩
  obtain ⟨stats, hstats⟩ := Option.isSome_iff_exists.mp ((hcalled _ haway).mpr hlast)
  obtain ⟨stats', hstats'⟩ := Option.isSome_iff_exists.mp ((hcalled' _ haway').mpr hlast')
  exact ⟨⟨haway, stats, hstats, hidle _ stats hstats⟩,
    rfl, stats', hstats', hidle' _ stats' hstats'⟩

end ServiceMesh
