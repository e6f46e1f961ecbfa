import ServiceMesh.Proofs.Concurrency.Courses
import ServiceMesh.Proofs.Pool.Accounts

/-!
# Each link of a pool is of one address

A pool is *intact* if it is coherent and no two of its addresses share a link.  What is done to
the link of one address is then no matter for the others.

A link is opened to one address, and is new then.  The pool takes it into use for that address
or not at all, so a link in use is one that was opened to its address (`Site.Owned`), and no
link was opened to two.  That is kept by all that operations are made of, so the pool of every
scene is intact (`Scene.intact_run`).
-/

namespace ServiceMesh

namespace Pool

/-- A coherent pool whose addresses have links of their own. -/
structure Intact (p : Pool) : Prop extends p.Coherent where
  unshared : ∀ {uri other link}, p.active.get? uri = some link → p.active.get? other = some link →
    uri = other

/-! ## Links that are taken into use -/

/-- The links that a section takes into use, with their addresses. -/
def Act.taken : Act → List (String × LinkId)
  | adopt uri link => [(uri, link)]
  | finishCheck opened => opened
  | _ => []

theorem Act.taken_of_ordinary {act : Act} (h : act.Ordinary) : act.taken = [] := by
  cases act with
  | adopt uri link => cases h
  | finishCheck opened => cases h
  | _ => rfl

/-- The links that a pool has in use. -/
def Using (s : Pool × Links) (e : String × LinkId) : Prop := s.1.active.get? e.1 = some e.2

variable {e : String × LinkId}

theorem using_markUnhealthy {uri : String} {p : Pool} {links : Links}
    (h : Using (markUnhealthy uri p links) e) : Using (p, links) e := by
  unfold markUnhealthy at h
  split at h
  · simp only [Using, invalidate, Dict.get?_erase] at h
    split at h
    · cases h
    · exact h
  · exact h

theorem using_recoverOne {uri : String} {link : LinkId} {p : Pool} {links : Links}
    (h : Using (recoverOne uri link p links).2 e) : Using (p, links) e ∨ e = (uri, link) := by
  unfold recoverOne at h
  split at h
  · simp only [Using, Dict.get?_insert] at h
    split at h
    · next huri =>
      cases h
      exact .inr (Prod.ext huri.symm rfl)
    · exact .inl h
  · exact .inl h

theorem using_recover {opened : List (String × LinkId)} {p : Pool} {links : Links}
    (h : Using (recover opened p links).2 e) : Using (p, links) e ∨ e ∈ opened := by
  induction opened generalizing p links with
  | nil => exact .inl h
  | cons first rest ih =>
    rcases ih h with hbefore | hrest
    · apply (using_recoverOne hbefore).imp_right
      intro heq
      exact List.mem_cons.mpr (.inl heq)
    · exact .inr (List.mem_cons_of_mem first hrest)

/-- A link that is in use after a section was so before, or is taken into use by it. -/
theorem Act.using_apply (resolves : String → Bool) {s : Pool × Links} {act : Act}
    (h : Using (act.apply resolves s) e) : Using s e ∨ e ∈ act.taken := by
  cases act with
  | setUris uris =>
    unfold Using at h
    rw [apply, (endpoints_setUris resolves uris s.1 s.2).1] at h
    exact .inl (get?_discardAll h).2
  | startCall uri => exact .inl h
  | finishCall uri latencyMs result =>
    simp only [apply, Pool.finishCall] at h
    split at h
    · have hbefore := using_markUnhealthy h
      exact .inl hbefore
    · exact .inl h
  | markUnhealthy uri => exact .inl (using_markUnhealthy h)
  | finishCheck opened =>
    have hrecover : Using (recover opened s.1 s.2).2 e := by
      simp only [apply, Pool.finishCheck] at h
      split at h
      · exact h
      · exact h
    exact using_recover hrecover
  | takeOpen uri =>
    simp only [apply, Pool.takeOpen] at h
    split at h
    · exact .inl h
    · split at h
      · simp only [Using, Dict.get?_erase] at h
        split at h
        · cases h
        · exact .inl h
      · exact .inl h
  | adopt uri link =>
    simp only [apply, Pool.adopt] at h
    split at h
    · split at h
      · exact .inl h
      · simp only [Using, Dict.get?_insert] at h
        split at h
        · next huri =>
          cases h
          exact .inr (List.mem_singleton.mpr (Prod.ext huri.symm rfl))
        · exact .inl h
    · exact .inl h
  | choose draw fingerprint candidates => exact .inl h
  | close => cases h
  | relink links => exact .inl h

end Pool

namespace Site

open ServiceMesh.Fiber

/-- Links in use were opened to their addresses, and no link was opened to two. -/
structure Owned (s : Site) : Prop where
  opened : ∀ {e}, Pool.Using (s.pool, s.links) e → e ∈ s.opened
  once : ∀ {uri other link}, (uri, link) ∈ s.opened → (other, link) ∈ s.opened → uri = other
  numbered : ∀ e ∈ s.opened, ∃ n < s.opened.length, e.2 = .outside n

/-- The course of a site whose links are owned.  What was opened stays in the records. -/
def owning : Course Site where
  Inv := Owned
  Later s t := s.opened ⊆ t.opened
  refl s := List.Subset.refl s.opened
  trans h h' := List.Subset.trans h h'

variable {resolves : String → Bool} {s : Site} {α : Type}

/-- The records are all that matters. -/
theorem Owned.of_using {t : Site} (hs : Owned s) (hopened : t.opened = s.opened)
    (h : ∀ e, Pool.Using (t.pool, t.links) e → Pool.Using (s.pool, s.links) e ∨ e ∈ s.opened) :
    Owned t where
  opened {e} he := by
    rw [hopened]
    exact (h e he).elim hs.opened id
  once := by
    rw [hopened]
    exact hs.once
  numbered := by
    rw [hopened]
    exact hs.numbered

theorem Owned.addLink (hs : Owned s) (uri : String) : Owned (s.addLink uri) := by
  have hfresh : ∀ other, (other, s.fresh) ∉ s.opened := by
    intro other hmem
    obtain ⟨n, hn, heq⟩ := hs.numbered _ hmem
    cases heq
    exact Nat.lt_irrefl _ hn
  have hcases {e : String × LinkId} (he : e ∈ (s.addLink uri).opened) :
      e ∈ s.opened ∨ e = (uri, s.fresh) := by
    rcases List.mem_append.mp he with h | h
    · exact .inl h
    · exact .inr (List.mem_singleton.mp h)
  have hlength : (s.addLink uri).opened.length = s.opened.length + 1 := by simp [Site.addLink]
  refine ⟨fun he => List.mem_append_left _ (hs.opened he), fun hfirst hsecond => ?_,
    fun e he => ?_⟩
  · rcases hcases hfirst with hfirst | hfirst
    · rcases hcases hsecond with hsecond | hsecond
      · exact hs.once hfirst hsecond
      · cases hsecond
        exact absurd hfirst (hfresh _)
    · cases hfirst
      rcases hcases hsecond with hsecond | hsecond
      · exact absurd hsecond (hfresh _)
      · cases hsecond
        rfl
  · rw [hlength]
    rcases hcases he with h | rfl
    · obtain ⟨n, hn, heq⟩ := hs.numbered e h
      exact ⟨n, by omega, heq⟩
    · exact ⟨s.opened.length, by omega, rfl⟩

/-! ## The opening of links -/

/-- A section takes into use what was opened before. -/
theorem heeds_act {f : Pool → Links → α × Pool × Links} (act : Pool.Act)
    (hf : ∀ p links, (f p links).2 = act.apply resolves (p, links))
    (htaken : act.taken ⊆ s.opened) :
    Heeds owning ((host resolves).atomically f) (fun _ _ => True) s := by
  intro t hlater ht
  refine ⟨Owned.of_using ht rfl ?_, List.Subset.refl _, trivial⟩
  intro e he
  have happly : Pool.Using (act.apply resolves (t.pool, t.links)) e := by
    rw [← hf]
    exact he
  apply (Pool.Act.using_apply resolves happly).imp_right
  intro h
  exact hlater (htaken h)

theorem tame_act {f : Pool → Links → α × Pool × Links} (hf : Pool.Ordinary resolves f) :
    Tame owning ((host resolves).atomically f) := by
  intro _ _ t _ ht
  refine ⟨Owned.of_using ht rfl ?_, List.Subset.refl _, trivial⟩
  intro e he
  rcases hf t.pool t.links with hsame | ⟨act, hact, hsame⟩
  · have hread : Pool.Using (f t.pool t.links).2 e := he
    rw [hsame] at hread
    exact .inl hread
  · have happly : Pool.Using (f t.pool t.links).2 e := he
    rw [hsame] at happly
    apply (Pool.Act.using_apply resolves happly).imp_right
    intro h
    rw [Pool.Act.taken_of_ordinary hact] at h
    cases h

theorem tame_look (f : Site → α) : Tame owning (Fiber.read f) := by
  refine .step (fun _ hs => ⟨hs, List.Subset.refl _⟩) ?_
  intro _
  exact .pure _

/-- A link that could be opened to an address is in the records for it. -/
theorem heeds_openLink (uri : String) (s : Site) :
    Heeds owning ((host resolves).wire.openLink uri)
      (fun result t => ∀ link, result = .ok link → (uri, link) ∈ t.opened) s := by
  intro t _ ht
  unfold dial
  cases t.nature.refusal with
  | some fault =>
    refine ⟨ht, List.Subset.refl _, ?_⟩
    intro link h
    cases h
  | none =>
    refine ⟨ht.addLink uri, List.subset_append_left _ _, ?_⟩
    intro link h
    cases h
    exact List.mem_append_right _ (List.mem_singleton_self _)

theorem tame_ensure (uri : String) : Tame owning ((host resolves).ensure uri) := by
  apply Tame.bind (tame_act fun _ _ => .inr ⟨.takeOpen uri, trivial, rfl⟩)
  intro found
  cases found with
  | some link => exact .pure _
  | none =>
    intro s hs
    apply Heeds.andThen hs (heeds_openLink uri s)
    intro opened t _ ht hopened
    cases opened with
    | ok link =>
      apply heeds_act (.adopt uri link) (fun _ _ => rfl)
      intro e he
      rw [List.mem_singleton.mp he]
      exact hopened link rfl
    | error fault =>
      have hmark : Tame owning ((host resolves).change (Pool.markUnhealthy uri)) :=
        tame_act fun _ _ => .inr ⟨.markUnhealthy uri, trivial, rfl⟩
      refine hmark.bind ?_ t ht
      intro _
      exact .pure (Except.error fault)

theorem heeds_tryAgain (uri : String) {s : Site} (hs : Owned s) :
    Heeds owning ((host resolves).tryAgain uri) (fun a t => ∀ e, a = some e → e ∈ t.opened) s := by
  apply Heeds.andThen hs (heeds_openLink uri s)
  intro opened t _ _ hopened
  cases opened with
  | ok link =>
    intro e he
    cases he
    exact hopened link rfl
  | error fault =>
    intro e he
    cases he

theorem tame_retry : Tame owning (host resolves).retry := by
  apply Tame.bind (tame_act fun _ _ => .inl rfl)
  intro pending s hs
  have hkept (a : Option (String × LinkId)) :
      owning.Stable fun t => ∀ e, a = some e → e ∈ t.opened := by
    intro _ _ hlater _ h e he
    exact hlater (h e he)
  refine Heeds.andThen hs (Heeds.gather hkept ?_) ?_
  · intro f hf
    obtain ⟨uri, -, rfl⟩ := List.mem_map.mp hf
    exact heeds_tryAgain uri hs
  · intro attempts t _ _ hopened
    apply heeds_act (.finishCheck (attempts.filterMap id)) (fun _ _ => rfl)
    intro e he
    obtain ⟨a, ha, hsome⟩ := List.mem_filterMap.mp he
    exact hopened a ha e hsome

/-! ## Operations -/

theorem tame_requestWithin (timeoutMs : Nat) (link : LinkId) (payload : Payload) :
    Tame owning ((host resolves).wire.requestWithin timeoutMs link payload) := by
  have htrue (β : Type) (b : β) : owning.Stable ((fun _ _ => True : β → Site → Prop) b) :=
    stable_const True
  refine Tame.bind (f := (host resolves).wire.within timeoutMs _) ?_ ?_
  · intro s hs
    refine ⟨_, _, htrue _, htrue _, ?_, ?_, ?_, ?_⟩
    · exact Tame.await (tame_look _) s hs
    · exact Tame.await (.pure ()) s hs
    · intro _ _ _ _ _
      exact trivial
    · intro _ _ _ _ _
      exact trivial
  · intro result
    cases result with
    | some result => exact .pure _
    | none => exact .pure _

theorem tame_inLine {body : Fiber Site α} (hbody : Tame owning body) :
    Tame owning (inLine body) := by
  have hkept (s t : Site) (hs : Owned s) (hpool : t.pool = s.pool) (hopened : t.opened = s.opened) :
      Owned t ∧ s.opened ⊆ t.opened := by
    refine ⟨hs.of_using hopened fun e he => .inl ?_, ?_⟩
    · unfold Pool.Using at he ⊢
      rw [← hpool]
      exact he
    · rw [hopened]
      exact List.Subset.refl _
  refine .step (fun s hs => hkept s _ hs rfl rfl) ?_
  intro ticket
  refine .guarded (fun s hs => hkept s _ hs rfl rfl) (.await hbody) ?_
  intro _
  exact .pure _

theorem compositional_tame : Compositional resolves fun _ f => Tame owning f where
  done := .pure
  bind := Tame.bind
  all := Tame.all
  atomically := tame_act
  look := tame_look
  requestWithin := tame_requestWithin
  inLine := tame_inLine
  ensure := tame_ensure
  retry := tame_retry

end Site

namespace Scene

/-- The links of a site are owned, and the operations under way keep them so. -/
def Owning (c : Scene) : Prop :=
  c.site.Owned ∧ Fiber.AllHeed Site.owning c.tasks (fun _ _ => True) c.site

variable {c : Scene}

theorem owning_new (destination : String) (settings : PoolSettings) :
    (new destination settings).Owning := by
  refine ⟨⟨fun he => ?_, fun h => ?_, fun e he => ?_⟩, .nil⟩
  · cases he
  · cases h
  · cases he

theorem Owning.move (hc : c.Owning) (resolves : String → Bool) (m : Move) :
    (c.move resolves m).Owning := by
  obtain ⟨hs, htasks⟩ := hc
  have hstable (k : Nat) : Site.owning.Stable fun _ => True := Fiber.stable_const True
  cases m with
  | start operation =>
    exact ⟨hs, htasks.start (Site.compositional_tame.operation operation c.site hs)⟩
  | turn task place =>
    obtain ⟨hs', -, htasks'⟩ := htasks.advanceAt hstable hs task place
    exact ⟨hs', htasks'⟩
  | shift nature =>
    have hs' : Site.Owned { c.site with nature := nature } := ⟨hs.opened, hs.once, hs.numbered⟩
    exact ⟨hs', htasks.later hstable (List.Subset.refl _) hs'⟩
  | hangUp link =>
    have hs' : Site.Owned { c.site with links := c.site.links.close link } :=
      ⟨hs.opened, hs.once, hs.numbered⟩
    exact ⟨hs', htasks.later hstable (List.Subset.refl _) hs'⟩

theorem Owning.run (hc : c.Owning) (resolves : String → Bool) (moves : List Move) :
    (c.run resolves moves).Owning := by
  induction moves generalizing c with
  | nil => exact hc
  | cons m rest ih => exact ih (hc.move resolves m)

/-- In every run of any number of operations the pool is intact. -/
theorem intact_run (resolves : String → Bool) (destination : String) (settings : PoolSettings)
    (moves : List Move) : ((new destination settings).run resolves moves).site.pool.Intact := by
  obtain ⟨held, hs, -⟩ := (orderly_new destination settings).run resolves moves
  obtain ⟨howned, -⟩ := (owning_new destination settings).run resolves moves
  exact { hs.coherent with
    unshared := fun h h' => howned.once (howned.opened h) (howned.opened h') }

end Scene

end ServiceMesh
