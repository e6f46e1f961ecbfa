import ServiceMesh.Proofs.Concurrency.Discipline
import ServiceMesh.Proofs.Pool.Operations

/-!
# No link of a pool is lost

A link that a pool opened is in use for its address, or closed, or in the hand of the
operation that opened it: the next section of that operation takes the link into use,
or the operation waits with the link for other openings of the same check.  That holds
in every run of every scene (`Scene.links_accounted`), together with the coherence of
the pool's addresses.

The discipline of a site says this of the state between two sections.  Each operation
of a pool keeps it, since all that operations are made of does: the sections themselves are
careful, and the two ways of opening links take care of what they have in hand.
-/

namespace ServiceMesh

namespace Site

/-! ## The discipline -/

/-- The sections that take care of a new link. -/
inductive Settles (e : String × LinkId) : ⦃β : Type⦄ → (Site → β × Site) → Prop where
  /-- The link is taken into use. -/
  | adopt : Settles e (onPool (Pool.adopt e.1 e.2))
  /-- The link is taken into use with those of the same check. -/
  | finishCheck {opened : List (String × LinkId)} (h : e ∈ opened) :
      Settles e (onPool (Pool.finishCheck opened))

/-- The values with which the parts of a check end. -/
inductive Carries (e : String × LinkId) : ⦃α : Type⦄ → α → Prop where
  /-- An address could be opened. -/
  | tried : Carries e (some e)
  /-- Some of the addresses could be opened. -/
  | gathered {attempts : List (Option (String × LinkId))} (h : some e ∈ attempts) :
      Carries e attempts

/-- How an operation of a pool has a new link in hand. -/
def custody : Custody Site (String × LinkId) where
  settles := Settles
  carries := Carries

/-- The pool is coherent, and the links that it opened are accounted for or in hand. -/
structure Sound (held : List (String × LinkId)) (s : Site) : Prop where
  /-- The addresses of the pool fit together. -/
  coherent : s.pool.Coherent
  /-- Links that are not accounted for are in hand. -/
  accounted : ∀ e ∈ s.opened, Pool.Accounted e (s.pool, s.links) ∨ e ∈ held
  /-- Links that were opened are known. -/
  known : ∀ e ∈ s.opened, (s.links.get? e.2).isSome
  /-- Links that were opened are not opened again. -/
  numbered : ∀ e ∈ s.opened, ∃ n < s.opened.length, e.2 = .outside n

/-- The discipline of a site. -/
def discipline : Discipline Site (String × LinkId) where
  toCustody := custody
  Inv := Sound
  mono hmore hs :=
    { hs with accounted := fun e he => (hs.accounted e he).imp_right fun h => hmore h }

variable {resolves : String → Bool} {held others : List (String × LinkId)} {s : Site} {α : Type}

/-- What does not touch the pool and the links does not matter. -/
theorem Sound.of_eq {s' : Site} (hs : Sound held s) (hpool : s'.pool = s.pool)
    (hlinks : s'.links = s.links) (hopened : s'.opened = s.opened) : Sound held s' where
  coherent := by
    rw [hpool]
    exact hs.coherent
  accounted := by
    rw [hpool, hlinks, hopened]
    exact hs.accounted
  known := by
    rw [hlinks, hopened]
    exact hs.known
  numbered := by
    rw [hopened]
    exact hs.numbered

/-- A careful change keeps a site sound. -/
theorem Sound.careful {s' : Site} (hs : Sound held s)
    (hc : Pool.Careful (s.pool, s.links) (s'.pool, s'.links)) (hopened : s'.opened = s.opened) :
    Sound held s' where
  coherent := hc.coherent hs.coherent
  accounted := by
    rw [hopened]
    intro e he
    exact (hs.accounted e he).imp_left hc.accounted
  known := by
    rw [hopened]
    intro e he
    exact hc.known (hs.known e he)
  numbered := by
    rw [hopened]
    exact hs.numbered

theorem Sound.onPool (hs : Sound held s) {f : Pool → Links → α × Pool × Links}
    (hf : ∀ p links, Pool.Careful (p, links) (f p links).2) : Sound held (s.onPool f).2 :=
  hs.careful (hf s.pool s.links) rfl

/-- What is accounted for need not be in hand. -/
theorem Sound.settle (hs : Sound (held ++ others) s)
    (hheld : ∀ e ∈ held, Pool.Accounted e (s.pool, s.links)) : Sound others s :=
  { hs with
    accounted := fun e he => by
      rcases hs.accounted e he with h | h
      · exact Or.inl h
      · rcases List.mem_append.mp h with h | h
        · exact Or.inl (hheld e h)
        · exact Or.inr h }

theorem Sound.ne_fresh (hs : Sound held s) {e : String × LinkId} (he : e ∈ s.opened) :
    s.fresh ≠ e.2 := by
  obtain ⟨n, hn, heq⟩ := hs.numbered e he
  rw [heq, fresh]
  intro h
  cases h
  exact Nat.lt_irrefl _ hn

/-- A new link is in hand. -/
theorem Sound.addLink (hs : Sound others s) (uri : String) :
    Sound ((uri, s.fresh) :: others) (s.addLink uri) := by
  have hget : ∀ e ∈ s.opened, (s.addLink uri).links.get? e.2 = s.links.get? e.2 := by
    intro e he
    exact Dict.get?_insert_of_ne _ (hs.ne_fresh he) _
  have hcases : ∀ e ∈ (s.addLink uri).opened, e ∈ s.opened ∨ e = (uri, s.fresh) := by
    intro e he
    rcases List.mem_append.mp he with h | h
    · exact Or.inl h
    · exact Or.inr (List.mem_singleton.mp h)
  refine ⟨hs.coherent, ?_, ?_, ?_⟩
  · intro e he
    rcases hcases e he with h | rfl
    · refine (hs.accounted e h).imp ?_ (List.mem_cons_of_mem _)
      intro ha
      apply ha.imp_right
      intro hclosed
      unfold Links.isClosed at hclosed ⊢
      rw [hget e h]
      exact hclosed
    · exact Or.inr (List.mem_cons_self ..)
  · intro e he
    rcases hcases e he with h | rfl
    · rw [hget e h]
      exact hs.known e h
    · simp [Site.addLink, Links.add, Links.get?]
  · intro e he
    have hlength : (s.addLink uri).opened.length = s.opened.length + 1 := by
      simp [Site.addLink]
    rw [hlength]
    rcases hcases e he with h | rfl
    · obtain ⟨n, hn, heq⟩ := hs.numbered e h
      exact ⟨n, by omega, heq⟩
    · exact ⟨s.opened.length, by omega, rfl⟩

/-! ## Sections -/

theorem steady_atomically {f : Pool → Links → α × Pool × Links}
    (hf : ∀ p links, Pool.Careful (p, links) (f p links).2) :
    Fiber.Steady discipline ((host resolves).atomically f) := by
  intro _ _ hs
  exact ⟨Sound.onPool hs hf, trivial⟩

theorem steady_change {f : Pool → Links → Pool × Links}
    (hf : ∀ p links, Pool.Careful (p, links) (f p links)) :
    Fiber.Steady discipline ((host resolves).change f) :=
  steady_atomically hf

theorem steady_read (f : Pool → α) : Fiber.Steady discipline ((host resolves).read f) := by
  apply steady_atomically
  intro p links
  exact Pool.Careful.refl (p, links)

theorem steady_look (f : Site → α) : Fiber.Steady discipline (Fiber.read f) := by
  intro _ _ hs
  exact ⟨hs, trivial⟩

/-- What comes after an opening has the new link in hand. -/
theorem keeps_openLink {uri : String} {next : Except Fault LinkId → Fiber Site α}
    {left : α → List (String × LinkId)}
    (hok : ∀ link, Fiber.Keeps discipline (next (.ok link)) [(uri, link)] left)
    (herror : ∀ fault, Fiber.Keeps discipline (next (.error fault)) [] left) :
    Fiber.Keeps discipline ((host resolves).wire.openLink uri >>= next) [] left := by
  refine ⟨by simp, ?_⟩
  intro s others hs
  unfold dial
  cases s.nature.refusal with
  | some fault => exact ⟨[], hs, herror fault⟩
  | none => exact ⟨[(uri, s.fresh)], Sound.addLink hs uri, hok s.fresh⟩

/-- A new link is taken into use. -/
theorem keeps_adopt (uri : String) (link : LinkId) :
    Fiber.Keeps discipline ((host resolves).atomically (Pool.adopt uri link)) [(uri, link)]
      fun _ => [] := by
  refine ⟨?_, fun s others hs => ⟨[], ?_, List.Subset.refl _, by simp⟩⟩
  · intro e he
    rw [List.mem_singleton.mp he]
    exact .adopt
  · apply Sound.settle (Sound.onPool hs (Pool.careful_adopt uri link))
    intro e he
    rw [List.mem_singleton.mp he]
    exact Pool.accounted_adopt uri

theorem keeps_finishCheck (opened : List (String × LinkId)) :
    Fiber.Keeps discipline ((host resolves).atomically (Pool.finishCheck opened)) opened
      fun _ => [] := by
  refine ⟨fun e he => .finishCheck he, fun s others hs => ⟨[], ?_, List.Subset.refl _, by simp⟩⟩
  have hs' := Sound.onPool hs (Pool.careful_finishCheck opened)
  apply Sound.settle hs'
  intro e he
  exact Pool.accounted_finishCheck he

/-! ## Operations -/

theorem keeps_ensure (uri : String) :
    Fiber.Keeps discipline ((host resolves).ensure uri) [] fun _ => [] := by
  apply (steady_atomically (Pool.careful_takeOpen uri)).keeps.bind
  intro found
  cases found with
  | some link => exact Fiber.Steady.keeps trivial
  | none =>
    apply keeps_openLink (fun link => keeps_adopt uri link)
    intro fault
    refine Fiber.Steady.keeps (Fiber.Steady.bind ?_ ?_)
    · exact steady_change (Pool.careful_markUnhealthy uri)
    · intro _
      exact trivial

theorem keeps_tryAgain (uri : String) :
    Fiber.Keeps discipline ((host resolves).tryAgain uri) [] Option.toList := by
  refine keeps_openLink (fun link => ⟨List.Subset.refl _, ?_⟩) fun fault => ⟨by simp, by simp⟩
  intro e he
  rw [List.mem_singleton.mp he]
  exact .tried

theorem keeps_attempts (uris : List String) :
    Fiber.Keeps discipline ((host resolves).wire.all (uris.map (host resolves).tryAgain)) []
      fun attempts => attempts.flatMap Option.toList := by
  refine Fiber.Keeps.all ?_ ?_
  · intro attempts e he
    obtain ⟨attempt, hmem, hsome⟩ := List.mem_flatMap.mp he
    rw [Option.mem_toList] at hsome
    rw [hsome] at hmem
    exact .gathered hmem
  · intro f hf
    obtain ⟨uri, -, rfl⟩ := List.mem_map.mp hf
    exact keeps_tryAgain uri

theorem keeps_retry : Fiber.Keeps discipline (host resolves).retry [] fun _ => [] := by
  apply (steady_read _).keeps.bind
  intro pending
  apply (keeps_attempts pending).bind
  intro attempts
  apply (keeps_finishCheck _).anti
  intro e he
  simpa using he

theorem keeps_all {β : Type} {fs : List (Fiber Site β)}
    (hfs : ∀ f ∈ fs, Fiber.Keeps discipline f [] fun _ => []) :
    Fiber.Keeps discipline (Fiber.all fs) [] fun _ => [] := by
  have hnone : ∀ as : List β, as.flatMap (fun _ => ([] : List (String × LinkId))) = [] := by
    simp
  have hall : Fiber.Keeps discipline (Fiber.all fs) [] fun as => as.flatMap fun _ => [] :=
    Fiber.Keeps.all (by simp) hfs
  simp only [hnone] at hall
  exact hall

/-- What is done in line keeps what it keeps alone. -/
theorem keeps_inLine {body : Fiber Site α} (hbody : Fiber.Keeps discipline body [] fun _ => []) :
    Fiber.Keeps discipline (inLine body) [] fun _ => [] := by
  refine ⟨by simp, fun s others hs => ⟨[], Sound.of_eq hs rfl rfl rfl, ?_⟩⟩
  refine ⟨fun s others hs => Sound.of_eq hs rfl rfl rfl, fun _ => [], ⟨rfl, hbody⟩, ?_⟩
  intro a
  exact Fiber.Steady.keeps trivial

theorem steady_requestWithin (timeoutMs : Nat) (link : LinkId) (payload : Payload) :
    Fiber.Steady discipline ((host resolves).wire.requestWithin timeoutMs link payload) := by
  refine Fiber.Steady.bind (f := (host resolves).wire.within timeoutMs _) ?_ ?_
  · refine ⟨steady_look _, trivial, ?_⟩
    intro r
    cases r with
    | inl a => exact trivial
    | inr u => exact trivial
  · intro result
    cases result with
    | some result => exact trivial
    | none => exact trivial

theorem compositional_keeps :
    Compositional resolves fun _ f => Fiber.Keeps discipline f [] fun _ => [] where
  done _ := Fiber.Steady.keeps trivial
  bind := Fiber.Keeps.bind
  all := keeps_all
  atomically hf := (steady_atomically hf.careful).keeps
  look f := (steady_look f).keeps
  requestWithin timeoutMs link payload := (steady_requestWithin timeoutMs link payload).keeps
  inLine := keeps_inLine
  ensure := keeps_ensure
  retry := keeps_retry

end Site

/-- Every operation keeps the discipline, and ends with nothing in hand. -/
theorem Operation.keeps (resolves : String → Bool) (operation : Operation) :
    Fiber.Keeps Site.discipline (operation.run (Site.host resolves)) [] fun _ => [] :=
  Site.compositional_keeps.operation operation

namespace Scene

/-- Between two sections, the site is sound for what the operations have in hand. -/
def Orderly (c : Scene) : Prop :=
  ∃ held, c.site.Sound held ∧ Fiber.Keeping Site.discipline c.tasks held

theorem orderly_new (destination : String) (settings : PoolSettings) :
    (new destination settings).Orderly := by
  refine ⟨[], ⟨Pool.coherent_new destination settings, ?_, ?_, ?_⟩, .nil⟩
  · intro e he
    cases he
  · intro e he
    cases he
  · intro e he
    cases he

/-- Every move keeps a scene orderly. -/
theorem Orderly.move {c : Scene} (hc : c.Orderly) (resolves : String → Bool) (m : Move) :
    (c.move resolves m).Orderly := by
  obtain ⟨held, hs, htasks⟩ := hc
  cases m with
  | start operation => exact ⟨held, hs, htasks.start (operation.keeps resolves)⟩
  | turn task place =>
    have hs' : Site.discipline.Inv (held ++ []) c.site := by
      rw [List.append_nil]
      exact hs
    obtain ⟨held', hturn, htasks'⟩ := htasks.advanceAt task place hs'
    rw [List.append_nil] at hturn
    exact ⟨held', hturn, htasks'⟩
  | shift nature => exact ⟨held, hs.of_eq rfl rfl rfl, htasks⟩
  | hangUp link => exact ⟨held, hs.careful (Pool.careful_closeLink link _ _) rfl, htasks⟩

theorem Orderly.run {c : Scene} (hc : c.Orderly) (resolves : String → Bool) (moves : List Move) :
    (c.run resolves moves).Orderly := by
  induction moves generalizing c with
  | nil => exact hc
  | cons m rest ih => exact ih (hc.move resolves m)

/-- In every run of any number of operations, whatever the order of their sections and
whatever openings succeed: the addresses in use are configured and not unhealthy, the
unhealthy ones are configured, none is configured twice, and every link that was ever
opened is in use for its address, or closed, or in the hand of an operation. -/
theorem links_accounted (resolves : String → Bool) (destination : String)
    (settings : PoolSettings) (moves : List Move) :
    let c := (new destination settings).run resolves moves
    let p := c.site.pool
    (∀ uri ∈ p.active.keys, uri ∈ p.uris ∧ uri ∉ p.unhealthy) ∧
      (∀ uri ∈ p.unhealthy, uri ∈ p.uris) ∧
      p.uris.Nodup ∧
      ∀ e ∈ c.site.opened, ∃ link, c.site.links.get? e.2 = some link ∧
        (p.active.get? e.1 = some e.2 ∨ link.closed = true ∨
          ∃ task ∈ c.tasks, task.InHand Site.custody e) := by
  intro c p
  obtain ⟨held, hs, htasks⟩ := (orderly_new destination settings).run resolves moves
  refine ⟨?_, fun uri => hs.coherent.configured, hs.coherent.nodup, ?_⟩
  · intro uri h
    obtain ⟨link, hlink⟩ := (Dict.mem_keys_iff _ _).mp h
    exact hs.coherent.usable hlink
  · intro e he
    obtain ⟨link, hlink⟩ := Option.isSome_iff_exists.mp (hs.known e he)
    refine ⟨link, hlink, ?_⟩
    rcases hs.accounted e he with (hpooled | hclosed) | hheld
    · exact Or.inl hpooled
    · right
      left
      simpa [Links.isClosed, hlink] using hclosed
    · exact Or.inr (Or.inr (htasks.inHand hheld))

end Scene

end ServiceMesh
