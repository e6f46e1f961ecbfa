import Mathlib.Logic.Relation
import ServiceMesh.Proofs.Concurrency.Leftovers
import ServiceMesh.Proofs.Concurrency.Runs
import ServiceMesh.Proofs.Pool.Operations

/-!
# Operations of a pool are made of its sections

Whatever an operation does to a site, it does by the acts of a pool, one after the other
(`Operation.spares`).  So in every run of every scene, the site goes from act to act
(`Scene.acted_run`), and what all acts of a pool keep holds of it.
-/

namespace ServiceMesh

open Relation (ReflTransGen)

namespace Site

open ServiceMesh.Fiber (Spares)

/-- A site after an act on its pool and its links.  Its nature, its line and its records may
change in any way. -/
def Acted (resolves : String → Bool) (s t : Site) : Prop :=
  ∃ act : Pool.Act, (t.pool, t.links) = act.apply resolves (s.pool, s.links)

/-- What leaves the pool alone is an act. -/
theorem Acted.of_pool_eq {resolves : String → Bool} {s t : Site} (h : t.pool = s.pool) :
    Acted resolves s t := by
  refine ⟨.relink t.links, ?_⟩
  rw [h]
  rfl

variable {resolves : String → Bool} {I : Site → Prop} {α : Type}

/-! ## The parts of operations -/

section

variable (hI : ∀ s t, Acted resolves s t → I s → I t)

include hI

theorem spares_atomically {f : Pool → Links → α × Pool × Links}
    (hf : ∀ p links, ∃ act : Pool.Act, (f p links).2 = act.apply resolves (p, links)) :
    Spares I ((host resolves).atomically f) := by
  constructor
  · intro s hs
    exact hI s _ (hf s.pool s.links) hs
  · intro _
    exact trivial

theorem spares_read (f : Pool → α) : Spares I ((host resolves).read f) := by
  apply spares_atomically hI
  intro _ links
  exact ⟨.relink links, rfl⟩

omit hI in
theorem spares_look (f : Site → α) : Spares I (Fiber.read f) := by
  constructor
  · intro _ hs
    exact hs
  · intro _
    exact trivial

theorem spares_openLink (uri : String) : Spares I ((host resolves).wire.openLink uri) := by
  constructor
  · intro s hs
    exact hI s _ (.of_pool_eq (pool_dial uri s)) hs
  · intro _
    exact trivial

theorem spares_inLine {body : Fiber Site α} (hbody : Spares I body) : Spares I (inLine body) := by
  constructor
  · intro s hs
    exact hI s _ (.of_pool_eq rfl) hs
  · intro _
    exact ⟨fun s hs => hI s _ (.of_pool_eq rfl) hs, hbody, fun _ => trivial⟩

/-! ## The opening of links -/

theorem spares_ensure (uri : String) : Spares I ((host resolves).ensure uri) := by
  apply (spares_atomically hI fun _ _ => ⟨.takeOpen uri, rfl⟩).bind
  intro found
  cases found with
  | some link => trivial
  | none =>
    apply (spares_openLink hI uri).bind
    intro opened
    cases opened with
    | ok link =>
      apply spares_atomically hI
      intro _ _
      exact ⟨.adopt uri link, rfl⟩
    | error fault =>
      apply (spares_atomically hI fun _ _ => ⟨.markUnhealthy uri, rfl⟩).bind
      intro _
      exact trivial

theorem spares_retry : Spares I (host resolves).retry := by
  apply (spares_read hI _).bind
  intro pending
  refine Spares.bind (Spares.all ?_) ?_
  · intro f hf
    obtain ⟨uri, -, rfl⟩ := List.mem_map.mp hf
    apply (spares_openLink hI uri).bind
    intro attempt
    cases attempt with
    | ok link => trivial
    | error fault => trivial
  · intro opened
    apply spares_atomically hI
    intro _ _
    exact ⟨.finishCheck (opened.filterMap id), rfl⟩

omit hI in
theorem spares_requestWithin (timeoutMs : Nat) (link : LinkId) (payload : Payload) :
    Spares I ((host resolves).wire.requestWithin timeoutMs link payload) := by
  refine Spares.bind (f := (host resolves).wire.within timeoutMs _) ?_ ?_
  · refine ⟨spares_look _, trivial, ?_⟩
    intro r
    cases r with
    | inl a => trivial
    | inr u => trivial
  · intro result
    cases result with
    | some result => trivial
    | none => trivial

theorem compositional_spares : Compositional resolves fun _ f => Spares I f where
  done _ := trivial
  bind := Spares.bind
  all := Spares.all
  atomically hf := spares_atomically hI fun p links => by
    rcases hf p links with hsame | ⟨act, -, hact⟩
    · exact ⟨.relink links, hsame⟩
    · exact ⟨act, hact⟩
  look := spares_look
  requestWithin := spares_requestWithin
  inLine := spares_inLine hI
  ensure := spares_ensure hI
  retry := spares_retry hI

end

end Site

/-- Every section of an operation is an act of the pool. -/
theorem Operation.spares {resolves : String → Bool} {I : Site → Prop}
    (hI : ∀ s t, Site.Acted resolves s t → I s → I t) (operation : Operation) :
    Fiber.Spares I (operation.run (Site.host resolves)) :=
  (Site.compositional_spares hI).operation operation

/-! ## Runs -/

namespace Scene

/-- What acts keep holds of the site of a scene, and the operations under way keep it. -/
def Abiding (I : Site → Prop) (c : Scene) : Prop :=
  I c.site ∧ Fiber.AllHeed (.ofInv I) c.tasks (fun _ _ => True) c.site

variable {resolves : String → Bool} {I : Site → Prop} {c : Scene}

theorem Abiding.move (hI : ∀ s t, Site.Acted resolves s t → I s → I t) (hc : c.Abiding I)
    (m : Move) : (c.move resolves m).Abiding I := by
  obtain ⟨hs, htasks⟩ := hc
  have hstable (k : Nat) : (Course.ofInv I).Stable fun _ => True := Fiber.stable_const True
  cases m with
  | start operation => exact ⟨hs, htasks.start ((operation.spares hI).abides c.site hs)⟩
  | turn task place =>
    obtain ⟨hs', -, htasks'⟩ := htasks.advanceAt hstable hs task place
    exact ⟨hs', htasks'⟩
  | shift nature =>
    have hs' : I { c.site with nature := nature } := hI c.site _ (.of_pool_eq rfl) hs
    exact ⟨hs', htasks.later hstable trivial hs'⟩
  | hangUp link =>
    have hs' : I { c.site with links := c.site.links.close link } :=
      hI c.site _ (.of_pool_eq rfl) hs
    exact ⟨hs', htasks.later hstable trivial hs'⟩

theorem Abiding.run (hI : ∀ s t, Site.Acted resolves s t → I s → I t) (hc : c.Abiding I)
    (moves : List Move) : (c.run resolves moves).Abiding I := by
  induction moves generalizing c with
  | nil => exact hc
  | cons m rest ih => exact ih (hc.move hI m)

/-- In every run of any number of operations, the site goes from act to act. -/
theorem acted_run (resolves : String → Bool) (destination : String) (settings : PoolSettings)
    (moves : List Move) :
    ReflTransGen (Site.Acted resolves) (new destination settings).site
      ((new destination settings).run resolves moves).site :=
  (Abiding.run (fun _ _ hact hs => hs.tail hact) ⟨.refl, .nil⟩ moves).1

end Scene

/-- A run of sections that are acts of a pool, among acts of others, goes from act to act. -/
theorem Site.acted_runs {resolves : String → Bool} {α : Type} {f : Fiber Site α}
    (hf : ∀ I : Site → Prop, (∀ s t, Acted resolves s t → I s → I t) → Fiber.Spares I f)
    {s t : Site} {a : α} (h : Fiber.Runs (Acted resolves) f s a t) :
    ReflTransGen (Acted resolves) s t := by
  have hkept (u v : Site) (hact : Acted resolves u v) :
      ReflTransGen (Acted resolves) s u → ReflTransGen (Acted resolves) s v := by
    intro hu
    exact hu.tail hact
  exact ((hf _ hkept).abides.runs hkept .refl h).1

end ServiceMesh
