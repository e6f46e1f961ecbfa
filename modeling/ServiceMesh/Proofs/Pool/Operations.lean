import ServiceMesh.Proofs.Pool.Reports
import ServiceMesh.Proofs.Pool.Site

/-!
# What operations of a pool are made of

The operations of a pool are put together from a few pieces: sections that take no new link
into use, looks at the surroundings, calls that wait for a reply, and the two ways of opening
links, for one address (`PoolHost.ensure`) and in a round of tries (`PoolHost.retry`).  Only the
latter two have a link in hand between two sections.

A property of fibers that all of these have, and that composition keeps, is one of every
operation (`Site.Compositional.operation`).
-/

namespace ServiceMesh

namespace Pool

/-- A section of the pool itself that takes no new link into use. -/
def Act.Ordinary : Act → Prop
  | adopt _ _ => False
  | finishCheck _ => False
  | relink _ => False
  | _ => True

/-- A section that only reads, or does what an ordinary one does. -/
def Ordinary {α : Type} (resolves : String → Bool) (f : Pool → Links → α × Pool × Links) : Prop :=
  ∀ p links, (f p links).2 = (p, links) ∨
    ∃ act : Act, act.Ordinary ∧ (f p links).2 = act.apply resolves (p, links)

/-- Whatever a section of the pool itself does is careful. -/
theorem Act.careful (resolves : String → Bool) {act : Act} (h : ∀ links, act ≠ .relink links)
    (s : Pool × Links) : Careful s (act.apply resolves s) := by
  cases act with
  | setUris uris => exact careful_setUris resolves uris s.1 s.2
  | startCall uri => exact careful_startCall uri s.1 s.2
  | finishCall uri latencyMs result => exact careful_finishCall uri latencyMs result s.1 s.2
  | markUnhealthy uri => exact careful_markUnhealthy uri s.1 s.2
  | finishCheck opened => exact careful_finishCheck opened s.1 s.2
  | takeOpen uri => exact careful_takeOpen uri s.1 s.2
  | adopt uri link => exact careful_adopt uri link s.1 s.2
  | choose draw fingerprint candidates => exact careful_choose draw fingerprint candidates s.1 s.2
  | close => exact careful_close s.1 s.2
  | relink links => exact absurd rfl (h links)

theorem Ordinary.careful {α : Type} {resolves : String → Bool}
    {f : Pool → Links → α × Pool × Links} (hf : Ordinary resolves f) (p : Pool) (links : Links) :
    Careful (p, links) (f p links).2 := by
  rcases hf p links with hsame | ⟨act, hact, hsame⟩
  · rw [hsame]
    exact Careful.refl _
  · rw [hsame]
    refine act.careful resolves ?_ _
    intro links' h
    subst h
    exact hact

end Pool

/-- A property of fibers that holds of all that operations of a pool are made of. -/
structure Site.Compositional (resolves : String → Bool) (P : ⦃α : Type⦄ → Fiber Site α → Prop) :
    Prop where
  done : ∀ {α : Type} (a : α), P (pure a)
  bind : ∀ {α β : Type} {f : Fiber Site α} {g : α → Fiber Site β}, P f → (∀ a, P (g a)) →
    P (f >>= g)
  all : ∀ {α : Type} {fs : List (Fiber Site α)}, (∀ f ∈ fs, P f) → P (Fiber.all fs)
  atomically : ∀ {α : Type} {f : Pool → Links → α × Pool × Links}, Pool.Ordinary resolves f →
    P ((host resolves).atomically f)
  look : ∀ {α : Type} (f : Site → α), P (Fiber.read f)
  requestWithin : ∀ timeoutMs link payload,
    P ((host resolves).wire.requestWithin timeoutMs link payload)
  inLine : ∀ {α : Type} {body : Fiber Site α}, P body → P (inLine body)
  ensure : ∀ uri, P ((host resolves).ensure uri)
  retry : P (host resolves).retry

namespace Site.Compositional

variable {resolves : String → Bool} {P : ⦃α : Type⦄ → Fiber Site α → Prop} {α : Type}
  (hP : Compositional resolves P)

include hP

theorem change (act : Pool.Act) (hact : act.Ordinary) :
    P ((host resolves).change fun p links => act.apply resolves (p, links)) := by
  apply hP.atomically
  intro _ _
  exact .inr ⟨act, hact, rfl⟩

theorem read (f : Pool → α) : P ((host resolves).read f) := by
  apply hP.atomically
  intro _ _
  exact .inl rfl

theorem refresh (uris : List String) : P ((host resolves).refresh uris) := by
  refine hP.inLine (hP.bind (hP.atomically fun _ _ =>
    .inr ⟨.setUris uris, trivial, rfl⟩) ?_)
  intro summary
  apply hP.bind (hP.read _)
  intro eager
  cases eager with
  | false => exact hP.done _
  | true =>
    refine hP.bind (hP.all ?_) fun _ => hP.done _
    intro f hf
    obtain ⟨uri, -, rfl⟩ := List.mem_map.mp hf
    exact hP.ensure uri

theorem exhausted : P ((host resolves).exhausted : Fiber Site (Except Fault α)) := by
  apply hP.bind (hP.read _)
  intro _
  exact hP.done _

theorem firstOf (fingerprint : Option Bytes) (fuel : Nat) (candidates : List String) :
    P ((host resolves).firstOf fingerprint fuel candidates) := by
  induction fuel generalizing candidates with
  | zero => exact hP.exhausted
  | succ fuel ih =>
    apply hP.bind (hP.look _)
    intro draw
    apply hP.bind (hP.atomically fun _ _ =>
        .inr ⟨.choose draw fingerprint candidates, trivial, rfl⟩)
    intro choice
    cases choice with
    | none => exact hP.exhausted
    | some uri =>
      apply hP.bind (hP.ensure uri)
      intro result
      cases result with
      | ok link => exact hP.done _
      | error fault => exact ih _

theorem connection (fingerprint : Option Bytes) : P ((host resolves).connection fingerprint) := by
  apply hP.bind (hP.read _)
  intro candidates
  exact hP.firstOf fingerprint _ candidates

theorem connectionTo (uri : String) : P ((host resolves).connectionTo uri) := by
  apply hP.bind (hP.read _)
  intro usable
  cases usable with
  | true => exact hP.ensure uri
  | false =>
    apply hP.bind (hP.read _)
    intro _
    exact hP.done _

/-- A call over a link that is timed. -/
theorem timed (timeoutMs : Nat) (link : LinkId) (payload : Payload) :
    P ((host resolves).timed ((host resolves).wire.requestWithin timeoutMs link payload)) := by
  apply hP.bind (hP.requestWithin timeoutMs link payload)
  intro _
  apply hP.bind (hP.look _)
  intro _
  exact hP.done _

theorem call (uri : String) (link : LinkId) (payload : Payload) :
    P ((host resolves).call uri link payload) := by
  apply hP.bind (hP.change (.startCall uri) trivial)
  intro _
  apply hP.bind (hP.read _)
  intro timeoutMs
  apply hP.bind (hP.timed timeoutMs link payload)
  intro measured
  apply hP.bind (hP.change (.finishCall uri measured.2 measured.1) trivial)
  intro _
  exact hP.done _

theorem request (payload : Payload) (fingerprint : Option Bytes) :
    P ((host resolves).request payload fingerprint) := by
  apply hP.bind (hP.connection fingerprint)
  intro result
  cases result with
  | ok e => exact hP.call e.1 e.2 payload
  | error fault => exact hP.done _

theorem requestTo (uri : String) (payload : Payload) :
    P ((host resolves).requestTo uri payload) := by
  apply hP.bind (hP.connectionTo uri)
  intro result
  cases result with
  | ok link => exact hP.call uri link payload
  | error fault => exact hP.done _

/-- The end of a send. -/
theorem report (uri : String) (result : Except Fault Unit) :
    P (do
      if Pool.failed result then (host resolves).change (Pool.markUnhealthy uri)
      return (uri, result) : Fiber Site (String × Except Fault Unit)) := by
  cases Pool.failed result with
  | false => exact hP.done _
  | true =>
    apply hP.bind (hP.change (.markUnhealthy uri) trivial)
    intro _
    exact hP.done _

theorem sendTo (payload : Payload) (uri : String) : P ((host resolves).sendTo payload uri) := by
  apply hP.bind (hP.ensure uri)
  intro found
  cases found with
  | ok link =>
    apply hP.bind (hP.look _)
    intro result
    exact hP.report uri result
  | error fault => exact hP.report uri (.error fault)

theorem broadcast (payload : Payload) : P ((host resolves).broadcast payload) := by
  apply hP.bind (hP.read _)
  intro candidates
  apply hP.all
  intro f hf
  obtain ⟨uri, -, rfl⟩ := List.mem_map.mp hf
  exact hP.sendTo payload uri

/-- What holds of the pieces holds of every operation. -/
theorem operation (operation : Operation) : P (operation.run (host resolves)) := by
  cases operation with
  | refresh uris =>
    apply hP.bind (hP.refresh uris)
    intro _
    exact hP.done _
  | markUnhealthy uri => exact hP.change (.markUnhealthy uri) trivial
  | retry =>
    apply hP.bind hP.retry
    intro _
    exact hP.done _
  | connection fingerprint =>
    apply hP.bind (hP.connection fingerprint)
    intro _
    exact hP.done _
  | connectionTo uri =>
    apply hP.bind (hP.connectionTo uri)
    intro _
    exact hP.done _
  | request payload fingerprint =>
    apply hP.bind (hP.request payload fingerprint)
    intro _
    exact hP.done _
  | requestTo uri payload =>
    apply hP.bind (hP.requestTo uri payload)
    intro _
    exact hP.done _
  | call uri link payload =>
    apply hP.bind (hP.call uri link payload)
    intro _
    exact hP.done _
  | broadcast payload =>
    apply hP.bind (hP.broadcast payload)
    intro _
    exact hP.done _
  | close => exact hP.change .close trivial

end Site.Compositional

end ServiceMesh
