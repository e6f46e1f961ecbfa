import ServiceMesh.Pool.Calls
import ServiceMesh.Concurrency.Fiber
import ServiceMesh.Proofs.Pool.Addresses

/-!
# What the opening of links is made of

Whoever has a pool open links puts the opening together from a few pieces: sections that leave
the addresses of the pool alone, attempts to open a link, and several openings side by side.
A property of fibers that all of these have and that composition keeps (`PoolHost.Opening`) is
one of the opening of a link (`Opening.ensure`), of what follows once the addresses of a pool
are set (`Opening.eager`), and of a round in which unhealthy addresses are tried again
(`Opening.retry`).
-/

namespace ServiceMesh

namespace PoolHost

variable {σ : Type}

/-- A property of fibers that holds of all that the opening of links is made of. -/
structure Opening (h : PoolHost (Fiber σ)) (P : ⦃α : Type⦄ → Fiber σ α → Prop) : Prop where
  done : ∀ {α : Type} (a : α), P (pure a)
  bind : ∀ {α β : Type} {f : Fiber σ α} {g : α → Fiber σ β}, P f → (∀ a, P (g a)) → P (f >>= g)
  all : ∀ {α : Type} {fs : List (Fiber σ α)}, (∀ f ∈ fs, P f) → P (h.wire.all fs)
  openLink : ∀ uri, P (h.wire.openLink uri)
  atomically : ∀ {α : Type} {f : Pool → Links → α × Pool × Links}, Pool.Plain f →
    P (h.atomically f)

namespace Opening

variable {h : PoolHost (Fiber σ)} {P : ⦃α : Type⦄ → Fiber σ α → Prop}

theorem ensure (hP : h.Opening P) (uri : String) : P (h.ensure uri) := by
  apply hP.bind (hP.atomically (Pool.plain_takeOpen uri))
  intro found
  cases found with
  | some link => exact hP.done _
  | none =>
    apply hP.bind (hP.openLink uri)
    intro opened
    cases opened with
    | ok link => exact hP.atomically (Pool.plain_adopt uri link)
    | error fault =>
      apply hP.bind (hP.atomically (Pool.plain_markUnhealthy uri))
      intro _
      exact hP.done _

/-- What follows the setting of addresses: new ones may be opened at once. -/
theorem eager (hP : h.Opening P) (summary : RefreshSummary) :
    P (do
      if ← h.read (·.settings.eagerConnect) then
        let _ ← h.wire.all (summary.added.map h.ensure)
      return summary : Fiber σ RefreshSummary) := by
  apply hP.bind (hP.atomically (Pool.plain_read _))
  intro eager
  cases eager with
  | false => exact hP.done _
  | true =>
    refine hP.bind (hP.all ?_) fun _ => hP.done _
    intro f hf
    obtain ⟨uri, -, rfl⟩ := List.mem_map.mp hf
    exact hP.ensure uri

theorem retry (hP : h.Opening P) : P h.retry := by
  apply hP.bind (hP.atomically (Pool.plain_read _))
  intro pending
  refine hP.bind (hP.all ?_) fun opened => hP.atomically (Pool.plain_finishCheck _)
  intro f hf
  obtain ⟨uri, -, rfl⟩ := List.mem_map.mp hf
  apply hP.bind (hP.openLink uri)
  intro attempt
  cases attempt with
  | ok link => exact hP.done _
  | error fault => exact hP.done _

end Opening

end PoolHost

end ServiceMesh
