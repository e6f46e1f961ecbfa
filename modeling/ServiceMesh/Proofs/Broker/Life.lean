import ServiceMesh.Proofs.Broker.Pruning

/-!
# The life of a broker

Whatever happens to the routes of a broker is a list of moves: the broker acts by a deed, hears
an event of another broker, or follows a change of the members.  A move leaves the table
consistent and the broker where it is (`Home.Settled.move`), so they are so after any moves
(`Home.Settled.run`).

A provider that is connected here, or not known, is touched by the moves about it alone
(`Home.Settled.get?_move_of_not_about`).
-/

namespace ServiceMesh

namespace Home

/-- What can happen to the routes of a broker. -/
inductive Move where
  /-- The broker does something about a provider of its own. -/
  | act (deed : Deed)
  /-- The broker hears an event. -/
  | hear (event : Event)
  /-- The broker follows a change of the members. -/
  | follow (change : MembershipChange)

/-- A move is about a provider. -/
def Move.About (id : Uuid) : Move → Prop
  | act deed => deed.subject = id
  | hear event => event.subject? = some id
  | follow _ => False

/-- What becomes of a broker by a move. -/
def move (h : Home) : Move → Home
  | .act deed => h.perform deed
  | .hear event => h.hear event
  | .follow change => (((host h.uri).follow change).run h).2

/-- What becomes of a broker by moves one after the other. -/
def run (h : Home) (moves : List Move) : Home := moves.foldl move h

/-- Moves are made one after the other. -/
theorem run_append (h : Home) (moves more : List Move) :
    h.run (moves ++ more) = (h.run moves).run more := List.foldl_append

/-- The broker is in order, and its table is consistent. -/
structure Settled (h : Home) : Prop where
  inOrder : h.InOrder
  consistent : h.table.Consistent

/-- A new broker is settled. -/
theorem settled_new (uri localApp : String) : (new uri localApp).Settled where
  inOrder := inOrder_new uri localApp
  consistent := RouteTable.consistent_empty

variable {h : Home} {id : Uuid}

/-- A broker stays settled through its own deeds. -/
theorem Settled.act (hs : h.Settled) (deed : Deed) : (h.perform deed).Settled where
  inOrder := (hs.inOrder.perform deed).inOrder
  consistent := (reaches_perform deed h).consistent hs.consistent

/-- A broker stays settled whatever it hears. -/
theorem Settled.hear (hs : h.Settled) (event : Event) : (h.hear event).Settled where
  inOrder := hs.inOrder.hear event
  consistent := (reaches_hear event h).consistent hs.consistent

/-- A broker stays settled when it prunes. -/
theorem Settled.prune (hs : h.Settled) (uri : String) :
    (h.withTable (Broker.pruneSection uri h.table).2.1).Settled := by
  have hconsistent := (h.table.reaches_prune uri).consistent hs.consistent
  exact ⟨hs.inOrder.withTable hconsistent.keyed, hconsistent⟩

/-- A broker stays settled at every move. -/
theorem Settled.move (hs : h.Settled) (mv : Move) : (h.move mv).Settled := by
  cases mv with
  | act deed => exact hs.act deed
  | hear event => exact hs.hear event
  | follow change =>
    cases change with
    | added info =>
      rw [Home.move, follow_added]
      exact hs
    | removed info reason =>
      rw [Home.move, follow_removed]
      exact hs.prune info.url

/-- A broker is settled after any moves. -/
theorem Settled.run (hs : h.Settled) (moves : List Move) : (h.run moves).Settled := by
  induction moves generalizing h with
  | nil => exact hs
  | cons mv rest ih => exact ih (hs.move mv)

/-- No move changes the address of a broker. -/
theorem Settled.uri_move (hs : h.Settled) (mv : Move) : (h.move mv).uri = h.uri := by
  cases mv with
  | act deed => exact (hs.inOrder.perform deed).uri
  | hear event => exact uri_hear event h
  | follow change =>
    cases change with
    | added info => rw [Home.move, follow_added]
    | removed info reason => rw [Home.move, follow_removed, withTable]

theorem Settled.uri_run (hs : h.Settled) (moves : List Move) : (h.run moves).uri = h.uri := by
  induction moves generalizing h with
  | nil => rfl
  | cons mv rest ih => exact (ih (hs.move mv)).trans (hs.uri_move mv)

/-- A provider that is reached over a link, or not known, is not touched by a move that is not
about it. -/
theorem Settled.get?_move_of_not_about (hs : h.Settled)
    (hhere : ∀ r, h.table.get? id = some r → r.isRemote = false) {mv : Move} (hmv : ¬mv.About id) :
    (h.move mv).table.get? id = h.table.get? id := by
  cases mv with
  | act deed => exact ((hs.inOrder.perform deed).table id).trans (if_neg hmv)
  | hear event => exact (get?_hear hs.inOrder event id).trans (if_neg hmv)
  | follow change =>
    cases change with
    | added info => rw [Home.move, follow_added]
    | removed info reason =>
      rw [Home.move, follow_removed]
      apply Option.ext
      intro r
      refine (hs.consistent.get?_prune info.url id r).trans ?_
      apply and_iff_left_of_imp
      intro hget hroute
      have hdirect := hhere r hget
      rw [Responder.isRemote, hroute] at hdirect
      cases hdirect

end Home

end ServiceMesh
