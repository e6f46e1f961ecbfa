import ServiceMesh.Proofs.Concurrency.Courses
import ServiceMesh.Simulation.Wiring

/-!
# Calls over links

What a call over a link does depends on the other end of the link when the call begins.

Over a closed link every call fails where it stands (`FailsAtOnce`).  Over an open link the call
gets to the handler at the other end (`ReachesHandler`): the arrival is written down if the
handler keeps such a list, and the handler runs.  From then on the handler has the call *in
hand*.  Each turn of the call is a turn of the handler, and the call ends as the handler ends, or
because the handler still waits when the link is found closed (`inHand`, `carriedOn`).  In the
second case the handler is dropped.
-/

namespace ServiceMesh

variable {α β : Type}

/-! ## Closed links -/

/-- Calls over a link fail where they stand, because it is closed: nothing is changed, whatever
handlers would do. -/
structure FailsAtOnce (m : Machine World Job) (id : LinkId) (uri : String) : Prop where
  anyCall : ∀ {α : Type} (mode : Mode) (p : Payload) (inside : Handler → Proc (Except Fault α))
    (outside : Except Fault Payload → Except Fault α),
    Fiber.poll (callOver id mode p inside outside) m = (.done (.error (.connectionClosed uri)), m)
  request : ∀ transports depth p, Fiber.poll ((wire transports (depth + 1)).request id p) m
    = (.done (.error (.connectionClosed uri)), m)
  send : ∀ transports depth p, Fiber.poll ((wire transports (depth + 1)).send id p) m
    = (.done (.error (.connectionClosed uri)), m)
  stream : ∀ transports depth p, Fiber.poll ((wire transports (depth + 1)).stream id p) m
    = (.done (.error (.connectionClosed uri)), m)

/-- What begins with a look at the other end of a link goes on from what is there. -/
theorem poll_readFarEnd {m : Machine World Job} {id : LinkId} {far : FarEnd Handler}
    (h : m.world.network.farEnd id = far) (next : FarEnd Handler → Proc α) :
    Fiber.poll (Process.readWorld (fun w => w.network.farEnd id) >>= next) m
      = Fiber.poll (next far) m := by
  rw [← h]
  rfl

/-- Calls over a link that leads nowhere fail where they stand. -/
theorem failsAtOnce_of_closed {m : Machine World Job} {id : LinkId} {uri : String}
    (h : m.world.network.farEnd id = .closed uri) : FailsAtOnce m id uri where
  anyCall _ _ _ _ := poll_readFarEnd h _
  request _ _ _ := poll_readFarEnd h _
  send _ _ _ := poll_readFarEnd h _
  stream _ _ _ := (congrArg (Fiber.poll · m) (Fiber.bind_assoc _ _ _)).trans (poll_readFarEnd h _)

/-! ## Open links -/

/-- A world in which the arrival of a call is written down, if the handler keeps such a list. -/
def World.noting (name : String) (handler : Handler) (mode : Mode) (p : Payload) (w : World) :
    World :=
  if handler.notes mode then
    { w with received := w.received.insert name (w.received.getD name [] ++ [p]) }
  else w

/-- A call that a handler has in hand.  It ends with what is made of the handler's result, or of
a fault if the link closes before. -/
def inHand (id : LinkId) (uri : String) (finish : Except Fault α → β)
    (body : Proc (Except Fault α)) : Proc β :=
  Fiber.race body (Process.awaitWorld fun w => w.network.links.isClosed id) fun
    | .inl result => .done (finish result)
    | .inr () => .done (finish (.error (.connectionClosed uri)))

/-- What a turn of the handler makes of a call that it has in hand. -/
def carriedOn (id : LinkId) (uri : String) (finish : Except Fault α → β)
    (turn : Proc (Except Fault α) × Machine World Job) : Proc β × Machine World Job :=
  match Fiber.result? turn.1 with
  | some result => (.done (finish result), turn.2)
  | none =>
      if turn.2.world.network.links.isClosed id then
        (.done (finish (.error (.connectionClosed uri))), turn.1.drop turn.2)
      else (inHand id uri finish turn.1, turn.2)

/-- Each turn of a call is a turn of the handler that has it in hand. -/
theorem poll_inHand (id : LinkId) (uri : String) (finish : Except Fault α → β)
    (body : Proc (Except Fault α)) (m : Machine World Job) :
    Fiber.poll (inHand id uri finish body) m = carriedOn id uri finish (Fiber.poll body m) := by
  have hwatch : ∀ m' : Machine World Job,
      Fiber.poll (Process.awaitWorld fun w => w.network.links.isClosed id) m'
        = if m'.world.network.links.isClosed id then (.done (), m')
          else (Process.awaitWorld fun w => w.network.links.isClosed id, m') := fun _ => rfl
  rw [inHand, Fiber.poll, carriedOn]
  cases hresult : Fiber.result? (Fiber.poll body m).1 with
  | some result => rfl
  | none =>
    simp only [hwatch]
    cases hclosed : (Fiber.poll body m).2.world.network.links.isClosed id with
    | true => rfl
    | false => rfl

/-- A call over a link to an endpoint begins with its arrival there. -/
theorem poll_noteArrival (name : String) (handler : Handler) (mode : Mode) (p : Payload)
    (body : Proc α) (m : Machine World Job) :
    Fiber.poll (noteArrival name handler mode p >>= fun _ => body) m
      = Fiber.poll body (m.mapWorld (World.noting name handler mode p)) := by
  unfold noteArrival World.noting
  cases handler.notes mode with
  | true => rfl
  | false => rfl

/-- Calls over a link get to a handler.  The first turn of a call is the first turn of the
handler, after the arrival was written down, and each later turn is one of the handler too. -/
structure ReachesHandler (m : Machine World Job) (id : LinkId) (name : String) (handler : Handler)
    (uri : String) : Prop where
  anyCall : ∀ {α : Type} (mode : Mode) (p : Payload) (inside : Handler → Proc (Except Fault α))
    (outside : Except Fault Payload → Except Fault α),
    Fiber.poll (callOver id mode p inside outside) m = carriedOn id uri (fun result => result)
      (Fiber.poll (inside handler) (m.mapWorld (World.noting name handler mode p)))
  request : ∀ transports depth p, Fiber.poll ((wire transports (depth + 1)).request id p) m
    = carriedOn id uri (fun result => result)
      (Fiber.poll (answer transports (wire transports depth) handler p)
        (m.mapWorld (World.noting name handler .response p)))
  send : ∀ transports depth p, Fiber.poll ((wire transports (depth + 1)).send id p) m
    = carriedOn id uri (fun result => result)
      (Fiber.poll (accept transports (wire transports depth) handler p)
        (m.mapWorld (World.noting name handler .forget p)))
  stream : ∀ transports depth p, Fiber.poll ((wire transports (depth + 1)).stream id p) m
    = carriedOn id uri (fun result => result.map fun r => r.across id)
      (Fiber.poll (answerStream transports (wire transports depth) handler p)
        (m.mapWorld (World.noting name handler .stream p)))
  later : ∀ {α β : Type} (finish : Except Fault α → β) (body : Proc (Except Fault α))
    (m' : Machine World Job),
    Fiber.poll (inHand id uri finish body) m' = carriedOn id uri finish (Fiber.poll body m')

/-- What is made of a call over a link to an endpoint: the handler there has it in hand. -/
theorem poll_callOver {m : Machine World Job} {id : LinkId} {name : String} {handler : Handler}
    {uri : String} (h : m.world.network.farEnd id = .endpoint name handler uri) (mode : Mode)
    (p : Payload) (inside : Handler → Proc (Except Fault α))
    (outside : Except Fault Payload → Except Fault α) (finish : Except Fault α → β) :
    Fiber.poll (callOver id mode p inside outside >>= fun result => .done (finish result)) m
      = carriedOn id uri finish
        (Fiber.poll (inside handler) (m.mapWorld (World.noting name handler mode p))) := by
  let arriving : Proc (Except Fault α) := do
    noteArrival name handler mode p
    inside handler
  have hrest : Fiber.poll (callOver id mode p inside outside >>= fun r => .done (finish r)) m
      = Fiber.poll (inHand id uri finish arriving) m := by
    unfold callOver
    rw [Fiber.bind_assoc, poll_readFarEnd h]
    refine congrArg (Fiber.poll · m) (congrArg (Fiber.race arriving _) (funext ?_))
    intro ended
    cases ended with
    | inl result => rfl
    | inr closed => rfl
  rw [hrest, poll_inHand, poll_noteArrival]

/-- Calls over a link to an endpoint get to the handler there. -/
theorem reachesHandler_of_endpoint {m : Machine World Job} {id : LinkId} {name : String}
    {handler : Handler} {uri : String}
    (h : m.world.network.farEnd id = .endpoint name handler uri) :
    ReachesHandler m id name handler uri := by
  have hcall : ∀ {α : Type} (mode : Mode) (p : Payload) (inside : Handler → Proc (Except Fault α))
      (outside : Except Fault Payload → Except Fault α),
      Fiber.poll (callOver id mode p inside outside) m = carriedOn id uri (fun result => result)
        (Fiber.poll (inside handler) (m.mapWorld (World.noting name handler mode p))) := by
    intro α mode p inside outside
    have hbound := poll_callOver h mode p inside outside fun result => result
    rwa [Fiber.bind_done] at hbound
  constructor
  · exact hcall
  · intro transports depth p
    exact hcall .response p _ _
  · intro transports depth p
    exact hcall .forget p _ _
  · intro transports depth p
    exact poll_callOver h .stream p _ _ _
  · exact poll_inHand id uri

end ServiceMesh
