import ServiceMesh.Event

/-!
# The event bus

Handlers subscribe to types of events.  An envelope is read once for each handler of
its type, and the handlers run in the order in which they subscribed.  An envelope
that nobody wants, or that cannot be read, changes nothing.  What a bus publishes is
first handled here and then passed to the broadcaster.
-/

namespace ServiceMesh

/-- A bus whose handlers are `η` and whose broadcasters are `β`. -/
structure EventBus (η β : Type) where
  /-- Who publishes. -/
  source : String
  /-- The handlers with the types they want, in order. -/
  handlers : List (EventType × η) := []
  /-- Where published events go. -/
  broadcaster : Option β := none

namespace EventBus

variable {η β : Type}

/-- Adds a handler. -/
def subscribe (b : EventBus η β) (t : EventType) (handler : η) : EventBus η β :=
  { b with handlers := b.handlers ++ [(t, handler)] }

/-- The handlers for a type by name. -/
def handlersOf (b : EventBus η β) (eventType : String) : List (EventType × η) :=
  b.handlers.filter fun h => h.1.wireName == eventType

/-- Whether somebody wants a type by name. -/
def hasHandlers (b : EventBus η β) (eventType : String) : Bool := !(b.handlersOf eventType).isEmpty

end EventBus

/-- What a bus asks of its surroundings. -/
structure BusHost (m : Type → Type u) (η β : Type) where
  /-- The bus. -/
  bus : m (EventBus η β)
  /-- Runs a handler. -/
  run : η → Event → m Unit
  /-- Passes an envelope to a broadcaster. -/
  broadcast : β → Envelope → m Unit
  /-- The id and the time of a new envelope. -/
  stamp : m (Uuid × UInt64)

namespace BusHost

variable {m : Type → Type u} [Monad m] {η β : Type}

/-- Runs handlers on an envelope, and counts those that could read it. -/
def runAll (h : BusHost m η β) (envelope : Envelope) : List (EventType × η) → m Nat
  | [] => return 0
  | (t, handler) :: rest => do
      match envelope.unwrap t with
      | .ok event => do
          h.run handler event
          return (← h.runAll envelope rest) + 1
      | .error _ => h.runAll envelope rest

/-- Handles an envelope, and counts the handlers that ran. -/
def dispatch (h : BusHost m η β) (envelope : Envelope) : m Nat := do
  h.runAll envelope ((← h.bus).handlersOf envelope.eventType)

/-- Publishes an event, and gives its envelope. -/
def publish (h : BusHost m η β) (event : Event) : m Envelope := do
  let (id, timeMs) ← h.stamp
  let envelope := Envelope.wrap id timeMs (← h.bus).source event
  let _ ← h.dispatch envelope
  match (← h.bus).broadcaster with
  | some broadcaster => h.broadcast broadcaster envelope
  | none => pure ()
  return envelope

end BusHost

end ServiceMesh
