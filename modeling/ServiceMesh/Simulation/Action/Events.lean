import ServiceMesh.Simulation.Calls

/-!
# Actions on event buses
-/

namespace ServiceMesh

open Document (text flag nat ofOption)

/-- The objects on which the consumers of a new bus act, by name. -/
structure ConsumerSetup where
  /-- The route table. -/
  table : String
  /-- The fleet of pools. -/
  fleet : String
  /-- The name to which settings must be addressed. -/
  app : String
  /-- Where the broker is reached. -/
  selfUri : Option String := none
deriving DecidableEq, Repr

/-- Something that is done with a bus. -/
inductive BusAction where
  /-- Makes a bus, with consumers or without. -/
  | create (source : String) (consumers : Option ConsumerSetup)
  /-- Adds a handler that writes events down under a tag. -/
  | subscribe (type : EventType) (tag : String)
  /-- Asks whether somebody wants a type. -/
  | has (typeName : String)
  /-- Sets or clears a broadcaster that writes down what is sent. -/
  | record (isOn : Bool)
  /-- Publishes an event. -/
  | publish (event : Event)
  /-- Handles an envelope and counts the handlers. -/
  | dispatch (envelope : Envelope)
  /-- Takes in an envelope. -/
  | deliver (envelope : Envelope)
  /-- Sets one of the settings of the consumers. -/
  | setConfig (key value : String)
  /-- Asks for one of the settings of the consumers. -/
  | getConfig (key : String)
  /-- Drops settings of the consumers. -/
  | dropConfig (keys : List String)
  /-- Only looks. -/
  | look

/-- A bus whose consumers hear every type of event. -/
def consumingBus (source : String) : EventBus EventHandler Broadcaster :=
  EventType.all.foldl (fun b t => b.subscribe t .consume) { source := source }

/-- The consumers of a new bus, if their objects are there. -/
def ConsumerSetup.build? (s : ConsumerSetup) (w : World) : Option ConsumerObject := do
  return {
    state := { localApp := s.app, selfUri := s.selfUri }
    table := ← w.tables.find? s.table
    fleet := ← w.fleets.find? s.fleet }

/-- A new bus, if the objects of its consumers are there. -/
def buildBus? (source : String) (consumers : Option ConsumerSetup) (w : World) :
    Option BusObject :=
  match consumers with
  | none => some { bus := { source := source } }
  | some s => (s.build? w).map fun c => { bus := consumingBus source, consumers := some c }

/-- Changes the settings of the consumers of a bus. -/
def changeConfig (ref : Nat) (f : Dict String String → Dict String String) : Proc Document := do
  let change (c : ConsumerObject) : ConsumerObject :=
    { c with state := { c.state with config := f c.state.config } }
  onBus ref fun o => { o with consumers := o.consumers.map change }
  return .ok

/-- Does something with a bus under a reference. -/
def BusAction.runOn (transports : List Transport) (ref : Nat) : BusAction → Proc Document
  | create .. => .done .null
  | subscribe type tag => do
      onBus ref fun o => { o with bus := o.bus.subscribe type (.note tag) }
      return .ok
  | has typeName => Process.readWorld fun w =>
      flag (((w.buses.get? ref).map fun o => o.bus.hasHandlers typeName).getD false)
  | record isOn => do
      onBus ref fun o => { o with
        bus := { o.bus with broadcaster := if isOn then some .recorder else none } }
      return .ok
  | publish event => do
      return World.viewEnvelope (← publishOn transports (fullWire transports) ref event)
  | dispatch envelope => do
      return nat (← dispatchOn transports (fullWire transports) ref envelope)
  | deliver envelope => do
      let _ ← dispatchOn transports (fullWire transports) ref envelope
      return .ok
  | setConfig key value => changeConfig ref (·.insert key value)
  | getConfig key => Process.readWorld fun w =>
      ofOption text (((w.buses.get? ref).bind (·.consumers)).bind (·.state.config.get? key))
  | dropConfig keys => changeConfig ref (dropSettings · keys)
  | look => .done .null

/-- Does something with a named bus. -/
def BusAction.run (transports : List Transport) (name : String) (action : BusAction) :
    Proc Document :=
  match action with
  | .create source consumers => withNamed (buildBus? source consumers) fun bus => do
      Process.modifyWorld fun w => { w with buses := (w.buses.addNamed name bus).2 }
      return .ok
  | action => withNamed (·.buses.find? name) (action.runOn transports)

end ServiceMesh
