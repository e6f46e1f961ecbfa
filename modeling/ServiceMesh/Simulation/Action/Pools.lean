import ServiceMesh.Simulation.Calls

/-!
# Actions on pools, fleets of pools and directories
-/

namespace ServiceMesh

open Document (text texts flag nat record ofOption)

/-- Something that is done with a pool. -/
inductive PoolAction where
  /-- Makes a pool. -/
  | create (destination : String) (settings : PoolSettings)
  /-- Takes an address out of use. -/
  | markUnhealthy (uri : String)
  /-- Closes every link. -/
  | close
  /-- Asks what is known about a candidate. -/
  | stats (candidate : String)
  /-- Asks for the settings. -/
  | look

/-- Something that is done with a fleet of pools. -/
inductive FleetAction where
  /-- Makes a fleet. -/
  | create (settings : PoolSettings)
  /-- Asks twice for the pool of a destination. -/
  | ensure (destination : String)
  /-- Asks whether there is a pool for a destination. -/
  | has (destination : String)
  /-- Removes the pool of a destination. -/
  | remove (destination : String)
  /-- One pass over all pools. -/
  | upkeep (directory : Option String)
  /-- Closes all pools. -/
  | closeAll
  /-- Asks for the destinations. -/
  | look

/-- Something that is done with a directory. -/
inductive DirectoryAction where
  /-- Makes a directory. -/
  | create (directory : Directory)
  /-- Sets the addresses of a name. -/
  | set (name : String) (uris : List String)
  /-- Drops a name. -/
  | remove (name : String)
  /-- Asks for the addresses of a name. -/
  | resolve (name : String)

/-! ## Pools -/

/-- Does something with a pool under a reference. -/
def PoolAction.runOn (ref : Nat) : PoolAction → Proc Document
  | create .. => .done .null
  | markUnhealthy uri => onPool ref fun p links => (.ok, p.markUnhealthy uri links)
  | close => onPool ref fun p links => (.ok, p.close links)
  | stats candidate => onPool ref fun p links =>
      (ofOption CandidateStats.toCountsDocument (p.balancer.statsOf? candidate), p, links)
  | look => onPool ref fun p links =>
      (record [("kind", text p.balancer.strategy.name),
        ("timeout_ms", nat p.settings.callTimeoutMs)], p, links)

/-- Does something with a named pool.  Only a pool with a name of its own can be made. -/
def PoolAction.run (name : PoolName) (action : PoolAction) : Proc Document :=
  match action, name with
  | .create destination settings, .own name => do
      Process.modifyWorld fun w =>
        { w with pools := (w.pools.addNamed name { pool := .new destination settings }).2 }
      return .ok
  | action, name => withNamed (World.findPool? · name) action.runOn

/-! ## Fleets -/

/-- Removes the pool of a destination and closes its links. -/
def removePool (fleet : Nat) (destination : String) : Proc Document := do
  match ← Process.readWorld fun w => (w.fleets.get? fleet).bind (·.get? destination) with
  | none => return .null
  | some ref => do
      Process.modifyWorld fun w =>
        { w with fleets := w.fleets.modify fleet (·.remove destination) }
      onPool ref fun p links =>
        let (p, links) := p.close links
        (World.viewPool p, p, links)

/-- Asks a fleet. -/
def askFleet (ref : Nat) (f : Fleet Nat → Document) : Proc Document :=
  withNamed (·.fleets.get? ref) fun fleet => .done (f fleet)

/-- Does something with a fleet under a reference. -/
def FleetAction.runOn (transports : List Transport) (ref : Nat) : FleetAction → Proc Document
  | create _ => .done .null
  | ensure destination => do
      let first ← Process.onWorld (poolOf ref destination)
      let second ← Process.onWorld (poolOf ref destination)
      return flag (first == second)
  | has destination => askFleet ref fun f => flag (f.get? destination).isSome
  | remove destination => removePool ref destination
  | upkeep directory => do
      let directory ← Process.readWorld fun w => directory.bind w.directories.find?
      upkeepFleet transports (fullWire transports) ref directory
      return .ok
  | closeAll => do
      closeFleet ref
      return .ok
  | look => askFleet ref fun f => texts f.destinations

/-- Does something with a named fleet. -/
def FleetAction.run (transports : List Transport) (name : String) (action : FleetAction) :
    Proc Document :=
  match action with
  | .create settings => do
      Process.modifyWorld fun w =>
        { w with fleets := (w.fleets.addNamed name { settings := settings }).2 }
      return text settings.strategy.name
  | action => withNamed (·.fleets.find? name) (action.runOn transports)

/-! ## Directories -/

/-- Changes a directory. -/
def onDirectory (ref : Nat) (f : Directory → Document × Directory) : Proc Document :=
  Process.onWorld fun w =>
    match w.directories.get? ref with
    | none => (.unknownName, w)
    | some d => ((f d).1, { w with directories := w.directories.set ref (f d).2 })

/-- The answer of a directory. -/
def viewLookup : Except String (Option (List String)) → Document
  | .ok uris => ofOption texts uris
  | .error reason => .failure "Discovery" reason

/-- Does something with a directory under a reference. -/
def DirectoryAction.runOn (ref : Nat) : DirectoryAction → Proc Document
  | create _ => .done .null
  | set name uris => onDirectory ref fun d => (.ok, d.set name uris)
  | remove name => onDirectory ref fun d => (ofOption texts (d.remove name).1, (d.remove name).2)
  | resolve name => onDirectory ref fun d => (viewLookup (d.resolve name), d)

/-- Does something with a named directory. -/
def DirectoryAction.run (name : String) (action : DirectoryAction) : Proc Document :=
  match action with
  | .create directory => do
      Process.modifyWorld fun w =>
        { w with directories := (w.directories.addNamed name directory).2 }
      return .ok
  | action => withNamed (·.directories.find? name) action.runOn

end ServiceMesh
