import ServiceMesh.Simulation.Calls

/-!
# Actions on route tables and routers
-/

namespace ServiceMesh

open Document (text texts flag nat list ofOption ofExcept)

/-- How a provider is said to be reached: over a named link, or through a broker. -/
inductive Reach where
  | linked (conn : String)
  | via (brokerUri : String)
deriving DecidableEq, Repr

/-- Something that is done with a route table. -/
inductive TableAction where
  /-- Makes a table. -/
  | create
  /-- Registers services of a provider. -/
  | register (app : AppMetadata) (services : List Locator) (reach : Reach)
  /-- Registers services of a provider and has it serve. -/
  | expose (app : AppMetadata) (services : List Locator) (reach : Reach)
  /-- Withdraws services of a provider. -/
  | unregister (instanceId : Uuid) (services : List Locator)
  /-- Withdraws services of a provider, which may go down for it. -/
  | hide (instanceId : Uuid) (services : List Locator)
  /-- Removes a provider. -/
  | remove (instanceId : Uuid)
  /-- Sets the status of a provider. -/
  | setStatus (instanceId : Uuid) (status : AppStatus)
  /-- Asks who exposes a service with a hash. -/
  | withHash (hash : UInt32)
  /-- Asks who serves a service with a hash. -/
  | servingHash (hash : UInt32)
  /-- Asks for the providers of an application. -/
  | ofApp (name : String)
  /-- Asks for one provider. -/
  | get (instanceId : Uuid)
  /-- Asks for the applications that serve a service. -/
  | instances (gsv : String)
  /-- Only looks. -/
  | look

/-- The settings of a new router. -/
structure RouterSetup where
  /-- The table that it reads. -/
  table : String
  /-- How a responder is chosen. -/
  strategy : Strategy := .roundRobin
  /-- How often a choice by statistics is left to chance. -/
  exploration : Float := 0.0
  /-- The pool of links to other brokers. -/
  peers : Option String := none
  /-- How long a call may take. -/
  callTimeoutMs : Nat := 1000
  /-- Whether all calls are sticky. -/
  sticky : Bool := false
  /-- The id of the broker. -/
  brokerId : String := "b1"

/-- Something that is done with a router. -/
inductive RouterAction where
  /-- Makes a router. -/
  | create (setup : RouterSetup)
  /-- Asks which responder a call would reach. -/
  | resolve (payload : Payload)
  /-- Forgets what is kept for a routing hash. -/
  | invalidate (hash : UInt32)
  /-- Asks for the name of the strategy. -/
  | kind
  /-- Asks what is known about a candidate. -/
  | stats (candidate : String)

/-! ## Route tables -/

/-- The route of a provider, if the link has the name. -/
def Reach.route? (w : World) : Reach → Option Route
  | linked conn => (w.conns.get? conn).map .direct
  | via uri => some (.peer uri)

/-- Puts a provider into a table, and shows the responder that is in it now. -/
def putProvider (ref : Nat) (app : AppMetadata) (reach : Reach)
    (put : RouteTable → Responder → Responder × RouteTable × List RouteChange) : Proc Document :=
  withNamed reach.route? fun route => do
    let r ← onTable ref fun t => put t { app := app, route := route }
    Process.readWorld fun w => w.viewResponder r

/-- Asks a table. -/
def askTable (ref : Nat) (f : World → RouteTable → Document) : Proc Document :=
  Process.readWorld fun w => f w (tableOf ref w)

/-- The ids of responders. -/
def viewKeys (rs : List Responder) : Document := texts (rs.map Responder.key)

/-- Does something with a table under a reference. -/
def TableAction.runOn (ref : Nat) : TableAction → Proc Document
  | create => .done .null
  | register app services reach => putProvider ref app reach fun t r => t.register r services
  | expose app services reach => putProvider ref app reach fun t r => t.expose r services
  | unregister id services => do
      return World.viewLocators (← onTable ref fun t => t.unregister id services)
  | hide id services => do return World.viewLocators (← onTable ref fun t => t.hide id services)
  | remove id => do
      let gone ← onTable ref fun t => t.remove id
      Process.readWorld fun w => ofOption w.viewResponder gone
  | setStatus id status => do
      return ofOption AppStatus.toDocument (← onTable ref fun t => t.setStatus id status)
  | withHash hash => askTable ref fun _ t => viewKeys (t.withHash hash)
  | servingHash hash => askTable ref fun _ t => viewKeys (t.servingHash hash)
  | ofApp name => askTable ref fun _ t => viewKeys (t.ofApp name)
  | get id => askTable ref fun w t => ofOption w.viewResponder (t.get? id)
  | instances gsv => askTable ref fun _ t => list ((t.instances gsv).map AppMetadata.toDocument)
  | look => .done .null

/-- Does something with a named table.  A new table has two observers and no
responder. -/
def TableAction.run (name : String) (action : TableAction) : Proc Document :=
  match action with
  | .create => do
      Process.modifyWorld fun w => { w with tables := (w.tables.addNamed name {}).2 }
      return list [nat 2, nat 0]
  | action => withNamed (·.tables.find? name) action.runOn

/-! ## Routers -/

/-- A router over a table. -/
def RouterSetup.build (s : RouterSetup) (table : Nat) (peers : Option Nat) : RouterObject where
  router := {
    brokerId := s.brokerId
    balancer := .ofStrategy s.strategy s.exploration
    alwaysSticky := s.sticky
    callTimeoutMs := s.callTimeoutMs }
  table := table
  peers := peers

/-- Does something with a router under a reference. -/
def RouterAction.runOn (transports : List Transport) (ref : Nat) : RouterAction → Proc Document
  | create _ => .done .null
  | resolve p => withRouter transports (fullWire transports) ref fun h => do
      return ofExcept Fault.toDocument (fun t => text t.responder.key) (← h.aim p)
  | invalidate hash => do
      onRouter ref fun r _ => ((), r.invalidate hash)
      return .ok
  | kind => onRouter ref fun r _ => (text r.balancer.strategy.name, r)
  | stats candidate => onRouter ref fun r _ =>
      (ofOption CandidateStats.toCountsDocument (r.balancer.statsOf? candidate), r)

/-- Does something with a named router. -/
def RouterAction.run (transports : List Transport) (name : String) (action : RouterAction) :
    Proc Document :=
  match action with
  | .create setup => withNamed (·.tables.find? setup.table) fun table => do
      Process.modifyWorld fun w =>
        let peers := setup.peers.bind w.pools.find?
        { w with routers := (w.routers.addNamed name (setup.build table peers)).2 }
      return .ok
  | action => withNamed (·.routers.find? name) (action.runOn transports)

end ServiceMesh
