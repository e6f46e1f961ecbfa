import ServiceMesh.Broker
import ServiceMesh.Concurrency.Machine
import ServiceMesh.Control.Bus
import ServiceMesh.Control.Consumers
import ServiceMesh.Directory
import ServiceMesh.Gossip.Protocol
import ServiceMesh.Pool.Fleet
import ServiceMesh.Report.Document
import ServiceMesh.Routes.Router
import ServiceMesh.Simulation.Arena
import ServiceMesh.Worker

/-!
# A mesh in one process

A `World` holds everything that a simulated mesh is made of: the network inside the
process, route tables, routers, pools, brokers and so on.  The parts refer to each
other by references into the arenas of the world, so that a part can be replaced by
name while others still hold it.
-/

namespace ServiceMesh

/-! ## Endpoints -/

/-- What answers calls at an endpoint. -/
inductive Handler where
  /-- Replies with fixed data. -/
  | reply (data : Bytes)
  /-- Returns the call. -/
  | echo
  /-- Replies with fixed data after some time. -/
  | sleep (ms : Nat) (data : Bytes)
  /-- Fails. -/
  | fail (fault : Fault)
  /-- Streams items and then perhaps a fault, and perhaps never ends. -/
  | stream (items : List Bytes) (fault : Option Fault) (endless : Bool)
  /-- Hands gossip to a node. -/
  | node (ref : Nat)
  /-- Hands everything to a broker. -/
  | broker (ref : Nat)

/-! ## Objects -/

/-- A route table with the changes it has applied. -/
structure TableObject where
  /-- The table. -/
  table : RouteTable := {}
  /-- All changes, oldest first. -/
  history : List RouteChange := []
  /-- How many of them were reported. -/
  reported : Nat := 0
  /-- The router whose balancer watches the table. -/
  watcher : Option Nat := none

/-- A router, the table it reads and its pool of links to other brokers. -/
structure RouterObject where
  /-- The router. -/
  router : Router
  /-- The table. -/
  table : Nat
  /-- The pool. -/
  peers : Option Nat := none

/-- A pool, and those who wait to change its addresses. -/
structure PoolObject where
  /-- The pool. -/
  pool : Pool
  /-- Those who wait, the one whose turn it is first. -/
  line : List Nat := []
  /-- The ticket of the next one in the line. -/
  nextTicket : Nat := 0

/-- What a subscribed handler does with an event. -/
inductive EventHandler where
  /-- Hands it to the consumers of the bus. -/
  | consume
  /-- Writes it down under a tag. -/
  | note (tag : String)

/-- Where a bus sends what it publishes. -/
inductive Broadcaster where
  /-- It is written down. -/
  | recorder
  /-- To the members of a node. -/
  | members (node : Nat)

/-- The consumers of a bus, with the table and the pools they act on. -/
structure ConsumerObject where
  /-- What they keep. -/
  state : Consumers
  /-- The table. -/
  table : Nat
  /-- The pools. -/
  fleet : Nat

/-- A bus with what it wrote down. -/
structure BusObject where
  /-- The bus. -/
  bus : EventBus EventHandler Broadcaster
  /-- The consumers, if they are installed. -/
  consumers : Option ConsumerObject := none
  /-- What handlers wrote down since the last report. -/
  log : List (String × Event) := []
  /-- What was broadcast since the last report. -/
  sent : List Envelope := []

/-- Where control events go that a node receives. -/
inductive Sink where
  /-- Nowhere. -/
  | nowhere
  /-- They are written down. -/
  | recorder
  /-- To a bus. -/
  | bus (ref : Nat)

/-- A membership with what belongs to it. -/
structure NodeObject where
  /-- The membership. -/
  membership : Membership
  /-- The pool of links between brokers. -/
  pool : Option Nat := none
  /-- The directory that knows more seeds. -/
  directory : Option Nat := none
  /-- Where control events go. -/
  sink : Sink := .nowhere
  /-- The control events written down since the last report. -/
  events : List Envelope := []
  /-- How many changes were reported. -/
  reported : Nat := 0

/-- The workers of a broker that was started. -/
structure BrokerWorkers where
  /-- The worker that gossips. -/
  gossip : Nat
  /-- The worker that keeps up the pools. -/
  upkeep : Nat
  /-- The task that follows the members. -/
  follower : Nat

/-- A broker and its parts. -/
structure BrokerObject where
  /-- What it says about itself. -/
  info : BrokerInfo
  /-- The settings. -/
  settings : Settings
  /-- The route table. -/
  table : Nat
  /-- The router. -/
  router : Nat
  /-- The pools. -/
  fleet : Nat
  /-- The pool of links between brokers. -/
  pool : Nat
  /-- The bus. -/
  bus : Nat
  /-- The membership. -/
  node : Nat
  /-- The directory. -/
  directory : Option Nat
  /-- Where it is in its life. -/
  health : Health := .starting
  /-- The workers, if it was started. -/
  workers : Option BrokerWorkers := none
  /-- Whether anybody still holds it. -/
  alive : Bool := true

/-- What a worker can be asked for. -/
inductive Command where
  /-- To add a number. -/
  | add (n : Int)
  /-- To keep up pools. -/
  | upkeep (command : UpkeepCommand)
  /-- To gossip. -/
  | round

/-- What a worker is there for. -/
inductive Duty where
  /-- To count what happens to it. -/
  | counting (sum : Int) (commands ticks stops : Nat)
  /-- To keep up the pools of a fleet. -/
  | upkeep (fleet : Nat) (directory : Option Nat)
  /-- To gossip for a node. -/
  | gossip (node : Nat)

/-- A worker and its task. -/
structure WorkerObject where
  /-- The worker. -/
  worker : Worker Command
  /-- What it is there for. -/
  duty : Duty
  /-- Its task. -/
  task : Nat
  /-- The timer of its next turn. -/
  timer : Option Nat := none

/-! ## Background jobs -/

/-- How a reply is wanted. -/
inductive Mode where
  | response
  | forget
  | stream
deriving DecidableEq, Repr

/-- How a pool is named: by its own name, as a pool of a fleet, or as a pool of a
broker. -/
inductive PoolName where
  | own (name : String)
  | ofFleet (fleet destination : String)
  | ofBroker (broker : String) (destination : Option String)
deriving DecidableEq, Repr

/-- A call that somebody makes. -/
inductive Call where
  | overLink (conn : String) (mode : Mode) (payload : Payload)
  | throughRouter (router : String) (mode : Mode) (payload : Payload)
  | throughBroker (broker : String) (mode : Mode) (payload : Payload)
  | pool (pool : PoolName) (payload : Payload) (fingerprint : Option Bytes)
  | poolTo (pool : PoolName) (uri : String) (payload : Payload)
  | broadcast (pool : PoolName) (payload : Payload)
  | connection (pool : PoolName) (fingerprint : Option Bytes) (conn : Option String)
  | connectionTo (pool : PoolName) (uri : String) (conn : Option String)
  | retry (pool : PoolName)
  | refresh (pool : PoolName) (uris : List String)

/-- What runs in the background. -/
inductive Job where
  /-- The next turn of a worker. -/
  | work (worker : Nat)
  /-- To follow the members of a broker from a position in their history. -/
  | follow (broker position : Nat)
  /-- To disconnect a provider of a broker when its link closes. -/
  | watch (broker : Nat) (instanceId : Uuid) (link : LinkId)
  /-- A call whose result is kept. -/
  | call (slot : Nat) (call : Call)

/-! ## The world -/

/-- Everything that a simulated mesh is made of. -/
structure World where
  /-- The network inside the process. -/
  network : Network Handler := {}
  /-- What endpoints received since they were last asked, by name. -/
  received : Dict String (List Payload) := .empty
  /-- The links with a name. -/
  conns : Dict String LinkId := .empty
  /-- The route tables. -/
  tables : Arena TableObject := {}
  /-- The routers. -/
  routers : Arena RouterObject := {}
  /-- The pools. -/
  pools : Arena PoolObject := {}
  /-- The fleets of pools. -/
  fleets : Arena (Fleet Nat) := {}
  /-- The directories. -/
  directories : Arena Directory := {}
  /-- The buses. -/
  buses : Arena BusObject := {}
  /-- The memberships. -/
  nodes : Arena NodeObject := {}
  /-- The brokers. -/
  brokers : Arena BrokerObject := {}
  /-- The workers. -/
  workers : Arena WorkerObject := {}
  /-- The results of background calls. -/
  results : Arena (Option Document) := {}

/-- What runs in a world. -/
abbrev Proc := Process World Job

/-- The time of day in a world, which does not move. -/
def timeOfDay : Nat := 1000000000000

end ServiceMesh
