import ServiceMesh.Gossip.Protocol
import ServiceMesh.Proofs.Concurrency.Cooperation
import ServiceMesh.Proofs.Gossip.Peers
import ServiceMesh.Proofs.Pool.Site

/-!
# A membership whose pool follows it

A `Node` is a membership with the pool of links between brokers and with all that its steps
meet with: the time, what a directory finds, what other brokers answer.  Those that set the
addresses of the pool stand in line, and each has a ticket.

A node keeps a record of what no step reads: the members as they were when one last came or
went, the addresses of that record as they were when each ticket was drawn, how many tickets
had their turn, and the addresses that members gave up for others.

The steps are those of `GossipHost`, run over fibers on a node.  In a `Meeting` any number of
them are under way on one thread.  Between two turns the surroundings may change, and others
may use the pool, but nobody else sets its addresses.
-/

namespace ServiceMesh

/-- A membership with the pool of links between brokers. -/
structure Node where
  membership : Membership
  /-- The pool, and what its operations meet with. -/
  site : Site
  now : Nat := 0
  /-- The addresses that a directory has. -/
  found : Option (List String) := none
  /-- The control events that were taken in. -/
  heard : List Envelope := []
  /-- The members as they were when one last came or went. -/
  told : PeerTable := {}
  /-- The addresses of `told` when each ticket was drawn, by ticket. -/
  asked : List (List String) := []
  /-- How many tickets had their turn. -/
  turn : Nat := 0
  /-- The addresses that members gave up for others. -/
  moved : List String := []

namespace Node

variable {α : Type}

/-! ## Sections -/

/-- One section on the membership.  The history tells whether a member came or went, the
members whether one moved. -/
def onMembership (f : Membership → Links → α × Membership × Links) (n : Node) : α × Node :=
  let r := f n.membership n.site.links
  (r.1, { n with
    membership := r.2.1
    site := { n.site with links := r.2.2 }
    told := if r.2.1.history = n.membership.history then n.told else r.2.1.peers
    moved := n.moved ++ n.membership.peers.givenUp r.2.1.peers })

/-- One section on the site. -/
def onSite (f : Site → α × Site) (n : Node) : α × Node :=
  ((f n.site).1, { n with site := (f n.site).2 })

/-- Draws a ticket and stands in line. -/
def joinLine (n : Node) : Nat × Node :=
  (n.site.joinLine.1, { n with site := n.site.joinLine.2, asked := n.asked ++ [n.told.uris] })

/-- It is the turn of a ticket. -/
def call (ticket : Nat) (n : Node) : Node := { n with turn := ticket + 1 }

/-- Leaves the line. -/
def leaveLine (ticket : Nat) (n : Node) : Node := { n with site := n.site.leaveLine ticket }

/-- The surroundings change, and others use the pool.  Nobody else sets its addresses. -/
def shift (pool : Pool) (links : Links) (nature : Nature) (now : Nat)
    (found : Option (List String)) (n : Node) : Node :=
  { n with
    site := { n.site with
      pool := { pool with uris := n.site.pool.uris }
      links := links
      nature := nature }
    now := now
    found := found }

/-! ## Hosts -/

/-- Links as the nature of the site has them. -/
def wire : Wire (Fiber Node) where
  openLink uri := Fiber.atomically (onSite (Site.dial uri))
  request _ _ := .await (·.site.nature.answered) (Fiber.read (·.site.nature.reply))
  send _ _ := Fiber.read (·.site.nature.sent)
  stream _ _ := .await (·.site.nature.answered) (Fiber.read (·.site.nature.replies))
  within _ body := .race body (Fiber.until_ (·.site.nature.lapsed)) fun
    | .inl a => .done (some a)
    | .inr () => .done none
  all := Fiber.all

/-- Runs something when it is its turn to set the addresses. -/
def inLine (body : Fiber Node α) : Fiber Node α :=
  .step joinLine fun ticket =>
    Fiber.guarding (leaveLine ticket)
      (.await (fun n => n.site.line.head? == some ticket)
        (.step (fun n => ((), n.call ticket)) fun _ => body))

/-- The surroundings of the pool. -/
def pool (resolves : String → Bool) : PoolHost (Fiber Node) where
  wire := wire
  atomically f := Fiber.atomically (onSite (Site.onPool f))
  resolves := resolves
  exclusively := inLine
  draw := Fiber.read (·.site.nature.draw)
  timed body := do
    let a ← body
    return (a, ← Fiber.read (·.site.nature.latencyMs))

/-- The surroundings of the membership. -/
def host (resolves : String → Bool) : GossipHost (Fiber Node) where
  wire := wire
  atomically f := Fiber.atomically (onMembership f)
  pool := some (pool resolves)
  lookup _ := Fiber.read (·.found)
  deliver e := Fiber.change fun n => { n with heard := n.heard ++ [e] }
  clock := Fiber.read (·.now)

end Node

/-- What a membership does. -/
inductive GossipStep where
  | start
  | handle (message : GossipMessage)
  | round
  | detect (now : Nat)
  | tick
  | broadcast (envelope : Envelope)
  | sendEvent (uri : String) (envelope : Envelope)
  | leave

/-- A step from its start to its end. -/
def GossipStep.run (h : GossipHost (Fiber Node)) : GossipStep → Fiber Node Unit
  | start => h.start
  | handle message => do let _ ← h.handle message
  | round => h.round
  | detect now => do let _ ← h.detect now
  | tick => h.tick
  | broadcast envelope => h.broadcast envelope
  | sendEvent uri envelope => do let _ ← h.sendEvent uri envelope
  | leave => h.leave

/-- A node and the steps under way. -/
structure Meeting where
  node : Node
  /-- The steps that were started, in order. -/
  tasks : List (Fiber Node Unit) := []

namespace Meeting

/-- A membership without peers and a pool without addresses, and no step under way. -/
def new (self : BrokerInfo) (settings : MembershipSettings) (destination : String)
    (poolSettings : PoolSettings) : Meeting where
  node := {
    membership := Membership.new self settings
    site := { pool := Pool.new destination poolSettings } }

/-- What can happen next. -/
inductive Move where
  /-- A step starts. -/
  | start (step : GossipStep)
  /-- A step takes a turn. -/
  | turn (task : Nat)
  /-- The surroundings change, and others use the pool. -/
  | shift (pool : Pool) (links : Links) (nature : Nature) (now : Nat) (found : Option (List String))

/-- What becomes of a meeting by a move. -/
def move (resolves : String → Bool) (m : Meeting) : Move → Meeting
  | .start step => { m with tasks := m.tasks ++ [step.run (Node.host resolves)] }
  | .turn task =>
      { node := (Fiber.pollAt task m.tasks m.node).2
        tasks := (Fiber.pollAt task m.tasks m.node).1 }
  | .shift pool links nature now found =>
      { m with node := m.node.shift pool links nature now found }

/-- What becomes of a meeting by moves one after the other. -/
def run (resolves : String → Bool) (m : Meeting) (moves : List Move) : Meeting :=
  moves.foldl (move resolves) m

/-- No step is under way. -/
def Quiet (m : Meeting) : Prop := ∀ task ∈ m.tasks, (Fiber.result? task).isSome

instance (m : Meeting) : Decidable m.Quiet :=
  inferInstanceAs (Decidable (∀ task ∈ m.tasks, (Fiber.result? task).isSome))

/-! ## Brokers to try a meeting with -/

namespace Sample

def settings : MembershipSettings := {}

def own : BrokerInfo :=
  { id := "b1", schema := "local", ip := "b1", port := 9999, webPort := 9998, startTimeMs := 0,
    status := 1 }

/-- What another broker says about itself, by the port that it has. -/
def other (port : UInt16) : BrokerInfo :=
  { id := "b2", schema := "local", ip := "b2", port := port, webPort := 9998, startTimeMs := 0,
    status := 1 }

end Sample

end Meeting

end ServiceMesh
