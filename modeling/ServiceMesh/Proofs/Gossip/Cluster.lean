import ServiceMesh.Proofs.Gossip.Regimes
import ServiceMesh.Simulation.Wiring

/-!
# Memberships that call each other

A `Cluster` has any number of nodes.  Each has a membership, and it may have a pool that
follows the members.  A link leads to the node whose address it was opened to, and a call over
it is handled there, raced against the closing of the link.  A handler may call other nodes, and
they may call others again; `Cluster.host` counts how deep calls may be nested.

The nodes run rounds of gossip.  In an `Assembly` the rounds of all nodes are under way at once.
Between two turns the time, the pools and what a directory finds may change.  Rounds that run one
after the other, in whatever order, are one way of taking turns.
-/

namespace ServiceMesh

/-- Memberships with their links, and with all that their steps meet with. -/
structure Cluster (n : Nat) where
  membership : Fin n → Membership
  /-- The pools that follow the members, and what their operations meet with. -/
  site : Fin n → Site
  /-- The links between the memberships. -/
  links : Links := {}
  /-- How many links were opened. -/
  opened : Nat := 0
  /-- Whether time limits have run out. -/
  lapsed : Bool := false
  now : Nat := 0
  /-- The addresses that a directory has for the nodes. -/
  found : Fin n → Option (List String) := fun _ => none

namespace Cluster

variable {n : Nat} {α : Type}

/-! ## Sections -/

/-- One section on a membership. -/
def onMembership (i : Fin n) (f : Membership → Links → α × Membership × Links) (c : Cluster n) :
    α × Cluster n :=
  let r := f (c.membership i) c.links
  (r.1, { c with
    membership := fun j => if j = i then r.2.1 else c.membership j
    links := r.2.2 })

/-- One section on the site of a node. -/
def onSite (i : Fin n) (f : Site → α × Site) (c : Cluster n) : α × Cluster n :=
  ((f (c.site i)).1, { c with site := fun j => if j = i then (f (c.site i)).2 else c.site j })

/-- The node that is reached at an address. -/
def reached (uri : String) (c : Cluster n) : Option (Fin n) :=
  (List.finRange n).find? fun i => (c.membership i).uri == uri

/-- Opens a link to an address at which a node is reached. -/
def dial (uri : String) (c : Cluster n) : Except Fault LinkId × Cluster n :=
  match c.reached uri with
  | none => (.error (.handshakeFailed uri "no endpoint bound"), c)
  | some _ => (.ok (.inside c.opened), { c with
      links := c.links.add (.inside c.opened) { uri := uri, carrier := .endpoint uri }
      opened := c.opened + 1 })

/-- The node at the other end of a link, if the link is open, and the address of the link. -/
def farEnd (link : LinkId) (c : Cluster n) : Option (Fin n) × String :=
  (if c.links.isClosed link then none else c.reached (c.links.uriOf link), c.links.uriOf link)

/-! ## Hosts -/

/-- How the nodes answer calls. -/
abbrev Answers (n : Nat) : Type 1 := Fin n → Payload → Fiber (Cluster n) (Except Fault Payload)

/-- A call over a link, until the link is closed. -/
def call (answers : Answers n) (link : LinkId) (payload : Payload) :
    Fiber (Cluster n) (Except Fault Payload) :=
  .step (fun c => (c.farEnd link, c)) fun
    | (none, uri) => .done (.error (.connectionClosed uri))
    | (some i, uri) =>
        .race (answers i payload) (Fiber.until_ fun c => c.links.isClosed link) fun
          | .inl result => .done result
          | .inr () => .done (.error (.connectionClosed uri))

/-- The links between the memberships. -/
def wire (answers : Answers n) : Wire (Fiber (Cluster n)) where
  openLink uri := Fiber.atomically (dial uri)
  request := call answers
  send link payload := do return forgetValue (← call answers link payload)
  stream _ _ := .done (.error (.remote "request-stream not supported"))
  within _ body := .race body (Fiber.until_ (·.lapsed)) fun
    | .inl a => .done (some a)
    | .inr () => .done none
  all := Fiber.all

/-- The links of a pool, as the nature of its site has them. -/
def poolWire (i : Fin n) : Wire (Fiber (Cluster n)) where
  openLink uri := Fiber.atomically (onSite i (Site.dial uri))
  request _ _ := .await (fun c => (c.site i).nature.answered)
    (Fiber.read fun c => (c.site i).nature.reply)
  send _ _ := Fiber.read fun c => (c.site i).nature.sent
  stream _ _ := .await (fun c => (c.site i).nature.answered)
    (Fiber.read fun c => (c.site i).nature.replies)
  within _ body := .race body (Fiber.until_ fun c => (c.site i).nature.lapsed) fun
    | .inl a => .done (some a)
    | .inr () => .done none
  all := Fiber.all

/-- Runs something when it is its turn to set the addresses of a pool. -/
def inLine (i : Fin n) (body : Fiber (Cluster n) α) : Fiber (Cluster n) α :=
  .step (onSite i Site.joinLine) fun ticket =>
    Fiber.guarding (fun c => (onSite i (fun s => ((), s.leaveLine ticket)) c).2)
      (.await (fun c => (c.site i).line.head? == some ticket) body)

/-- The surroundings of a pool. -/
def pool (resolves : String → Bool) (i : Fin n) : PoolHost (Fiber (Cluster n)) where
  wire := poolWire i
  atomically f := Fiber.atomically (onSite i (Site.onPool f))
  resolves := resolves
  exclusively := inLine i
  draw := Fiber.read fun c => (c.site i).nature.draw
  timed body := do
    let a ← body
    return (a, ← Fiber.read fun c => (c.site i).nature.latencyMs)

/-- The surroundings of a membership.  It has a pool if it is said which addresses the
transports of the pool take. -/
def hostOver (resolves : Fin n → Option (String → Bool)) (answers : Answers n) (i : Fin n) :
    GossipHost (Fiber (Cluster n)) where
  wire := wire answers
  atomically f := Fiber.atomically (onMembership i f)
  pool := (resolves i).map fun takes => pool takes i
  lookup _ := Fiber.read (·.found i)
  deliver _ := .done ()
  clock := Fiber.read (·.now)

/-- The surroundings of a membership, with calls nested up to a depth. -/
def host (resolves : Fin n → Option (String → Bool)) : Nat → Fin n → GossipHost (Fiber (Cluster n))
  | 0 => hostOver resolves fun _ _ => .done (.error (.internal "calls are nested too deep"))
  | depth + 1 => hostOver resolves fun i p => (host resolves depth i).answer p

end Cluster

/-! ## Rounds -/

/-- A cluster and the rounds of its nodes. -/
structure Assembly (n : Nat) where
  cluster : Cluster n
  rounds : List (Fiber (Cluster n) Unit)

namespace Assembly

variable {n : Nat}

/-- What can happen next. -/
inductive Move (n : Nat) where
  /-- A section of the round of a node is run. -/
  | turn (node : Nat) (place : Place)
  /-- The time, the pools and what a directory finds change. -/
  | shift (now : Nat) (site : Fin n → Site) (found : Fin n → Option (List String))

/-- What becomes of an assembly by a move. -/
def move (a : Assembly n) : Move n → Assembly n
  | .turn node place =>
      { cluster := (Fiber.advanceAt node place a.rounds a.cluster).2
        rounds := (Fiber.advanceAt node place a.rounds a.cluster).1 }
  | .shift now site found => { a with cluster := { a.cluster with now, site, found } }

/-- What becomes of an assembly by moves one after the other. -/
def run (a : Assembly n) (moves : List (Move n)) : Assembly n := moves.foldl move a

/-- Every round is over. -/
def Over (a : Assembly n) : Prop := ∀ round ∈ a.rounds, (Fiber.result? round).isSome

instance (a : Assembly n) : Decidable a.Over :=
  inferInstanceAs (Decidable (∀ round ∈ a.rounds, (Fiber.result? round).isSome))

end Assembly

namespace Cluster

variable {n : Nat}

/-- Every node begins a round. -/
def assemble (resolves : Fin n → Option (String → Bool)) (depth : Nat) (c : Cluster n) :
    Assembly n where
  cluster := c
  rounds := List.ofFn fun i => (host resolves depth i).round

/-- Every node runs a round, from its beginning to its end. -/
def Rounds (resolves : Fin n → Option (String → Bool)) (depth : Nat) (c d : Cluster n) : Prop :=
  ∃ moves, ((c.assemble resolves depth).run moves).Over ∧
    ((c.assemble resolves depth).run moves).cluster = d

/-- Memberships that know nobody, with no links between them. -/
def new (who : Fin n → BrokerInfo) (settings : Fin n → MembershipSettings) (site : Fin n → Site) :
    Cluster n where
  membership i := .new (who i) (settings i)
  site := site

end Cluster

end ServiceMesh
