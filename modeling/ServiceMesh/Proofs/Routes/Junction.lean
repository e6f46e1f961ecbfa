import ServiceMesh.Proofs.Pool.Site
import ServiceMesh.Routes.Router

/-!
# A router among the calls that it routes

A `Junction` is a router with its table and with the site of the pool that links it to other
brokers.  It keeps a record of what was sent over which link, and for which call.

The links of providers have names apart from those of the links that the pool opens: the
former are `inside`, the latter `outside`.  So the record shows to whom something went.

The calls are those of `RouterHost`, run over fibers on a junction.  In a `Traffic` any
number of them are under way.  Between two sections everything but the id of the broker and
the record may change: the addresses and links of the pool, the table, what the balancers
know, what calls are answered.  A run is any list of such moves.
-/

namespace ServiceMesh

/-- All direct routes of a table are over links of providers. -/
def RouteTable.Provided (t : RouteTable) : Prop :=
  ∀ id x, t.get? id = some x → ∀ link, x.route = .direct link → ∃ n, link = .inside n

/-- A table as a broker has it. -/
abbrev Providers := { t : RouteTable // t.Provided }

/-- What was sent over a link. -/
structure Sent where
  /-- The call that was routed. -/
  call : Payload
  link : LinkId
  payload : Payload

/-- A router and what is around it. -/
structure Junction where
  /-- The pool of links to other brokers, and what its operations meet with. -/
  site : Site
  router : Router
  table : Providers
  /-- What was sent, oldest first. -/
  sent : List Sent := []

namespace Junction

variable {α : Type}

/-! ## Sections -/

/-- One section on the site. -/
def onSite (f : Site → α × Site) (j : Junction) : α × Junction :=
  ((f j.site).1, { j with site := (f j.site).2 })

/-- One section on the router, with the table in sight. -/
def onRouter (f : Router → RouteTable → α × Router) (j : Junction) : α × Junction :=
  ((f j.router j.table.1).1, { j with router := (f j.router j.table.1).2 })

/-- Sends something for a call. -/
def put (call : Payload) (link : LinkId) (payload : Payload) (j : Junction) : Junction :=
  { j with sent := j.sent ++ [⟨call, link, payload⟩] }

/-! ## Hosts -/

/-- Links that keep a record of what is sent for a call, and are otherwise as the nature of
the site has them. -/
def wire (call : Payload) : Wire (Fiber Junction) where
  openLink uri := Fiber.atomically (onSite (Site.dial uri))
  request link p := do
    Fiber.change (put call link p)
    Fiber.until_ (·.site.nature.answered)
    Fiber.read (·.site.nature.reply)
  send link p := do
    Fiber.change (put call link p)
    Fiber.read (·.site.nature.sent)
  stream link p := do
    Fiber.change (put call link p)
    Fiber.until_ (·.site.nature.answered)
    Fiber.read (·.site.nature.replies)
  within _ body := .race body (Fiber.until_ (·.site.nature.lapsed)) fun
    | .inl a => .done (some a)
    | .inr () => .done none
  all := Fiber.all

/-- Runs a call, and takes as long as the nature of the site has it. -/
def timed (body : Fiber Junction α) : Fiber Junction (α × Float) := do
  let a ← body
  return (a, ← Fiber.read (·.site.nature.latencyMs))

/-- The surroundings of the pool.  Calls do not change its addresses. -/
def peers (call : Payload) : PoolHost (Fiber Junction) where
  wire := wire call
  atomically f := Fiber.atomically (onSite (Site.onPool f))
  resolves _ := true
  exclusively body := body
  draw := Fiber.read (·.site.nature.draw)
  timed := timed

/-- The surroundings of the router for a call, with a pool of links to other brokers or
without. -/
def host (peered : Bool) (call : Payload) : RouterHost (Fiber Junction) where
  wire := wire call
  atomically f := Fiber.atomically (onRouter f)
  peers := if peered then some (peers call) else none
  draw := Fiber.read (·.site.nature.draw)
  timed := timed

end Junction

/-- A call that a router is asked to route. -/
inductive Asked where
  /-- For a reply. -/
  | request (p : Payload)
  /-- For no reply. -/
  | send (p : Payload)
  /-- For a stream of replies. -/
  | stream (p : Payload)

/-- A call from its start to its end. -/
def Asked.run (peered : Bool) : Asked → Fiber Junction Unit
  | request p => do let _ ← (Junction.host peered p).request p
  | send p => do let _ ← (Junction.host peered p).send p
  | stream p => do let _ ← (Junction.host peered p).stream p

/-- A junction and the calls under way. -/
structure Traffic where
  junction : Junction
  /-- The calls that were started, in order. -/
  tasks : List (Fiber Junction Unit) := []

namespace Traffic

/-- A junction where nothing was sent, and no call is under way. -/
def new (site : Site) (router : Router) (table : Providers) : Traffic :=
  { junction := { site := site, router := router, table := table } }

/-- What can happen next. -/
inductive Move where
  /-- A call starts. -/
  | start (asked : Asked)
  /-- One section of a call is run. -/
  | turn (task : Nat) (place : Place)
  /-- The pool, the table and what the router knows change. -/
  | shift (site : Site) (router : Router) (table : Providers)

/-- What becomes of the traffic by a move.  A broker never gets another id. -/
def move (peered : Bool) (t : Traffic) : Move → Traffic
  | .start asked => { t with tasks := t.tasks ++ [asked.run peered] }
  | .turn task place =>
      { junction := (Fiber.advanceAt task place t.tasks t.junction).2
        tasks := (Fiber.advanceAt task place t.tasks t.junction).1 }
  | .shift site router table =>
      { t with
        junction :=
          { site := site
            router := { router with brokerId := t.junction.router.brokerId }
            table := table
            sent := t.junction.sent } }

/-- What becomes of the traffic by moves one after the other. -/
def run (peered : Bool) (t : Traffic) (moves : List Move) : Traffic :=
  moves.foldl (move peered) t

end Traffic

end ServiceMesh
