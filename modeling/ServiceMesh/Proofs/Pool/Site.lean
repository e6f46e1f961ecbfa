import ServiceMesh.Pool.Calls
import ServiceMesh.Proofs.Concurrency.Interleaving

/-!
# A pool among its users

A `Site` is a pool with the links that it opens, and with everything that its
operations learn from outside: whether an address can be reached, what a call is
answered, when time limits run out, what is drawn.  These make up the `Nature` of the
site, and may change between any two sections.

The operations are those of `PoolHost`, run over fibers on a site.  A `Scene` has a
site and the operations under way.  It moves by starting an operation, by a turn of
one that is under way, by a change of nature, and by the closing of a link from
outside.  A run is any list of moves.
-/

namespace ServiceMesh

/-- What the operations of a pool meet with. -/
structure Nature where
  /-- The fault with which openings of links fail, if they do. -/
  refusal : Option Fault := none
  /-- Whether calls are answered. -/
  answered : Bool := true
  /-- What calls are answered. -/
  reply : Except Fault Payload := .ok ⟨[], []⟩
  /-- What streaming calls are answered. -/
  replies : Except Fault Replies := .ok ⟨[], false, []⟩
  /-- How calls without a reply end. -/
  sent : Except Fault Unit := .ok ()
  /-- Whether time limits have run out. -/
  lapsed : Bool := false
  /-- How long calls take, in milliseconds. -/
  latencyMs : Float := 0.0
  /-- What is drawn at random. -/
  draw : Draw := {}

/-- A pool and what is around it. -/
structure Site where
  /-- The pool. -/
  pool : Pool
  /-- The links. -/
  links : Links := {}
  /-- The links that the pool ever opened, with their addresses, oldest first. -/
  opened : List (String × LinkId) := []
  /-- What the operations meet with. -/
  nature : Nature := {}
  /-- The tickets of those that stand in line to change the addresses. -/
  line : List Nat := []
  /-- The number of the next ticket. -/
  nextTicket : Nat := 0

namespace Site

/-! ## Sections -/

/-- One section on the pool and the links. -/
def onPool (f : Pool → Links → α × Pool × Links) (s : Site) : α × Site :=
  ((f s.pool s.links).1,
    { s with pool := (f s.pool s.links).2.1, links := (f s.pool s.links).2.2 })

/-- The name of the next link. -/
def fresh (s : Site) : LinkId := .outside s.opened.length

/-- Adds a link that was never opened before. -/
def addLink (uri : String) (s : Site) : Site :=
  { s with
    links := s.links.add s.fresh { uri := uri, carrier := .transport "" }
    opened := s.opened ++ [(uri, s.fresh)] }

/-- Opens a link, if the nature of the site lets it. -/
def dial (uri : String) (s : Site) : Except Fault LinkId × Site :=
  match s.nature.refusal with
  | some fault => (.error fault, s)
  | none => (.ok s.fresh, s.addLink uri)

section

variable (uri : String) (s : Site)

/-- An attempt to open a link changes the links alone, and the record of them. -/
theorem snd_dial :
    ∃ links opened, (s.dial uri).2 = { s with links := links, opened := opened } := by
  unfold dial
  split
  · exact ⟨s.links, s.opened, rfl⟩
  · exact ⟨_, _, rfl⟩

@[simp] theorem pool_dial : (s.dial uri).2.pool = s.pool := by
  obtain ⟨_, _, h⟩ := snd_dial uri s
  rw [h]

@[simp] theorem nature_dial : (s.dial uri).2.nature = s.nature := by
  obtain ⟨_, _, h⟩ := snd_dial uri s
  rw [h]

@[simp] theorem line_dial : (s.dial uri).2.line = s.line := by
  obtain ⟨_, _, h⟩ := snd_dial uri s
  rw [h]

@[simp] theorem nextTicket_dial : (s.dial uri).2.nextTicket = s.nextTicket := by
  obtain ⟨_, _, h⟩ := snd_dial uri s
  rw [h]

end

/-- Stands in line to change the addresses. -/
def joinLine (s : Site) : Nat × Site :=
  (s.nextTicket, { s with line := s.line ++ [s.nextTicket], nextTicket := s.nextTicket + 1 })

/-- Leaves the line. -/
def leaveLine (ticket : Nat) (s : Site) : Site :=
  { s with line := s.line.filter (· ≠ ticket) }

/-! ## Operations -/

/-- Links as the nature of the site has them. -/
def wire : Wire (Fiber Site) where
  openLink uri := Fiber.atomically (dial uri)
  request _ _ := .await (·.nature.answered) (Fiber.read (·.nature.reply))
  send _ _ := Fiber.read (·.nature.sent)
  stream _ _ := .await (·.nature.answered) (Fiber.read (·.nature.replies))
  within _ body := .race body (Fiber.until_ (·.nature.lapsed)) fun
    | .inl a => .done (some a)
    | .inr () => .done none
  all := Fiber.all

/-- Runs something when it is its turn to change the addresses. -/
def inLine (body : Fiber Site α) : Fiber Site α :=
  .step joinLine fun ticket =>
    Fiber.guarding (leaveLine ticket) (.await (fun s => s.line.head? == some ticket) body)

/-- Runs a call, and takes as long as the nature of the site has it. -/
def timed (body : Fiber Site α) : Fiber Site (α × Float) := do
  let a ← body
  return (a, ← Fiber.read (·.nature.latencyMs))

/-- The surroundings of the pool of a site. -/
def host (resolves : String → Bool) : PoolHost (Fiber Site) where
  wire := wire
  atomically f := Fiber.atomically (onPool f)
  resolves := resolves
  exclusively := inLine
  draw := Fiber.read (·.nature.draw)
  timed := timed

end Site

/-- What can be asked of a pool. -/
inductive Operation where
  /-- Sets the addresses. -/
  | refresh (uris : List String)
  /-- Takes an address out of use. -/
  | markUnhealthy (uri : String)
  /-- Tries all unhealthy addresses again. -/
  | retry
  /-- Asks for a link to some endpoint. -/
  | connection (fingerprint : Option Bytes)
  /-- Asks for a link to one endpoint. -/
  | connectionTo (uri : String)
  /-- Calls some endpoint. -/
  | request (payload : Payload) (fingerprint : Option Bytes)
  /-- Calls one endpoint. -/
  | requestTo (uri : String) (payload : Payload)
  /-- Calls over a link. -/
  | call (uri : String) (link : LinkId) (payload : Payload)
  /-- Sends to every endpoint. -/
  | broadcast (payload : Payload)
  /-- Closes every link. -/
  | close

/-- An operation from its start to its end. -/
def Operation.run (h : PoolHost (Fiber Site)) : Operation → Fiber Site Unit
  | refresh uris => do let _ ← h.refresh uris
  | markUnhealthy uri => h.change (Pool.markUnhealthy uri)
  | retry => do let _ ← h.retry
  | connection fingerprint => do let _ ← h.connection fingerprint
  | connectionTo uri => do let _ ← h.connectionTo uri
  | request payload fingerprint => do let _ ← h.request payload fingerprint
  | requestTo uri payload => do let _ ← h.requestTo uri payload
  | call uri link payload => do let _ ← h.call uri link payload
  | broadcast payload => do let _ ← h.broadcast payload
  | close => h.close

/-! ## Scenes -/

/-- A site and the operations under way. -/
structure Scene where
  /-- The site. -/
  site : Site
  /-- The operations that were started, in order. -/
  tasks : List (Fiber Site Unit) := []

/-- What can happen next. -/
inductive Move where
  /-- An operation starts. -/
  | start (operation : Operation)
  /-- One section of an operation is run. -/
  | turn (task : Nat) (place : Place)
  /-- The nature of the site changes. -/
  | shift (nature : Nature)
  /-- A link is closed from outside. -/
  | hangUp (link : LinkId)

namespace Scene

/-- A pool without addresses, and no operation under way. -/
def new (destination : String) (settings : PoolSettings) : Scene where
  site := { pool := Pool.new destination settings }

/-- What becomes of a scene by a move. -/
def move (resolves : String → Bool) (c : Scene) : Move → Scene
  | .start operation => { c with tasks := c.tasks ++ [operation.run (Site.host resolves)] }
  | .turn task place =>
      { site := (Fiber.advanceAt task place c.tasks c.site).2
        tasks := (Fiber.advanceAt task place c.tasks c.site).1 }
  | .shift nature => { c with site := { c.site with nature := nature } }
  | .hangUp link => { c with site := { c.site with links := c.site.links.close link } }

/-- What becomes of a scene by moves one after the other. -/
def run (resolves : String → Bool) (c : Scene) (moves : List Move) : Scene :=
  moves.foldl (move resolves) c

end Scene

end ServiceMesh
