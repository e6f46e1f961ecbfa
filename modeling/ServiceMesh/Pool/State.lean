import ServiceMesh.Balance.Balancer
import ServiceMesh.Settings
import ServiceMesh.Transport.Registry

/-!
# Pools of links

A pool keeps links to the endpoints of one destination.  It knows three sets of
addresses: the *configured* ones, in order; among them the *unhealthy* ones, which
are not used until they can be opened again; and the *active* ones, which have a link
and are never unhealthy.

The functions here are the atomic sections of a pool.  Each takes the pool and the
links as they stand, and gives both as it leaves them.
-/

namespace ServiceMesh

/-- The links to the endpoints of one destination. -/
structure Pool where
  /-- The name of the destination. -/
  destination : String
  /-- The settings. -/
  settings : PoolSettings
  /-- How an endpoint is chosen. -/
  balancer : Balancer
  /-- The configured addresses. -/
  uris : List String := []
  /-- The links in use, by address. -/
  active : Dict String LinkId := .empty
  /-- The addresses that are not used. -/
  unhealthy : List String := []
  /-- Whether the addresses were ever set. -/
  refreshed : Bool := false
  /-- Whether unhealthy addresses were ever tried again. -/
  checked : Bool := false

/-- What changed when addresses were set. -/
structure RefreshSummary where
  /-- New addresses. -/
  added : List String := []
  /-- Addresses that are gone. -/
  removed : List String := []
  /-- Addresses that no transport takes. -/
  rejected : List String := []
deriving DecidableEq, Repr

/-- Whether the set of addresses is the same. -/
def RefreshSummary.isUnchanged (s : RefreshSummary) : Bool := s.added.isEmpty && s.removed.isEmpty

/-- Texts in order. -/
def sortedTexts (ts : List String) : List String := ts.mergeSort fun a b => decide (a ≤ b)

namespace Pool

/-- A pool without addresses. -/
def new (destination : String) (settings : PoolSettings) : Pool where
  destination := destination
  settings := settings
  balancer := .ofStrategy settings.strategy settings.exploration

instance : Inhabited Pool := ⟨new "" {}⟩

/-- The hash under which the balancer knows the destination. -/
def hash (p : Pool) : UInt32 := Hash.routingHash p.destination

/-- Whether an address is configured. -/
def isConfigured (p : Pool) (uri : String) : Bool := p.uris.contains uri

/-- Whether an address may be used. -/
def isUsable (p : Pool) (uri : String) : Bool := p.isConfigured uri && !p.unhealthy.contains uri

/-- The addresses that may be used, in order. -/
def candidates (p : Pool) : List String := p.uris.filter fun u => !p.unhealthy.contains u

/-- The addresses in use, sorted. -/
def activeUris (p : Pool) : List String := sortedTexts p.active.keys

/-- The addresses that are not used, sorted. -/
def unhealthyUris (p : Pool) : List String := sortedTexts p.unhealthy

/-- Tells the balancer that the candidates changed. -/
def invalidate (p : Pool) : Pool := { p with balancer := p.balancer.invalidate p.hash }

/-! ## The set of addresses -/

/-- The addresses to keep, without repetition, and those that no transport takes. -/
def sift (resolves : String → Bool) : List String → List String → List String × List String
  | kept, [] => (kept, [])
  | kept, uri :: rest =>
      if kept.contains uri then sift resolves kept rest
      else if resolves uri then sift resolves (kept ++ [uri]) rest
      else
        let r := sift resolves kept rest
        (r.1, uri :: r.2)

/-- Forgets an address that is gone. -/
def discard (p : Pool) (links : Links) (uri : String) : Pool × Links :=
  ({ p with
      unhealthy := p.unhealthy.filter (· ≠ uri)
      active := p.active.erase uri
      balancer := p.balancer.evict uri },
    links.close? (p.active.get? uri))

/-- Sets the addresses. -/
def setUris (resolves : String → Bool) (uris : List String) (p : Pool) (links : Links) :
    RefreshSummary × Pool × Links :=
  let (next, rejected) := sift resolves [] uris
  let summary : RefreshSummary :=
    { added := next.filter fun u => !p.uris.contains u
      removed := p.uris.filter fun u => !next.contains u
      rejected := rejected }
  let (p, links) := summary.removed.foldl (fun s uri => discard s.1 s.2 uri)
    ({ p with uris := next }, links)
  let p := if summary.isUnchanged then p else p.invalidate
  (summary, { p with refreshed := true }, links)

/-! ## Health -/

/-- Takes an address out of use and closes its link. -/
def markUnhealthy (uri : String) (p : Pool) (links : Links) : Pool × Links :=
  if p.isConfigured uri then
    ({ p with
        unhealthy := if p.unhealthy.contains uri then p.unhealthy else p.unhealthy ++ [uri]
        active := p.active.erase uri : Pool }.invalidate,
      links.close? (p.active.get? uri))
  else (p, links)

/-- Takes an unhealthy address into use again, with a new link.  Says whether it is
still configured; if not, the link is closed. -/
def recoverOne (uri : String) (link : LinkId) (p : Pool) (links : Links) : Bool × Pool × Links :=
  if p.isConfigured uri then
    (true,
      { p with
        unhealthy := p.unhealthy.filter (· ≠ uri)
        active := p.active.insert uri link },
      links.close? (p.active.get? uri))
  else (false, p, links.close link)

/-- Takes addresses into use again for which a link could be opened. -/
def recover : List (String × LinkId) → Pool → Links → List String × Pool × Links
  | [], p, links => ([], p, links)
  | (uri, link) :: rest, p, links =>
      let (kept, p, links) := recoverOne uri link p links
      let (recovered, p, links) := recover rest p links
      (if kept then uri :: recovered else recovered, p, links)

/-- Ends a round of trying unhealthy addresses. -/
def finishCheck (opened : List (String × LinkId)) (p : Pool) (links : Links) :
    List String × Pool × Links :=
  let (recovered, p, links) := recover opened p links
  let p := if recovered.isEmpty then p else p.invalidate
  (recovered, { p with checked := true }, links)

/-! ## Links -/

/-- The open link of an address.  A closed one is forgotten. -/
def takeOpen (uri : String) (p : Pool) (links : Links) : Option LinkId × Pool × Links :=
  match p.active.get? uri with
  | none => (none, p, links)
  | some link =>
      if links.isClosed link then (none, { p with active := p.active.erase uri }, links)
      else (some link, p, links)

/-- Takes a new link into use.  If another one came first, that one is kept and the
new one closed.  A link to an address that may not be used any more is closed. -/
def adopt (uri : String) (link : LinkId) (p : Pool) (links : Links) :
    Except Fault LinkId × Pool × Links :=
  if p.isUsable uri then
    match p.active.get? uri with
    | some kept => (.ok kept, p, if kept = link then links else links.close link)
    | none => (.ok link, { p with active := p.active.insert uri link }, links)
  else (.error (.connectionClosed uri), p, links.close link)

/-- Closes every link.  The addresses stay. -/
def close (p : Pool) (links : Links) : Pool × Links :=
  ({ p with active := .empty }, p.active.values.foldl Links.close links)

/-! ## Choice and accounts -/

/-- Chooses one of the candidates. -/
def choose (draw : Draw) (fingerprint : Option Bytes) (candidates : List String) (p : Pool) :
    Option String × Pool :=
  let (choice, balancer) := p.balancer.pick draw p.hash fingerprint candidates
  (choice, { p with balancer := balancer })

/-- Counts a call that starts. -/
def startCall (uri : String) (p : Pool) : Pool := { p with balancer := p.balancer.start uri }

/-- Whether the result of a call takes the endpoint out of use.  A call that took too
long counts as a failure, but the endpoint stays in use. -/
def breaks : Except Fault α → Bool
  | .error (.timeout _) => false
  | .error fault => fault.isConnectionFailure
  | .ok _ => false

/-- Whether the result of a call counts as a failure of the endpoint. -/
def failed : Except Fault α → Bool
  | .error fault => fault.isConnectionFailure
  | .ok _ => false

/-- Counts a call that completed. -/
def finishCall (uri : String) (latencyMs : Float) (result : Except Fault α) (p : Pool)
    (links : Links) : Pool × Links :=
  let p := { p with balancer := p.balancer.record uri latencyMs (!failed result) }
  if breaks result then markUnhealthy uri p links else (p, links)

end Pool

end ServiceMesh
