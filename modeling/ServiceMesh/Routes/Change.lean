import ServiceMesh.Balance.Balancer
import ServiceMesh.Identity

/-!
# Changes of the route table

Every change that the route table applies is told to those who watch it.  A balancer
that watches forgets what it knows about the services that a change affects, and
about a provider that is gone.
-/

namespace ServiceMesh

/-- A change of the route table. -/
inductive RouteChange where
  /-- A provider is new, or exposes more services. -/
  | registered (instanceId : Uuid) (appName : String) (services : List Locator)
  /-- A provider withdrew services, or is gone. -/
  | unregistered (instanceId : Uuid) (appName : String) (services : List Locator)
      (removed : Bool)
  /-- The status of a provider changed. -/
  | statusChanged (instanceId : Uuid) (appName : String) (services : List Locator)
      (before after : AppStatus)
deriving DecidableEq, Repr

namespace RouteChange

/-- The kind of a change. -/
def kind : RouteChange → String
  | registered .. => "registered"
  | unregistered _ _ _ true => "removed"
  | unregistered _ _ _ false => "unregistered"
  | statusChanged .. => "status"

/-- The provider that changed. -/
def instanceId : RouteChange → Uuid
  | registered id .. => id
  | unregistered id .. => id
  | statusChanged id .. => id

/-- The name of its application. -/
def appName : RouteChange → String
  | registered _ name _ => name
  | unregistered _ name .. => name
  | statusChanged _ name .. => name

/-- The services whose providers changed. -/
def services : RouteChange → List Locator
  | registered _ _ services => services
  | unregistered _ _ services _ => services
  | statusChanged _ _ services .. => services

/-- The provider that is gone. -/
def gone? : RouteChange → Option Uuid
  | unregistered id _ _ true => some id
  | _ => none

end RouteChange

/-- What a balancer makes of a change: it drops what it keeps per service, and what it
knows about a provider that is gone. -/
def Balancer.observe (b : Balancer) (change : RouteChange) : Balancer :=
  let b := change.services.foldl (fun b l => b.invalidate l.hash) b
  match change.gone? with
  | some id => b.evict id.toText
  | none => b

end ServiceMesh
