import ServiceMesh.Data.Dict
import ServiceMesh.Routes.Change
import ServiceMesh.Routes.Responder

/-!
# The route table

The table holds the responders by id, and two indices: the ids of the responders that
expose a service, by the hash of the service, and the ids of the responders of an
application, by its name.  No index keeps an empty set.

Each operation gives the changes it applied, in order, beside its result.
-/

namespace ServiceMesh

/-- The providers that a broker knows, and where their services are found. -/
structure RouteTable where
  /-- The responders by id. -/
  byId : Dict Uuid Responder := .empty
  /-- The ids of the responders that expose a service with a hash. -/
  byHash : Dict UInt32 (List Uuid) := .empty
  /-- The ids of the responders of an application. -/
  byApp : Dict String (List Uuid) := .empty

/-- Adds an id to the set of a key. -/
def addToSet [DecidableEq κ] (d : Dict κ (List Uuid)) (k : κ) (id : Uuid) : Dict κ (List Uuid) :=
  let ids := d.getD k []
  d.insert k (if ids.contains id then ids else ids ++ [id])

/-- Drops an id from the set of a key, and the key if its set gets empty. -/
def dropFromSet [DecidableEq κ] (d : Dict κ (List Uuid)) (k : κ) (id : Uuid) :
    Dict κ (List Uuid) :=
  d.alter k fun ids? =>
    match ids? with
    | none => none
    | some ids =>
        let rest := ids.filter (· ≠ id)
        if rest.isEmpty then none else some rest

namespace RouteTable

instance : Inhabited RouteTable := ⟨{}⟩

/-! ## Queries -/

/-- The responder with an id. -/
def get? (t : RouteTable) (id : Uuid) : Option Responder := t.byId.get? id

/-- How many responders there are. -/
def size (t : RouteTable) : Nat := t.byId.size

/-- Whether there is no responder. -/
def isEmpty (t : RouteTable) : Bool := t.byId.isEmpty

/-- Responders in the order of their ids. -/
def sortById (rs : List Responder) : List Responder := rs.mergeSort fun a b => a.id.le b.id

/-- All responders, by id. -/
def responders (t : RouteTable) : List Responder := sortById t.byId.values

/-- The responders that expose a service with a hash, by id. -/
def withHash (t : RouteTable) (hash : UInt32) : List Responder :=
  sortById ((t.byHash.getD hash []).filterMap t.get?)

/-- The responders that expose a service with a hash and take calls, by id. -/
def servingHash (t : RouteTable) (hash : UInt32) : List Responder :=
  (t.withHash hash).filter Responder.isServing

/-- The responders of an application, by id. -/
def ofApp (t : RouteTable) (name : String) : List Responder :=
  sortById ((t.byApp.getD name []).filterMap t.get?)

/-- The responders that take calls for a service, by id. -/
def serving (t : RouteTable) (l : Locator) : List Responder :=
  (t.servingHash l.hash).filter fun r => r.exposes l

/-- Locators in the order of their written forms, each once. -/
def sortedGsvs (ls : List Locator) : List String :=
  ((ls.map Locator.gsv).mergeSort fun a b => decide (a ≤ b)).eraseDups

/-- Every service that some responder exposes. -/
def allServices (t : RouteTable) : List String :=
  sortedGsvs (t.byId.values.flatMap Responder.services)

/-- Every service that some responder takes calls for. -/
def serviceNames (t : RouteTable) : List String :=
  sortedGsvs ((t.byId.values.filter Responder.isServing).flatMap Responder.services)

/-- The applications that take calls for a service, by the ids of their instances.  A
text that is no locator names no service. -/
def instances (t : RouteTable) (gsv : String) : List AppMetadata :=
  match Locator.parse gsv with
  | .ok l => (t.serving l).map Responder.app
  | .error _ => []

/-! ## Changes -/

/-- Indexes services of a responder. -/
def index (t : RouteTable) (id : Uuid) (ls : List Locator) : RouteTable :=
  { t with byHash := ls.foldl (fun d l => addToSet d l.hash id) t.byHash }

/-- Takes services of a responder out of the index.  A hash stays if the responder
still exposes another service with it. -/
def unindex (t : RouteTable) (r : Responder) (ls : List Locator) : RouteTable :=
  { t with
    byHash := ls.foldl
      (fun d l =>
        if r.services.any fun kept => kept.hash == l.hash then d else dropFromSet d l.hash r.id)
      t.byHash }

/-- Puts a changed responder into the place of the one with its id. -/
def put (t : RouteTable) (r : Responder) : RouteTable := { t with byId := t.byId.insert r.id r }

/-- Registers a responder and services for it.  A responder that is known already is
kept, and gets the services.  Gives the responder that is in the table now. -/
def register (t : RouteTable) (r : Responder) (ls : List Locator) :
    Responder × RouteTable × List RouteChange :=
  let known := t.get? r.id
  let current := known.getD r
  let (added, current) := current.addServices ls
  let t := match known with
    | some _ => t
    | none => { t with byApp := addToSet t.byApp r.app.name r.id }
  let t := (t.put current).index current.id added
  let changes :=
    if known.isNone || !added.isEmpty then [.registered current.id current.app.name added] else []
  (current, t, changes)

/-- Withdraws services of a responder, all of them if none is listed.  The responder
stays. -/
def unregister (t : RouteTable) (id : Uuid) (ls : List Locator) :
    List Locator × RouteTable × List RouteChange :=
  match t.get? id with
  | none => ([], t, [])
  | some r =>
      let (removed, r) := r.removeServices ls
      let t := (t.put r).unindex r removed
      (removed, t,
        if removed.isEmpty then [] else [.unregistered id r.app.name removed false])

/-- Removes a responder and everything it exposes.  It is stopped. -/
def remove (t : RouteTable) (id : Uuid) : Option Responder × RouteTable × List RouteChange :=
  match t.get? id with
  | none => (none, t, [])
  | some r =>
      let (services, r) := r.removeServices []
      let t := t.unindex r services
      let r := { r with status := .stopped }
      (some r,
        { t with byId := t.byId.erase id, byApp := dropFromSet t.byApp r.app.name id },
        [.unregistered id r.app.name services true])

/-- Sets the status of a responder; a stopped one is removed.  Gives the status before
that. -/
def setStatus (t : RouteTable) (id : Uuid) (status : AppStatus) :
    Option AppStatus × RouteTable × List RouteChange :=
  if status = .stopped then
    let (gone, t, changes) := t.remove id
    (gone.map fun _ => .stopped, t, changes)
  else match t.get? id with
    | none => (none, t, [])
    | some r =>
        (some r.status, t.put { r with status := status },
          if r.status = status then []
          else [.statusChanged id r.app.name r.services r.status status])

/-- Registers services of a responder and has it serve. -/
def expose (t : RouteTable) (r : Responder) (ls : List Locator) :
    Responder × RouteTable × List RouteChange :=
  let (current, t, registered) := t.register r ls
  let (_, t, changed) := t.setStatus current.id .serving
  ({ current with status := .serving }, t, registered ++ changed)

/-- Withdraws services of a responder.  One that is left with nothing to serve goes
down. -/
def hide (t : RouteTable) (id : Uuid) (ls : List Locator) :
    List Locator × RouteTable × List RouteChange :=
  let (removed, t, withdrawn) := t.unregister id ls
  match t.get? id with
  | some r =>
      if r.services.isEmpty && r.isServing then
        let (_, t, changed) := t.setStatus id .down
        (removed, t, withdrawn ++ changed)
      else (removed, t, withdrawn)
  | none => (removed, t, withdrawn)

end RouteTable

end ServiceMesh
