import ServiceMesh.Data.Dict
import ServiceMesh.Text.Bytes

/-!
# Links

A link is a connection to one endpoint.  It carries calls until it is closed, by
either side, and it is never opened again.
-/

namespace ServiceMesh

/-- The name of a link.  Links inside the process and links to the outside are
numbered on their own. -/
inductive LinkId where
  | inside (n : Nat)
  | outside (n : Nat)
deriving DecidableEq, Repr

/-- The number by which a link is known. -/
def LinkId.number : LinkId → Nat
  | inside n => n
  | outside n => n

/-- What carries a link. -/
inductive Carrier where
  /-- An endpoint inside the process. -/
  | endpoint (name : String)
  /-- A transport to the outside. -/
  | transport (name : String)
deriving DecidableEq, Repr

/-- A connection. -/
structure Link where
  /-- The address to which it was opened. -/
  uri : String
  /-- What carries it. -/
  carrier : Carrier
  /-- The certificate of the other end. -/
  certificate : Option Bytes := none
  /-- Whether it is closed. -/
  closed : Bool := false
deriving Repr

/-- The links that were ever opened. -/
structure Links where
  /-- The links by name. -/
  byId : Dict LinkId Link := .empty

namespace Links

instance : Inhabited Links := ⟨{}⟩

/-- A link. -/
def get? (ls : Links) (id : LinkId) : Option Link := ls.byId.get? id

/-- Whether a link carries no calls. -/
def isClosed (ls : Links) (id : LinkId) : Bool :=
  match ls.get? id with
  | some link => link.closed
  | none => true

/-- The address to which a link was opened. -/
def uriOf (ls : Links) (id : LinkId) : String :=
  match ls.get? id with
  | some link => link.uri
  | none => ""

/-- Adds a link. -/
def add (ls : Links) (id : LinkId) (link : Link) : Links := ⟨ls.byId.insert id link⟩

/-- Closes a link. -/
def close (ls : Links) (id : LinkId) : Links :=
  ⟨ls.byId.modify id fun link => { link with closed := true }⟩

/-- Closes every link with a carrier. -/
def closeAll (ls : Links) (carrier : Carrier) : Links :=
  ⟨ls.byId.map fun link => if link.carrier = carrier then { link with closed := true } else link⟩

/-- Closes a link, if there is one. -/
def close? (ls : Links) : Option LinkId → Links
  | some id => ls.close id
  | none => ls

/-- Closing a link closes that link, and leaves the others as they are. -/
theorem isClosed_close (ls : Links) (id other : LinkId) :
    (ls.close id).isClosed other = (decide (id = other) || ls.isClosed other) := by
  unfold close isClosed get? Dict.modify
  by_cases h : id = other
  · subst h
    cases hg : ls.byId.get? id <;> simp [hg]
  · cases hg : ls.byId.get? id with
    | none => simp [h]
    | some link => simp [Dict.get?_insert_of_ne _ h, h]

end Links

end ServiceMesh
