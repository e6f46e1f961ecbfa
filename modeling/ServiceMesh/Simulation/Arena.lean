import ServiceMesh.Data.Dict

/-!
# Arenas

An arena holds objects under references that are never used twice, and gives names to
some of them.  A name that is given again points to the new object; the old one stays
under its reference for those who hold it.
-/

namespace ServiceMesh

/-- Objects under references, some with a name. -/
structure Arena (α : Type u) where
  /-- The references by name. -/
  names : Dict String Nat := .empty
  /-- The objects by reference. -/
  objects : Dict Nat α := .empty
  /-- The next reference. -/
  next : Nat := 0

namespace Arena

variable {α : Type u}

instance : Inhabited (Arena α) := ⟨{}⟩

/-- Adds an object without a name. -/
def add (a : Arena α) (x : α) : Nat × Arena α :=
  (a.next, { a with objects := a.objects.insert a.next x, next := a.next + 1 })

/-- Adds an object under a name. -/
def addNamed (a : Arena α) (name : String) (x : α) : Nat × Arena α :=
  let (ref, a) := a.add x
  (ref, { a with names := a.names.insert name ref })

/-- The reference of a name. -/
def find? (a : Arena α) (name : String) : Option Nat := a.names.get? name

/-- The object under a reference. -/
def get? (a : Arena α) (ref : Nat) : Option α := a.objects.get? ref

/-- The object with a name. -/
def named? (a : Arena α) (name : String) : Option α := (a.find? name).bind a.get?

/-- Puts an object in the place of another. -/
def set (a : Arena α) (ref : Nat) (x : α) : Arena α :=
  { a with objects := a.objects.insert ref x }

/-- Changes the object under a reference. -/
def modify (a : Arena α) (ref : Nat) (f : α → α) : Arena α :=
  { a with objects := a.objects.modify ref f }

/-- Takes a name away. -/
def forget (a : Arena α) (name : String) : Arena α := { a with names := a.names.erase name }

/-- Whether nothing was ever added. -/
def isEmpty (a : Arena α) : Bool := a.next == 0

end Arena

end ServiceMesh
