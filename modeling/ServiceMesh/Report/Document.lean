import ServiceMesh.Text.Bytes

/-!
# Documents

A document is a tree of plain values.  Whatever the mesh shows to a tool it shows as
a document, and the tool decides how numbers, bytes and records are written.
-/

namespace ServiceMesh

/-- A tree of plain values. -/
inductive Document where
  | null
  | flag (value : Bool)
  | number (value : Int)
  | float (value : Float)
  | text (value : String)
  | bytes (value : Bytes)
  | list (items : List Document)
  | record (fields : List (String × Document))

namespace Document

instance : Inhabited Document := ⟨null⟩

/-- A natural number. -/
def nat (n : Nat) : Document := number n

/-- A list of texts. -/
def texts (items : List String) : Document := list (items.map text)

/-- A value that may be missing, missing as null. -/
def ofOption (f : α → Document) : Option α → Document
  | some x => f x
  | none => null

/-- A field that is left out if its value is missing. -/
def optional (name : String) (f : α → Document) : Option α → List (String × Document)
  | some x => [(name, f x)]
  | none => []

/-- An error: its kind, and its text if it has one. -/
def failure (kind : String) (message : Option String) : Document :=
  record (("error", text kind) :: optional "message" text message)

/-- The document of a result, or of the error in its place. -/
def ofExcept (onError : ε → Document) (f : α → Document) : Except ε α → Document
  | .ok x => f x
  | .error e => onError e

end Document

end ServiceMesh
