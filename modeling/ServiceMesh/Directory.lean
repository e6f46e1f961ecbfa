import ServiceMesh.Data.Dict

/-!
# Directories

A directory resolves a logical name to the addresses of its endpoints.  It may not
manage a name, in which case whoever asks keeps what it has, and it may fail.
-/

namespace ServiceMesh

/-- Something that resolves names to addresses. -/
inductive Directory where
  /-- A table that can be edited. -/
  | table (entries : Dict String (List String))
  /-- A directory that fails with a reason. -/
  | failing (reason : String)

namespace Directory

/-- The addresses of a name, none if the directory does not manage it. -/
def resolve : Directory → String → Except String (Option (List String))
  | table entries, name => .ok (entries.get? name)
  | failing reason, _ => .error reason

/-- The addresses of a name, if there are any to go by. -/
def lookup (d : Directory) (name : String) : Option (List String) :=
  match d.resolve name with
  | .ok uris => uris
  | .error _ => none

/-- Sets the addresses of a name. -/
def set (d : Directory) (name : String) (uris : List String) : Directory :=
  match d with
  | table entries => table (entries.insert name uris)
  | other => other

/-- Drops a name, and gives the addresses it had. -/
def remove (d : Directory) (name : String) : Option (List String) × Directory :=
  match d with
  | table entries => (entries.get? name, table (entries.erase name))
  | other => (none, other)

end Directory

end ServiceMesh
