import ServiceMesh.Proofs.Dict
import ServiceMesh.Transport.Link

/-!
# What becomes of links

Links are added and closed, and never go away.  Closing one marks that one as closed
(`Links.get?_close`); closing all links of a carrier marks those that it carries
(`Links.get?_closeAll`).
-/

namespace ServiceMesh

namespace Links

theorem get?_close (ls : Links) (id other : LinkId) :
    (ls.close id).get? other
      = if id = other then (ls.get? id).map fun link => { link with closed := true }
        else ls.get? other :=
  Dict.get?_modify ls.byId id other _

/-- Closing a link marks that link, and leaves the others as they are. -/
theorem get?_close_eq_map (ls : Links) (id other : LinkId) :
    (ls.close id).get? other = (ls.get? other).map fun link =>
      { link with closed := link.closed || decide (id = other) } := by
  rw [get?_close]
  by_cases h : id = other
  · subst h
    simp
  · simp [h]

theorem get?_closeAll (ls : Links) (carrier : Carrier) (id : LinkId) :
    (ls.closeAll carrier).get? id = (ls.get? id).map fun link =>
      if link.carrier = carrier then { link with closed := true } else link :=
  Dict.get?_map ls.byId _ id

theorem isSome_get?_close (ls : Links) (id other : LinkId) :
    ((ls.close id).get? other).isSome = (ls.get? other).isSome := by
  rw [get?_close]
  split
  · next h =>
    subst h
    exact Option.isSome_map
  · rfl

theorem isClosed_foldl_close (ids : List LinkId) (ls : Links) (id : LinkId) :
    (ids.foldl close ls).isClosed id = (decide (id ∈ ids) || ls.isClosed id) := by
  induction ids generalizing ls with
  | nil => simp
  | cons first rest ih =>
    rw [List.foldl_cons, ih, isClosed_close]
    by_cases h : first = id
    · simp [h]
    · have h' : ¬ id = first := by
        intro he
        exact h he.symm
      simp [h, h']

theorem isSome_get?_foldl_close (ids : List LinkId) (ls : Links) (id : LinkId) :
    ((ids.foldl close ls).get? id).isSome = (ls.get? id).isSome := by
  induction ids generalizing ls with
  | nil => rfl
  | cons first rest ih => rw [List.foldl_cons, ih, isSome_get?_close]

theorem isClosed_close?_of_isClosed {ls : Links} {id : LinkId} (h : ls.isClosed id = true)
    (other : Option LinkId) : (ls.close? other).isClosed id = true := by
  cases other with
  | none => exact h
  | some other => simp [close?, isClosed_close, h]

theorem isSome_get?_close? (ls : Links) (id : LinkId) (other : Option LinkId) :
    ((ls.close? other).get? id).isSome = (ls.get? id).isSome := by
  cases other with
  | none => rfl
  | some other => exact isSome_get?_close ls other id

end Links

end ServiceMesh
