import ServiceMesh.Proofs.Dict
import ServiceMesh.Proofs.Routes.Responder
import ServiceMesh.Routes.Table

/-!
# What the changes of a route table do to a look-up

Each change of a route table concerns one id.  The equations below say what it makes of
the responder with that id and that it leaves every other look-up alone.  Later proofs
cite them and never open a change.

They hold of tables that file each responder under its own id (`RouteTable.Keyed`), which
every change keeps.
-/

namespace ServiceMesh

namespace RouteTable

/-- Each responder stands under its own id. -/
def Keyed (t : RouteTable) : Prop := ∀ id r, t.get? id = some r → r.id = id

theorem keyed_empty : Keyed {} := by
  intro id r h
  cases h

/-- Putting a responder into the table answers its own id with it, and no other id differently. -/
@[simp] theorem get?_put (t : RouteTable) (r : Responder) (id : Uuid) :
    (t.put r).get? id = if r.id = id then some r else t.get? id :=
  Dict.get?_insert t.byId r.id id r

/-- Indexing services does not change what the ids stand for. -/
@[simp] theorem get?_index (t : RouteTable) (x : Uuid) (ls : List Locator) (id : Uuid) :
    (t.index x ls).get? id = t.get? id := rfl

/-- Taking services out of the index does not change what the ids stand for. -/
@[simp] theorem get?_unindex (t : RouteTable) (r : Responder) (ls : List Locator) (id : Uuid) :
    (t.unindex r ls).get? id = t.get? id := rfl

/-- The responder for which a registration adds services: the known one, or the new one. -/
def registrant (t : RouteTable) (r : Responder) : Responder := (t.get? r.id).getD r

/-- A known responder registers as what the table holds of it. -/
theorem registrant_of_get? {t : RouteTable} {r known : Responder} (h : t.get? r.id = some known) :
    t.registrant r = known := by
  simp [registrant, h]

/-- An unknown responder registers as it comes. -/
theorem registrant_of_none {t : RouteTable} {r : Responder} (h : t.get? r.id = none) :
    t.registrant r = r := by
  simp [registrant, h]

/-- Whoever registers keeps its id. -/
theorem Keyed.registrant_id {t : RouteTable} (hk : t.Keyed) (r : Responder) :
    (t.registrant r).id = r.id := by
  cases h : t.get? r.id with
  | none => rw [registrant_of_none h]
  | some known => rw [registrant_of_get? h]; exact hk r.id known h

/-- The table that knows the application of a responder that is new. -/
def enlist (t : RouteTable) (r : Responder) : RouteTable :=
  match t.get? r.id with
  | some _ => t
  | none => { t with byApp := addToSet t.byApp r.app.name r.id }

@[simp] theorem get?_enlist (t : RouteTable) (r : Responder) (id : Uuid) :
    (t.enlist r).get? id = t.get? id := by
  unfold enlist
  split <;> rfl

theorem register_table (t : RouteTable) (r : Responder) (ls : List Locator) :
    (t.register r ls).2.1
      = ((t.enlist r).put ((t.registrant r).addServices ls).2).index (t.registrant r).id
          ((t.registrant r).missing ls) := rfl

section

variable {t : RouteTable}

/-- A registration adds services to the responder that registers, and to nobody else. -/
theorem get?_register (hk : t.Keyed) (r : Responder) (ls : List Locator) (id : Uuid) :
    (t.register r ls).2.1.get? id
      = if r.id = id then some ((t.registrant r).addServices ls).2 else t.get? id := by
  have hid : ((t.registrant r).addServices ls).2.id = r.id := hk.registrant_id r
  rw [register_table, get?_index, get?_put, hid, get?_enlist]

theorem register_fst (t : RouteTable) (r : Responder) (ls : List Locator) :
    (t.register r ls).1 = ((t.registrant r).addServices ls).2 := rfl

/-- Taking services back concerns the responder that had them, and nobody else. -/
theorem get?_unregister (hk : t.Keyed) (x : Uuid) (ls : List Locator) (id : Uuid) :
    (t.unregister x ls).2.1.get? id
      = if x = id then (t.get? x).map (fun r => (r.removeServices ls).2) else t.get? id := by
  cases h : t.get? x with
  | none =>
    by_cases hx : x = id
    · simp [unregister, ← hx, h]
    · simp [unregister, h, hx]
  | some r =>
    have hid : (r.removeServices ls).2.id = x := hk x r h
    simp only [unregister, h, get?_unindex, get?_put, hid, Option.map_some]

/-- A removed responder is gone, and everybody else stays. -/
theorem get?_remove (t : RouteTable) (x id : Uuid) :
    (t.remove x).2.1.get? id = if x = id then none else t.get? id := by
  cases h : t.get? x with
  | none =>
    by_cases hx : x = id
    · simp [remove, ← hx, h]
    · simp [remove, h, hx]
  | some r =>
    simp only [remove, h]
    exact Dict.get?_erase t.byId x id

/-- A responder that stops is gone. -/
theorem get?_setStatus_stopped (t : RouteTable) (x id : Uuid) :
    (t.setStatus x .stopped).2.1.get? id = if x = id then none else t.get? id := by
  simp only [setStatus, if_true]
  exact get?_remove t x id

/-- Any other status is written into the responder, and nothing else of it changes. -/
theorem get?_setStatus (hk : t.Keyed) (x : Uuid) {status : AppStatus} (hs : status ≠ .stopped)
    (id : Uuid) :
    (t.setStatus x status).2.1.get? id
      = if x = id then (t.get? x).map (fun r => { r with status := status })
        else t.get? id := by
  cases h : t.get? x with
  | none =>
    by_cases hx : x = id
    · simp [setStatus, hs, ← hx, h]
    · simp [setStatus, hs, h, hx]
  | some r =>
    have hid : Responder.id { r with status := status } = x := hk x r h
    simp only [setStatus, hs, if_false, h, get?_put, hid, Option.map_some]

/-! ## Every change keeps the filing -/

/-- Registering keeps every responder under its own id. -/
theorem Keyed.register (hk : t.Keyed) (r : Responder) (ls : List Locator) :
    (t.register r ls).2.1.Keyed := by
  intro id x hx
  rw [get?_register hk] at hx
  split at hx
  · next hid =>
    cases hx
    rw [← hid]
    exact hk.registrant_id r
  · exact hk id x hx

/-- Taking services back keeps every responder under its own id. -/
theorem Keyed.unregister (hk : t.Keyed) (x : Uuid) (ls : List Locator) :
    (t.unregister x ls).2.1.Keyed := by
  intro id r hr
  rw [get?_unregister hk] at hr
  split at hr
  · next hid =>
    obtain ⟨r', hr', rfl⟩ := Option.map_eq_some_iff.mp hr
    rw [← hid]
    exact hk x r' hr'
  · exact hk id r hr

/-- Removing keeps every responder under its own id. -/
theorem Keyed.remove (hk : t.Keyed) (x : Uuid) : (t.remove x).2.1.Keyed := by
  intro id r hr
  rw [get?_remove] at hr
  split at hr
  · cases hr
  · exact hk id r hr

/-- A change of status keeps every responder under its own id. -/
theorem Keyed.setStatus (hk : t.Keyed) (x : Uuid) (status : AppStatus) :
    (t.setStatus x status).2.1.Keyed := by
  by_cases hs : status = .stopped
  · subst hs
    simp only [RouteTable.setStatus, if_true]
    exact hk.remove x
  · intro id r hr
    rw [get?_setStatus hk x hs] at hr
    split at hr
    · next hid =>
      obtain ⟨r', hr', rfl⟩ := Option.map_eq_some_iff.mp hr
      rw [← hid]
      exact hk x r' hr'
    · exact hk id r hr

/-! ## Changes made of two -/

/-- Exposing is registering and then serving. -/
theorem expose_table (t : RouteTable) (r : Responder) (ls : List Locator) :
    (t.expose r ls).2.1
      = ((t.register r ls).2.1.setStatus (t.register r ls).1.id .serving).2.1 := rfl

theorem expose_fst (t : RouteTable) (r : Responder) (ls : List Locator) :
    (t.expose r ls).1 = (t.registrant r).exposing ls := rfl

/-- Exposing keeps every responder under its own id. -/
theorem Keyed.expose (hk : t.Keyed) (r : Responder) (ls : List Locator) :
    (t.expose r ls).2.1.Keyed := by
  rw [expose_table]
  exact (hk.register r ls).setStatus _ _

/-- What exposes serves the services it had and the new ones; nobody else changes. -/
theorem get?_expose (hk : t.Keyed) (r : Responder) (ls : List Locator) (id : Uuid) :
    (t.expose r ls).2.1.get? id
      = if r.id = id then some ((t.registrant r).exposing ls) else t.get? id := by
  have hcur : (t.register r ls).1.id = r.id := hk.registrant_id r
  rw [expose_table, get?_setStatus (hk.register r ls) _ (by decide), hcur, get?_register hk,
    get?_register hk]
  by_cases h : r.id = id
  · simp only [h, if_true, Option.map_some]
    rfl
  · simp [h]

/-- The table after services were withdrawn: after the withdrawal itself, the status of a
responder that serves nothing any more moves. -/
theorem hide_table (t : RouteTable) (x : Uuid) (ls : List Locator) :
    (t.hide x ls).2.1
      = (match (t.unregister x ls).2.1.get? x with
        | some r =>
            if r.services.isEmpty && r.isServing then
              ((t.unregister x ls).2.1.setStatus x .down).2.1
            else (t.unregister x ls).2.1
        | none => (t.unregister x ls).2.1) := by
  cases h : (t.unregister x ls).2.1.get? x with
  | none => simp only [hide, h]
  | some r =>
    simp only [hide, h]
    split <;> rfl

/-- Hiding keeps every responder under its own id. -/
theorem Keyed.hide (hk : t.Keyed) (x : Uuid) (ls : List Locator) : (t.hide x ls).2.1.Keyed := by
  rw [hide_table]
  split
  · split
    · exact (hk.unregister x ls).setStatus x .down
    · exact hk.unregister x ls
  · exact hk.unregister x ls

/-- Hiding withdraws services of one responder; nobody else changes. -/
theorem get?_hide (hk : t.Keyed) (x : Uuid) (ls : List Locator) (id : Uuid) :
    (t.hide x ls).2.1.get? id
      = if x = id then (t.get? x).map (fun r => r.withdrawing ls) else t.get? id := by
  have hun := get?_unregister hk x ls
  have hku := hk.unregister x ls
  rw [hide_table]
  cases h : t.get? x with
  | none =>
    have hx : (t.unregister x ls).2.1.get? x = none := by simp [hun, h]
    rw [hx]
    simp [hun, h]
  | some r =>
    have hx : (t.unregister x ls).2.1.get? x = some (r.removeServices ls).2 := by simp [hun, h]
    rw [hx]
    simp only [Option.map_some, Responder.withdrawing]
    split
    · rw [get?_setStatus hku x (by decide), hx, hun]
      by_cases hid : x = id <;> simp [hid]
    · rw [hun, h]
      by_cases hid : x = id <;> simp [hid]

end

end RouteTable

end ServiceMesh
