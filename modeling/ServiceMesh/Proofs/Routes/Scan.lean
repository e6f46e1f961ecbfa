import Mathlib.Data.List.Nodup
import ServiceMesh.Proofs.Routes.Indices

/-!
# Queries of a route table against a scan

Every query of a route table gives its responders in the order of their ids.  For a
consistent table a query through an index is the scan of all responders that keeps those
with the key: `withHash_eq_scan`, `servingHash_eq_scan` and `ofApp_eq_scan`.

A *change* is one call of the table as its callers make it: a responder that is handed
over is new, or it is the one that the table already holds.  `indices_agree_with_scan`
says that the indices are right, and the queries are scans, after any list of changes of
a new table.
-/

namespace ServiceMesh

/-! ## The order of ids -/

namespace Uuid

theorem le_total (u v : Uuid) : (u.le v || v.le u) = true := by
  simp only [le, Bool.or_eq_true, decide_eq_true_eq]
  exact List.le_total u.bytes v.bytes

theorem le_trans (u v w : Uuid) (h1 : u.le v = true) (h2 : v.le w = true) : u.le w = true := by
  simp only [le, decide_eq_true_eq] at *
  exact List.le_trans h1 h2

theorem le_antisymm {u v : Uuid} (h1 : u.le v = true) (h2 : v.le u = true) : u = v := by
  simp only [le, decide_eq_true_eq] at *
  have hbytes : u.bytes = v.bytes := List.le_antisymm h1 h2
  cases u
  cases v
  cases hbytes
  rfl

end Uuid

namespace RouteTable

/-! ## Sorted listings -/

/-- Responders that are sorted stand in the order of their ids. -/
theorem sorted_sortById (rs : List Responder) :
    (sortById rs).Pairwise fun a b => a.id.le b.id = true :=
  List.pairwise_mergeSort (fun a b c => Uuid.le_trans a.id b.id c.id)
    (fun a b => Uuid.le_total a.id b.id) rs

/-- Sorting loses and adds nobody. -/
theorem perm_sortById (rs : List Responder) : (sortById rs).Perm rs :=
  List.mergeSort_perm rs _

/-- Two listings in the order of ids are equal if they list the same responders and no
two of these share an id. -/
theorem sortById_eq_of_perm {xs ys : List Responder} (hp : (sortById xs).Perm ys)
    (hy : ys.Pairwise fun a b => a.id.le b.id = true)
    (hinj : ∀ a ∈ ys, ∀ b ∈ ys, a.id = b.id → a = b) : sortById xs = ys := by
  refine hp.eq_of_pairwise ?_ (sorted_sortById xs) hy
  intro a b ha hb h1 h2
  exact hinj a (hp.mem_iff.mp ha) b hb (Uuid.le_antisymm h1 h2)

section

variable {t : RouteTable}

/-- The records of a consistent table are what it has under their ids. -/
theorem Consistent.mem_values (h : t.Consistent) (r : Responder) :
    r ∈ t.byId.values ↔ t.get? r.id = some r := by
  rw [Dict.mem_values_iff h.nodup]
  constructor
  · rintro ⟨id, hid⟩
    rw [h.keyed id r hid]
    exact hid
  · intro hr
    exact ⟨r.id, hr⟩

/-- The responders that are listed are those that the table has. -/
theorem Consistent.mem_responders (h : t.Consistent) (r : Responder) :
    r ∈ t.responders ↔ t.get? r.id = some r :=
  (perm_sortById t.byId.values).mem_iff.trans (h.mem_values r)

/-- No id is listed twice. -/
theorem Consistent.nodup_ids (h : t.Consistent) : (t.responders.map Responder.id).Nodup :=
  ((perm_sortById t.byId.values).map Responder.id).nodup_iff.mpr
    (Dict.nodup_values_map h.nodup Responder.id h.keyed)

/-- No responder is listed twice. -/
theorem Consistent.nodup_responders (h : t.Consistent) : t.responders.Nodup :=
  List.Nodup.of_map Responder.id h.nodup_ids

/-- The responders behind the set of a key are those that a scan finds to have the
key. -/
theorem Consistent.perm_scan (h : t.Consistent) {κ : Type} [DecidableEq κ]
    {d : Dict κ (List Uuid)} {has : Responder → κ → Prop} (hd : Indexes d t has) (k : κ)
    (p : Responder → Bool) (hp : ∀ r, p r = true ↔ has r k) :
    ((d.getD k []).filterMap t.get?).Perm (t.responders.filter p) := by
  have hinj : ∀ a a' r, r ∈ t.get? a → r ∈ t.get? a' → a = a' := by
    intro a a' r ha ha'
    rw [← h.keyed a r ha, ← h.keyed a' r ha']
  have hnodup := (hd.1.nodup_getD k).filterMap hinj
  refine (List.perm_ext_iff_of_nodup hnodup ?_).mpr ?_
  · exact h.nodup_responders.filter _
  · intro r
    rw [List.mem_filterMap, List.mem_filter, h.mem_responders, hp]
    constructor
    · rintro ⟨id, hid, hr⟩
      obtain ⟨r', hr', hk⟩ := (hd.2 k id).mp hid
      rw [hr] at hr'
      cases hr'
      rw [h.keyed id r hr]
      exact ⟨hr, hk⟩
    · rintro ⟨hr, hk⟩
      exact ⟨r.id, (hd.2 k r.id).mpr ⟨r, hr, hk⟩, hr⟩

/-- A query through an index is a scan. -/
theorem Consistent.lookup_eq_scan (h : t.Consistent) {κ : Type} [DecidableEq κ]
    {d : Dict κ (List Uuid)} {has : Responder → κ → Prop} (hd : Indexes d t has) (k : κ)
    (p : Responder → Bool) (hp : ∀ r, p r = true ↔ has r k) :
    sortById ((d.getD k []).filterMap t.get?) = t.responders.filter p := by
  refine sortById_eq_of_perm ((perm_sortById _).trans (h.perm_scan hd k p hp)) ?_ ?_
  · exact (sorted_sortById t.byId.values).filter p
  · intro a ha b hb hab
    have hga := (h.mem_responders a).mp (List.mem_of_mem_filter ha)
    have hgb := (h.mem_responders b).mp (List.mem_of_mem_filter hb)
    rw [hab, hgb] at hga
    exact (Option.some.inj hga).symm

/-- Looking a hash up finds those that a scan for it finds. -/
theorem Consistent.withHash_eq_scan (h : t.Consistent) (hash : UInt32) :
    t.withHash hash = t.responders.filter fun r => r.services.any fun l => l.hash == hash := by
  apply h.lookup_eq_scan h.hashes hash _
  intro r
  simp [HasHash]

/-- Looking up who serves a hash finds those that a scan for it finds. -/
theorem Consistent.servingHash_eq_scan (h : t.Consistent) (hash : UInt32) :
    t.servingHash hash
      = t.responders.filter fun r => r.isServing && r.services.any fun l => l.hash == hash := by
  unfold servingHash
  rw [h.withHash_eq_scan, List.filter_filter]

/-- Looking an application up finds those that a scan for it finds. -/
theorem Consistent.ofApp_eq_scan (h : t.Consistent) (name : String) :
    t.ofApp name = t.responders.filter fun r => r.app.name == name := by
  apply h.lookup_eq_scan h.apps name _
  intro r
  simp [IsOf]

/-! ## Who takes calls -/

/-- The responder of a table takes calls for a service. -/
structure Serves (t : RouteTable) (l : Locator) (x : Responder) : Prop where
  listed : t.get? x.id = some x
  serving : x.status = .serving
  exposed : l ∈ x.services

/-- Whoever serves a hash serves some locator with that hash. -/
theorem Consistent.mem_servingHash (h : t.Consistent) (hash : UInt32) (x : Responder) :
    x ∈ t.servingHash hash ↔ ∃ l, l.hash = hash ∧ t.Serves l x := by
  rw [h.servingHash_eq_scan, List.mem_filter, h.mem_responders, Bool.and_eq_true, List.any_eq_true]
  constructor
  · rintro ⟨hlisted, hserving, l, hl, hhash⟩
    exact ⟨l, beq_iff_eq.mp hhash, hlisted, beq_iff_eq.mp hserving, hl⟩
  · rintro ⟨l, hhash, hlisted, hserving, hl⟩
    exact ⟨hlisted, beq_iff_eq.mpr hserving, l, hl, beq_iff_eq.mpr hhash⟩

/-- A query for a service gives the responders that take calls for this very service, whoever
else shares its hash. -/
theorem Consistent.mem_serving (h : t.Consistent) (l : Locator) (x : Responder) :
    x ∈ t.serving l ↔ t.Serves l x := by
  rw [RouteTable.serving, List.mem_filter, h.mem_servingHash]
  constructor
  · rintro ⟨⟨_, -, hlisted, hserving, -⟩, hexposes⟩
    exact ⟨hlisted, hserving, List.contains_iff_mem.mp hexposes⟩
  · intro hx
    exact ⟨⟨l, rfl, hx⟩, List.contains_iff_mem.mpr hx.exposed⟩

/-- The responders that take calls for a service are given in the order of their ids. -/
theorem sorted_serving (t : RouteTable) (l : Locator) :
    (t.serving l).Pairwise fun a b => a.id.le b.id = true := by
  unfold serving servingHash withHash
  exact ((sorted_sortById _).filter _).filter _

/-- No two of them have one id. -/
theorem Consistent.nodup_serving_ids (h : t.Consistent) (l : Locator) :
    ((t.serving l).map Responder.id).Nodup := by
  rw [serving, h.servingHash_eq_scan]
  exact h.nodup_ids.sublist ((List.filter_sublist.trans List.filter_sublist).map _)

end

/-! ## Runs -/

/-- A responder as callers hand it to a table. -/
inductive Handed where
  /-- One that was just built. -/
  | fresh (app : AppMetadata) (route : Route)
  /-- The one that the table holds under an id. -/
  | known (id : Uuid)

/-- The responder that is handed over, if there is one. -/
def Handed.resolve (t : RouteTable) : Handed → Option Responder
  | fresh app route => some { app := app, route := route }
  | known id => t.get? id

/-- A call that changes a table. -/
inductive Change where
  | register (handed : Handed) (services : List Locator)
  | unregister (id : Uuid) (services : List Locator)
  | remove (id : Uuid)
  | setStatus (id : Uuid) (status : AppStatus)
  | expose (handed : Handed) (services : List Locator)
  | hide (id : Uuid) (services : List Locator)

/-- The table after a call.  Nothing is called if there is no responder to hand over. -/
def Change.apply (t : RouteTable) : Change → RouteTable
  | register handed services =>
      match handed.resolve t with
      | some r => (t.register r services).2.1
      | none => t
  | unregister id services => (t.unregister id services).2.1
  | remove id => (t.remove id).2.1
  | setStatus id status => (t.setStatus id status).2.1
  | expose handed services =>
      match handed.resolve t with
      | some r => (t.expose r services).2.1
      | none => t
  | hide id services => (t.hide id services).2.1

/-- A new table after a list of calls. -/
def after (changes : List Change) : RouteTable := changes.foldl Change.apply {}

/-- Whatever an operation is handed can be registered. -/
theorem Handed.registrable {t : RouteTable} (hk : t.Keyed) {handed : Handed} {r : Responder}
    (h : handed.resolve t = some r) : t.Registrable r := by
  intro hnone
  cases handed with
  | fresh app route =>
    cases h
    constructor
    · rfl
    · intro hs
      cases hs
  | known id =>
    have hid := hk id r h
    rw [hid] at hnone
    rw [resolve, hnone] at h
    cases h

/-- Every operation keeps a table consistent. -/
theorem Consistent.apply {t : RouteTable} (h : t.Consistent) (change : Change) :
    (change.apply t).Consistent := by
  cases change with
  | register handed services =>
    cases hr : handed.resolve t with
    | none => simpa only [Change.apply, hr] using h
    | some r =>
      simp only [Change.apply, hr]
      exact h.register (Handed.registrable h.keyed hr) services
  | unregister id services => exact h.unregister id services
  | remove id => exact h.remove id
  | setStatus id status => exact h.setStatus id status
  | expose handed services =>
    cases hr : handed.resolve t with
    | none => simpa only [Change.apply, hr] using h
    | some r =>
      simp only [Change.apply, hr]
      exact h.expose (Handed.registrable h.keyed hr) services
  | hide id services => exact h.hide id services

/-- Any operations one after the other keep a table consistent. -/
theorem Consistent.foldl_apply (changes : List Change) :
    ∀ {t : RouteTable}, t.Consistent → (changes.foldl Change.apply t).Consistent := by
  induction changes with
  | nil =>
    intro t h
    exact h
  | cons change rest ih =>
    intro t h
    exact ih (h.apply change)

/-- Every table that operations lead to is consistent. -/
theorem consistent_after (changes : List Change) : (after changes).Consistent :=
  consistent_empty.foldl_apply changes

/-- Whatever is done to a new table, in any order: its indices by hash and by application
list exactly the ids that a scan of its responders finds, no key has an empty set, no
responder is stopped, and its queries give what a scan of all responders gives, each
responder once. -/
theorem indices_agree_with_scan (changes : List Change) :
    let t := after changes
    (∀ hash id, id ∈ t.byHash.getD hash []
      ↔ ∃ r, t.get? id = some r ∧ ∃ l ∈ r.services, l.hash = hash) ∧
    (∀ name id, id ∈ t.byApp.getD name [] ↔ ∃ r, t.get? id = some r ∧ r.app.name = name) ∧
    (∀ hash, t.byHash.get? hash ≠ some []) ∧ (∀ name, t.byApp.get? name ≠ some []) ∧
    (∀ id r, t.get? id = some r → r.status ≠ .stopped) ∧
    (∀ r, r ∈ t.responders ↔ t.get? r.id = some r) ∧ (t.responders.map Responder.id).Nodup ∧
    (∀ hash, t.withHash hash
      = t.responders.filter fun r => r.services.any fun l => l.hash == hash) ∧
    (∀ hash, t.servingHash hash
      = t.responders.filter fun r => r.isServing && r.services.any fun l => l.hash == hash) ∧
    (∀ name, t.ofApp name = t.responders.filter fun r => r.app.name == name) := by
  intro t
  have h : t.Consistent := consistent_after changes
  refine ⟨h.hashes.2, h.apps.2, ?_, ?_, h.live, h.mem_responders, h.nodup_ids,
    h.withHash_eq_scan, h.servingHash_eq_scan, h.ofApp_eq_scan⟩
  · intro hash he
    exact (h.hashes.1 hash [] he).1 rfl
  · intro name he
    exact (h.apps.1 name [] he).1 rfl

end RouteTable

end ServiceMesh
