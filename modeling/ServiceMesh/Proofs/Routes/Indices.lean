import ServiceMesh.Proofs.Routes.Lookup

/-!
# The indices of a route table agree with a scan

A route table keeps two indices beside its responders: ids by the hash of a service, and
ids by application.  `RouteTable.Consistent` says that each of them lists exactly the ids
that a scan of all responders would find, that no key is left with an empty set, and that
no responder of the table is stopped.

Every change of the table keeps this.  The delicate ones are withdrawals: two services of
a responder may share a hash, so a hash is dropped only when no service that is left has
it (`mem_unindex`).

`indices_agree_with_scan` is the statement for whole runs: whatever is done to a new
table, its queries by hash, by hash and status, and by application give the responders
that a scan gives, each once.
-/

namespace ServiceMesh

/-! ## Sets of ids -/

section

variable {κ : Type u} [DecidableEq κ]

/-- The set under a key gets an id that it did not have; the sets under other keys stay. -/
theorem get?_addToSet (d : Dict κ (List Uuid)) (k : κ) (id : Uuid) (j : κ) :
    (addToSet d k id).get? j
      = if k = j then
          some (if (d.getD k []).contains id then d.getD k [] else d.getD k [] ++ [id])
        else d.get? j :=
  Dict.get?_insert d k j _

/-- A set holds what was added to it and what it held before. -/
theorem mem_addToSet (d : Dict κ (List Uuid)) (k : κ) (x : Uuid) (j : κ) (id : Uuid) :
    id ∈ (addToSet d k x).getD j [] ↔ (id = x ∧ k = j) ∨ id ∈ d.getD j [] := by
  unfold Dict.getD
  rw [get?_addToSet]
  by_cases hk : k = j
  · subst hk
    simp only [if_true, Option.getD_some, and_true, List.contains_iff_mem]
    split
    · next hx =>
      constructor
      · exact Or.inr
      · rintro (rfl | h)
        · exact hx
        · exact h
    · simp only [List.mem_append, List.mem_singleton]
      exact Or.comm
  · simp [hk]

/-- Adding to sets without repetitions and without empty ones keeps them so. -/
theorem sets_addToSet {d : Dict κ (List Uuid)} (h : d.Sets) (k : κ) (id : Uuid) :
    (addToSet d k id).Sets := by
  intro j ids hj
  rw [get?_addToSet] at hj
  split at hj
  · cases hj
    have hnd := h.nodup_getD k
    split
    · next hx =>
      exact ⟨List.ne_nil_of_mem (List.contains_iff_mem.mp hx), hnd⟩
    · next hx =>
      refine ⟨by simp, List.nodup_append.mpr ⟨hnd, by simp, ?_⟩⟩
      intro a ha b hb hab
      rw [List.mem_singleton.mp hb] at hab
      exact hx (List.contains_iff_mem.mpr (hab ▸ ha))
  · exact h j ids hj

/-- The set under a key loses an id, and is dropped itself when nothing is left of it. -/
theorem get?_dropFromSet (d : Dict κ (List Uuid)) (k : κ) (id : Uuid) (j : κ) :
    (dropFromSet d k id).get? j
      = if k = j then
          (d.get? k).bind fun ids =>
            if (ids.filter (· ≠ id)).isEmpty then none else some (ids.filter (· ≠ id))
        else d.get? j := by
  unfold dropFromSet
  rw [Dict.get?_alter]
  cases d.get? k <;> rfl

/-- A set holds what it held before but for what was dropped from it. -/
theorem mem_dropFromSet (d : Dict κ (List Uuid)) (k : κ) (x : Uuid) (j : κ) (id : Uuid) :
    id ∈ (dropFromSet d k x).getD j [] ↔ id ∈ d.getD j [] ∧ ¬ (id = x ∧ k = j) := by
  unfold Dict.getD
  rw [get?_dropFromSet]
  by_cases hk : k = j
  · subst hk
    cases hd : d.get? k with
    | none => simp
    | some ids =>
      simp only [if_true, Option.bind_some, Option.getD_some, and_true]
      have hmem : id ∈ ids.filter (· ≠ x) ↔ id ∈ ids ∧ ¬ id = x := by simp
      rw [← hmem]
      split
      · next he => rw [List.isEmpty_iff.mp he, Option.getD_none]
      · rfl
  · simp [hk]

/-- Dropping from sets without repetitions and without empty ones keeps them so. -/
theorem sets_dropFromSet {d : Dict κ (List Uuid)} (h : d.Sets) (k : κ) (id : Uuid) :
    (dropFromSet d k id).Sets := by
  intro j ids hj
  rw [get?_dropFromSet] at hj
  split at hj
  · obtain ⟨old, hold, hif⟩ := Option.bind_eq_some_iff.mp hj
    split at hif
    · cases hif
    · next hne =>
      cases hif
      constructor
      · intro he
        exact hne (List.isEmpty_iff.mpr he)
      · exact (h k old hold).2.sublist List.filter_sublist
  · exact h j ids hj

end

namespace RouteTable

/-! ## An index and what it indexes -/

/-- An index lists, for each key, exactly the ids whose responder has the key. -/
def Indexes {κ : Type} [DecidableEq κ] (d : Dict κ (List Uuid)) (t : RouteTable)
    (has : Responder → κ → Prop) : Prop :=
  d.Sets ∧ ∀ k id, id ∈ d.getD k [] ↔ ∃ r, t.get? id = some r ∧ has r k

/-- A responder exposes some service with a hash. -/
def HasHash (r : Responder) (hash : UInt32) : Prop := ∃ l ∈ r.services, l.hash = hash

/-- A responder is an instance of an application. -/
def IsOf (r : Responder) (name : String) : Prop := r.app.name = name

/-- The indices list what a scan would find, and nothing in the table is stopped. -/
structure Consistent (t : RouteTable) : Prop where
  /-- Each id is listed once. -/
  nodup : t.byId.keys.Nodup
  /-- Each responder stands under its own id. -/
  keyed : t.Keyed
  /-- The index by hash. -/
  hashes : Indexes t.byHash t HasHash
  /-- The index by application. -/
  apps : Indexes t.byApp t IsOf
  /-- No responder is stopped. -/
  live : ∀ id r, t.get? id = some r → r.status ≠ .stopped

theorem indexes_empty {κ : Type} [DecidableEq κ] (has : Responder → κ → Prop) :
    Indexes (.empty : Dict κ (List Uuid)) {} has := by
  refine ⟨Dict.sets_empty, fun k id => ⟨?_, ?_⟩⟩
  · intro h
    cases h
  · intro h
    obtain ⟨_, h, _⟩ := h
    cases h

theorem consistent_empty : Consistent {} where
  nodup := List.nodup_nil
  keyed := keyed_empty
  hashes := indexes_empty HasHash
  apps := indexes_empty IsOf
  live := fun _ _ h => by cases h

/-- An index stays right if it changes for the id whose responder changes, and for no
other. -/
theorem Indexes.update {κ : Type} [DecidableEq κ] {d d' : Dict κ (List Uuid)}
    {t t' : RouteTable} {has : Responder → κ → Prop} (h : Indexes d t has) (hs : d'.Sets)
    (x : Uuid) (hother : ∀ id, x ≠ id → t'.get? id = t.get? id)
    (hmem : ∀ k id, x ≠ id → (id ∈ d'.getD k [] ↔ id ∈ d.getD k []))
    (hself : ∀ k, x ∈ d'.getD k [] ↔ ∃ r, t'.get? x = some r ∧ has r k) :
    Indexes d' t' has := by
  refine ⟨hs, ?_⟩
  intro k id
  by_cases hx : x = id
  · subst hx
    exact hself k
  · rw [hmem k id hx, hother id hx]
    exact h.2 k id

/-- An index need not change if the responder that changes keeps its keys. -/
theorem Indexes.revise {κ : Type} [DecidableEq κ] {d : Dict κ (List Uuid)} {t t' : RouteTable}
    {has : Responder → κ → Prop} (h : Indexes d t has) {x : Uuid} {r r' : Responder}
    (hr : t.get? x = some r) (hother : ∀ id, x ≠ id → t'.get? id = t.get? id)
    (hr' : t'.get? x = some r') (hsame : ∀ k, has r' k ↔ has r k) : Indexes d t' has := by
  apply h.update h.1 x hother (fun _ _ _ => Iff.rfl)
  intro k
  rw [h.2, hr, hr']
  simp [hsame]

/-! ## The index by hash -/

/-- The hashes of a list of services are those of its head and of its tail. -/
theorem exists_hash_cons (l : Locator) (ls : List Locator) (h : UInt32) :
    (∃ k ∈ l :: ls, k.hash = h) ↔ l.hash = h ∨ ∃ k ∈ ls, k.hash = h := by
  simp only [List.mem_cons, or_and_right, exists_or, exists_eq_left]

/-- Services are indexed one after the other. -/
theorem index_byHash_cons (t : RouteTable) (x : Uuid) (l : Locator) (ls : List Locator) :
    (t.index x (l :: ls)).byHash
      = (index { t with byHash := addToSet t.byHash l.hash x } x ls).byHash := rfl

/-- Indexing adds one id to the sets under the hashes of some services. -/
theorem mem_index (x : Uuid) (ls : List Locator) : ∀ (t : RouteTable) (h : UInt32) (id : Uuid),
    id ∈ (t.index x ls).byHash.getD h []
      ↔ (id = x ∧ ∃ l ∈ ls, l.hash = h) ∨ id ∈ t.byHash.getD h [] := by
  induction ls with
  | nil => intro t h id; simp [index]
  | cons l rest ih =>
    intro t h id
    rw [index_byHash_cons, ih, mem_addToSet, exists_hash_cons]
    constructor
    · rintro (⟨hx, hl⟩ | ⟨hx, hl⟩ | hm)
      · exact Or.inl ⟨hx, Or.inr hl⟩
      · exact Or.inl ⟨hx, Or.inl hl⟩
      · exact Or.inr hm
    · rintro (⟨hx, hl | hl⟩ | hm)
      · exact Or.inr (Or.inl ⟨hx, hl⟩)
      · exact Or.inl ⟨hx, hl⟩
      · exact Or.inr (Or.inr hm)

/-- Indexing keeps the sets without repetitions and without empty ones. -/
theorem sets_index (x : Uuid) (ls : List Locator) : ∀ (t : RouteTable), t.byHash.Sets →
    (t.index x ls).byHash.Sets := by
  induction ls with
  | nil => intro t h; exact h
  | cons l rest ih =>
    intro t h
    rw [index_byHash_cons]
    exact ih _ (sets_addToSet h l.hash x)

/-- Whether a withdrawal of a service leaves its hash, because the responder still
exposes another service with it. -/
def keeps (r : Responder) (l : Locator) : Bool := r.services.any fun kept => kept.hash == l.hash

/-- A responder keeps its place under a hash as long as it has a service with that hash. -/
theorem keeps_iff (r : Responder) (l : Locator) : keeps r l = true ↔ HasHash r l.hash := by
  simp [keeps, HasHash]

/-- Services are taken out of the index one after the other. -/
theorem unindex_byHash_cons (t : RouteTable) (r : Responder) (l : Locator) (ls : List Locator) :
    (t.unindex r (l :: ls)).byHash
      = (unindex { t with byHash := if keeps r l then t.byHash
          else dropFromSet t.byHash l.hash r.id } r ls).byHash := rfl

/-- A withdrawal takes the responder off the hashes of the withdrawn services that no
service left has. -/
theorem mem_unindex (r : Responder) (ls : List Locator) : ∀ (t : RouteTable) (h : UInt32)
    (id : Uuid), id ∈ (t.unindex r ls).byHash.getD h []
      ↔ id ∈ t.byHash.getD h [] ∧ ¬ (id = r.id ∧ (∃ l ∈ ls, l.hash = h) ∧ ¬ HasHash r h) := by
  induction ls with
  | nil => intro t h id; simp [unindex]
  | cons l rest ih =>
    intro t h id
    rw [unindex_byHash_cons, ih, exists_hash_cons]
    by_cases hk : keeps r l = true
    · have hh := (keeps_iff r l).mp hk
      simp only [hk, if_true]
      constructor
      · rintro ⟨hm, hn⟩
        refine ⟨hm, ?_⟩
        rintro ⟨hid, hl | hl, hno⟩
        · exact hno (hl ▸ hh)
        · exact hn ⟨hid, hl, hno⟩
      · rintro ⟨hm, hn⟩
        constructor
        · exact hm
        · rintro ⟨hid, hl, hno⟩
          exact hn ⟨hid, Or.inr hl, hno⟩
    · have hh : ¬ HasHash r l.hash := by
        intro hh
        exact hk ((keeps_iff r l).mpr hh)
      simp only [hk, if_false, Bool.false_eq_true, mem_dropFromSet]
      constructor
      · rintro ⟨⟨hm, hn1⟩, hn2⟩
        refine ⟨hm, ?_⟩
        rintro ⟨hid, hl | hl, hno⟩
        · exact hn1 ⟨hid, hl⟩
        · exact hn2 ⟨hid, hl, hno⟩
      · rintro ⟨hm, hn⟩
        refine ⟨⟨hm, ?_⟩, fun ⟨hid, hl, hno⟩ => hn ⟨hid, Or.inr hl, hno⟩⟩
        rintro ⟨hid, hl⟩
        exact hn ⟨hid, Or.inl hl, hl ▸ hh⟩

/-- Taking services out keeps the sets without repetitions and without empty ones. -/
theorem sets_unindex (r : Responder) (ls : List Locator) : ∀ (t : RouteTable), t.byHash.Sets →
    (t.unindex r ls).byHash.Sets := by
  induction ls with
  | nil => intro t h; exact h
  | cons l rest ih =>
    intro t h
    rw [unindex_byHash_cons]
    refine ih _ ?_
    dsimp only
    split
    · exact h
    · exact sets_dropFromSet h l.hash r.id

/-! ## Every change keeps the indices right -/

@[simp] theorem enlist_byId (t : RouteTable) (r : Responder) : (t.enlist r).byId = t.byId := by
  unfold enlist
  split <;> rfl

@[simp] theorem enlist_byHash (t : RouteTable) (r : Responder) :
    (t.enlist r).byHash = t.byHash := by
  unfold enlist
  split <;> rfl

/-- What callers promise of a responder that they register: if it is new to the table, it
exposes nothing yet and is not stopped. -/
def Registrable (t : RouteTable) (r : Responder) : Prop :=
  t.get? r.id = none → r.services = [] ∧ r.status ≠ .stopped

/-- What the table says of a newcomer is what it has when it registers, for keys it has not of
itself. -/
theorem registrant_has {κ : Type} {t : RouteTable} {r : Responder} (has : Responder → κ → Prop)
    {k : κ} (hnew : t.get? r.id = none → ¬ has r k) :
    (∃ known, t.get? r.id = some known ∧ has known k) ↔ has (t.registrant r) k := by
  cases h : t.get? r.id with
  | none =>
    rw [registrant_of_none h]
    constructor
    · rintro ⟨_, he, _⟩
      cases he
    · intro hr
      exact absurd hr (hnew h)
  | some known =>
    rw [registrant_of_get? h]
    constructor
    · rintro ⟨_, he, hk⟩
      cases he
      exact hk
    · intro hk
      exact ⟨known, rfl, hk⟩

section

variable {t : RouteTable}

/-- After a registration the index by hashes says who has which service. -/
theorem Consistent.register_hashes (h : t.Consistent) {r : Responder} (hr : t.Registrable r)
    (ls : List Locator) :
    Indexes (t.register r ls).2.1.byHash (t.register r ls).2.1 HasHash := by
  have hid : (t.registrant r).id = r.id := h.keyed.registrant_id r
  have hget := get?_register h.keyed r ls
  have hmem : ∀ k id, id ∈ (t.register r ls).2.1.byHash.getD k []
      ↔ (id = r.id ∧ ∃ l ∈ (t.registrant r).missing ls, l.hash = k)
        ∨ id ∈ t.byHash.getD k [] := by
    intro k id
    rw [register_table, mem_index, hid]
    simp [put]
  refine h.hashes.update ?_ r.id ?_ ?_ ?_
  · rw [register_table]
    refine sets_index _ _ _ ?_
    simpa [put] using h.hashes.1
  · intro id hne
    rw [hget, if_neg hne]
  · intro k id hne
    rw [hmem]
    constructor
    · rintro (⟨rfl, _⟩ | hm)
      · exact absurd rfl hne
      · exact hm
    · exact Or.inr
  · intro k
    rw [hmem, h.hashes.2, hget, if_pos rfl]
    rw [registrant_has HasHash fun hnone => by simp [HasHash, (hr hnone).1]]
    constructor
    · rintro (⟨-, l, hl, hk⟩ | ⟨l, hl, hk⟩)
      · exact ⟨_, rfl, l, (Responder.mem_addServices _ _ _).mpr
          (Or.inr ((Responder.mem_missing _ _ _).mp hl).1), hk⟩
      · exact ⟨_, rfl, l, (Responder.mem_addServices _ _ _).mpr (Or.inl hl), hk⟩
    · rintro ⟨_, he, l, hl, hk⟩
      cases he
      by_cases hold : l ∈ (t.registrant r).services
      · exact Or.inr ⟨l, hold, hk⟩
      · rcases (Responder.mem_addServices _ _ _).mp hl with hl' | hl'
        · exact absurd hl' hold
        · exact Or.inl ⟨rfl, l, (Responder.mem_missing _ _ _).mpr ⟨hl', hold⟩, hk⟩

/-- After a registration the index by applications says who is of which one. -/
theorem Consistent.register_apps (h : t.Consistent) (r : Responder) (ls : List Locator) :
    Indexes (t.register r ls).2.1.byApp (t.register r ls).2.1 IsOf := by
  have hget := get?_register h.keyed r ls
  have hother : ∀ id, r.id ≠ id → (t.register r ls).2.1.get? id = t.get? id := by
    intro id hne
    rw [hget, if_neg hne]
  have hself : ∀ n, (∃ x, (t.register r ls).2.1.get? r.id = some x ∧ IsOf x n)
      ↔ (t.registrant r).app.name = n := by
    intro n
    rw [hget, if_pos rfl]
    simp [IsOf]
  have happ : (t.register r ls).2.1.byApp = (t.enlist r).byApp := rfl
  cases hknown : t.get? r.id with
  | some known =>
    rw [happ, show t.enlist r = t by simp [enlist, hknown]]
    apply h.apps.revise hknown hother (hget r.id |>.trans (if_pos rfl))
    intro n
    rw [registrant_of_get? hknown]
    exact Iff.rfl
  | none =>
    rw [happ, show (t.enlist r).byApp = addToSet t.byApp r.app.name r.id by
      simp [enlist, hknown]]
    refine h.apps.update (sets_addToSet h.apps.1 _ _) r.id hother ?_ ?_
    · intro n id hne
      rw [mem_addToSet]
      constructor
      · rintro (⟨rfl, _⟩ | hm)
        · exact absurd rfl hne
        · exact hm
      · exact Or.inr
    · intro n
      rw [hself, mem_addToSet, h.apps.2, hknown, registrant_of_none hknown]
      simp

/-- Registering keeps a table consistent. -/
theorem Consistent.register (h : t.Consistent) {r : Responder} (hr : t.Registrable r)
    (ls : List Locator) : (t.register r ls).2.1.Consistent where
  nodup := by
    have hid : (t.register r ls).2.1.byId
        = t.byId.insert (t.registrant r).id ((t.registrant r).addServices ls).2 := by
      rw [register_table]
      simp [put, index]
    rw [hid]
    exact Dict.nodup_keys_insert h.nodup _ _
  keyed := h.keyed.register r ls
  hashes := h.register_hashes hr ls
  apps := h.register_apps r ls
  live := by
    intro id x hx
    rw [get?_register h.keyed] at hx
    split at hx
    · cases hx
      rw [Responder.addServices_status]
      cases hknown : t.get? r.id with
      | none =>
        rw [registrant_of_none hknown]
        exact (hr hknown).2
      | some known =>
        rw [registrant_of_get? hknown]
        exact h.live r.id known hknown
    · exact h.live id x hx

/-- Taking services back from a known responder changes its record and then the index. -/
theorem unregister_table {x : Uuid} {r : Responder} (h : t.get? x = some r)
    (ls : List Locator) :
    (t.unregister x ls).2.1
      = (t.put (r.removeServices ls).2).unindex (r.removeServices ls).2
          (r.removeServices ls).1 := by
  simp only [RouteTable.unregister, h]

/-- Nothing is taken back from an unknown responder. -/
theorem unregister_of_none {x : Uuid} (h : t.get? x = none) (ls : List Locator) :
    (t.unregister x ls).2.1 = t := by
  simp only [RouteTable.unregister, h]

/-- The index by hash after a withdrawal: the responder stays under the hashes of the
services that are left. -/
theorem Consistent.mem_unindex_removed (h : t.Consistent) {x : Uuid} {r : Responder}
    (hr : t.get? x = some r) (ls : List Locator) (t' : RouteTable) (ht' : t'.byHash = t.byHash)
    (k : UInt32) :
    x ∈ (t'.unindex (r.removeServices ls).2 (r.removeServices ls).1).byHash.getD k []
      ↔ HasHash (r.removeServices ls).2 k := by
  rw [mem_unindex, ht', h.hashes.2]
  have hid : (r.removeServices ls).2.id = x := h.keyed x r hr
  constructor
  · rintro ⟨⟨r', hr', l, hl, hk⟩, hn⟩
    rw [hr] at hr'
    cases hr'
    by_cases hgone : l ∈ (r.removeServices ls).1
    · apply Classical.byContradiction
      intro hno
      exact hn ⟨hid.symm, ⟨l, hgone, hk⟩, hno⟩
    · refine ⟨l, (Responder.mem_removeServices r ls l).mpr ⟨hl, ?_, ?_⟩, hk⟩
      · intro he
        exact hgone ((Responder.mem_removeServices_fst r ls l).mpr ⟨hl, Or.inl he⟩)
      · intro hm
        exact hgone ((Responder.mem_removeServices_fst r ls l).mpr ⟨hl, Or.inr hm⟩)
  · rintro ⟨l, hl, hk⟩
    refine ⟨⟨r, hr, l, ((Responder.mem_removeServices r ls l).mp hl).1, hk⟩, ?_⟩
    rintro ⟨-, -, hno⟩
    exact hno ⟨l, hl, hk⟩

/-- Taking services back keeps a table consistent. -/
theorem Consistent.unregister (h : t.Consistent) (x : Uuid) (ls : List Locator) :
    (t.unregister x ls).2.1.Consistent := by
  cases hr : t.get? x with
  | none =>
    rw [unregister_of_none hr]
    exact h
  | some r =>
    have hid : (r.removeServices ls).2.id = x := h.keyed x r hr
    have hget := get?_unregister h.keyed x ls
    have hother : ∀ id, x ≠ id → (t.unregister x ls).2.1.get? id = t.get? id := by
      intro id hne
      rw [hget, if_neg hne]
    have hself : (t.unregister x ls).2.1.get? x = some (r.removeServices ls).2 := by
      rw [hget, if_pos rfl, hr, Option.map_some]
    refine ⟨?_, h.keyed.unregister x ls, ?_, ?_, ?_⟩
    · rw [unregister_table hr]
      exact Dict.nodup_keys_insert h.nodup _ _
    · refine h.hashes.update ?_ x hother ?_ ?_
      · rw [unregister_table hr]
        exact sets_unindex _ _ _ h.hashes.1
      · intro k id hne
        rw [unregister_table hr, mem_unindex, hid]
        constructor
        · intro hm
          exact hm.1
        · intro hm
          constructor
          · exact hm
          · intro hx
            exact hne hx.1.symm
      · intro k
        have htable : (t.put (r.removeServices ls).2).byHash = t.byHash := rfl
        rw [hself, unregister_table hr, h.mem_unindex_removed hr ls _ htable]
        simp
    · have happ : (t.unregister x ls).2.1.byApp = t.byApp := by rw [unregister_table hr]; rfl
      rw [happ]
      apply h.apps.revise hr hother hself
      intro _
      exact Iff.rfl
    · intro id x' hx'
      rw [hget] at hx'
      split at hx'
      · obtain ⟨r', hr', rfl⟩ := Option.map_eq_some_iff.mp hx'
        exact h.live x r' hr'
      · exact h.live id x' hx'

/-- Removing a known responder clears its record and both indices. -/
theorem remove_table {x : Uuid} {r : Responder} (h : t.get? x = some r) :
    (t.remove x).2.1
      = { byId := t.byId.erase x
          byHash := (t.unindex (r.removeServices []).2 (r.removeServices []).1).byHash
          byApp := dropFromSet t.byApp r.app.name x } := by
  simp only [RouteTable.remove, h, Responder.removeServices_app]
  rfl

/-- Removing keeps a table consistent. -/
theorem Consistent.remove (h : t.Consistent) (x : Uuid) : (t.remove x).2.1.Consistent := by
  cases hr : t.get? x with
  | none =>
    have hsame : (t.remove x).2.1 = t := by simp only [RouteTable.remove, hr]
    rw [hsame]
    exact h
  | some r =>
    have hid : (r.removeServices []).2.id = x := h.keyed x r hr
    have hget := get?_remove t x
    have hother : ∀ id, x ≠ id → (t.remove x).2.1.get? id = t.get? id := by
      intro id hne
      rw [hget, if_neg hne]
    have hself : (t.remove x).2.1.get? x = none := by rw [hget, if_pos rfl]
    refine ⟨?_, h.keyed.remove x, ?_, ?_, ?_⟩
    · rw [remove_table hr]
      exact Dict.nodup_keys_erase h.nodup x
    · refine h.hashes.update ?_ x hother ?_ ?_
      · rw [remove_table hr]
        exact sets_unindex _ _ _ h.hashes.1
      · intro k id hne
        rw [remove_table hr]
        refine (mem_unindex _ _ t k id).trans ?_
        rw [hid]
        constructor
        · intro hm
          exact hm.1
        · intro hm
          constructor
          · exact hm
          · intro hx
            exact hne hx.1.symm
      · intro k
        rw [hself, remove_table hr]
        refine (h.mem_unindex_removed hr [] t rfl k).trans ?_
        simp [HasHash, Responder.mem_removeServices]
    · refine h.apps.update ?_ x hother ?_ ?_
      · rw [remove_table hr]
        exact sets_dropFromSet h.apps.1 _ _
      · intro n id hne
        rw [remove_table hr]
        refine (mem_dropFromSet _ _ _ n id).trans ?_
        constructor
        · intro hm
          exact hm.1
        · intro hm
          constructor
          · exact hm
          · intro hx
            exact hne hx.1.symm
      · intro n
        rw [hself, remove_table hr]
        refine (mem_dropFromSet _ _ _ n x).trans ?_
        rw [h.apps.2, hr]
        constructor
        · rintro ⟨⟨r', hr', hn⟩, hno⟩
          cases hr'
          exact absurd ⟨rfl, hn⟩ hno
        · rintro ⟨_, he, _⟩
          cases he
    · intro id r' hr'
      rw [hget] at hr'
      split at hr'
      · cases hr'
      · exact h.live id r' hr'

/-- A change of status keeps a table consistent. -/
theorem Consistent.setStatus (h : t.Consistent) (x : Uuid) (status : AppStatus) :
    (t.setStatus x status).2.1.Consistent := by
  by_cases hs : status = .stopped
  · subst hs
    simp only [RouteTable.setStatus, if_true]
    exact h.remove x
  · cases hr : t.get? x with
    | none =>
      have hsame : (t.setStatus x status).2.1 = t := by simp [RouteTable.setStatus, hs, hr]
      rw [hsame]
      exact h
    | some r =>
      have htable : (t.setStatus x status).2.1 = t.put { r with status := status } := by
        simp [RouteTable.setStatus, hs, hr]
      have hget := get?_setStatus h.keyed x hs
      have hother : ∀ id, x ≠ id → (t.setStatus x status).2.1.get? id = t.get? id := by
        intro id hne
        rw [hget, if_neg hne]
      have hself : (t.setStatus x status).2.1.get? x = some { r with status := status } := by
        rw [hget, if_pos rfl, hr, Option.map_some]
      refine ⟨?_, h.keyed.setStatus x status, ?_, ?_, ?_⟩
      · rw [htable]
        exact Dict.nodup_keys_insert h.nodup _ _
      · have hhash : (t.setStatus x status).2.1.byHash = t.byHash := by rw [htable]; rfl
        rw [hhash]
        apply h.hashes.revise hr hother hself
        intro _
        exact Iff.rfl
      · have happ : (t.setStatus x status).2.1.byApp = t.byApp := by rw [htable]; rfl
        rw [happ]
        apply h.apps.revise hr hother hself
        intro _
        exact Iff.rfl
      · intro id r' hr'
        rw [hget] at hr'
        split at hr'
        · obtain ⟨r0, _, rfl⟩ := Option.map_eq_some_iff.mp hr'
          exact hs
        · exact h.live id r' hr'

/-- Exposing keeps a table consistent. -/
theorem Consistent.expose (h : t.Consistent) {r : Responder} (hr : t.Registrable r)
    (ls : List Locator) : (t.expose r ls).2.1.Consistent := by
  rw [expose_table]
  exact (h.register hr ls).setStatus _ _

/-- Hiding keeps a table consistent. -/
theorem Consistent.hide (h : t.Consistent) (x : Uuid) (ls : List Locator) :
    (t.hide x ls).2.1.Consistent := by
  rw [hide_table]
  split
  · split
    · exact (h.unregister x ls).setStatus x .down
    · exact h.unregister x ls
  · exact h.unregister x ls

end

end RouteTable

end ServiceMesh
