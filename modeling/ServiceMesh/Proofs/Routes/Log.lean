import Mathlib.Data.Finset.Basic
import Mathlib.Data.Finset.Lattice.Lemmas
import Mathlib.Data.Finset.SDiff
import ServiceMesh.Proofs.Routes.Scan

/-!
# The changes of a route table as its log

A *watcher* hears the changes that a route table tells and keeps, for each provider, the
name of its application, its status and its services.  Nothing but the changes reaches it.

Changes are an *account* of the way from one table to another if a watcher that knew the
first table knows the second one after them, and if what a change of status says about the
provider is what the watcher knew just before it.  Accounts are composed (`Account.append`).

Each operation of the table gives an account of what it did, and tells nothing exactly if it
did nothing (`Reported`).  `log_faithful` is the statement for whole runs, from a new table
on.
-/

namespace ServiceMesh

/-! ## Watchers -/

/-- What a watcher knows about a provider. -/
structure Sighting where
  /-- The name of its application. -/
  appName : String
  /-- Where it is in its life. -/
  status : AppStatus
  /-- The services that it exposes. -/
  services : Finset Locator
deriving DecidableEq

/-- What there is to know about a responder. -/
def Responder.sighting (r : Responder) : Sighting := ⟨r.app.name, r.status, r.services.toFinset⟩

/-- What there is to know about the responder with an id. -/
def RouteTable.sighting? (t : RouteTable) (id : Uuid) : Option Sighting :=
  (t.get? id).map Responder.sighting

/-- What a watcher knows. -/
abbrev Watcher := Dict Uuid Sighting

namespace Watcher

/-- Takes in a change.  A provider that is not known yet is connected and exposes nothing
so far. -/
def hear (w : Watcher) : RouteChange → Watcher
  | .registered id appName services =>
      let known := (w.get? id).getD ⟨appName, .connected, ∅⟩
      w.insert id { known with services := known.services ∪ services.toFinset }
  | .unregistered id _ _ true => w.erase id
  | .unregistered id _ services false =>
      w.modify id fun s => { s with services := s.services \ services.toFinset }
  | .statusChanged id _ _ _ status => w.modify id fun s => { s with status := status }

/-- What a watcher knows that hears a list of changes and knew nothing before. -/
def ofLog (changes : List RouteChange) : Watcher := changes.foldl hear .empty

/-- What a change of status says agrees with what the watcher knows, and is a change. -/
def Confirms (w : Watcher) : RouteChange → Prop
  | .statusChanged id appName services before after =>
      w.get? id = some ⟨appName, before, services.toFinset⟩ ∧ before ≠ after
  | _ => True

/-- The watcher knows what there is to know about a table. -/
def Knows (w : Watcher) (t : RouteTable) : Prop := ∀ id, w.get? id = t.sighting? id

theorem knows_empty : Knows .empty {} := fun _ => rfl

end Watcher

namespace RouteTable

/-! ## Accounts -/

/-- The changes tell a watcher that knows `t` all about `t'`, and confirm what it knows on
the way. -/
def Account (t t' : RouteTable) (changes : List RouteChange) : Prop :=
  ∀ w : Watcher, w.Knows t → (changes.foldl Watcher.hear w).Knows t' ∧
    ∀ told change rest, changes = told ++ change :: rest →
      (told.foldl Watcher.hear w).Confirms change

theorem Account.refl (t : RouteTable) : Account t t [] := by
  intro w hw
  refine ⟨hw, ?_⟩
  intro told change rest h
  cases told <;> cases h

/-- An account of one change. -/
theorem Account.single {t t' : RouteTable} {change : RouteChange}
    (h : ∀ w : Watcher, w.Knows t → (w.hear change).Knows t' ∧ w.Confirms change) :
    Account t t' [change] := by
  intro w hw
  refine ⟨(h w hw).1, ?_⟩
  intro told c rest heq
  cases told with
  | nil =>
    cases heq
    exact (h w hw).2
  | cons x told => cases told <;> cases heq

/-- The accounts of two steps one after the other are one account of both. -/
theorem Account.append {t t' t'' : RouteTable} {changes more : List RouteChange}
    (h : Account t t' changes) (h' : Account t' t'' more) :
    Account t t'' (changes ++ more) := by
  intro w hw
  obtain ⟨hknows, hconfirms⟩ := h w hw
  obtain ⟨hknows', hconfirms'⟩ := h' _ hknows
  rw [List.foldl_append]
  refine ⟨hknows', ?_⟩
  intro told change rest heq
  rcases List.append_eq_append_iff.mp heq with ⟨mid, rfl, hmore⟩ | ⟨mid, hchanges, hrest⟩
  · rw [List.foldl_append]
    exact hconfirms' mid change rest hmore
  · cases mid with
    | nil =>
      rw [List.append_nil] at hchanges
      subst hchanges
      exact hconfirms' [] change rest hrest.symm
    | cons x mid =>
      cases hrest
      exact hconfirms told change mid hchanges

/-! ## Reports -/

/-- What an operation tells is right. -/
structure Reported (t t' : RouteTable) (changes : List RouteChange) : Prop where
  /-- It says what the operation did. -/
  account : Account t t' changes
  /-- An operation that tells nothing left the table as it was, indices included. -/
  same : changes = [] → t' = t
  /-- An operation that left what there is to know tells nothing. -/
  silent : t'.sighting? = t.sighting? → changes = []

theorem Reported.refl (t : RouteTable) : Reported t t [] := ⟨.refl t, fun _ => rfl, fun _ => rfl⟩

/-- A report of one change. -/
theorem Reported.single {t t' : RouteTable} {change : RouteChange}
    (hne : t'.sighting? ≠ t.sighting?)
    (h : ∀ w : Watcher, w.Knows t → (w.hear change).Knows t' ∧ w.Confirms change) :
    Reported t t' [change] :=
  ⟨.single h, fun hnil => absurd hnil (List.cons_ne_nil _ _), fun hsame => absurd hsame hne⟩

/-- Where nobody looks any different, the table is the same. -/
theorem Reported.eq_self {t t' : RouteTable} {changes : List RouteChange}
    (h : Reported t t' changes) (hsame : t'.sighting? = t.sighting?) : t' = t :=
  h.same (h.silent hsame)

/-- Putting in what is there changes nothing. -/
theorem put_eq_self {t : RouteTable} {r : Responder} (h : t.get? r.id = some r) :
    t.put r = t := by
  unfold put
  rw [Dict.insert_eq_self h]

/-! ## Registration -/

/-- Whoever adds services is seen with the missing ones added. -/
theorem sighting_addServices (r : Responder) (ls : List Locator) :
    (r.addServices ls).2.sighting
      = { r.sighting with services := r.sighting.services ∪ (r.missing ls).toFinset } := by
  simp [Responder.sighting, Responder.addServices, List.toFinset_append]

/-- What callers promise of a responder that they register: if it is new to the table, it
was just built. -/
def Arrives (t : RouteTable) (r : Responder) : Prop :=
  t.get? r.id = none → r.status = .connected ∧ r.services = []

section

variable {t : RouteTable}

/-- A registration changes how the one that registers is seen, and nobody else. -/
theorem sighting?_register (hk : t.Keyed) (r : Responder) (ls : List Locator) (id : Uuid) :
    (t.register r ls).2.1.sighting? id
      = if r.id = id then some ((t.registrant r).addServices ls).2.sighting
        else t.sighting? id := by
  unfold sighting?
  rw [get?_register hk]
  split <;> rfl

/-- A registration is told of unless the responder is known and brings nothing new. -/
theorem register_told (hk : t.Keyed) (r : Responder) (ls : List Locator) :
    (t.register r ls).2.2
      = if t.get? r.id = none ∨ (t.registrant r).missing ls ≠ [] then
          [.registered r.id (t.registrant r).app.name ((t.registrant r).missing ls)]
        else [] := by
  have hid := hk.registrant_id r
  have htold : (t.register r ls).2.2
      = if (t.get? r.id).isNone || !((t.registrant r).missing ls).isEmpty then
          [.registered (t.registrant r).id (t.registrant r).app.name
            ((t.registrant r).missing ls)]
        else [] := rfl
  rw [htold, hid]
  simp

/-- A registration that adds nothing leaves the table as it is. -/
theorem register_eq_self (hk : t.Keyed) {r known : Responder} {ls : List Locator}
    (hknown : t.get? r.id = some known) (hnil : known.missing ls = []) :
    (t.register r ls).2.1 = t := by
  have hid : known.id = r.id := hk r.id known hknown
  have hadded : (known.addServices ls).2 = known := by simp [Responder.addServices, hnil]
  have henlist : t.enlist r = t := by simp [enlist, hknown]
  rw [register_table, registrant_of_get? hknown, hnil, hadded, henlist]
  exact put_eq_self (hid.symm ▸ hknown)

/-- A responder that is seen with the same services brought nothing new. -/
theorem missing_eq_nil_of_sighting {r : Responder} {ls : List Locator}
    (h : (r.addServices ls).2.sighting.services = r.sighting.services) : r.missing ls = [] := by
  rw [sighting_addServices] at h
  apply Responder.missing_eq_nil_iff.mpr
  intro l hl
  by_contra hnot
  have hadded : l ∈ (r.missing ls).toFinset :=
    List.mem_toFinset.mpr ((r.mem_missing l ls).mpr ⟨hl, hnot⟩)
  exact hnot (List.mem_toFinset.mp (Finset.union_eq_left.mp h hadded))

/-- A registration is reported. -/
theorem reported_register (hk : t.Keyed) {r : Responder} (hr : t.Arrives r) (ls : List Locator) :
    Reported t (t.register r ls).2.1 (t.register r ls).2.2 := by
  have hget := sighting?_register hk r ls
  rw [register_told hk]
  split
  · next htold =>
    refine .single ?_ fun w hw => ⟨?_, trivial⟩
    · intro hsame
      have hid := (congrFun hsame r.id).symm
      rw [hget, if_pos rfl] at hid
      obtain ⟨known, hknown, hsighting⟩ := Option.map_eq_some_iff.mp hid
      rw [registrant_of_get? hknown] at hsighting htold
      have hnil := missing_eq_nil_of_sighting (congrArg Sighting.services hsighting).symm
      rcases htold with hnone | hne
      · cases hnone.symm.trans hknown
      · exact hne hnil
    · intro id
      have hknown : (w.get? r.id).getD ⟨(t.registrant r).app.name, .connected, ∅⟩
          = (t.registrant r).sighting := by
        rw [hw r.id, sighting?]
        cases h : t.get? r.id with
        | none => simp [registrant_of_none h, Responder.sighting, (hr h).1, (hr h).2]
        | some known => simp [registrant_of_get? h]
      rw [hget, sighting_addServices, ← hw id, Watcher.hear, hknown, Dict.get?_insert]
  · next hsilent =>
    obtain ⟨hsome, hnil⟩ := not_or.mp hsilent
    obtain ⟨known, hknown⟩ := Option.ne_none_iff_exists'.mp hsome
    rw [not_not, registrant_of_get? hknown] at hnil
    rw [register_eq_self hk hknown hnil]
    exact .refl t

/-! ## Withdrawal -/

/-- Whoever takes services back is seen without them. -/
theorem sighting_removeServices (r : Responder) (ls : List Locator) :
    (r.removeServices ls).2.sighting
      = { r.sighting with
          services := r.sighting.services \ (r.removeServices ls).1.toFinset } := by
  have hservices : (r.removeServices ls).2.services
      = r.services.filter fun l => !(r.removeServices ls).1.contains l := rfl
  simp only [Responder.sighting, Responder.removeServices_app, Responder.removeServices_status,
    hservices, Sighting.mk.injEq, true_and]
  ext l
  simp

/-- Taking services back changes how one responder is seen, and nobody else. -/
theorem sighting?_unregister (hk : t.Keyed) (x : Uuid) (ls : List Locator) (id : Uuid) :
    (t.unregister x ls).2.1.sighting? id
      = if x = id then (t.get? x).map fun r => (r.removeServices ls).2.sighting
        else t.sighting? id := by
  unfold sighting?
  rw [get?_unregister hk]
  split
  · rw [Option.map_map]
    rfl
  · rfl

/-- Taking services back is told of if there were any. -/
theorem unregister_told {x : Uuid} {r : Responder} (h : t.get? x = some r) (ls : List Locator) :
    (t.unregister x ls).2.2
      = if (r.removeServices ls).1 = [] then []
        else [.unregistered x r.app.name (r.removeServices ls).1 false] := by
  simp only [unregister, h, List.isEmpty_iff]
  rfl

/-- A withdrawal that takes nothing away leaves the table as it is. -/
theorem unregister_eq_self (hk : t.Keyed) {x : Uuid} {r : Responder} {ls : List Locator}
    (h : t.get? x = some r) (hnil : (r.removeServices ls).1 = []) :
    (t.unregister x ls).2.1 = t := by
  have hsame : (r.removeServices ls).2 = r := Responder.removeServices_of_fst_eq_nil hnil
  rw [unregister_table h, hsame, hnil]
  exact put_eq_self ((hk x r h).symm ▸ h)

/-- A responder that is seen with the same services took nothing back. -/
theorem removeServices_fst_eq_nil {r : Responder} {ls : List Locator}
    (h : (r.removeServices ls).2.sighting.services = r.sighting.services) :
    (r.removeServices ls).1 = [] := by
  apply List.eq_nil_iff_forall_not_mem.mpr
  intro l hl
  rw [sighting_removeServices] at h
  have hmem : l ∈ r.sighting.services :=
    List.mem_toFinset.mpr ((Responder.mem_removeServices_fst r ls l).mp hl).1
  rw [← h] at hmem
  exact (Finset.mem_sdiff.mp hmem).2 (List.mem_toFinset.mpr hl)

theorem reported_unregister (hk : t.Keyed) (x : Uuid) (ls : List Locator) :
    Reported t (t.unregister x ls).2.1 (t.unregister x ls).2.2 := by
  cases h : t.get? x with
  | none =>
    have htold : (t.unregister x ls).2.2 = [] := by simp only [unregister, h]
    rw [htold, unregister_of_none h]
    exact .refl t
  | some r =>
    have hget := sighting?_unregister hk x ls
    rw [unregister_told h]
    split
    · next hnil =>
      rw [unregister_eq_self hk h hnil]
      exact .refl t
    · next hne =>
      refine .single ?_ fun w hw => ⟨?_, trivial⟩
      · intro hsame
        have hid := congrFun hsame x
        rw [hget, if_pos rfl, sighting?, h] at hid
        exact hne (removeServices_fst_eq_nil (congrArg Sighting.services (Option.some.inj hid)))
      · intro id
        rw [Watcher.hear, Dict.get?_modify, hget, hw x, ← hw id, sighting?, h, Option.map_some,
          Option.map_some, Option.map_some, sighting_removeServices]

/-! ## Removal -/

theorem sighting?_remove (t : RouteTable) (x id : Uuid) :
    (t.remove x).2.1.sighting? id = if x = id then none else t.sighting? id := by
  unfold sighting?
  rw [get?_remove]
  split <;> rfl

theorem reported_remove (t : RouteTable) (x : Uuid) :
    Reported t (t.remove x).2.1 (t.remove x).2.2 := by
  cases h : t.get? x with
  | none =>
    have hnone : (t.remove x).2 = (t, []) := by simp only [remove, h]
    rw [hnone]
    exact .refl t
  | some r =>
    have htold : (t.remove x).2.2 = [.unregistered x r.app.name r.services true] := by
      simp only [remove, h]
      rfl
    rw [htold]
    refine .single ?_ fun w hw => ⟨?_, trivial⟩
    · intro hsame
      have hid := congrFun hsame x
      rw [sighting?_remove, if_pos rfl, sighting?, h] at hid
      cases hid
    · intro id
      rw [Watcher.hear, Dict.get?_erase, sighting?_remove, hw id]

/-! ## Status -/

theorem setStatus_stopped (t : RouteTable) (x : Uuid) :
    (t.setStatus x .stopped).2 = (t.remove x).2 := by
  simp only [setStatus, if_true]

theorem sighting?_setStatus (hk : t.Keyed) (x : Uuid) {status : AppStatus}
    (hs : status ≠ .stopped) (id : Uuid) :
    (t.setStatus x status).2.1.sighting? id
      = if x = id then (t.sighting? x).map fun s => { s with status := status }
        else t.sighting? id := by
  unfold sighting?
  rw [get?_setStatus hk x hs]
  split
  · rw [Option.map_map, Option.map_map]
    rfl
  · rfl

theorem setStatus_of_get? {x : Uuid} {r : Responder} (h : t.get? x = some r)
    {status : AppStatus} (hs : status ≠ .stopped) :
    (t.setStatus x status).2 = (t.put { r with status := status },
      if r.status = status then []
      else [.statusChanged x r.app.name r.services r.status status]) := by
  simp only [setStatus, hs, if_false, h]

/-- A change of status is reported. -/
theorem reported_setStatus (hk : t.Keyed) (x : Uuid) (status : AppStatus) :
    Reported t (t.setStatus x status).2.1 (t.setStatus x status).2.2 := by
  by_cases hs : status = .stopped
  · rw [hs, setStatus_stopped]
    exact reported_remove t x
  · have hget := sighting?_setStatus hk x hs
    cases h : t.get? x with
    | none =>
      have hnone : (t.setStatus x status).2 = (t, []) := by
        simp only [setStatus, hs, if_false, h]
      rw [hnone]
      exact .refl t
    | some r =>
      have hx : t.sighting? x = some r.sighting := congrArg (Option.map Responder.sighting) h
      by_cases hsame : r.status = status
      · have hput : t.put { r with status := status } = t := by
          rw [← hsame]
          exact put_eq_self ((hk x r h).symm ▸ h)
        rw [setStatus_of_get? h hs, hput, if_pos hsame]
        exact .refl t
      · have htold : (t.setStatus x status).2.2
            = [.statusChanged x r.app.name r.services r.status status] := by
          rw [setStatus_of_get? h hs, if_neg hsame]
        rw [htold]
        refine .single ?_ fun w hw => ⟨?_, (hw x).trans hx, hsame⟩
        · intro hsighting
          have hid := congrFun hsighting x
          rw [hget, if_pos rfl, hx] at hid
          exact hsame (congrArg Sighting.status (Option.some.inj hid)).symm
        · intro id
          rw [Watcher.hear, Dict.get?_modify, hget, hw x, ← hw id]

/-! ## Exposure and hiding -/

/-- Exposing tells of the registration, then of the status. -/
theorem expose_told (t : RouteTable) (r : Responder) (ls : List Locator) :
    (t.expose r ls).2.2
      = (t.register r ls).2.2
        ++ ((t.register r ls).2.1.setStatus (t.register r ls).1.id .serving).2.2 := rfl

/-- An exposure that leaves what there is to know adds no service either. -/
theorem sighting?_register_of_expose (hk : t.Keyed) {r : Responder} {ls : List Locator}
    (h : (t.expose r ls).2.1.sighting? = t.sighting?) :
    (t.register r ls).2.1.sighting? = t.sighting? := by
  have hcur : (t.register r ls).1.id = r.id := hk.registrant_id r
  have hid := congrFun h r.id
  rw [expose_table, sighting?_setStatus (hk.register r ls) _ (by decide), hcur, if_pos rfl,
    sighting?_register hk, if_pos rfl, Option.map_some] at hid
  obtain ⟨known, hknown, hsame⟩ := Option.map_eq_some_iff.mp hid.symm
  rw [registrant_of_get? hknown] at hsame
  have hnil := missing_eq_nil_of_sighting (congrArg Sighting.services hsame).symm
  rw [register_eq_self hk hknown hnil]

/-- An exposure is reported. -/
theorem reported_expose (hk : t.Keyed) {r : Responder} (hr : t.Arrives r) (ls : List Locator) :
    Reported t (t.expose r ls).2.1 (t.expose r ls).2.2 := by
  have hregistered := reported_register hk hr ls
  have hserving := reported_setStatus (hk.register r ls) (t.register r ls).1.id .serving
  rw [expose_table, expose_told]
  refine ⟨hregistered.account.append hserving.account, ?_, ?_⟩
  · intro hnil
    obtain ⟨hfirst, hsecond⟩ := List.append_eq_nil_iff.mp hnil
    rw [hserving.same hsecond, hregistered.same hfirst]
  · intro h
    have hfirst := sighting?_register_of_expose hk h
    rw [hregistered.silent hfirst, hserving.silent (h.trans hfirst.symm)]
    rfl

/-- Hiding withdraws services, and then has a responder go down that served and has nothing
left. -/
theorem hide_cases (t : RouteTable) (x : Uuid) (ls : List Locator) :
    (t.hide x ls).2 = (t.unregister x ls).2 ∨
    ∃ r, (t.unregister x ls).2.1.get? x = some r ∧ r.status = .serving ∧
      (t.hide x ls).2 = (((t.unregister x ls).2.1.setStatus x .down).2.1,
        (t.unregister x ls).2.2 ++ ((t.unregister x ls).2.1.setStatus x .down).2.2) := by
  cases h : (t.unregister x ls).2.1.get? x with
  | none => exact .inl (by simp only [hide, h])
  | some r =>
    by_cases hdown : (r.services.isEmpty && r.isServing) = true
    · refine .inr ⟨r, rfl, ?_, by simp only [hide, h, hdown, if_true]⟩
      exact (Responder.isServing_iff r).mp (Bool.and_eq_true_iff.mp hdown).2
    · exact .inl (by simp only [hide, h, hdown]; rfl)

/-- Who goes down served before, so there is something to tell. -/
theorem sighting?_down_ne (hk : t.Keyed) {x : Uuid} {ls : List Locator} {r : Responder}
    (hr : (t.unregister x ls).2.1.get? x = some r) (hserving : r.status = .serving) :
    ((t.unregister x ls).2.1.setStatus x .down).2.1.sighting? ≠ t.sighting? := by
  intro h
  have hx := congrFun h x
  have hget := sighting?_unregister hk x ls x
  rw [sighting?_setStatus (hk.unregister x ls) x (by decide), if_pos rfl, sighting?, hr] at hx
  rw [if_pos rfl, sighting?, hr] at hget
  obtain ⟨before, hbefore, hsame⟩ := Option.map_eq_some_iff.mp hget.symm
  rw [sighting?, hbefore] at hx
  have hdown : AppStatus.down = before.status := congrArg Sighting.status (Option.some.inj hx)
  have hstatus : before.status = r.status := congrArg Sighting.status hsame
  rw [hstatus, hserving] at hdown
  cases hdown

/-- A withdrawal is reported. -/
theorem reported_hide (hk : t.Keyed) (x : Uuid) (ls : List Locator) :
    Reported t (t.hide x ls).2.1 (t.hide x ls).2.2 := by
  have hwithdrawn := reported_unregister hk x ls
  rcases hide_cases t x ls with heq | ⟨r, hr, hserving, heq⟩
  · rw [heq]
    exact hwithdrawn
  · have hdown := reported_setStatus (hk.unregister x ls) x .down
    rw [heq]
    refine ⟨hwithdrawn.account.append hdown.account, ?_, ?_⟩
    · intro hnil
      obtain ⟨hfirst, hsecond⟩ := List.append_eq_nil_iff.mp hnil
      rw [hdown.same hsecond, hwithdrawn.same hfirst]
    · intro h
      exact absurd h (sighting?_down_ne hk hr hserving)

end

/-! ## Runs -/

/-- What a call tells.  Nothing is called if there is no responder to hand over. -/
def Change.told (t : RouteTable) : Change → List RouteChange
  | register handed services =>
      match handed.resolve t with
      | some r => (t.register r services).2.2
      | none => []
  | unregister id services => (t.unregister id services).2.2
  | remove id => (t.remove id).2.2
  | setStatus id status => (t.setStatus id status).2.2
  | expose handed services =>
      match handed.resolve t with
      | some r => (t.expose r services).2.2
      | none => []
  | hide id services => (t.hide id services).2.2

/-- What a list of calls tells, one after the other. -/
def log (t : RouteTable) : List Change → List RouteChange
  | [] => []
  | change :: rest => change.told t ++ log (change.apply t) rest

/-- Whoever is in the table may arrive again as the table has it. -/
theorem arrives_of_get? {t : RouteTable} {r : Responder} (h : t.get? r.id = some r) :
    t.Arrives r := by
  intro hnone
  rw [h] at hnone
  cases hnone

/-- Whatever an operation is handed may arrive. -/
theorem Handed.arrives {t : RouteTable} (hk : t.Keyed) {handed : Handed} {r : Responder}
    (h : handed.resolve t = some r) : t.Arrives r := by
  cases handed with
  | fresh app route =>
    cases h
    intro _
    exact ⟨rfl, rfl⟩
  | known id => exact arrives_of_get? ((hk id r h).symm ▸ h)

/-- What a call tells is right. -/
theorem reported_apply {t : RouteTable} (hk : t.Keyed) (change : Change) :
    Reported t (change.apply t) (change.told t) := by
  cases change with
  | register handed services =>
    cases hr : handed.resolve t with
    | none =>
      simp only [Change.apply, Change.told, hr]
      exact .refl t
    | some r =>
      simp only [Change.apply, Change.told, hr]
      exact reported_register hk (Handed.arrives hk hr) services
  | unregister id services => exact reported_unregister hk id services
  | remove id => exact reported_remove t id
  | setStatus id status => exact reported_setStatus hk id status
  | expose handed services =>
    cases hr : handed.resolve t with
    | none =>
      simp only [Change.apply, Change.told, hr]
      exact .refl t
    | some r =>
      simp only [Change.apply, Change.told, hr]
      exact reported_expose hk (Handed.arrives hk hr) services
  | hide id services => exact reported_hide hk id services

/-- What a run tells is an account of the run. -/
theorem account_log (changes : List Change) : ∀ {t : RouteTable}, t.Consistent →
    Account t (changes.foldl Change.apply t) (log t changes) := by
  induction changes with
  | nil =>
    intro t _
    exact .refl t
  | cons change rest ih =>
    intro t h
    exact (reported_apply h.keyed change).account.append (ih (h.apply change))

/-- Whatever is done to a new table, in any order: a watcher that hears all its changes
knows the ids, the application names, the statuses and the services of its responders; each
change of status on the way names the status and the services that the watcher knew, and
another status; and whatever is done next tells nothing exactly if it changes none of
these. -/
theorem log_faithful (changes : List Change) :
    let t := after changes
    let told := log {} changes
    (∀ id, (Watcher.ofLog told).get? id = (t.get? id).map Responder.sighting) ∧
    (∀ before change rest, told = before ++ change :: rest →
      (Watcher.ofLog before).Confirms change) ∧
    (∀ change : Change, change.told t = [] ↔
      ∀ id, ((change.apply t).get? id).map Responder.sighting
        = (t.get? id).map Responder.sighting) := by
  intro t told
  have hk : t.Keyed := (consistent_after changes).keyed
  obtain ⟨hknows, hconfirms⟩ := account_log changes consistent_empty _ Watcher.knows_empty
  refine ⟨hknows, hconfirms, fun change => ⟨?_, ?_⟩⟩
  · intro hnil id
    rw [(reported_apply hk change).same hnil]
  · intro hsame
    exact (reported_apply hk change).silent (funext hsame)

end RouteTable

end ServiceMesh
