import ServiceMesh.Routes.Responder

/-!
# The services of a responder

The services of a responder are kept as a list and mean a set.  Exposing adds the listed
services (`Responder.mem_addServices`).  Withdrawing takes the listed ones away, or all
if none is listed (`Responder.mem_removeServices`).  Neither changes anything else of the
responder.

`Responder.exposing` and `Responder.withdrawing` say what the two changes of a route table
that also move the status make of a responder.
-/

namespace ServiceMesh

namespace Responder

@[simp] theorem exposes_iff (r : Responder) (l : Locator) :
    r.exposes l = true ↔ l ∈ r.services := by
  simp [exposes]

@[simp] theorem isServing_iff (r : Responder) : r.isServing = true ↔ r.status = .serving := by
  simp [isServing]

/-! ## Exposing -/

/-- A service is missing if it is asked for and not there. -/
theorem mem_missing (r : Responder) (l : Locator) (ls : List Locator) :
    l ∈ r.missing ls ↔ l ∈ ls ∧ l ∉ r.services := by
  induction ls with
  | nil => simp [missing]
  | cons x rest ih =>
    by_cases hx : r.exposes x = true
    · have hx' : x ∈ r.services := (exposes_iff r x).mp hx
      simp only [missing, hx, if_true, ih, List.mem_cons]
      constructor
      · rintro ⟨hl, hn⟩
        exact ⟨Or.inr hl, hn⟩
      · rintro ⟨hl, hn⟩
        rcases hl with rfl | hl
        · exact absurd hx' hn
        · exact ⟨hl, hn⟩
    · have hx' : x ∉ r.services := by
        intro h
        exact hx ((exposes_iff r x).mpr h)
      by_cases hlx : l = x
      · subst hlx
        simp [missing, hx, hx']
      · simp [missing, hx, hlx, ih]

@[simp] theorem addServices_fst (r : Responder) (ls : List Locator) :
    (r.addServices ls).1 = r.missing ls := rfl

@[simp] theorem addServices_app (r : Responder) (ls : List Locator) :
    (r.addServices ls).2.app = r.app := rfl

@[simp] theorem addServices_id (r : Responder) (ls : List Locator) :
    (r.addServices ls).2.id = r.id := rfl

@[simp] theorem addServices_route (r : Responder) (ls : List Locator) :
    (r.addServices ls).2.route = r.route := rfl

@[simp] theorem addServices_status (r : Responder) (ls : List Locator) :
    (r.addServices ls).2.status = r.status := rfl

theorem addServices_nil (r : Responder) : (r.addServices []).2 = r := by
  simp [addServices, missing]

/-- After an exposure the responder exposes what it exposed and what was listed. -/
theorem mem_addServices (r : Responder) (ls : List Locator) (l : Locator) :
    l ∈ (r.addServices ls).2.services ↔ l ∈ r.services ∨ l ∈ ls := by
  simp only [addServices, List.mem_append, mem_missing]
  by_cases hl : l ∈ r.services <;> simp [hl]

/-! ## Withdrawing -/

/-- A service is present if it is asked for and there. -/
theorem mem_present (r : Responder) (l : Locator) (ls : List Locator) :
    l ∈ r.present ls ↔ l ∈ ls ∧ l ∈ r.services := by
  simp [present]

@[simp] theorem removeServices_app (r : Responder) (ls : List Locator) :
    (r.removeServices ls).2.app = r.app := rfl

@[simp] theorem removeServices_id (r : Responder) (ls : List Locator) :
    (r.removeServices ls).2.id = r.id := rfl

@[simp] theorem removeServices_route (r : Responder) (ls : List Locator) :
    (r.removeServices ls).2.route = r.route := rfl

@[simp] theorem removeServices_status (r : Responder) (ls : List Locator) :
    (r.removeServices ls).2.status = r.status := rfl

/-- The services that are withdrawn are the exposed ones among those listed, or all. -/
theorem mem_removeServices_fst (r : Responder) (ls : List Locator) (l : Locator) :
    l ∈ (r.removeServices ls).1 ↔ l ∈ r.services ∧ (ls = [] ∨ l ∈ ls) := by
  cases ls with
  | nil => simp [removeServices]
  | cons x rest =>
    simp only [removeServices, List.isEmpty_cons, Bool.false_eq_true, if_false, mem_present,
      reduceCtorEq, false_or]
    exact And.comm

/-- After a withdrawal the responder exposes what it exposed and what was not listed; it
exposes nothing if nothing was listed. -/
theorem mem_removeServices (r : Responder) (ls : List Locator) (l : Locator) :
    l ∈ (r.removeServices ls).2.services ↔ l ∈ r.services ∧ ls ≠ [] ∧ l ∉ ls := by
  have hkept : l ∈ (r.removeServices ls).2.services
      ↔ l ∈ r.services ∧ l ∉ (r.removeServices ls).1 := by
    simp [removeServices]
  rw [hkept, mem_removeServices_fst]
  constructor
  · rintro ⟨hl, hn⟩
    exact ⟨hl, fun he => hn ⟨hl, Or.inl he⟩, fun hm => hn ⟨hl, Or.inr hm⟩⟩
  · rintro ⟨hl, hne, hm⟩
    refine ⟨hl, ?_⟩
    rintro ⟨-, he | hm'⟩
    · exact hne he
    · exact hm hm'

/-! ## What a table makes of a responder -/

/-- The responder after services were registered for it and it was set to serve. -/
def exposing (r : Responder) (ls : List Locator) : Responder :=
  { (r.addServices ls).2 with status := .serving }

/-- The responder after services were withdrawn.  One that served and is left with
nothing goes down. -/
def withdrawing (r : Responder) (ls : List Locator) : Responder :=
  let rest := (r.removeServices ls).2
  if rest.services.isEmpty && rest.isServing then { rest with status := .down } else rest

@[simp] theorem exposing_id (r : Responder) (ls : List Locator) : (r.exposing ls).id = r.id := rfl

@[simp] theorem exposing_app (r : Responder) (ls : List Locator) :
    (r.exposing ls).app = r.app := rfl

@[simp] theorem exposing_route (r : Responder) (ls : List Locator) :
    (r.exposing ls).route = r.route := rfl

@[simp] theorem exposing_status (r : Responder) (ls : List Locator) :
    (r.exposing ls).status = .serving := rfl

/-- Whoever exposes has what it had and what it exposes. -/
@[simp] theorem mem_exposing (r : Responder) (ls : List Locator) (l : Locator) :
    l ∈ (r.exposing ls).services ↔ l ∈ r.services ∨ l ∈ ls := mem_addServices r ls l

@[simp] theorem withdrawing_app (r : Responder) (ls : List Locator) :
    (r.withdrawing ls).app = r.app := by
  unfold withdrawing
  dsimp only
  split <;> rfl

@[simp] theorem withdrawing_id (r : Responder) (ls : List Locator) :
    (r.withdrawing ls).id = r.id := by
  unfold id
  rw [withdrawing_app]

@[simp] theorem withdrawing_route (r : Responder) (ls : List Locator) :
    (r.withdrawing ls).route = r.route := by
  unfold withdrawing
  dsimp only
  split <;> rfl

/-- Whoever withdraws keeps what it does not name, and nothing if it names none. -/
@[simp] theorem mem_withdrawing (r : Responder) (ls : List Locator) (l : Locator) :
    l ∈ (r.withdrawing ls).services ↔ l ∈ r.services ∧ ls ≠ [] ∧ l ∉ ls := by
  rw [← mem_removeServices]
  unfold withdrawing
  dsimp only
  split <;> rfl

/-- Nothing is missing if everything asked for is there. -/
theorem missing_eq_nil_iff {r : Responder} {ls : List Locator} :
    r.missing ls = [] ↔ ∀ l ∈ ls, l ∈ r.services := by
  simp only [List.eq_nil_iff_forall_not_mem, mem_missing, not_and, Decidable.not_not]

/-- To expose the same services again changes nothing. -/
@[simp] theorem exposing_exposing (r : Responder) (ls : List Locator) :
    (r.exposing ls).exposing ls = r.exposing ls := by
  have hnil : (r.exposing ls).missing ls = [] :=
    missing_eq_nil_iff.mpr fun l hl => (mem_exposing r ls l).mpr (.inr hl)
  have htwice : (r.exposing ls).exposing ls = { r.exposing ls with
      services := (r.exposing ls).services ++ (r.exposing ls).missing ls } := rfl
  rw [htwice, hnil, List.append_nil]

/-- A withdrawal that leaves something leaves the status. -/
theorem withdrawing_status_of_mem {r : Responder} {ls : List Locator} {l : Locator}
    (h : l ∈ (r.withdrawing ls).services) : (r.withdrawing ls).status = r.status := by
  have hl : l ∈ (r.removeServices ls).2.services :=
    (mem_removeServices r ls l).mpr ((mem_withdrawing r ls l).mp h)
  have hne : (r.removeServices ls).2.services.isEmpty = false :=
    List.isEmpty_eq_false_iff_exists_mem.mpr ⟨l, hl⟩
  unfold withdrawing
  simp [hne]

/-- A withdrawal that takes nothing away changes nothing. -/
theorem removeServices_of_fst_eq_nil {r : Responder} {ls : List Locator}
    (h : (r.removeServices ls).1 = []) : (r.removeServices ls).2 = r := by
  have hsnd : (r.removeServices ls).2
      = { r with services := r.services.filter fun l => !(r.removeServices ls).1.contains l } := rfl
  rw [hsnd, h, List.filter_eq_self.mpr (by simp)]

/-- Taking back services that are not there changes nothing. -/
theorem removeServices_eq_self {r : Responder} {ls : List Locator}
    (h : ∀ l ∈ r.services, ls ≠ [] ∧ l ∉ ls) : (r.removeServices ls).2 = r := by
  refine removeServices_of_fst_eq_nil (List.eq_nil_iff_forall_not_mem.mpr ?_)
  intro l hl
  obtain ⟨hin, hls⟩ := (mem_removeServices_fst r ls l).mp hl
  obtain ⟨hne, hout⟩ := h l hin
  exact hls.elim hne hout

/-- A responder that serves after a withdrawal has something left. -/
theorem services_withdrawing_ne {r : Responder} {ls : List Locator}
    (h : (r.withdrawing ls).isServing = true) : (r.withdrawing ls).services.isEmpty = false := by
  unfold withdrawing at h ⊢
  dsimp only at h ⊢
  split
  · next hdown =>
    rw [if_pos hdown] at h
    cases h
  · next hkept =>
    rw [if_neg hkept] at h
    cases he : (r.removeServices ls).2.services.isEmpty with
    | false => rfl
    | true => exact absurd (by rw [he, h]; rfl) hkept

/-- Whoever withdraws goes on serving only if something is left. -/
theorem isServing_withdrawing (r : Responder) (ls : List Locator) :
    (r.withdrawing ls).isServing
      = (r.isServing && !(r.withdrawing ls).services.isEmpty) := by
  cases hs : (r.withdrawing ls).services.isEmpty with
  | true =>
    rw [Bool.not_true, Bool.and_false, Bool.eq_false_iff]
    intro hserving
    rw [services_withdrawing_ne hserving] at hs
    cases hs
  | false =>
    obtain ⟨l, hl⟩ := List.isEmpty_eq_false_iff_exists_mem.mp hs
    rw [Bool.not_false, Bool.and_true, isServing, withdrawing_status_of_mem hl]
    rfl

/-- To withdraw the same services again changes nothing. -/
@[simp] theorem withdrawing_withdrawing (r : Responder) (ls : List Locator) :
    (r.withdrawing ls).withdrawing ls = r.withdrawing ls := by
  have hsame : ((r.withdrawing ls).removeServices ls).2 = r.withdrawing ls :=
    removeServices_eq_self fun l hl => ((mem_withdrawing r ls l).mp hl).2
  rw [withdrawing, hsame]
  cases hs : (r.withdrawing ls).isServing with
  | false => simp
  | true => simp [services_withdrawing_ne hs]

end Responder

end ServiceMesh
