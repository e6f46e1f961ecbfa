import Mathlib.Data.List.Induction
import ServiceMesh.Proofs.Transport.Links
import ServiceMesh.Transport.Registry

/-!
# Bindings over a run

An endpoint is bound and unbound under a name, links to it are opened, and links are closed.
Here these are the acts of a run, and what a network keeps is read off the acts alone: which
handler a name has (`Network.get?_run_eq_some_iff`), and for every link that was opened, what
became of it (`Network.get?_opened`).  A link ends by its own closing and by any change of the
binding of its name, and by nothing else.
-/

namespace ServiceMesh

namespace Network

variable {η : Type}

/-- Something that is done to the network inside the process. -/
inductive Act (η : Type) where
  /-- Binds a name, which may be bound already. -/
  | bind (name : String) (handler : η)
  /-- Unbinds a name, which may not be bound. -/
  | unbind (name : String)
  /-- Tries to open a link. -/
  | dial (uri : Uri)
  /-- Closes a link. -/
  | close (id : LinkId)

namespace Act

/-- What becomes of a network by an act. -/
def apply (n : Network η) : Act η → Network η
  | bind name handler => n.bind name handler
  | unbind name => n.unbind name
  | dial uri => (n.openInside uri.raw uri.authority).2
  | close id => n.close id

/-- Whether an act changes the binding of a name. -/
def rebinds : Act η → String → Bool
  | bind other _, name => other = name
  | unbind other, name => other = name
  | _, _ => false

/-- Whether an act ends a link to an endpoint: it closes the link, or changes the binding of
the name. -/
def ends (a : Act η) (id : LinkId) (name : String) : Bool :=
  match a with
  | close other => other = id
  | a => a.rebinds name

end Act

/-- A network after acts, from one where nothing was done yet. -/
def run (acts : List (Act η)) : Network η := acts.foldl Act.apply {}

theorem run_concat (acts : List (Act η)) (a : Act η) : run (acts ++ [a]) = a.apply (run acts) := by
  unfold run
  rw [List.foldl_append, List.foldl_cons, List.foldl_nil]

theorem run_append_cons (before : List (Act η)) (a : Act η) (after : List (Act η)) :
    run (before ++ a :: after) = after.foldl Act.apply (a.apply (run before)) := by
  unfold run
  rw [List.foldl_append, List.foldl_cons]

/-! ## Handlers -/

/-- A name was bound to a handler, and its binding did not change since. -/
def Bound (acts : List (Act η)) (name : String) (handler : η) : Prop :=
  ∃ before after, acts = before ++ .bind name handler :: after ∧
    ∀ a ∈ after, a.rebinds name = false

theorem Bound.append {acts : List (Act η)} {name : String} {handler : η}
    (h : Bound acts name handler) {after : List (Act η)}
    (hafter : ∀ a ∈ after, a.rebinds name = false) : Bound (acts ++ after) name handler := by
  obtain ⟨before, since, rfl, hsince⟩ := h
  refine ⟨before, since ++ after, by rw [List.append_assoc, List.cons_append], ?_⟩
  intro a ha
  rcases List.mem_append.mp ha with ha | ha
  · exact hsince a ha
  · exact hafter a ha

/-- The handler of a name is that of the last act, if this binds the name, and the one before,
if the last act leaves the name alone. -/
theorem bound_concat_iff {acts : List (Act η)} {a : Act η} {name : String} {handler : η} :
    Bound (acts ++ [a]) name handler
      ↔ a = .bind name handler ∨ a.rebinds name = false ∧ Bound acts name handler := by
  constructor
  · rintro ⟨before, after, heq, hafter⟩
    rcases List.eq_nil_or_concat after with rfl | ⟨since, last, rfl⟩
    · exact .inl (List.cons.inj (List.append_inj' heq rfl).2).1
    · have heq' : acts ++ [a] = (before ++ .bind name handler :: since) ++ [last] := by
        simpa using heq
      obtain ⟨hacts, hlast⟩ := List.append_inj' heq' rfl
      obtain rfl := (List.cons.inj hlast).1
      refine .inr ⟨hafter a (by simp), before, since, hacts, fun b hb => ?_⟩
      exact hafter b (by simp [hb])
  · rintro (rfl | ⟨ha, hbound⟩)
    · refine ⟨acts, [], rfl, ?_⟩
      intro a ha
      exact absurd ha List.not_mem_nil
    · apply hbound.append
      intro b hb
      rwa [List.mem_singleton.mp hb]

theorem get?_endpoints_apply (n : Network η) (a : Act η) (name : String) :
    (a.apply n).endpoints.get? name
      = match a with
        | .bind other handler => if other = name then some handler else n.endpoints.get? name
        | .unbind other => if other = name then none else n.endpoints.get? name
        | _ => n.endpoints.get? name := by
  cases a with
  | bind other handler => exact Dict.get?_insert n.endpoints other name handler
  | unbind other => exact Dict.get?_erase n.endpoints other name
  | dial uri =>
    simp only [Act.apply, openInside]
    split <;> rfl
  | close id => rfl

/-- A name has the handler to which it was bound last, unless it was unbound since. -/
theorem get?_run_eq_some_iff {acts : List (Act η)} {name : String} {handler : η} :
    (run acts).endpoints.get? name = some handler ↔ Bound acts name handler := by
  induction acts using List.reverseRecOn with
  | nil =>
    constructor
    · intro h
      cases h
    · rintro ⟨before, after, heq, -⟩
      simp at heq
  | append_singleton acts a ih =>
    rw [run_concat, get?_endpoints_apply, bound_concat_iff, ← ih]
    cases a with
    | bind other handler' =>
      by_cases h : other = name <;> simp [Act.rebinds, h]
    | unbind other =>
      by_cases h : other = name <;> simp [Act.rebinds, h]
    | dial uri => simp [Act.rebinds]
    | close id => simp [Act.rebinds]

/-! ## Links -/

/-- Links have numbers below that of the next one. -/
def Numbered (n : Network η) : Prop :=
  ∀ id link, n.links.get? id = some link → ∃ k < n.nextInside, id = .inside k

/-- What an act makes of a link that is there. -/
theorem get?_links_apply {n : Network η} (hn : n.Numbered) (a : Act η) {id : LinkId} {link : Link}
    {name : String} (hlink : n.links.get? id = some link) (hname : link.carrier = .endpoint name) :
    (a.apply n).links.get? id = some { link with closed := link.closed || a.ends id name } := by
  obtain ⟨uri, carrier, certificate, closed⟩ := link
  obtain rfl : carrier = .endpoint name := hname
  have hall : ∀ other, (n.links.closeAll (.endpoint other)).get? id
      = some ⟨uri, .endpoint name, certificate, closed || decide (other = name)⟩ := by
    intro other
    rw [Links.get?_closeAll, hlink]
    by_cases h : other = name
    · simp [h]
    · have h' : ¬name = other := by
        intro he
        exact h he.symm
      simp [h, h']
  cases a with
  | bind other handler => exact hall other
  | unbind other => exact hall other
  | dial uri =>
    have hsame : (n.openInside uri.raw uri.authority).2.links.get? id = n.links.get? id := by
      unfold openInside
      split
      · obtain ⟨k, hk, rfl⟩ := hn id _ hlink
        refine Dict.get?_insert_of_ne _ (fun h => ?_) _
        cases h
        exact Nat.lt_irrefl _ hk
      · rfl
    simp only [Act.apply, hsame, hlink, Act.ends, Act.rebinds, Bool.or_false]
  | close other =>
    change (n.links.close other).get? id = _
    rw [Links.get?_close_eq_map, hlink, Option.map_some]
    rfl

/-- A link is opened exactly if the name is bound. -/
theorem openInside_eq_ok_iff {n : Network η} {uri name : String} {id : LinkId} :
    (n.openInside uri name).1 = .ok id ↔ n.isBound name = true ∧ id = .inside n.nextInside := by
  unfold openInside
  split
  · next h =>
    rw [Except.ok.injEq]
    constructor
    · intro heq
      exact ⟨h, heq.symm⟩
    · intro heq
      exact heq.2.symm
  · next h =>
    refine ⟨?_, fun heq => absurd heq.1 h⟩
    intro heq
    cases heq

theorem openInside_of_isBound {n : Network η} {name : String} (h : n.isBound name = true)
    (uri : String) : (n.openInside uri name).2 = { n with
      links := n.links.add (.inside n.nextInside) { uri := uri, carrier := .endpoint name }
      nextInside := n.nextInside + 1 } := by
  rw [openInside, if_pos h]

theorem openInside_of_not_isBound {n : Network η} {name : String} (h : ¬n.isBound name = true)
    (uri : String) :
    n.openInside uri name = (.error (.handshakeFailed uri "no endpoint bound"), n) := by
  rw [openInside, if_neg h]

theorem Numbered.apply {n : Network η} (hn : n.Numbered) (a : Act η) : (a.apply n).Numbered := by
  intro id link hlink
  cases a with
  | bind name handler =>
    rw [Act.apply, bind, Links.get?_closeAll] at hlink
    obtain ⟨link', hlink', -⟩ := Option.map_eq_some_iff.mp hlink
    exact hn id link' hlink'
  | unbind name =>
    rw [Act.apply, unbind, Links.get?_closeAll] at hlink
    obtain ⟨link', hlink', -⟩ := Option.map_eq_some_iff.mp hlink
    exact hn id link' hlink'
  | dial uri =>
    by_cases h : n.isBound uri.authority = true
    · rw [Act.apply, openInside_of_isBound h] at hlink ⊢
      have hget : (n.links.add (.inside n.nextInside) _).get? id = some link := hlink
      rw [Links.get?, Links.add, Dict.get?_insert] at hget
      by_cases hid : .inside n.nextInside = id
      · exact ⟨n.nextInside, Nat.lt_succ_self _, hid.symm⟩
      · rw [if_neg hid] at hget
        obtain ⟨k, hk, rfl⟩ := hn id link hget
        exact ⟨k, Nat.lt_succ_of_lt hk, rfl⟩
    · rw [Act.apply, openInside_of_not_isBound h] at hlink ⊢
      exact hn id link hlink
  | close other =>
    rw [Act.apply, close, Links.get?_close_eq_map] at hlink
    obtain ⟨link', hlink', -⟩ := Option.map_eq_some_iff.mp hlink
    exact hn id link' hlink'

theorem Numbered.foldl {n : Network η} (hn : n.Numbered) (acts : List (Act η)) :
    (acts.foldl Act.apply n).Numbered := by
  induction acts generalizing n with
  | nil => exact hn
  | cons a rest ih => exact ih (hn.apply a)

theorem numbered_run (acts : List (Act η)) : (run acts).Numbered := by
  refine Numbered.foldl ?_ acts
  intro id link h
  cases h

/-- What acts make of a link that is there. -/
theorem get?_links_foldl {n : Network η} (hn : n.Numbered) (acts : List (Act η)) {id : LinkId}
    {link : Link} {name : String} (hlink : n.links.get? id = some link)
    (hname : link.carrier = .endpoint name) :
    (acts.foldl Act.apply n).links.get? id
      = some { link with closed := link.closed || acts.any fun a => a.ends id name } := by
  induction acts generalizing n link with
  | nil => simp [hlink]
  | cons a rest ih =>
    rw [List.foldl_cons, ih (hn.apply a) (get?_links_apply hn a hlink hname) hname]
    rw [List.any_cons, Bool.or_assoc]

/-! ## Openings -/

/-- A link is opened to an address when the acts are done. -/
def Opens (acts : List (Act η)) (uri : Uri) (id : LinkId) : Prop :=
  ((run acts).openInside uri.raw uri.authority).1 = .ok id

/-- An address can be opened exactly if its name is bound. -/
theorem exists_opens_iff {acts : List (Act η)} {uri : Uri} :
    (∃ id, Opens acts uri id) ↔ ∃ handler, Bound acts uri.authority handler := by
  simp only [Opens, openInside_eq_ok_iff, exists_and_left, exists_eq, and_true,
    ← get?_run_eq_some_iff]
  exact Option.isSome_iff_exists

/-- A link that was opened is there from then on, and what became of it is told by the acts
that followed. -/
theorem get?_opened {before : List (Act η)} {uri : Uri} {id : LinkId} (h : Opens before uri id)
    (after : List (Act η)) :
    (run (before ++ .dial uri :: after)).links.get? id
      = some {
          uri := uri.raw
          carrier := .endpoint uri.authority
          closed := after.any fun a => a.ends id uri.authority } := by
  obtain ⟨hbound, rfl⟩ := openInside_eq_ok_iff.mp h
  rw [run_append_cons]
  have hnew : (Act.apply (run before) (.dial uri)).links.get? (.inside (run before).nextInside)
      = some { uri := uri.raw, carrier := .endpoint uri.authority } := by
    rw [Act.apply, openInside_of_isBound hbound]
    exact Dict.get?_insert_self _ _ _
  exact get?_links_foldl ((numbered_run before).apply _) after hnew rfl

/-- A link that was opened differs from all that were opened before. -/
theorem ne_of_opens {before mid : List (Act η)} {uri uri' : Uri} {id id' : LinkId}
    (h : Opens before uri id) (h' : Opens (before ++ .dial uri :: mid) uri' id') : id ≠ id' := by
  obtain ⟨k, hk, rfl⟩ := numbered_run _ id _ (get?_opened h mid)
  obtain ⟨-, rfl⟩ := openInside_eq_ok_iff.mp h'
  intro heq
  cases heq
  exact Nat.lt_irrefl _ hk

theorem isClosed_opened {before : List (Act η)} {uri : Uri} {id : LinkId}
    (h : Opens before uri id) (after : List (Act η)) :
    (run (before ++ .dial uri :: after)).links.isClosed id
      = after.any fun a => a.ends id uri.authority := by
  rw [Links.isClosed, get?_opened h after]

theorem farEnd_opened {before : List (Act η)} {uri : Uri} {id : LinkId}
    (h : Opens before uri id) (after : List (Act η)) :
    (run (before ++ .dial uri :: after)).farEnd id
      = match (run (before ++ .dial uri :: after)).endpoints.get? uri.authority with
        | some handler =>
            if after.any fun a => a.ends id uri.authority then .closed uri.raw
            else .endpoint uri.authority handler uri.raw
        | none => .closed uri.raw := by
  cases hget : (run (before ++ .dial uri :: after)).endpoints.get? uri.authority with
  | none => simp only [farEnd, get?_opened h after, hget]
  | some handler => simp only [farEnd, get?_opened h after, hget]

/-- The binding that a link was opened to is there as long as the link is open. -/
theorem bound_of_open {before after : List (Act η)} {uri : Uri} {id : LinkId} {handler : η}
    (hbound : Bound before uri.authority handler)
    (hopen : (after.any fun a => a.ends id uri.authority) = false) :
    Bound (before ++ .dial uri :: after) uri.authority handler := by
  apply hbound.append
  intro a ha
  rcases List.mem_cons.mp ha with rfl | ha
  · rfl
  · have hends := List.any_eq_false.mp hopen a ha
    cases a with
    | bind other handler => simpa [Act.ends] using hends
    | unbind other => simpa [Act.ends] using hends
    | dial uri => rfl
    | close other => rfl

end Network

end ServiceMesh
