import ServiceMesh.Proofs.Pool.Accounts

/-!
# Links that are handed out

Who asks for a link to an address, and finds none in use, opens one and has the pool adopt it.
Others may do the same meanwhile.  Of several links to one address the pool keeps the one that
came first, and hands that out to whoever comes later.

The far end may close the first link before the second one comes.  A search for a link in use
passes over such a link and forgets it, but an adoption keeps it.  So an adopted link, or the
one that is handed out in its place, is in use for the address; it is open exactly if the
address had no closed link in use (`Pool.adopt_live_iff`).
-/

namespace ServiceMesh

namespace Pool

variable {uri : String} {link kept : LinkId} {p : Pool} {links : Links}

/-! ## What becomes of a new link -/

/-- A link to an address that may be used and has none is taken into use. -/
theorem adopt_of_usable (husable : p.isUsable uri = true) (hnone : p.active.get? uri = none) :
    adopt uri link p links = (.ok link, { p with active := p.active.insert uri link }, links) := by
  unfold adopt
  rw [if_pos husable, hnone]

/-- Where another link is in use, that one is handed out. -/
theorem adopt_of_kept (husable : p.isUsable uri = true) (hkept : p.active.get? uri = some kept)
    (hne : kept ≠ link) : adopt uri link p links = (.ok kept, p, links.close link) := by
  unfold adopt
  rw [if_pos husable, hkept]
  simp only [hne, if_false]

/-- A link to an address that may not be used is closed. -/
theorem adopt_of_unusable (hunusable : p.isUsable uri = false) :
    adopt uri link p links = (.error (.connectionClosed uri), p, links.close link) := by
  unfold adopt
  rw [hunusable]
  rfl

/-- The link that is in use for an address is closed. -/
def Stale (uri : String) (p : Pool) (links : Links) : Prop :=
  ∃ kept, p.active.get? uri = some kept ∧ links.isClosed kept = true

/-- A new link that is open is adopted exactly if its address is configured and not unhealthy.
What is handed out then is in use for the address, and if it is another link, the new one is
closed.  It is open exactly if no closed link was in use for the address.  A new link that is
not adopted is closed, and not in use for any address. -/
theorem adopt_live_iff (hopen : links.isClosed link = false)
    (hnew : ∀ other, p.active.get? other ≠ some link) :
    let result := (adopt uri link p links).1
    let p' := (adopt uri link p links).2.1
    let links' := (adopt uri link p links).2.2
    ((∃ given, result = .ok given) ↔ uri ∈ p.uris ∧ uri ∉ p.unhealthy) ∧
    (∀ given, result = .ok given →
      p'.active.get? uri = some given ∧ (given = link ∨ links'.isClosed link = true) ∧
      (links'.isClosed given = false ↔ ¬Stale uri p links)) ∧
    ∀ fault, result = .error fault →
      links'.isClosed link = true ∧ ∀ other, p'.active.get? other ≠ some link := by
  have hclosed : (links.close link).isClosed link = true := by simp [Links.isClosed_close]
  rw [← isUsable_iff]
  cases husable : p.isUsable uri with
  | false =>
    rw [adopt_of_unusable husable]
    refine ⟨by simp, nofun, fun _ _ => ⟨hclosed, hnew⟩⟩
  | true =>
    cases hkept : p.active.get? uri with
    | none =>
      rw [adopt_of_usable husable hkept]
      refine ⟨by simp, ?_, nofun⟩
      rintro _ ⟨⟩
      have hfresh : ¬Stale uri p links := by
        rintro ⟨kept, hkept', -⟩
        cases hkept.symm.trans hkept'
      exact ⟨Dict.get?_insert_self .., .inl rfl, iff_of_true hopen hfresh⟩
    | some kept =>
      have hne : kept ≠ link := by
        intro heq
        exact hnew uri (heq ▸ hkept)
      rw [adopt_of_kept husable hkept hne]
      refine ⟨by simp, ?_, nofun⟩
      rintro _ ⟨⟩
      have hsame : (links.close link).isClosed kept = links.isClosed kept := by
        simp [Links.isClosed_close, hne.symm]
      have hstale : Stale uri p links ↔ links.isClosed kept = true := by
        simp [Stale, hkept]
      refine ⟨hkept, .inr hclosed, ?_⟩
      rw [hsame, hstale, Bool.not_eq_true]

namespace Sample

/-- An address is set.  Two ask for a link to it, and both open one.  The link of the first is
taken into use, and closed by the far end. -/
def overlapping : List Move :=
  .start (.refresh ["local://p1"]) ::
    List.replicate 2 (.turn 0 .here) ++ List.replicate 4 (.turn 0 (.first .here)) ++
    .turn 0 .here :: .start (.connectionTo "local://p1") :: List.replicate 3 (.turn 1 .here) ++
    .start (.connectionTo "local://p1") :: List.replicate 3 (.turn 2 .here) ++
    [.turn 1 .here, .hangUp (.outside 0)]

/-- The site where the second link is about to be adopted. -/
def site : Site := ((Scene.new "g!Calc:1" {}).run (fun _ => true) overlapping).site

end Sample

open Sample in
/-- The first of two links was closed when the second is adopted.  The first is handed out. -/
theorem adopt_hands_out_closed :
    (site.pool.Coherent ∧ site.opened = [("local://p1", .outside 0), ("local://p1", .outside 1)] ∧
      site.links.isClosed (.outside 1) = false) ∧
    (adopt "local://p1" (.outside 1) site.pool site.links).1 = .ok (.outside 0) ∧
    (adopt "local://p1" (.outside 1) site.pool site.links).2.2.isClosed (.outside 0) = true := by
  obtain ⟨_, hsound, -⟩ :=
    (Scene.orderly_new "g!Calc:1" {}).run (fun _ => true) overlapping
  have hopen : site.links.isClosed (.outside 1) = false := by decide +kernel
  have hactive : site.pool.active.entries = [("local://p1", .outside 0)] := by decide +kernel
  have hnew : ∀ other, site.pool.active.get? other ≠ some (.outside 1) := by
    intro other hother
    have hmem := Dict.mem_of_find hother
    rw [hactive] at hmem
    cases List.mem_singleton.mp hmem
  have hgiven : (adopt "local://p1" (.outside 1) site.pool site.links).1 = .ok (.outside 0) := by
    decide +kernel
  have hstale : Stale "local://p1" site.pool site.links :=
    ⟨.outside 0, by decide +kernel, by decide +kernel⟩
  obtain ⟨-, hok, -⟩ := @adopt_live_iff "local://p1" _ _ _ hopen hnew
  obtain ⟨-, -, hlive⟩ := hok _ hgiven
  refine ⟨⟨hsound.coherent, by decide +kernel, hopen⟩, hgiven, ?_⟩
  rw [← Bool.not_eq_false]
  intro hfalse
  exact hlive.mp hfalse hstale

end Pool

end ServiceMesh
