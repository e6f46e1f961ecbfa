import ServiceMesh.Pool.State
import ServiceMesh.Proofs.Transport.Links

/-!
# What the sections of a pool preserve

A pool is `Coherent` when its active addresses are configured and not unhealthy, its
unhealthy addresses are configured, and no address is configured twice.  A link that
was opened to an address is `Accounted` for when the pool has it for that address, or
it is closed.

Every section of a pool is `Careful`: it leaves a coherent pool coherent, and a link
that was accounted for stays so.  The sections that take new links besides, `adopt`
and `finishCheck`, leave these accounted for whatever became of their addresses.
-/

namespace ServiceMesh

namespace Pool

/-! ## Coherent pools and links that are accounted for -/

/-- The addresses of a pool fit together. -/
structure Coherent (p : Pool) : Prop where
  /-- An address in use is configured and not unhealthy. -/
  usable : ∀ {uri link}, p.active.get? uri = some link → uri ∈ p.uris ∧ uri ∉ p.unhealthy
  /-- An unhealthy address is configured. -/
  configured : ∀ {uri}, uri ∈ p.unhealthy → uri ∈ p.uris
  /-- No address is configured twice. -/
  nodup : p.uris.Nodup

/-- A link that was opened to an address is in use for it, or closed. -/
def Accounted (e : String × LinkId) (s : Pool × Links) : Prop :=
  s.1.active.get? e.1 = some e.2 ∨ s.2.isClosed e.2 = true

/-- A change of a pool and the links that keeps the pool coherent and loses no link. -/
structure Careful (s s' : Pool × Links) : Prop where
  /-- A coherent pool stays so. -/
  coherent : s.1.Coherent → s'.1.Coherent
  /-- A link that is accounted for stays so. -/
  accounted : ∀ {e}, Accounted e s → Accounted e s'
  /-- A link that is known stays so. -/
  known : ∀ {id}, (s.2.get? id).isSome → (s'.2.get? id).isSome

/-- Careful sections one after the other are careful. -/
theorem Careful.trans {s s' s'' : Pool × Links} (h : Careful s s') (h' : Careful s' s'') :
    Careful s s'' where
  coherent hs := h'.coherent (h.coherent hs)
  accounted he := h'.accounted (h.accounted he)
  known hid := h'.known (h.known hid)

/-- A change of the accounts alone is careful. -/
theorem Careful.of_eq {p p' : Pool} (links : Links) (huris : p'.uris = p.uris)
    (hactive : p'.active = p.active) (hunhealthy : p'.unhealthy = p.unhealthy) :
    Careful (p, links) (p', links) where
  coherent hp :=
    { usable := by
        intro uri link h
        rw [hactive] at h
        rw [huris, hunhealthy]
        exact hp.usable h
      configured := by
        intro uri h
        rw [hunhealthy] at h
        rw [huris]
        exact hp.configured h
      nodup := by
        rw [huris]
        exact hp.nodup }
  accounted := by
    intro e he
    unfold Accounted at he ⊢
    rw [hactive]
    exact he
  known h := h

theorem Careful.refl (s : Pool × Links) : Careful s s := Careful.of_eq s.2 rfl rfl rfl

/-- A new pool is coherent. -/
theorem coherent_new (destination : String) (settings : PoolSettings) :
    (Pool.new destination settings).Coherent where
  usable h := nomatch h
  configured h := nomatch h
  nodup := List.nodup_nil

theorem isConfigured_iff (p : Pool) (uri : String) : p.isConfigured uri = true ↔ uri ∈ p.uris := by
  simp [isConfigured]

/-- An address is usable if it is configured and not set aside. -/
theorem isUsable_iff (p : Pool) (uri : String) :
    p.isUsable uri = true ↔ uri ∈ p.uris ∧ uri ∉ p.unhealthy := by
  simp [isUsable, isConfigured]

/-! ## Letting an address go -/

/-- An address that is let go leaves its link closed, and the others as they are. -/
theorem accounted_erase {p p' : Pool} {links : Links} {uri : String}
    (hactive : p'.active = p.active.erase uri) {e : String × LinkId}
    (he : Accounted e (p, links)) : Accounted e (p', links.close? (p.active.get? uri)) := by
  unfold Accounted at he ⊢
  rcases he with hpooled | hclosed
  · by_cases huri : uri = e.1
    · right
      subst huri
      simp only at hpooled
      simp [hpooled, Links.close?, Links.isClosed_close]
    · left
      rw [hactive, Dict.get?_erase_of_ne _ huri]
      exact hpooled
  · exact Or.inr (Links.isClosed_close?_of_isClosed hclosed _)

/-- Marking sets one configured address aside, and no other. -/
theorem mem_unhealthy_markUnhealthy {uri : String} {p : Pool} (h : uri ∈ p.uris) (links : Links)
    (other : String) :
    other ∈ (markUnhealthy uri p links).1.unhealthy ↔ other = uri ∨ other ∈ p.unhealthy := by
  rw [markUnhealthy, if_pos ((isConfigured_iff p uri).mpr h)]
  simp only [invalidate]
  split
  · next hmem =>
    have hmem' : uri ∈ p.unhealthy := by simpa using hmem
    constructor
    · exact Or.inr
    · rintro (rfl | hother)
      · exact hmem'
      · exact hother
  · rw [List.mem_append, List.mem_singleton, or_comm]

/-- Marking drops the link of the address that is marked. -/
theorem active_markUnhealthy {uri : String} {p : Pool} (h : uri ∈ p.uris) (links : Links) :
    (markUnhealthy uri p links).1.active = p.active.erase uri := by
  rw [markUnhealthy, if_pos ((isConfigured_iff p uri).mpr h)]
  rfl

/-- Marking closes the link that it drops. -/
theorem links_markUnhealthy {uri : String} {p : Pool} (h : uri ∈ p.uris) (links : Links) :
    (markUnhealthy uri p links).2 = links.close? (p.active.get? uri) := by
  rw [markUnhealthy, if_pos ((isConfigured_iff p uri).mpr h)]

/-- An address that is not configured cannot be marked. -/
theorem markUnhealthy_of_not_mem {uri : String} {p : Pool} (h : uri ∉ p.uris) (links : Links) :
    markUnhealthy uri p links = (p, links) := by
  apply if_neg
  intro hconf
  exact h ((isConfigured_iff p uri).mp hconf)

/-- Marking does not change which addresses are configured. -/
theorem uris_markUnhealthy (uri : String) (p : Pool) (links : Links) :
    (markUnhealthy uri p links).1.uris = p.uris := by
  unfold markUnhealthy
  split
  · rfl
  · rfl

/-- Marking is careful: the link that it drops is closed. -/
theorem careful_markUnhealthy (uri : String) (p : Pool) (links : Links) :
    Careful (p, links) (markUnhealthy uri p links) := by
  by_cases hconf : uri ∈ p.uris
  · have hmem := mem_unhealthy_markUnhealthy hconf links
    have hactive := active_markUnhealthy hconf links
    have huris := uris_markUnhealthy uri p links
    refine ⟨fun hp => ⟨?_, ?_, huris ▸ hp.nodup⟩, ?_, ?_⟩
    · intro other link h
      simp only [hactive, Dict.get?_erase] at h
      split at h
      · cases h
      · next hne =>
        obtain ⟨hin, hout⟩ := hp.usable h
        refine ⟨huris ▸ hin, ?_⟩
        intro ho
        rcases (hmem other).mp ho with rfl | ho
        · exact hne rfl
        · exact hout ho
    · intro other ho
      rw [huris]
      rcases (hmem other).mp ho with rfl | ho
      · exact hconf
      · exact hp.configured ho
    · intro e he
      have hkept := accounted_erase hactive he
      rw [← links_markUnhealthy hconf] at hkept
      exact hkept
    · intro id hid
      rw [links_markUnhealthy hconf, Links.isSome_get?_close?]
      exact hid
  · rw [markUnhealthy_of_not_mem hconf]
    exact Careful.refl _

/-- Looking for an open link is careful.  A link that is forgotten by it is closed already. -/
theorem careful_takeOpen (uri : String) (p : Pool) (links : Links) :
    Careful (p, links) (takeOpen uri p links).2 := by
  unfold takeOpen
  cases hg : p.active.get? uri with
  | none => exact Careful.refl _
  | some link =>
    by_cases hc : links.isClosed link = true
    · simp only [hc, if_true]
      refine ⟨fun hp => ⟨fun h => ?_, hp.configured, hp.nodup⟩, @fun e he => ?_, fun hid => hid⟩
      · simp only [Dict.get?_erase] at h
        split at h
        · cases h
        · exact hp.usable h
      · rcases he with hpooled | hclosed
        · by_cases huri : uri = e.1
          · right
            subst huri
            rw [show p.active.get? e.1 = some e.2 from hpooled] at hg
            cases hg
            exact hc
          · left
            rw [Dict.get?_erase_of_ne _ huri]
            exact hpooled
        · exact Or.inr hclosed
    · simp only [hc]
      exact Careful.refl _

/-- Closing the pool is careful: every link that it drops is closed. -/
theorem careful_close (p : Pool) (links : Links) : Careful (p, links) (close p links) where
  coherent hp :=
    { usable := fun h => nomatch h
      configured := hp.configured
      nodup := hp.nodup }
  accounted := by
    intro e he
    right
    rw [close, Links.isClosed_foldl_close]
    rcases he with hpooled | hclosed
    · have hmem : e.2 ∈ p.active.values :=
        List.mem_map_of_mem (f := Prod.snd) (Dict.mem_of_find hpooled)
      simp [hmem]
    · have hclosed' : links.isClosed e.2 = true := hclosed
      simp [hclosed']
  known hid := by
    rw [close, Links.isSome_get?_foldl_close]
    exact hid

/-! ## Taking a link into use -/

/-- Closing a link of one's own is careful. -/
theorem careful_closeLink (link : LinkId) (p : Pool) (links : Links) :
    Careful (p, links) (p, links.close link) where
  coherent hp := hp
  accounted := by
    rintro e (hpooled | hclosed)
    · exact Or.inl hpooled
    · exact Or.inr (Links.isClosed_close?_of_isClosed hclosed (some link))
  known hid := by
    rw [Links.isSome_get?_close]
    exact hid

/-- A link that is replaced is closed, and the others are as they were. -/
theorem accounted_insert {p p' : Pool} {links : Links} {uri : String} {link : LinkId}
    (hactive : p'.active = p.active.insert uri link) {e : String × LinkId}
    (he : Accounted e (p, links)) : Accounted e (p', links.close? (p.active.get? uri)) := by
  rcases he with hpooled | hclosed
  · by_cases huri : uri = e.1
    · right
      rw [huri, show p.active.get? e.1 = some e.2 from hpooled]
      simp [Links.close?, Links.isClosed_close]
    · left
      simp only [hactive, Dict.get?_insert_of_ne _ huri]
      exact hpooled
  · exact Or.inr (Links.isClosed_close?_of_isClosed hclosed _)

/-- Adopting a link is careful: it becomes the pool's, or is closed. -/
theorem careful_adopt (uri : String) (link : LinkId) (p : Pool) (links : Links) :
    Careful (p, links) (adopt uri link p links).2 := by
  unfold adopt
  split
  · next husable =>
    rw [isUsable_iff] at husable
    cases hg : p.active.get? uri with
    | some kept =>
      simp only
      split
      · exact Careful.refl _
      · exact careful_closeLink link p links
    | none =>
      refine ⟨fun hp => ⟨fun h => ?_, hp.configured, hp.nodup⟩, fun he => ?_, fun hid => hid⟩
      · simp only [Dict.get?_insert] at h
        split at h
        · next heq =>
          subst heq
          exact husable
        · exact hp.usable h
      · have hkeep : Accounted _ ({ p with active := p.active.insert uri link },
            links.close? (p.active.get? uri)) := accounted_insert rfl he
        rw [hg] at hkeep
        exact hkeep
  · exact careful_closeLink link p links

/-- Whatever became of its address, an adopted link is in use for it or closed. -/
theorem accounted_adopt (uri : String) {link : LinkId} {p : Pool} {links : Links} :
    Accounted (uri, link) (adopt uri link p links).2 := by
  have hclosed : (links.close link).isClosed link = true := by simp [Links.isClosed_close]
  unfold adopt
  split
  · cases hg : p.active.get? uri with
    | some kept =>
      simp only
      split
      · next heq =>
        subst heq
        exact Or.inl hg
      · exact Or.inr hclosed
    | none => exact Or.inl (Dict.get?_insert_self ..)
  · exact Or.inr hclosed

/-- Recovering an address with a link is careful. -/
theorem careful_recoverOne (uri : String) (link : LinkId) (p : Pool) (links : Links) :
    Careful (p, links) (recoverOne uri link p links).2 := by
  unfold recoverOne
  split
  · next hconf =>
    rw [isConfigured_iff] at hconf
    refine ⟨fun hp => ⟨fun h => ?_, fun ho => ?_, hp.nodup⟩, fun he => accounted_insert rfl he,
      fun hid => ?_⟩
    · simp only [Dict.get?_insert] at h
      split at h
      · next heq =>
        subst heq
        exact ⟨hconf, by simp⟩
      · obtain ⟨hin, hout⟩ := hp.usable h
        constructor
        · exact hin
        · intro ho
          exact hout (List.mem_filter.mp ho).1
    · exact hp.configured (List.mem_filter.mp ho).1
    · rw [Links.isSome_get?_close?]
      exact hid
  · exact careful_closeLink link p links

/-- A link that an address is recovered with is pooled or closed. -/
theorem accounted_recoverOne (uri : String) {link : LinkId} {p : Pool} {links : Links} :
    Accounted (uri, link) (recoverOne uri link p links).2 := by
  unfold recoverOne
  split
  · exact Or.inl (Dict.get?_insert_self ..)
  · exact Or.inr (by simp [Links.isClosed_close])

/-- Recovering several addresses is careful. -/
theorem careful_recover (opened : List (String × LinkId)) (p : Pool) (links : Links) :
    Careful (p, links) (recover opened p links).2 := by
  induction opened generalizing p links with
  | nil => exact Careful.refl _
  | cons e rest ih => exact (careful_recoverOne e.1 e.2 p links).trans (ih _ _)

/-- Every link that addresses are recovered with is pooled or closed. -/
theorem accounted_recover {opened : List (String × LinkId)} {e : String × LinkId}
    (he : e ∈ opened) {p : Pool} {links : Links} : Accounted e (recover opened p links).2 := by
  induction opened generalizing p links with
  | nil => cases he
  | cons first rest ih =>
    rcases List.mem_cons.mp he with rfl | h
    · exact (careful_recover rest _ _).accounted (accounted_recoverOne e.1)
    · exact ih h

/-- Ending a check is careful. -/
theorem careful_endCheck (recovered : List String) (p : Pool) (links : Links) :
    Careful (p, links)
      ({ (if recovered.isEmpty then p else p.invalidate) with checked := true }, links) := by
  split
  · exact Careful.of_eq links rfl rfl rfl
  · exact Careful.of_eq links rfl rfl rfl

/-- A check that ends with links is careful about them. -/
theorem careful_finishCheck (opened : List (String × LinkId)) (p : Pool) (links : Links) :
    Careful (p, links) (finishCheck opened p links).2 :=
  (careful_recover opened p links).trans (careful_endCheck _ _ _)

/-- Whatever became of its address, a link opened by a check is in use for it or closed. -/
theorem accounted_finishCheck {opened : List (String × LinkId)} {e : String × LinkId}
    (he : e ∈ opened) {p : Pool} {links : Links} : Accounted e (finishCheck opened p links).2 :=
  (careful_endCheck _ _ _).accounted (accounted_recover he)

/-! ## Setting the addresses -/

/-- The addresses that are taken up have no repetitions. -/
theorem nodup_sift (resolves : String → Bool) {kept : List String} (hkept : kept.Nodup)
    (uris : List String) : (sift resolves kept uris).1.Nodup := by
  induction uris generalizing kept with
  | nil => exact hkept
  | cons uri rest ih =>
    unfold sift
    split
    · exact ih hkept
    · next hnew =>
      split
      · refine ih (List.nodup_append.mpr ⟨hkept, by simp, ?_⟩)
        intro a ha b hb hab
        rw [List.mem_singleton.mp hb] at hab
        subst hab
        exact hnew (by simpa using ha)
      · exact ih hkept

/-- Lets several addresses go. -/
def discardAll (removed : List String) (s : Pool × Links) : Pool × Links :=
  removed.foldl (fun s uri => discard s.1 s.2 uri) s

theorem uris_discardAll (removed : List String) (s : Pool × Links) :
    (discardAll removed s).1.uris = s.1.uris := by
  induction removed generalizing s with
  | nil => rfl
  | cons uri rest ih => exact ih _

/-- A link that is left after a discard is of an address that was not discarded. -/
theorem get?_discardAll {removed : List String} {s : Pool × Links} {uri : String} {link : LinkId}
    (h : (discardAll removed s).1.active.get? uri = some link) :
    uri ∉ removed ∧ s.1.active.get? uri = some link := by
  induction removed generalizing s with
  | nil => exact ⟨List.not_mem_nil, h⟩
  | cons first rest ih =>
    obtain ⟨hrest, hs⟩ := ih h
    simp only [discard, Dict.get?_erase] at hs
    split at hs
    · cases hs
    · next hne =>
      refine ⟨?_, hs⟩
      intro hmem
      rcases List.mem_cons.mp hmem with rfl | hmem
      · exact hne rfl
      · exact hrest hmem

/-- An address that is set aside after a discard was so before, and was not discarded. -/
theorem mem_unhealthy_discardAll {removed : List String} {s : Pool × Links} {uri : String} :
    uri ∈ (discardAll removed s).1.unhealthy ↔ uri ∉ removed ∧ uri ∈ s.1.unhealthy := by
  induction removed generalizing s with
  | nil => simp [discardAll]
  | cons first rest ih =>
    have hfirst : uri ∈ (discard s.1 s.2 first).1.unhealthy
        ↔ uri ≠ first ∧ uri ∈ s.1.unhealthy := by
      simp [discard, and_comm]
    rw [show discardAll (first :: rest) s = discardAll rest (discard s.1 s.2 first) from rfl, ih,
      hfirst, List.mem_cons, not_or, ← and_assoc, and_comm (a := uri ∉ rest)]

/-- A link that was pooled or closed is so after a discard. -/
theorem accounted_discardAll (removed : List String) {s : Pool × Links} {e : String × LinkId}
    (he : Accounted e s) : Accounted e (discardAll removed s) := by
  induction removed generalizing s with
  | nil => exact he
  | cons uri rest ih => exact ih (accounted_erase rfl he)

theorem known_discardAll (removed : List String) (s : Pool × Links) (id : LinkId) :
    ((discardAll removed s).2.get? id).isSome = (s.2.get? id).isSome := by
  induction removed generalizing s with
  | nil => rfl
  | cons uri rest ih => exact (ih _).trans (Links.isSome_get?_close? _ _ _)

/-- Setting the addresses is careful: the links of those that go are closed. -/
theorem careful_setUris (resolves : String → Bool) (uris : List String) (p : Pool)
    (links : Links) : Careful (p, links) (setUris resolves uris p links).2 := by
  let next := (sift resolves [] uris).1
  let removed := p.uris.filter fun u => !next.contains u
  let s : Pool × Links := discardAll removed ({ p with uris := next }, links)
  have hstays : ∀ {uri}, uri ∈ p.uris → uri ∉ removed → uri ∈ s.1.uris := by
    intro uri hin hnot
    rw [uris_discardAll]
    apply Decidable.byContradiction
    intro hout
    exact hnot (List.mem_filter.mpr ⟨hin, by simpa using hout⟩)
  have hs : Careful (p, links) s := by
    refine ⟨fun hp => ⟨fun h => ?_, fun ho => ?_, ?_⟩, fun he => ?_, fun hid => ?_⟩
    · obtain ⟨hnot, hold⟩ := get?_discardAll h
      obtain ⟨hin, hout⟩ := hp.usable hold
      constructor
      · exact hstays hin hnot
      · intro ho
        exact hout (mem_unhealthy_discardAll.mp ho).2
    · obtain ⟨hnot, hold⟩ := mem_unhealthy_discardAll.mp ho
      exact hstays (hp.configured hold) hnot
    · rw [uris_discardAll]
      exact nodup_sift resolves List.nodup_nil uris
    · exact accounted_discardAll removed he
    · rw [known_discardAll]
      exact hid
  refine hs.trans ?_
  unfold setUris
  simp only
  split
  · exact Careful.of_eq s.2 rfl rfl rfl
  · exact Careful.of_eq s.2 rfl rfl rfl

/-! ## Choice and accounts -/

/-- Choosing touches neither the addresses nor the links. -/
theorem careful_choose (draw : Draw) (fingerprint : Option Bytes) (candidates : List String)
    (p : Pool) (links : Links) :
    Careful (p, links) ((choose draw fingerprint candidates p).2, links) :=
  Careful.of_eq links rfl rfl rfl

/-- Counting a call that starts touches neither the addresses nor the links. -/
theorem careful_startCall (uri : String) (p : Pool) (links : Links) :
    Careful (p, links) (startCall uri p, links) :=
  Careful.of_eq links rfl rfl rfl

/-- Recording how a call ended is careful, also when it sets the address aside. -/
theorem careful_finishCall {α : Type} (uri : String) (latencyMs : Float)
    (result : Except Fault α) (p : Pool) (links : Links) :
    Careful (p, links) (finishCall uri latencyMs result p links) := by
  unfold finishCall
  simp only
  have hrecord : Careful (p, links)
      ({ p with balancer := p.balancer.record uri latencyMs (!failed result) }, links) :=
    Careful.of_eq links rfl rfl rfl
  split
  · exact hrecord.trans (careful_markUnhealthy uri _ links)
  · exact hrecord

end Pool

end ServiceMesh
