import ServiceMesh.Proofs.Locator.Grammar
import ServiceMesh.Proofs.Routes.Aim
import ServiceMesh.Proofs.Text.LetterCase

/-!
# Other spellings of a service

The routing hash ignores the case of ASCII letters, so a look-up by hash finds the providers of
a service under each of its spellings (`RouteTable.Consistent.mem_servingHash_of_same`).  The
queries that follow it compare the locators themselves, which do not ignore case.  So a call
reaches a provider, and a query for instances lists one, only if somebody takes calls for the
service as the caller spells it: `Router.aim_as_spelled`.
-/

namespace ServiceMesh

namespace RouteTable

variable {t : RouteTable} {l l' : Locator}

/-- A provider is found under the hash of any other spelling. -/
theorem Consistent.mem_servingHash_of_same (h : t.Consistent) {x : Responder} (hx : t.Serves l x)
    (hsame : Text.sameIgnoringAsciiCase l.gsv l'.gsv = true) : x ∈ t.servingHash l'.hash :=
  (h.mem_servingHash l'.hash x).mpr ⟨l, Hash.routingHash_eq_of_same hsame, hx⟩

theorem instances_gsv (t : RouteTable) (l : Locator) :
    t.instances l.gsv = (t.serving l).map Responder.app := by
  rw [instances, l.parse_gsv]

theorem Consistent.instances_eq_nil_iff (h : t.Consistent) (l : Locator) :
    t.instances l.gsv = [] ↔ ¬∃ x, t.Serves l x := by
  rw [instances_gsv, List.map_eq_nil_iff, List.eq_nil_iff_forall_not_mem, not_exists]
  apply forall_congr'
  intro x
  exact not_congr (h.mem_serving l x)

end RouteTable

namespace Router

theorem eligible_of_not_relayed (t : RouteTable) {c : Composite} (routing : Routing)
    (h : ∀ e ∈ c.entries, e.mime ≠ mimeRelay) :
    eligible t c routing = t.serving routing.locator := by
  have hnot : c.isRelayed = false :=
    Bool.eq_false_iff.mpr fun hrelayed =>
      have ⟨e, he, hmime⟩ := c.isRelayed_iff.mp hrelayed
      h e he hmime
  rw [eligible, hnot]
  apply List.filter_eq_self.mpr
  intro _ _
  rfl

/-- A call that no broker passed on names a service.  The hash that it asks for finds every
provider that takes calls for the service under some spelling of its ASCII letters.  But the call
is routed, and the service has instances, exactly if somebody takes calls for it as the call
spells it. -/
theorem aim_as_spelled (changes : List RouteTable.Change) (r : Router) (hr : r.Sound)
    (moves : List Move) (draw : Draw) (p : Payload) (c : Composite) (routing : Routing)
    (hdecode : Composite.decode p.metadata = .ok c) (hrouting : c.routing = .ok routing)
    (hfirst : ∀ e ∈ c.entries, e.mime ≠ mimeRelay) :
    let t := RouteTable.after changes
    let named := routing.locator
    let answer := (aim draw p (r.after moves) t).1
    (∀ l x, Text.sameIgnoringAsciiCase l.gsv named.gsv = true → t.Serves l x →
      l.hash = named.hash ∧ x ∈ t.servingHash routing.serviceHash) ∧
    ((∃ target, answer = .ok target) ↔ ∃ x, t.Serves named x) ∧
    (t.instances named.gsv ≠ [] ↔ ∃ x, t.Serves named x) ∧
    ((¬∃ x, t.Serves named x) → answer = .error (.noAvailable named.gsv)) := by
  intro t named answer
  have ht : t.Consistent := RouteTable.consistent_after changes
  have hread : readMetadata p = .ok (c, routing) := readMetadata_eq_ok_iff.mpr ⟨hdecode, hrouting⟩
  have hmem (x : Responder) : x ∈ eligible t c routing ↔ t.Serves named x := by
    rw [eligible_of_not_relayed t routing hfirst]
    exact ht.mem_serving named x
  constructor
  · intro l x hsame hx
    exact ⟨Hash.routingHash_eq_of_same hsame, ht.mem_servingHash_of_same hx hsame⟩
  rw [ne_eq, ht.instances_eq_nil_iff, not_not]
  rcases (hr.after moves).aim_cases draw t hread with ⟨x, hx, hok⟩ | ⟨hnil, herror⟩
  · have hserves : ∃ x, t.Serves named x := ⟨x, (hmem x).mp hx⟩
    refine ⟨⟨fun _ => hserves, fun _ => ⟨_, hok⟩⟩, Iff.rfl, ?_⟩
    intro hnone
    exact absurd hserves hnone
  · have hnone : ¬∃ x, t.Serves named x := by
      rintro ⟨x, hx⟩
      rw [← hmem, hnil] at hx
      cases hx
    refine ⟨⟨?_, fun hserves => absurd hserves hnone⟩, Iff.rfl, fun _ => herror⟩
    rintro ⟨target, htarget⟩
    cases herror.symm.trans htarget

namespace Sample

/-- The service of the sample in capital letters. -/
def shouted : Locator :=
  { clock with service := "CLOCK", service_ne := by decide, service_clean := by decide }

def shoutedMetadata : Composite := ⟨[⟨mimeTextRouting, utf8 "demo!CLOCK.now:2"⟩]⟩

theorem fits_shoutedMetadata : shoutedMetadata.Fits := by
  intro e he
  obtain rfl := List.mem_singleton.mp he
  exact ⟨by decide +kernel, by decide +kernel, by decide +kernel, by decide +kernel⟩

end Sample

open Sample in
/-- A provider is found under the hash of another spelling, and yet is not called. -/
theorem aim_misses_other_spelling :
    let t := RouteTable.after comes
    let r := fresh "b" .consistentHash 0 true 1000
    let x : Responder := ⟨app, .direct (.outside 0), .serving, [clock]⟩
    x ∈ t.servingHash shouted.hash ∧ t.instances "demo!CLOCK:2" = [] ∧
      (aim {} ⟨shoutedMetadata.bytes, [7]⟩ r t).1 = .error (.noAvailable "demo!CLOCK:2") := by
  intro t r x
  have hx : t.Serves clock x := ⟨rfl, rfl, List.mem_singleton_self clock⟩
  have hdecode : Composite.decode shoutedMetadata.bytes = .ok shoutedMetadata :=
    Composite.decode_bytes fits_shoutedMetadata
  have hfirst : ∀ e ∈ shoutedMetadata.entries, e.mime ≠ mimeRelay := by
    intro e he
    obtain rfl := List.mem_singleton.mp he
    decide
  have hsame : Text.sameIgnoringAsciiCase clock.gsv shouted.gsv = true := by decide
  obtain ⟨hfound, -, hinstances, herror⟩ :=
    aim_as_spelled comes r (sound_fresh "b" .consistentHash 0 true 1000) [] {}
      ⟨shoutedMetadata.bytes, [7]⟩ shoutedMetadata ⟨shouted, "now", false⟩ hdecode (by rfl) hfirst
  have hnone : ¬∃ y, t.Serves shouted y := by
    rintro ⟨y, hy⟩
    have hvalue : y ∈ t.byId.values :=
      ((RouteTable.consistent_after comes).mem_values y).mpr hy.listed
    obtain rfl : y = x := List.mem_singleton.mp hvalue
    exact absurd hy.exposed (by decide)
  exact ⟨(hfound clock x hsame hx).2, not_not.mp (mt hinstances.mp hnone), herror hnone⟩

end Router

end ServiceMesh
