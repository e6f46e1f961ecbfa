import ServiceMesh.Proofs.Routes.Spelling

/-!
# What is discovered can be called

A route table answers three questions about who takes calls.  The names of all services come
from a scan of the responders, the instances of a service from the index by hash, and a router
goes from the metadata of a call through the index to its balancer.

On a consistent table all three depend on who takes calls for which service alone
(`RouteTable.Serves`).  A text is the written form of one locator at most, so a service is named
exactly if it has instances (`RouteTable.Consistent.instances_ne_nil_iff`), and a call finds a
responder exactly then (`Router.discovery_agrees`).
-/

namespace ServiceMesh

namespace RouteTable

variable {t : RouteTable}

/-! ## The names of services -/

theorem mem_sortedGsvs {ls : List Locator} {g : String} :
    g ∈ sortedGsvs ls ↔ ∃ l ∈ ls, l.gsv = g := by
  rw [sortedGsvs, List.mem_eraseDups, List.mem_mergeSort, List.mem_map]

/-- The services are listed by name, each once. -/
theorem sorted_serviceNames (t : RouteTable) : t.serviceNames.Pairwise (· < ·) :=
  Text.pairwise_lt_eraseDups (Text.pairwise_le_mergeSort _)

theorem Consistent.mem_serviceNames (h : t.Consistent) {g : String} :
    g ∈ t.serviceNames ↔ ∃ l, l.gsv = g ∧ ∃ x, t.Serves l x := by
  rw [serviceNames, mem_sortedGsvs]
  constructor
  · rintro ⟨l, hl, hg⟩
    obtain ⟨x, hx, hexposed⟩ := List.mem_flatMap.mp hl
    obtain ⟨hvalue, hserving⟩ := List.mem_filter.mp hx
    exact ⟨l, hg, x, (h.mem_values x).mp hvalue, (Responder.isServing_iff x).mp hserving, hexposed⟩
  · rintro ⟨l, hg, x, hx⟩
    have hserving : x ∈ t.byId.values.filter Responder.isServing := List.mem_filter.mpr
      ⟨(h.mem_values x).mpr hx.listed, (Responder.isServing_iff x).mpr hx.serving⟩
    exact ⟨l, List.mem_flatMap.mpr ⟨x, hserving, hx.exposed⟩, hg⟩

/-! ## The instances of a service -/

theorem instances_of_error {g : String} {cause : LocatorError}
    (hg : Locator.parse g = .error cause) : t.instances g = [] := by
  rw [instances, hg]

theorem Consistent.mem_instances (h : t.Consistent) {g : String} {app : AppMetadata} :
    app ∈ t.instances g ↔ ∃ l x, Locator.parse g = .ok l ∧ t.Serves l x ∧ x.app = app := by
  cases hg : Locator.parse g with
  | error cause => simp [instances_of_error hg]
  | ok l =>
    rw [instances, hg]
    simp only [List.mem_map, h.mem_serving, Except.ok.injEq]
    constructor
    · rintro ⟨x, hx⟩
      exact ⟨l, x, rfl, hx⟩
    · rintro ⟨_, x, rfl, hx⟩
      exact ⟨x, hx⟩

/-- The instances are listed by id, each once. -/
theorem Consistent.sorted_instances (h : t.Consistent) (g : String) :
    (t.instances g).Pairwise fun a b =>
      a.instanceId.le b.instanceId = true ∧ a.instanceId ≠ b.instanceId := by
  cases hg : Locator.parse g with
  | error cause =>
    rw [instances_of_error hg]
    exact List.Pairwise.nil
  | ok l =>
    rw [instances, hg]
    have hdifferent := List.pairwise_map.mp (h.nodup_serving_ids l)
    exact List.pairwise_map.mpr ((t.sorted_serving l).and hdifferent)

/-- A service has instances exactly if it is named. -/
theorem Consistent.instances_ne_nil_iff (h : t.Consistent) (g : String) :
    t.instances g ≠ [] ↔ g ∈ t.serviceNames := by
  rw [h.mem_serviceNames]
  cases hg : Locator.parse g with
  | error cause =>
    refine iff_of_false (not_not.mpr (instances_of_error hg)) ?_
    rintro ⟨l, rfl, -⟩
    cases hg.symm.trans l.parse_gsv
  | ok l =>
    obtain rfl := Locator.parse_eq_ok_iff.mp hg
    rw [ne_eq, h.instances_eq_nil_iff, not_not]
    constructor
    · intro hserved
      exact ⟨l, rfl, hserved⟩
    · rintro ⟨_, hl, hserved⟩
      rwa [← Locator.gsv_inj hl]

end RouteTable

namespace Router

/-- Whatever happened to a table and to a router: the table names the services in order, each
once.  It lists instances of a text exactly if it names it, and lists the applications that take
calls for the service that the text names, by their ids, each once.  A call that names the
service, and that no broker passed on, is routed exactly if there are instances. -/
theorem discovery_agrees (changes : List RouteTable.Change) (r : Router) (hr : r.Sound)
    (moves : List Move) (g : String) :
    let t := RouteTable.after changes
    t.serviceNames.Pairwise (· < ·) ∧
    (t.instances g ≠ [] ↔ g ∈ t.serviceNames) ∧
    (∀ app, app ∈ t.instances g
      ↔ ∃ l x, Locator.parse g = .ok l ∧ t.Serves l x ∧ x.app = app) ∧
    (t.instances g).Pairwise (fun a b =>
      a.instanceId.le b.instanceId = true ∧ a.instanceId ≠ b.instanceId) ∧
    ∀ draw p c routing, Composite.decode p.metadata = .ok c → c.routing = .ok routing →
      (∀ e ∈ c.entries, e.mime ≠ mimeRelay) → Locator.parse g = .ok routing.locator →
      ((∃ target, (aim draw p (r.after moves) t).1 = .ok target) ↔ t.instances g ≠ []) := by
  intro t
  have ht : t.Consistent := RouteTable.consistent_after changes
  refine ⟨t.sorted_serviceNames, ht.instances_ne_nil_iff g, fun _ => ht.mem_instances,
    ht.sorted_instances g, ?_⟩
  intro draw p c routing hdecode hrouting hfirst hg
  have hread : readMetadata p = .ok (c, routing) := readMetadata_eq_ok_iff.mpr ⟨hdecode, hrouting⟩
  rw [(hr.after moves).aim_ok_iff draw t hread, eligible_of_not_relayed t routing hfirst,
    RouteTable.instances, hg, ne_eq, ne_eq, List.map_eq_nil_iff]

open Sample in
/-- The one service that is served is named, and calls for it are routed. -/
theorem served_is_found :
    let t := RouteTable.after comes
    let r := fresh "b" .random 0.5 false 1000
    "demo!Clock:2" ∈ t.serviceNames ∧
      ∃ target, (aim {} ⟨metadata.bytes, [7]⟩ r t).1 = .ok target := by
  intro t r
  have hg : Locator.parse "demo!Clock:2" = .ok clock := clock.parse_gsv
  have hdecode : Composite.decode metadata.bytes = .ok metadata :=
    Composite.decode_bytes fits_metadata
  have hfirst : ∀ e ∈ metadata.entries, e.mime ≠ mimeRelay := by decide
  obtain ⟨-, hnamed, hlisted, -, hrouted⟩ :=
    discovery_agrees comes r (sound_fresh "b" .random 0.5 false 1000) [] "demo!Clock:2"
  have hserves : t.Serves clock ⟨app, .direct (.outside 0), .serving, [clock]⟩ :=
    ⟨rfl, rfl, List.mem_singleton_self clock⟩
  have hne : t.instances "demo!Clock:2" ≠ [] :=
    List.ne_nil_of_mem ((hlisted app).mpr ⟨_, _, hg, hserves, rfl⟩)
  exact ⟨hnamed.mp hne, (hrouted {} ⟨metadata.bytes, [7]⟩ metadata ⟨clock, "now", false⟩ hdecode
    (by rfl) hfirst hg).mpr hne⟩

end Router

end ServiceMesh
