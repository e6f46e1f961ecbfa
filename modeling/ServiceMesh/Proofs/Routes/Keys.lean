import ServiceMesh.Proofs.Routes.Aim
import ServiceMesh.Proofs.Uuid

/-!
# The responders that a router chooses from

Balancers know responders by the written forms of their ids, their *keys*.  The router hands
them the keys of the responders that may get the call, in the order of the ids
(`Router.sorted_keys`) and each once (`Router.nodup_keys`).
-/

namespace ServiceMesh

/-! ## The order of keys -/

/-- The order of ids, as an order of their written forms. -/
def KeyBefore (k l : String) : Prop := ∀ u v : Uuid, u.toText = k → v.toText = l → u.le v = true

theorem KeyBefore.of_le {u v : Uuid} (h : u.le v = true) : KeyBefore u.toText v.toText := by
  intro u' v' hu hv
  rw [Uuid.toText_injective hu, Uuid.toText_injective hv]
  exact h

theorem KeyBefore.antisymm {u v : Uuid} (h1 : KeyBefore u.toText v.toText)
    (h2 : KeyBefore v.toText u.toText) : u = v :=
  Uuid.le_antisymm (h1 u v rfl rfl) (h2 v u rfl rfl)

theorem Responder.id_eq_of_key_eq {x y : Responder} (h : x.key = y.key) : x.id = y.id :=
  Uuid.toText_injective h

namespace Router

/-- The router looks through the responders in the order of their ids. -/
theorem sorted_eligible (t : RouteTable) (c : Composite) (routing : Routing) :
    (eligible t c routing).Pairwise fun a b => a.id.le b.id = true :=
  (t.sorted_serving routing.locator).filter _

theorem sorted_keys (t : RouteTable) (c : Composite) (routing : Routing) :
    ((eligible t c routing).map Responder.key).Pairwise KeyBefore :=
  List.pairwise_map.mpr ((sorted_eligible t c routing).imp .of_le)

/-- No two responders to choose from have one key. -/
theorem nodup_keys {t : RouteTable} (h : t.Consistent) (c : Composite) (routing : Routing) :
    ((eligible t c routing).map Responder.key).Nodup := by
  have hids : ((eligible t c routing).map Responder.id).Nodup :=
    (h.nodup_serving_ids routing.locator).sublist (List.filter_sublist.map _)
  have hkeys := hids.map fun _ _ => Uuid.toText_injective
  rwa [List.map_map] at hkeys

namespace Sample

/-- A provider of the service, by the last byte of its id. -/
def numbered (n : UInt8) : AppMetadata :=
  { instanceId := ⟨List.replicate 15 0 ++ [n], rfl⟩, name := "clock", ip := "" }

/-- A provider comes at another broker, and one comes here. -/
def pair : List RouteTable.Change :=
  [.expose (.fresh (numbered 1) (.peer "local://b2:9999")) [clock],
    .expose (.fresh (numbered 2) (.direct (.inside 2))) [clock]]

/-- The provider at the other broker, as the table holds it. -/
def remote : Responder := ⟨numbered 1, .peer "local://b2:9999", .serving, [clock]⟩

/-- The provider that is connected here, as the table holds it. -/
def near : Responder := ⟨numbered 2, .direct (.inside 2), .serving, [clock]⟩

/-- A call for the service. -/
def call : Payload := ⟨metadata.bytes, [7]⟩

/-- What the call wants. -/
def routing : Routing := ⟨clock, "now", false⟩

theorem readMetadata_call : readMetadata call = .ok (metadata, routing) :=
  readMetadata_eq_ok_iff.mpr ⟨Composite.decode_bytes fits_metadata, by rfl⟩

theorem values_pair : (RouteTable.after pair).byId.values = [remote, near] := by rfl

/-- A table of the two accepts the call for both, and for nobody else. -/
theorem accepts_iff {changes : List RouteTable.Change}
    (h : (RouteTable.after changes).byId.values = [remote, near]) (x : Responder) :
    (RouteTable.after changes).Accepts metadata routing x ↔ x = remote ∨ x = near := by
  have hlisted : (RouteTable.after changes).get? x.id = some x ↔ x = remote ∨ x = near := by
    rw [← (RouteTable.consistent_after changes).mem_values, h, List.mem_pair]
  constructor
  · intro hx
    exact hlisted.mp hx.listed
  · intro hx
    have hfirst : ¬∃ e ∈ metadata.entries, e.mime = mimeRelay := by decide
    refine ⟨hlisted.mpr hx, ?_, ?_, fun hrelayed => absurd hrelayed hfirst⟩
    · rcases hx with rfl | rfl
      · rfl
      · rfl
    · rcases hx with rfl | rfl
      · exact List.mem_singleton_self clock
      · exact List.mem_singleton_self clock

theorem eligible_pair : eligible (RouteTable.after pair) metadata routing = [remote, near] := by
  have ht := RouteTable.consistent_after pair
  have hperm : (eligible (RouteTable.after pair) metadata routing).Perm [remote, near] := by
    refine (List.perm_ext_iff_of_nodup ?_ (by decide)).mpr ?_
    · exact (nodup_keys ht metadata routing).of_map
    · intro x
      rw [ht.mem_eligible, accepts_iff values_pair, List.mem_pair]
  refine hperm.eq_of_pairwise ?_ (sorted_eligible _ _ _) (by decide)
  intro x y hx hy h1 h2
  have hids : ∀ a ∈ [remote, near], ∀ b ∈ [remote, near], a.id = b.id → a = b := by decide
  exact hids x (hperm.mem_iff.mp hx) y hy (Uuid.le_antisymm h1 h2)

end Sample

end Router

end ServiceMesh
