import ServiceMesh.Proofs.Balance.Owners
import ServiceMesh.Proofs.Routes.Keys

/-!
# Sticky calls stay where they were

A sticky call goes to the home of its data among the keys of the responders that accept it
(`Router.aim_sticky`), because a router keeps faithful rings whatever happens to it
(`Router.faithful_after`).  The keys come in one order whatever the table went through, so two
sticky calls with the same data go to one provider, if the provider of each accepts the other
call too: `Router.sticky_calls_stay`.  In between the table may have changed in any way, and
the router may have routed any calls on any tables.

A session therefore only moves when its provider no longer takes it, and otherwise only to a
provider that did not take it before.
-/

namespace ServiceMesh

namespace Router

/-! ## Faithful rings -/

theorem faithful_choose {r : Router} (h : r.sticky.Faithful) (draw : Draw) (routing : Routing)
    (data : Bytes) (keys : List String) : (r.choose draw routing data keys).2.sticky.Faithful := by
  unfold choose
  split
  · exact h.pick _ _ keys
  · exact h

theorem faithful_aim {r : Router} (h : r.sticky.Faithful) (draw : Draw) (p : Payload)
    (table : RouteTable) : (aim draw p r table).2.sticky.Faithful := by
  unfold aim
  split
  · exact h
  · rename_i c routing _
    have hr := faithful_choose h draw routing p.data ((eligible table c routing).map Responder.key)
    simp only
    split
    · exact hr
    · exact hr

theorem faithful_apply {r : Router} (h : r.sticky.Faithful) (move : Move) :
    (move.apply r).sticky.Faithful := by
  cases move with
  | route draw p table => exact faithful_aim h draw p table
  | start key => exact h
  | finish key latencyMs result => exact h
  | invalidate hash => exact h.invalidate hash
  | observe change => exact h

/-- A router keeps faithful rings for sticky calls, whatever happens to it. -/
theorem faithful_after (moves : List Move) :
    ∀ {r : Router}, r.sticky.Faithful → (r.after moves).sticky.Faithful := by
  induction moves with
  | nil =>
    intro r h
    exact h
  | cons move rest ih =>
    intro r h
    exact ih (faithful_apply h move)

/-! ## Sticky calls -/

theorem alwaysSticky_choose (r : Router) (draw : Draw) (routing : Routing) (data : Bytes)
    (keys : List String) : (r.choose draw routing data keys).2.alwaysSticky = r.alwaysSticky := by
  unfold choose
  split <;> rfl

theorem alwaysSticky_aim (r : Router) (draw : Draw) (p : Payload) (table : RouteTable) :
    (aim draw p r table).2.alwaysSticky = r.alwaysSticky := by
  unfold aim
  split
  · rfl
  · rename_i c routing _
    have hr := r.alwaysSticky_choose draw routing p.data
      ((eligible table c routing).map Responder.key)
    simp only
    split
    · exact hr
    · exact hr

/-- Whether all calls are sticky is settled once and for all. -/
theorem alwaysSticky_after (moves : List Move) :
    ∀ r : Router, (r.after moves).alwaysSticky = r.alwaysSticky := by
  induction moves with
  | nil =>
    intro _
    rfl
  | cons move rest ih =>
    intro r
    refine (ih (move.apply r)).trans ?_
    cases move with
    | route draw p table => exact r.alwaysSticky_aim draw p table
    | start key => rfl
    | finish key latencyMs result => rfl
    | invalidate hash => rfl
    | observe change => rfl

/-- A sticky call goes to the home of its data among those who may get it. -/
theorem aim_sticky {r : Router} (h : r.sticky.Faithful) {draw : Draw} {p : Payload}
    {table : RouteTable} {target : Target} (haim : (aim draw p r table).1 = .ok target)
    (hsticky : (target.routing.sticky || r.alwaysSticky) = true) (hdata : p.data ≠ []) :
    HashRing.home p.data
      ((eligible table target.metadata target.routing).map Responder.key)
      = some target.responder.key := by
  obtain ⟨responder, routing, c⟩ := target
  obtain ⟨hread, -⟩ := of_aim haim
  simp only at hread hsticky ⊢
  simp only [aim, hread, choose, hsticky, if_true, h.pick_eq routing.serviceHash hdata]
    at haim
  split at haim
  · rename_i hfind
    cases haim
    obtain ⟨key, hhome, hfind⟩ := Option.bind_eq_some_iff.mp hfind
    have hkey : responder.key = key := by simpa using List.find?_some hfind
    rw [hkey]
    exact hhome
  · cases haim

/-- After any run of a new router and any changes of a new table, a sticky call with data is
routed.  After whatever else happened to both, another sticky call with the same data is routed.
If the provider of each call accepts the other call too, they are one provider.  The calls need
not even be for the same service.  Each of the two is listed at the other call, so both are
nearest among both lists. -/
theorem sticky_calls_stay (brokerId : String) (strategy : Strategy) (exploration : Float)
    (alwaysSticky : Bool) (callTimeoutMs : Nat) (moves moves' : List Move)
    (changes changes' : List RouteTable.Change) (draw draw' : Draw) (p p' : Payload)
    (target target' : Target) :
    let r := (fresh brokerId strategy exploration alwaysSticky callTimeoutMs).after moves
    let t := RouteTable.after changes
    let r' := r.after (.route draw p t :: moves')
    let t' := RouteTable.after (changes ++ changes')
    (aim draw p r t).1 = .ok target → (aim draw' p' r' t').1 = .ok target' →
    (target.routing.sticky || alwaysSticky) = true →
    (target'.routing.sticky || alwaysSticky) = true →
    p.data ≠ [] → p'.data = p.data →
    (∃ x, t'.Accepts target'.metadata target'.routing x ∧ x.id = target.responder.id) →
    (∃ x, t.Accepts target.metadata target.routing x ∧ x.id = target'.responder.id) →
    target'.responder.id = target.responder.id := by
  intro r t r' t' haim haim' hsticky hsticky' hdata hsame hstays hknown
  have hr : r.sticky.Faithful := faithful_after moves RingBalancer.faithful_new
  have hr' : r'.sticky.Faithful := faithful_after _ hr
  have halways : r.alwaysSticky = alwaysSticky := alwaysSticky_after moves _
  have halways' : r'.alwaysSticky = alwaysSticky := (alwaysSticky_after _ r).trans halways
  have hhome := aim_sticky hr haim (halways ▸ hsticky) hdata
  have hhome' := aim_sticky hr' haim' (halways' ▸ hsticky') (hsame ▸ hdata)
  rw [hsame] at hhome'
  have hlisted {changes : List RouteTable.Change} {c : Composite} {routing : Routing}
      {x y : Responder} (hx : (RouteTable.after changes).Accepts c routing x) (hid : x.id = y.id) :
      y.key ∈ (eligible (RouteTable.after changes) c routing).map Responder.key := by
    refine List.mem_map.mpr ⟨x, ?_, congrArg Uuid.toText hid⟩
    exact ((RouteTable.consistent_after changes).mem_eligible c routing x).mpr hx
  obtain ⟨x, hx, hxid⟩ := hstays
  obtain ⟨y, hy, hyid⟩ := hknown
  refine Responder.id_eq_of_key_eq (HashRing.home_stays hhome' hhome (hlisted hx hxid)
    (hlisted hy hyid) (sorted_keys t' _ _) (sorted_keys t _ _) ?_)
  intro h1 h2
  exact congrArg Uuid.toText (KeyBefore.antisymm h1 h2)

namespace Sample

/-- A third provider comes and goes. -/
def visit : List RouteTable.Change :=
  [.expose (.fresh (numbered 3) (.direct (.inside 3))) [clock], .remove (numbered 3).instanceId]

/-- Where somebody accepts the call, it goes to somebody who does. -/
theorem aim_call {changes : List RouteTable.Change} {x : Responder}
    (hx : (RouteTable.after changes).Accepts metadata routing x) {r : Router}
    (hr : r.Sound) :
    ∃ y, (RouteTable.after changes).Accepts metadata routing y ∧
      (aim {} call r (RouteTable.after changes)).1 = .ok ⟨y, routing, metadata⟩ := by
  have hmem := (RouteTable.consistent_after changes).mem_eligible metadata routing
  rcases hr.aim_cases {} (RouteTable.after changes) readMetadata_call with ⟨y, hy, haim⟩ | ⟨hnil, -⟩
  · exact ⟨y, (hmem y).mp hy, haim⟩
  · rw [← hmem, hnil] at hx
    cases hx

end Sample

open Sample in
/-- A session stays at its provider while another provider comes, gets calls and goes. -/
theorem sticky_call_outlasts_visit :
    let r := (fresh "b" .random 0 true 1000).after []
    let r' := r.after [.route {} call (RouteTable.after pair), .invalidate clock.hash,
      .route {} call (RouteTable.after (pair ++ visit.take 1)), .invalidate clock.hash]
    ∃ target target', (aim {} call r (RouteTable.after pair)).1 = .ok target ∧
      (aim {} call r' (RouteTable.after (pair ++ visit))).1 = .ok target' ∧
      target'.responder.id = target.responder.id := by
  intro r r'
  have hr : r.Sound := sound_fresh "b" .random 0 true 1000
  have hbefore := accepts_iff values_pair
  have hvisited : (RouteTable.after (pair ++ visit)).byId.values = [remote, near] := by rfl
  have hafter := accepts_iff hvisited
  obtain ⟨x, hx, haim⟩ := aim_call ((hbefore _).mpr (.inl rfl)) hr
  obtain ⟨y, hy, haim'⟩ := aim_call ((hafter _).mpr (.inl rfl)) (r := r') (hr.after _)
  refine ⟨_, _, haim, haim', ?_⟩
  exact sticky_calls_stay "b" .random 0 true 1000 [] _ pair visit {} {} call call _ _ haim haim'
    rfl rfl (List.cons_ne_nil 7 []) rfl ⟨x, (hafter x).mpr ((hbefore x).mp hx), rfl⟩
    ⟨y, (hbefore y).mpr ((hafter y).mp hy), rfl⟩

end Router

end ServiceMesh
