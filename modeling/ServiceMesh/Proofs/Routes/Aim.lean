import ServiceMesh.Proofs.Balance.Choice
import ServiceMesh.Proofs.Routes.Relay
import ServiceMesh.Proofs.Routes.Scan

/-!
# Where a call may go, and where it goes

A responder of a table *accepts* a call if it takes calls, exposes the very service that
the call names, and is connected here in case the call was relayed.  On a consistent table
the router chooses among exactly these responders (`RouteTable.Consistent.mem_eligible`),
and its balancers always make a choice, so a readable call fails only if nobody accepts it:
`Router.aim_sound_complete`.

This holds of every router whose rings are sound.  A new router is one, and so is what
becomes of it, whatever calls it routes on whatever tables and whatever it forgets
(`Router.Sound.after`).
-/

namespace ServiceMesh

/-! ## Readable calls -/

namespace Router

theorem malformed_of_readMetadata {p : Payload} {fault : Fault}
    (h : readMetadata p = .error fault) :
    ∃ cause, fault = .malformedRouting cause := by
  unfold readMetadata at h
  split at h
  · cases h
    exact ⟨_, rfl⟩
  · split at h
    · cases h
      exact ⟨_, rfl⟩
    · cases h

end Router

/-! ## Responders that accept a call -/

/-- The responder of a table may get the call. -/
structure RouteTable.Accepts (t : RouteTable) (c : Composite) (routing : Routing)
    (x : Responder) : Prop where
  listed : t.get? x.id = some x
  serving : x.status = .serving
  exposed : routing.locator ∈ x.services
  near : (∃ e ∈ c.entries, e.mime = mimeRelay) → ∃ link, x.route = .direct link

theorem Responder.isRemote_eq_false_iff (x : Responder) :
    x.isRemote = false ↔ ∃ link, x.route = .direct link := by
  unfold Responder.isRemote
  constructor
  · intro h
    split at h
    · cases h
    · rename_i link hlink
      exact ⟨link, hlink⟩
  · rintro ⟨link, hlink⟩
    rw [hlink]

/-- The router sees the responders that accept a call, and no others. -/
theorem RouteTable.Consistent.mem_eligible {t : RouteTable} (h : t.Consistent) (c : Composite)
    (routing : Routing) (x : Responder) :
    x ∈ Router.eligible t c routing ↔ t.Accepts c routing x := by
  rw [Router.eligible, List.mem_filter, h.mem_serving, Bool.or_eq_true, Bool.not_eq_true',
    Bool.not_eq_true', x.isRemote_eq_false_iff]
  constructor
  · rintro ⟨hx, hreach⟩
    refine ⟨hx.listed, hx.serving, hx.exposed, ?_⟩
    intro hrelayed
    rw [← c.isRelayed_iff] at hrelayed
    exact hreach.resolve_left (by rw [hrelayed]; exact Bool.noConfusion)
  · rintro ⟨hlisted, hserving, hexposed, hnear⟩
    refine ⟨⟨hlisted, hserving, hexposed⟩, ?_⟩
    rw [← c.isRelayed_iff] at hnear
    cases hr : c.isRelayed with
    | false => exact .inl rfl
    | true => exact .inr (hnear hr)

/-! ## Routers -/

namespace Router

/-- A router whose balancers keep sound rings. -/
structure Sound (r : Router) : Prop where
  balancer : r.balancer.Sound
  sticky : r.sticky.Sound

/-- A new router. -/
def fresh (brokerId : String) (strategy : Strategy) (exploration : Float) (alwaysSticky : Bool)
    (callTimeoutMs : Nat) : Router where
  brokerId := brokerId
  balancer := .ofStrategy strategy exploration
  alwaysSticky := alwaysSticky
  callTimeoutMs := callTimeoutMs

theorem sound_fresh (brokerId : String) (strategy : Strategy) (exploration : Float)
    (alwaysSticky : Bool) (callTimeoutMs : Nat) :
    (fresh brokerId strategy exploration alwaysSticky callTimeoutMs).Sound :=
  ⟨Balancer.sound_ofStrategy strategy exploration, RingBalancer.sound_new⟩

section

variable {r : Router}

theorem Sound.choice_choose (h : r.Sound) (draw : Draw) (routing : Routing) (data : Bytes)
    (keys : List String) : Choice keys (r.choose draw routing data keys).1 := by
  unfold choose
  split
  · exact h.sticky.choice_pick _ _ keys
  · exact h.balancer.choice_pick draw _ _ keys

theorem Sound.choose (h : r.Sound) (draw : Draw) (routing : Routing) (data : Bytes)
    (keys : List String) : (r.choose draw routing data keys).2.Sound := by
  unfold Router.choose
  split
  · exact ⟨h.balancer, h.sticky.pick _ _ keys⟩
  · exact ⟨h.balancer.pick draw _ _ keys, h.sticky⟩

/-- A key that is chosen among those of responders is the key of the responder that is found. -/
theorem exists_find?_key {responders : List Responder} {key : String}
    (h : key ∈ responders.map Responder.key) :
    ∃ x ∈ responders, x.key = key ∧ responders.find? (fun y => y.key == key) = some x := by
  obtain ⟨y, hy, rfl⟩ := List.mem_map.mp h
  have hfind : (responders.find? fun x => x.key == y.key).isSome :=
    List.find?_isSome.mpr ⟨y, hy, beq_iff_eq.mpr rfl⟩
  obtain ⟨x, hx⟩ := Option.isSome_iff_exists.mp hfind
  exact ⟨x, List.mem_of_find?_eq_some hx, by simpa using List.find?_some hx, hx⟩

/-- A readable call goes to an eligible responder, and fails only if there is none. -/
theorem Sound.aim_cases (h : r.Sound) (draw : Draw) (table : RouteTable) {p : Payload}
    {c : Composite} {routing : Routing} (hread : readMetadata p = .ok (c, routing)) :
    (∃ x ∈ eligible table c routing, (aim draw p r table).1 = .ok ⟨x, routing, c⟩) ∨
    (eligible table c routing = [] ∧
      (aim draw p r table).1 = .error (.noAvailable routing.locator.gsv)) := by
  have hchoice := h.choice_choose draw routing p.data
    ((eligible table c routing).map Responder.key)
  simp only [aim, hread]
  generalize r.choose draw routing p.data _ = chosen at hchoice ⊢
  obtain ⟨choice, r'⟩ := chosen
  cases hchoice with
  | @picked key hkey =>
    obtain ⟨x, hx, -, hfind⟩ := exists_find?_key hkey
    left
    refine ⟨x, hx, ?_⟩
    simp only [Option.bind_some, hfind]
  | nothing hnil =>
    right
    exact ⟨List.map_eq_nil_iff.mp hnil, rfl⟩

/-- A readable call is routed exactly if there is an eligible responder. -/
theorem Sound.aim_ok_iff (h : r.Sound) (draw : Draw) (table : RouteTable) {p : Payload}
    {c : Composite} {routing : Routing} (hread : readMetadata p = .ok (c, routing)) :
    (∃ target, (aim draw p r table).1 = .ok target) ↔ eligible table c routing ≠ [] := by
  rcases h.aim_cases draw table hread with ⟨x, hx, hok⟩ | ⟨hnil, herror⟩
  · exact iff_of_true ⟨_, hok⟩ (List.ne_nil_of_mem hx)
  · refine iff_of_false ?_ (not_not.mpr hnil)
    rintro ⟨target, htarget⟩
    cases herror.symm.trans htarget

theorem Sound.aim (h : r.Sound) (draw : Draw) (p : Payload) (table : RouteTable) :
    (aim draw p r table).2.Sound := by
  unfold Router.aim
  split
  · exact h
  · rename_i c routing _
    have hr := h.choose draw routing p.data ((eligible table c routing).map Responder.key)
    simp only
    split
    · exact hr
    · exact hr

theorem Sound.invalidate (h : r.Sound) (hash : UInt32) : (r.invalidate hash).Sound :=
  ⟨h.balancer.invalidate hash, h.sticky.invalidate hash⟩

/-- Something that happens to a router. -/
inductive Move where
  /-- It routes a call on some table. -/
  | route (draw : Draw) (p : Payload) (table : RouteTable)
  /-- A call starts. -/
  | start (key : String)
  /-- A call completed. -/
  | finish (key : String) (latencyMs : Float) (result : Except Fault Payload)
  /-- It forgets what it keeps for a hash. -/
  | invalidate (hash : UInt32)
  /-- Its balancer is told about a change of the table. -/
  | observe (change : RouteChange)

/-- The router after something happened to it. -/
def Move.apply (r : Router) : Move → Router
  | route draw p table => (r.aim draw p table).2
  | start key => r.startCall key
  | finish key latencyMs result => r.finishCall key latencyMs result
  | invalidate hash => r.invalidate hash
  | observe change => { r with balancer := r.balancer.observe change }

/-- The router after a list of moves. -/
def after (r : Router) (moves : List Move) : Router := moves.foldl Move.apply r

theorem Sound.apply (h : r.Sound) (move : Move) : (move.apply r).Sound := by
  cases move with
  | route draw p table => exact h.aim draw p table
  | start key => exact ⟨h.balancer.start key, h.sticky⟩
  | finish key latencyMs result => exact ⟨h.balancer.record key latencyMs _, h.sticky⟩
  | invalidate hash => exact h.invalidate hash
  | observe change => exact ⟨h.balancer.observe change, h.sticky⟩

theorem Sound.after (moves : List Move) : ∀ {r : Router}, r.Sound → (r.after moves).Sound := by
  induction moves with
  | nil =>
    intro r h
    exact h
  | cons move rest ih =>
    intro r h
    exact ih (h.apply move)

end

/-- A call is malformed exactly if its metadata does not read as a routing entry.  Any
other call is routed exactly if some responder accepts it, and then to one that does;
otherwise the service that it names is said to have nobody available. -/
theorem aim_sound_complete (changes : List RouteTable.Change) (r : Router) (hr : r.Sound)
    (moves : List Move) (draw : Draw) (p : Payload) :
    let t := RouteTable.after changes
    let answer := (aim draw p (r.after moves) t).1
    ((∃ cause, answer = .error (.malformedRouting cause))
      ↔ ¬∃ c routing, Composite.decode p.metadata = .ok c ∧ c.routing = .ok routing) ∧
    ∀ c routing, Composite.decode p.metadata = .ok c → c.routing = .ok routing →
      ((∃ target, answer = .ok target) ↔ ∃ x, t.Accepts c routing x) ∧
      (∀ target, answer = .ok target →
        t.Accepts c routing target.responder ∧ target.routing = routing ∧ target.metadata = c) ∧
      ((¬∃ x, t.Accepts c routing x) → answer = .error (.noAvailable routing.locator.gsv)) := by
  intro t answer
  have ht : t.Consistent := RouteTable.consistent_after changes
  have hs : (r.after moves).Sound := hr.after moves
  constructor
  · constructor
    · rintro ⟨cause, hanswer⟩ ⟨c, routing, hc, hrouting⟩
      have hread : readMetadata p = .ok (c, routing) := readMetadata_eq_ok_iff.mpr ⟨hc, hrouting⟩
      rcases hs.aim_cases draw t hread with ⟨x, -, hok⟩ | ⟨-, herror⟩
      · cases hok.symm.trans hanswer
      · cases herror.symm.trans hanswer
    · intro hnone
      cases hread : readMetadata p with
      | error fault =>
        obtain ⟨cause, rfl⟩ := malformed_of_readMetadata hread
        refine ⟨cause, ?_⟩
        simp only [answer, aim, hread]
      | ok read =>
        exact absurd ⟨read.1, read.2, readMetadata_eq_ok_iff.mp hread⟩ hnone
  · intro c routing hc hrouting
    have hread : readMetadata p = .ok (c, routing) := readMetadata_eq_ok_iff.mpr ⟨hc, hrouting⟩
    rcases hs.aim_cases draw t hread with ⟨x, hx, hok⟩ | ⟨hnil, herror⟩
    · have haccepts := (ht.mem_eligible c routing x).mp hx
      refine ⟨⟨fun _ => ⟨x, haccepts⟩, fun _ => ⟨_, hok⟩⟩, ?_, ?_⟩
      · intro target htarget
        cases hok.symm.trans htarget
        exact ⟨haccepts, rfl, rfl⟩
      · intro hnone
        exact absurd ⟨x, haccepts⟩ hnone
    · have hnone : ¬∃ x, t.Accepts c routing x := by
        rintro ⟨x, hx⟩
        have hmem := (ht.mem_eligible c routing x).mpr hx
        rw [hnil] at hmem
        cases hmem
      refine ⟨⟨?_, fun hx => absurd hx hnone⟩, ?_, fun _ => herror⟩
      · rintro ⟨target, htarget⟩
        cases herror.symm.trans htarget
      · intro target htarget
        cases herror.symm.trans htarget

namespace Sample

def clock : Locator := ⟨"demo", "Clock", "2", by decide, by decide, by decide, by decide⟩

def app : AppMetadata := { instanceId := ⟨List.replicate 16 7, rfl⟩, name := "clock", ip := "" }

/-- A provider of the service comes. -/
def comes : List RouteTable.Change := [.expose (.fresh app (.direct (.outside 0))) [clock]]

/-- What a call of the service says. -/
def metadata : Composite := ⟨[⟨mimeTextRouting, utf8 "demo!Clock.now:2"⟩]⟩

theorem fits_metadata : metadata.Fits := by
  intro e he
  obtain rfl := List.mem_singleton.mp he
  exact ⟨by decide +kernel, by decide +kernel, by decide +kernel, by decide +kernel⟩

end Sample

open Sample in
/-- A sticky router that has forgotten its rings finds the one provider that there is. -/
theorem aim_finds_provider :
    let r := (fresh "b" .consistentHash 0 true 1000).after [.invalidate clock.hash]
    ∃ target, (aim {} ⟨metadata.bytes, [7]⟩ r (RouteTable.after comes)).1 = .ok target ∧
      target.responder.app = app := by
  have hsound := sound_fresh "b" .consistentHash 0 true 1000
  have hdecode : Composite.decode metadata.bytes = .ok metadata :=
    Composite.decode_bytes fits_metadata
  have hrouting : metadata.routing = .ok ⟨clock, "now", false⟩ := by rfl
  have hcall := aim_sound_complete comes _ hsound [.invalidate clock.hash] {}
    ⟨metadata.bytes, [7]⟩
  obtain ⟨hiff, hgoes, -⟩ := hcall.2 metadata ⟨clock, "now", false⟩ hdecode hrouting
  have haccepts : (RouteTable.after comes).Accepts metadata ⟨clock, "now", false⟩
      ⟨app, .direct (.outside 0), .serving, [clock]⟩ :=
    ⟨by rfl, rfl, List.mem_singleton_self clock, fun _ => ⟨.outside 0, rfl⟩⟩
  obtain ⟨target, htarget⟩ := hiff.mpr ⟨_, haccepts⟩
  refine ⟨target, htarget, ?_⟩
  have hlisted := (hgoes target htarget).1.listed
  have hvalue : target.responder ∈ (RouteTable.after comes).byId.values :=
    (RouteTable.consistent_after comes).mem_values _ |>.mpr hlisted
  have hvalues : (RouteTable.after comes).byId.values
      = [⟨app, .direct (.outside 0), .serving, [clock]⟩] := by rfl
  rw [hvalues] at hvalue
  rw [List.mem_singleton.mp hvalue]

end Router

end ServiceMesh
