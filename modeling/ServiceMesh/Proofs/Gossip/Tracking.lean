import ServiceMesh.Proofs.Gossip.Departures
import ServiceMesh.Proofs.Gossip.Manners

/-!
# What every step of a membership keeps

What holds of the members and of the addresses that they gave up is kept by every step of a
membership, however the steps take turns, if it is kept by the few sections that change the
members (`Upheld`).  Tracking the members is such a property, so a move of a meeting tracks
them (`Meeting.Settled.tracks`).
-/

namespace ServiceMesh

namespace Node

variable {η α : Type} {E : Etiquette Node η} {resolves : String → Bool}

/-- A section leaves a node at rest, and later. -/
def Kept (E : Etiquette Node η) (f : Node → Node) : Prop :=
  ∀ n others, E.Rest others n → E.Rest others (f n) ∧ E.Later n (f n)

/-- An etiquette that is about the members and the addresses that they gave up, and that the
sections which change the members keep. -/
structure Upheld (E : Etiquette Node η) : Prop where
  around : ∀ {f : Node → Node}, (∀ n, (f n).membership = n.membership) →
    (∀ n, (f n).moved = n.moved) → Kept E f
  quiet : ∀ {α : Type} {f : Membership → Links → α × Membership × Links}, Quiet f →
    Kept E fun n => (onMembership f n).2
  add : ∀ info now, Kept E fun n => (onMembership (fun m links =>
    ((m.add info now).1, (m.add info now).2, links)) n).2
  forgetPeer : ∀ id reason now, Kept E fun n => (onMembership (fun m links =>
    ((m.forgetPeer id reason now).1, (m.forgetPeer id reason now).2, links)) n).2
  clear : ∀ now, Kept E fun n => (onMembership (fun m links => ((), m.clear now, links)) n).2

namespace Upheld

theorem polite_done (a : α) : Fiber.Polite E (pure a : Fiber Node α) := (calm_pure a).polite

theorem polite_quiet (hE : Upheld E) {f : Membership → Links → α × Membership × Links}
    (hf : Quiet f) : Fiber.Polite E ((host resolves).atomically f) :=
  .step (hE.quiet hf) polite_done

theorem polite_onSite (hE : Upheld E) (f : Site → α × Site) :
    Fiber.Polite E (Fiber.atomically (onSite f)) :=
  .step (hE.around (fun _ => rfl) fun _ => rfl) polite_done

theorem opening_polite (hE : Upheld E) (resolves : String → Bool) :
    Opening resolves fun _ f => Fiber.Polite E f where
  done := polite_done
  bind hf hg := hf.bind hg
  all hfs := Fiber.Polite.all hfs
  openLink uri := hE.polite_onSite (Site.dial uri)
  onPool _ := hE.polite_onSite _

theorem polite_inLine (hE : Upheld E) {body : Fiber Node α} (hbody : Fiber.Polite E body) :
    Fiber.Polite E (inLine body) := by
  refine .step (hE.around (fun _ => rfl) fun _ => rfl) ?_
  intro ticket
  refine .guarded (hE.around (fun _ => rfl) fun _ => rfl) (.await ?_) polite_done
  refine .step (hE.around (fun _ => rfl) fun _ => rfl) ?_
  intro _
  exact hbody

theorem polite_follow (hE : Upheld E) : Fiber.Polite E (host resolves).follow := by
  apply (hE.polite_quiet fun _ _ => ⟨rfl, rfl⟩).bind
  intro uris
  refine (hE.polite_inLine ?_).bind fun _ => polite_done ()
  apply (hE.polite_onSite _).bind
  intro summary
  exact (hE.opening_polite resolves).atPool.eager summary

theorem polite_addMember (hE : Upheld E) (info : BrokerInfo) :
    Fiber.Polite E ((host resolves).addMember info) := by
  apply (calm_look (·.now)).polite.bind
  intro now
  refine .step (hE.add info now) ?_
  intro isNew
  change Fiber.Polite E (ite (isNew = true) _ _)
  split
  · exact hE.polite_follow
  · exact polite_done ()

theorem polite_removeMember (hE : Upheld E) (id : String) (reason : Departure) (now : Nat) :
    Fiber.Polite E ((host resolves).removeMember id reason now) := by
  refine .step (hE.forgetPeer id reason now) ?_
  intro gone
  cases gone with
  | none => exact polite_done ()
  | some member =>
    apply (hE.polite_quiet fun _ _ => ⟨rfl, rfl⟩).bind
    intro _
    exact hE.polite_follow

/-- Whatever a step is made of keeps what its sections keep. -/
theorem manner_polite (hE : Upheld E) (resolves : String → Bool) :
    Manner resolves fun _ f => Fiber.Polite E f where
  toOpening := hE.opening_polite resolves
  look f := (calm_look f).polite
  quiet hf := hE.polite_quiet hf
  deliver _ := .step (hE.around (fun _ => rfl) fun _ => rfl) polite_done
  requestWithin ms link payload := (calm_requestWithin ms link payload).polite
  addMember := hE.polite_addMember
  removeMember := hE.polite_removeMember
  clear now := .step (hE.clear now) fun _ => hE.polite_follow

end Upheld

/-! ## Tracking -/

/-- Members are tracked from turn to turn. -/
def tracking : Etiquette Node Empty where
  Rest _ n := n.membership.peers.Tidy
  mono _ h := h
  Later := Tracks
  refl := .refl
  trans := .trans

theorem upheld_tracking : Upheld tracking where
  around := by
    intro f hmembership hmoved n others htidy
    refine ⟨?_, ?_, [], ?_, fun uri huri => .inl ?_⟩
    · change (f n).membership.peers.Tidy
      rw [hmembership]
      exact htidy
    · rw [hmoved]
      exact List.Subset.refl _
    · rw [hmembership, List.append_nil]
    · rw [hmembership]
      exact huri
  quiet := by
    intro α f hf n others htidy
    obtain ⟨hhistory, hpeers⟩ := hf n.membership n.site.links
    have htidy' := htidy.of_byId hpeers
    refine ⟨htidy', .of_loses htidy htidy' ?_⟩
    refine ⟨[], hhistory.trans (List.append_nil _).symm, fun id x hx => .inl ?_⟩
    exact (congrArg (fun d => d.get? id) hpeers).trans hx
  add := by
    intro info now n others htidy
    have htidy' := Membership.tidy_add htidy info now
    obtain ⟨new, hnew⟩ := Membership.history_add_prefix info now n.membership
    refine ⟨htidy', .of_section htidy htidy' hnew.symm ?_⟩
    intro id x hx hnone
    have hsome : ((n.membership.add info now).2.peers.get? id).isSome :=
      Membership.get?_add_isSome hx info now
    have hnone : (n.membership.add info now).2.peers.get? id = none := hnone
    rw [hnone] at hsome
    cases hsome
  forgetPeer := by
    intro id reason now n others htidy
    have htidy' := Membership.tidy_forgetPeer htidy id reason now
    exact ⟨htidy', .of_loses htidy htidy' (n.membership.loses_forgetPeer id reason now)⟩
  clear := by
    intro now n others htidy
    have htidy' := Membership.tidy_clear htidy now
    exact ⟨htidy', .of_loses htidy htidy' (n.membership.loses_clear now)⟩

end Node

/-- A move of a meeting tracks the members. -/
theorem Meeting.Settled.tracks {m : Meeting} (h : m.Settled Node.tracking)
    (resolves : String → Bool) (mv : Meeting.Move) :
    (m.move resolves mv).Settled Node.tracking ∧ m.node.Tracks (m.move resolves mv).node := by
  refine h.move (Node.upheld_tracking.manner_polite resolves) ?_ mv
  intro pool links nature now found n held htidy
  exact Node.upheld_tracking.around (f := Node.shift pool links nature now found)
    (fun _ => rfl) (fun _ => rfl) n held htidy

end ServiceMesh
