import ServiceMesh.Proofs.Balance.Statistics
import ServiceMesh.Proofs.Pool.Addresses

/-!
# What a pool tells its balancer

Whatever is done to a pool is done in one of its sections (`Pool.Act`).  The section that sets
the addresses tells the balancer which of them are gone, the two sections of a call tell it
that the call started and completed, and the others tell it nothing.
-/

namespace ServiceMesh

namespace Balancer

/-- A balancer by latency keeps nothing per routing hash. -/
theorem invalidate_eq {b : Balancer} (h : b.strategy = .weightedStats) (hash : UInt32) :
    b.invalidate hash = b := by
  obtain ⟨state, rfl⟩ := eq_weighted h
  rfl

/-- A balancer by latency knows no more once it has picked. -/
theorem pick_snd {b : Balancer} (h : b.strategy = .weightedStats) (draw : Draw) (hash : UInt32)
    (fingerprint : Option Bytes) (candidates : List String) :
    (b.pick draw hash fingerprint candidates).2 = b := by
  obtain ⟨state, rfl⟩ := eq_weighted h
  rfl

end Balancer

namespace Pool

/-- One of the sections of a pool, or a change of its links from outside. -/
inductive Act where
  /-- Sets the addresses. -/
  | setUris (uris : List String)
  /-- Starts a call. -/
  | startCall (uri : String)
  /-- Completes a call. -/
  | finishCall (uri : String) (latencyMs : Float) (result : Except Fault Payload)
  /-- Takes an address out of use. -/
  | markUnhealthy (uri : String)
  /-- Takes addresses into use again. -/
  | finishCheck (opened : List (String × LinkId))
  /-- Looks for an open link. -/
  | takeOpen (uri : String)
  /-- Takes a new link into use. -/
  | adopt (uri : String) (link : LinkId)
  /-- Chooses a candidate. -/
  | choose (draw : Draw) (fingerprint : Option Bytes) (candidates : List String)
  /-- Closes every link. -/
  | close
  /-- The links change. -/
  | relink (links : Links)

/-- A pool and its links after a section. -/
def Act.apply (resolves : String → Bool) (s : Pool × Links) : Act → Pool × Links
  | setUris uris => (Pool.setUris resolves uris s.1 s.2).2
  | startCall uri => (s.1.startCall uri, s.2)
  | finishCall uri latencyMs result => Pool.finishCall uri latencyMs result s.1 s.2
  | markUnhealthy uri => Pool.markUnhealthy uri s.1 s.2
  | finishCheck opened => (Pool.finishCheck opened s.1 s.2).2
  | takeOpen uri => (Pool.takeOpen uri s.1 s.2).2
  | adopt uri link => (Pool.adopt uri link s.1 s.2).2
  | choose draw fingerprint candidates => ((s.1.choose draw fingerprint candidates).2, s.2)
  | close => Pool.close s.1 s.2
  | relink links => (s.1, links)

/-- What a section tells the balancer. -/
def Act.note (resolves : String → Bool) (s : Pool × Links) : Act → Note
  | setUris uris => .left (s.1.uris.filter fun u => !(takenUp resolves uris).contains u)
  | startCall uri => .started uri
  | finishCall uri latencyMs result => .completed uri latencyMs (!failed result)
  | _ => .left []

/-! ## The balancer after a section -/

section

variable {p : Pool} (links : Links) (h : p.balancer.strategy = .weightedStats)

theorem balancer_discardAll (removed : List String) (s : Pool × Links) :
    (discardAll removed s).1.balancer = removed.foldl Balancer.evict s.1.balancer := by
  induction removed generalizing s with
  | nil => rfl
  | cons uri rest ih => exact ih (discard s.1 s.2 uri)

include h

theorem balancer_invalidate : p.invalidate.balancer = p.balancer := Balancer.invalidate_eq h _

theorem balancer_setUris (resolves : String → Bool) (uris : List String) :
    (setUris resolves uris p links).2.1.balancer
      = p.balancer.hear (.left (p.uris.filter fun u => !(takenUp resolves uris).contains u)) := by
  have hdiscarded := balancer_discardAll
    (p.uris.filter fun u => !(takenUp resolves uris).contains u)
    ({ p with uris := takenUp resolves uris }, links)
  rw [← sift_nil_fst] at hdiscarded ⊢
  unfold setUris
  simp only
  split
  · exact hdiscarded
  · refine (balancer_invalidate ?_).trans hdiscarded
    rw [← discardAll, hdiscarded]
    exact Balancer.strategy_hear h (.left _)

theorem balancer_markUnhealthy (uri : String) :
    (markUnhealthy uri p links).1.balancer = p.balancer := by
  unfold markUnhealthy
  split
  · exact Balancer.invalidate_eq h _
  · rfl

end

theorem balancer_recover (opened : List (String × LinkId)) (p : Pool) (links : Links) :
    (recover opened p links).2.1.balancer = p.balancer := by
  induction opened generalizing p links with
  | nil => rfl
  | cons e rest ih =>
    obtain ⟨uri, link⟩ := e
    have hone : (recoverOne uri link p links).2.1.balancer = p.balancer := by
      unfold recoverOne
      split
      · rfl
      · rfl
    exact (ih (recoverOne uri link p links).2.1 (recoverOne uri link p links).2.2).trans hone

theorem balancer_finishCheck {p : Pool} (h : p.balancer.strategy = .weightedStats)
    (opened : List (String × LinkId)) (links : Links) :
    (finishCheck opened p links).2.1.balancer = p.balancer := by
  have hrecovered := balancer_recover opened p links
  unfold finishCheck
  simp only
  split
  · exact hrecovered
  · exact (balancer_invalidate (hrecovered ▸ h)).trans hrecovered

/-! ## Reports -/

/-- After every section the balancer has heard what the section tells it. -/
theorem Act.hears (resolves : String → Bool) {s : Pool × Links}
    (h : s.1.balancer.strategy = .weightedStats) (act : Act) :
    (act.apply resolves s).1.balancer = s.1.balancer.hear (act.note resolves s) := by
  cases act with
  | setUris uris => exact balancer_setUris s.2 h resolves uris
  | startCall uri => rfl
  | finishCall uri latencyMs result =>
    simp only [apply, Pool.finishCall]
    split
    · exact balancer_markUnhealthy s.2 (Balancer.strategy_hear h (.completed uri latencyMs _)) uri
    · rfl
  | markUnhealthy uri => exact balancer_markUnhealthy s.2 h uri
  | finishCheck opened => exact balancer_finishCheck h opened s.2
  | takeOpen uri =>
    simp only [apply, Pool.takeOpen]
    split
    · rfl
    · split
      · rfl
      · rfl
  | adopt uri link =>
    simp only [apply, Pool.adopt]
    split
    · split
      · rfl
      · rfl
    · rfl
  | choose draw fingerprint candidates => exact Balancer.pick_snd h draw _ fingerprint candidates
  | close => rfl
  | relink links => rfl

/-- A section that does not set the addresses leaves them as they are, and tells of none that
is gone. -/
theorem Act.setUris_or_silent (resolves : String → Bool) (s : Pool × Links) (act : Act) :
    (∃ uris, act = .setUris uris) ∨
      (act.apply resolves s).1.uris = s.1.uris ∧ (act.note resolves s).gone = [] := by
  cases act with
  | setUris uris => exact .inl ⟨uris, rfl⟩
  | startCall uri => exact .inr ⟨rfl, rfl⟩
  | finishCall uri latencyMs result =>
    refine .inr ⟨?_, rfl⟩
    simp only [apply, Pool.finishCall]
    split
    · exact uris_markUnhealthy uri _ s.2
    · rfl
  | markUnhealthy uri => exact .inr ⟨uris_markUnhealthy uri s.1 s.2, rfl⟩
  | finishCheck opened => exact .inr ⟨(plain_finishCheck opened s.1 s.2).2, rfl⟩
  | takeOpen uri => exact .inr ⟨(plain_takeOpen uri s.1 s.2).2, rfl⟩
  | adopt uri link => exact .inr ⟨(plain_adopt uri link s.1 s.2).2, rfl⟩
  | choose draw fingerprint candidates => exact .inr ⟨rfl, rfl⟩
  | close => exact .inr ⟨rfl, rfl⟩
  | relink links => exact .inr ⟨rfl, rfl⟩

/-- A section tells that an address is gone exactly if it was there and no longer is. -/
theorem Act.gone_iff (resolves : String → Bool) (s : Pool × Links) (act : Act) (uri : String) :
    uri ∈ (act.note resolves s).gone ↔ uri ∈ s.1.uris ∧ uri ∉ (act.apply resolves s).1.uris := by
  rcases act.setUris_or_silent resolves s with ⟨uris, rfl⟩ | ⟨hsame, hsilent⟩
  · simp only [note, Note.gone, apply, uris_setUris, List.mem_filter, Bool.not_eq_true',
      List.contains_eq_mem, decide_eq_false_iff_not]
  · rw [hsame, hsilent]
    apply iff_of_false List.not_mem_nil
    intro h
    exact h.2 h.1

/-- A pool with its links tells its balancer of calls and of addresses that are gone. -/
def reporter (resolves : String → Bool) : Reporter (Pool × Links) Act where
  step := Act.apply resolves
  balancer s := s.1.balancer
  Here s uri := uri ∈ s.1.uris
  note := Act.note resolves
  hears := Act.hears resolves
  gone_iff := Act.gone_iff resolves

end Pool

end ServiceMesh
