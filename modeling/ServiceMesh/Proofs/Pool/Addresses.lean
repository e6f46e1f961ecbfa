import ServiceMesh.Proofs.Gossip.Peers
import ServiceMesh.Proofs.Pool.Sections

/-!
# The addresses of a pool

A pool that is set to a list of addresses takes up those that some transport takes, each
once (`Pool.takenUp`).  Of the addresses of a peer table these are sorted
(`Pool.sorted_takenUp`).  The sections that open links leave the addresses as they are.
-/

namespace ServiceMesh

namespace Pool

/-- The addresses of a list that some transport takes, each once. -/
def takenUp (resolves : String → Bool) (uris : List String) : List String :=
  (uris.filter resolves).eraseDups

theorem mem_takenUp {resolves : String → Bool} {uris : List String} {uri : String} :
    uri ∈ takenUp resolves uris ↔ uri ∈ uris ∧ resolves uri = true := by
  rw [takenUp, List.mem_eraseDups, List.mem_filter]

theorem sift_fst (resolves : String → Bool) (uris : List String) : ∀ kept : List String,
    (sift resolves kept uris).1
      = kept ++ (uris.filter fun u => resolves u && !kept.contains u).eraseDups := by
  induction uris with
  | nil => intro kept; simp [sift]
  | cons uri rest ih =>
    intro kept
    unfold sift
    cases hkept : kept.contains uri with
    | true =>
      rw [if_pos rfl, ih, List.filter_cons_of_neg (by rw [hkept]; simp)]
    | false =>
      rw [if_neg Bool.false_ne_true]
      cases hresolves : resolves uri with
      | false =>
        rw [if_neg Bool.false_ne_true, List.filter_cons_of_neg (by rw [hresolves]; simp)]
        exact ih kept
      | true =>
        rw [if_pos rfl, ih, List.filter_cons_of_pos (by rw [hresolves, hkept]; rfl),
          List.eraseDups_cons, List.filter_filter, List.append_assoc, List.singleton_append]
        refine congrArg (fun us => kept ++ uri :: List.eraseDups us) (List.filter_congr ?_)
        intro u _
        by_cases hu : u = uri
        · simp [hu]
        · simp [hu]

theorem sift_nil_fst (resolves : String → Bool) (uris : List String) :
    (sift resolves [] uris).1 = takenUp resolves uris := by
  rw [sift_fst]
  simp [takenUp]

/-- What is taken up of the addresses of a table is sorted and has each address once. -/
theorem sorted_takenUp (resolves : String → Bool) (t : PeerTable) :
    (takenUp resolves t.uris).Pairwise (· < ·) :=
  Text.pairwise_lt_eraseDups ((Text.pairwise_le_mergeSort _).filter resolves)

theorem destination_discardAll (removed : List String) (s : Pool × Links) :
    (discardAll removed s).1.destination = s.1.destination := by
  induction removed generalizing s with
  | nil => rfl
  | cons uri rest ih => exact ih (discard s.1 s.2 uri)

/-- The addresses of a pool that are gone once it is set to a list of addresses. -/
def gone (resolves : String → Bool) (uris : List String) (p : Pool) : List String :=
  p.uris.filter fun u => !(takenUp resolves uris).contains u

/-- What changes when a pool is set to a list of addresses. -/
def change (resolves : String → Bool) (uris : List String) (p : Pool) : RefreshSummary where
  added := (takenUp resolves uris).filter fun u => !p.uris.contains u
  removed := p.gone resolves uris
  rejected := (sift resolves [] uris).2

/-- A pool with new addresses that has let go of those that are gone. -/
def letGo (resolves : String → Bool) (uris : List String) (p : Pool) (links : Links) :
    Pool × Links :=
  discardAll (p.gone resolves uris) ({ p with uris := takenUp resolves uris }, links)

/-- A pool that is set to a list of addresses lets go of those that are gone, and tells the
balancer if anything changed. -/
theorem setUris_eq (resolves : String → Bool) (uris : List String) (p : Pool) (links : Links) :
    setUris resolves uris p links
      = (p.change resolves uris,
          { (if (p.change resolves uris).isUnchanged then (p.letGo resolves uris links).1
              else (p.letGo resolves uris links).1.invalidate) with refreshed := true },
          (p.letGo resolves uris links).2) := by
  unfold setUris letGo change gone
  simp only [sift_nil_fst]
  rfl

/-- What a pool tells its balancer at the end changes nothing else. -/
theorem endpoints_setUris (resolves : String → Bool) (uris : List String) (p : Pool)
    (links : Links) :
    (setUris resolves uris p links).2.1.active = (p.letGo resolves uris links).1.active ∧
      (setUris resolves uris p links).2.1.unhealthy
        = (p.letGo resolves uris links).1.unhealthy := by
  rw [setUris_eq]
  cases (p.change resolves uris).isUnchanged with
  | true => exact ⟨rfl, rfl⟩
  | false => exact ⟨rfl, rfl⟩

theorem destination_setUris (resolves : String → Bool) (uris : List String) (p : Pool)
    (links : Links) : (setUris resolves uris p links).2.1.destination = p.destination := by
  rw [setUris_eq]
  cases (p.change resolves uris).isUnchanged with
  | true => exact destination_discardAll _ _
  | false => exact destination_discardAll _ _

theorem uris_setUris (resolves : String → Bool) (uris : List String) (p : Pool) (links : Links) :
    (setUris resolves uris p links).2.1.uris = takenUp resolves uris := by
  rw [setUris_eq]
  cases (p.change resolves uris).isUnchanged with
  | true => exact uris_discardAll _ _
  | false => exact uris_discardAll _ _

/-! ## Sections that leave the addresses alone -/

/-- A section leaves the name and the addresses of a pool as they are. -/
def Plain {α : Type} (f : Pool → Links → α × Pool × Links) : Prop :=
  ∀ p links, (f p links).2.1.destination = p.destination ∧ (f p links).2.1.uris = p.uris

theorem plain_read {α : Type} (f : Pool → α) : Plain fun p links => (f p, p, links) :=
  fun _ _ => ⟨rfl, rfl⟩

theorem plain_takeOpen (uri : String) : Plain (takeOpen uri) := by
  intro p links
  unfold takeOpen
  split
  · exact ⟨rfl, rfl⟩
  · split
    · exact ⟨rfl, rfl⟩
    · exact ⟨rfl, rfl⟩

theorem plain_adopt (uri : String) (link : LinkId) : Plain (adopt uri link) := by
  intro p links
  unfold adopt
  split
  · split
    · exact ⟨rfl, rfl⟩
    · exact ⟨rfl, rfl⟩
  · exact ⟨rfl, rfl⟩

theorem plain_markUnhealthy (uri : String) :
    Plain fun p links => ((), markUnhealthy uri p links) := by
  intro p links
  simp only [markUnhealthy]
  split
  · exact ⟨rfl, rfl⟩
  · exact ⟨rfl, rfl⟩

theorem plain_recover (opened : List (String × LinkId)) : Plain (recover opened) := by
  induction opened with
  | nil =>
    intro _ _
    exact ⟨rfl, rfl⟩
  | cons e rest ih =>
    intro p links
    obtain ⟨uri, link⟩ := e
    have hone : (recoverOne uri link p links).2.1.destination = p.destination ∧
        (recoverOne uri link p links).2.1.uris = p.uris := by
      unfold recoverOne
      split
      · exact ⟨rfl, rfl⟩
      · exact ⟨rfl, rfl⟩
    obtain ⟨hdestination, huris⟩ :=
      ih (recoverOne uri link p links).2.1 (recoverOne uri link p links).2.2
    exact ⟨hdestination.trans hone.1, huris.trans hone.2⟩

theorem plain_finishCheck (opened : List (String × LinkId)) : Plain (finishCheck opened) := by
  intro p links
  unfold finishCheck
  simp only
  split
  · exact plain_recover opened p links
  · exact plain_recover opened p links

end Pool

end ServiceMesh
