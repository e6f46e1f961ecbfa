import ServiceMesh.Proofs.Gossip.Manners

/-!
# Standing in line with the addresses of the members

Whenever a member comes or goes, the membership reads the addresses of its members and
stands in line to set them.  It does both in one turn, so the last in line asks for the
addresses as they were when a member last came or went (`AtRest`).  Whoever is called sets
what it asked for, so once the line is empty the pool has these.

Sections that leave the line, the addresses of the pool and the members alone are calm.
-/

namespace ServiceMesh

namespace Node

/-! ## The line -/

/-- The last of several lists, the empty one if there is none. -/
def lastOf (lists : List (List String)) : List String := lists.getLast?.getD []

theorem lastOf_append (lists : List (List String)) (l : List String) :
    lastOf (lists ++ [l]) = l := by
  simp [lastOf]

theorem lastOf_take {lists : List (List String)} {k : Nat} {l : List String}
    (h : lists[k]? = some l) : lastOf (lists.take (k + 1)) = l := by
  rw [lastOf, List.getLast?_take]
  simp [h]

/-- Those in line have drawn their tickets in order, the pool has what the last one asked
for who had a turn, and `held` are the tickets of those who are still in line. -/
structure Orderly (resolves : String → Bool) (held : List Nat) (n : Node) : Prop where
  numbered : n.site.nextTicket = n.asked.length
  sorted : n.site.line.Pairwise (· < ·)
  drawn : ∀ k ∈ n.site.line, k < n.asked.length
  waiting : ∀ k < n.asked.length, k < n.turn ∨ k ∈ n.site.line
  ahead : ∀ k ∈ n.site.line, n.turn ≤ k + 1
  bounded : n.turn ≤ n.asked.length
  set : n.site.pool.uris = Pool.takenUp resolves (lastOf (n.asked.take n.turn))
  held : ∀ k ∈ n.site.line, k ∈ held

/-- At rest the last in line, if there is one, has asked for what was last told, and the
members are the same as then. -/
structure AtRest (resolves : String → Bool) (held : List Nat) (n : Node) : Prop
    extends Orderly resolves held n where
  told : n.told.uris = lastOf n.asked
  ids : n.told.byId.keys = n.membership.peers.byId.keys
  toldTidy : n.told.Tidy
  tidy : n.membership.peers.Tidy

/-- Tickets that were drawn stay as they are, and turns that were had stay had. -/
structure Later (n n' : Node) : Prop where
  asked : n.asked <+: n'.asked
  turn : n.turn ≤ n'.turn

theorem Later.asked_eq {n n' : Node} (h : Later n n') {ticket : Nat} {uris : List String}
    (hasked : n.asked[ticket]? = some uris) : n'.asked[ticket]? = some uris := by
  obtain ⟨tail, htail⟩ := h.asked
  obtain ⟨hlt, -⟩ := List.getElem?_eq_some_iff.mp hasked
  rw [← htail, List.getElem?_append_left hlt]
  exact hasked

/-- How a membership and those in line share a node. -/
def etiquette (resolves : String → Bool) : Etiquette Node Nat where
  Rest := AtRest resolves
  mono hmore h := { h with held := fun k hk => hmore (h.held k hk) }
  Later := Later
  refl n := ⟨List.prefix_refl n.asked, Nat.le_refl n.turn⟩
  trans h h' := ⟨h.asked.trans h'.asked, Nat.le_trans h.turn h'.turn⟩

variable {resolves : String → Bool} {held others : List Nat} {n : Node} {α : Type}

/-- What does not touch the line, the addresses of the pool and the record does not
matter. -/
theorem Orderly.of_eq {n' : Node} (h : Orderly resolves held n)
    (hline : n'.site.line = n.site.line) (hticket : n'.site.nextTicket = n.site.nextTicket)
    (huris : n'.site.pool.uris = n.site.pool.uris) (hasked : n'.asked = n.asked)
    (hturn : n'.turn = n.turn) : Orderly resolves held n' where
  numbered := by rw [hticket, hasked]; exact h.numbered
  sorted := by rw [hline]; exact h.sorted
  drawn := by rw [hline, hasked]; exact h.drawn
  waiting := by rw [hline, hasked, hturn]; exact h.waiting
  ahead := by rw [hline, hturn]; exact h.ahead
  bounded := by rw [hasked, hturn]; exact h.bounded
  set := by rw [huris, hasked, hturn]; exact h.set
  held := by rw [hline]; exact h.held

/-- Who draws a ticket asks for what was last told. -/
theorem Orderly.joinLine (h : Orderly resolves others n)
    (hids : n.told.byId.keys = n.membership.peers.byId.keys) (htold : n.told.Tidy)
    (htidy : n.membership.peers.Tidy) :
    AtRest resolves (n.site.nextTicket :: others) n.joinLine.2 := by
  have hlength : (n.asked ++ [n.told.uris]).length = n.asked.length + 1 := by simp
  have hmem : ∀ {k}, k ∈ n.site.line ++ [n.site.nextTicket] →
      k ∈ n.site.line ∨ k = n.asked.length := by
    intro k hk
    rw [← h.numbered]
    exact (List.mem_append.mp hk).imp_right List.mem_singleton.mp
  refine ⟨⟨?_, ?_, ?_, ?_, ?_, ?_, ?_, ?_⟩, ?_, hids, htold, htidy⟩
  · exact (congrArg (· + 1) h.numbered).trans hlength.symm
  · refine List.pairwise_append.mpr ⟨h.sorted, List.pairwise_singleton _ _, ?_⟩
    intro k hk k' hk'
    rw [List.mem_singleton.mp hk', h.numbered]
    exact h.drawn k hk
  · intro k hk
    refine Nat.lt_of_lt_of_eq ?_ hlength.symm
    rcases hmem hk with hk | rfl
    · exact Nat.lt_succ_of_lt (h.drawn k hk)
    · exact Nat.lt_succ_self _
  · intro k hk
    have hk' : k < n.asked.length + 1 := Nat.lt_of_lt_of_eq hk hlength
    rcases Nat.lt_succ_iff_lt_or_eq.mp hk' with hk | rfl
    · exact (h.waiting k hk).imp_right (List.mem_append_left _)
    · refine .inr (List.mem_append_right _ ?_)
      rw [h.numbered]
      exact List.mem_singleton_self _
  · intro k hk
    rcases hmem hk with hk | rfl
    · exact h.ahead k hk
    · exact Nat.le_succ_of_le h.bounded
  · have hlonger : n.turn ≤ n.asked.length + 1 := Nat.le_succ_of_le h.bounded
    exact Nat.le_trans hlonger (Nat.le_of_eq hlength.symm)
  · have htake : (n.asked ++ [n.told.uris]).take n.turn = n.asked.take n.turn :=
      List.take_append_of_le_length h.bounded
    exact h.set.trans (congrArg (fun lists => Pool.takenUp resolves (lastOf lists)) htake.symm)
  · intro k hk
    rcases List.mem_append.mp hk with hk | hk
    · exact List.mem_cons_of_mem _ (h.held k hk)
    · rw [List.mem_singleton.mp hk]
      exact List.mem_cons_self
  · exact (lastOf_append n.asked n.told.uris).symm

/-- Who is first in line sets what it asked for. -/
theorem AtRest.setUris (h : AtRest resolves others n) {ticket : Nat} {uris : List String}
    (hhead : n.site.line.head? = some ticket) (hasked : n.asked[ticket]? = some uris) :
    AtRest resolves others
      (onSite (Site.onPool (Pool.setUris resolves uris)) (n.call ticket)).2 := by
  have hfirst : ∀ k ∈ n.site.line, ticket ≤ k := by
    obtain ⟨rest, hline⟩ := List.head?_eq_some_iff.mp hhead
    have hsorted := h.sorted
    intro k hk
    rw [hline] at hk hsorted
    rcases List.mem_cons.mp hk with rfl | hk
    · exact Nat.le_refl _
    · exact Nat.le_of_lt ((List.pairwise_cons.mp hsorted).1 k hk)
  have hturn : n.turn ≤ ticket + 1 := h.ahead ticket (List.mem_of_mem_head? hhead)
  refine ⟨⟨h.numbered, h.sorted, h.drawn, ?_, ?_, ?_, ?_, h.held⟩,
    h.told, h.ids, h.toldTidy, h.tidy⟩
  · intro k hk
    apply (h.waiting k hk).imp_left
    intro hlt
    exact Nat.lt_of_lt_of_le hlt hturn
  · intro k hk
    exact Nat.succ_le_succ (hfirst k hk)
  · exact h.drawn ticket (List.mem_of_mem_head? hhead)
  · have hlast : lastOf (n.asked.take (ticket + 1)) = uris := lastOf_take hasked
    exact (Pool.uris_setUris _ _ _ _).trans (congrArg (Pool.takenUp resolves) hlast.symm)

/-- Who had a turn may leave the line. -/
theorem AtRest.leaveLine {ticket : Nat} (h : AtRest resolves (ticket :: others) n)
    (hturn : ticket < n.turn) : AtRest resolves others (n.leaveLine ticket) := by
  have hmem : ∀ {k}, k ∈ n.site.line.filter (· ≠ ticket) ↔ k ∈ n.site.line ∧ k ≠ ticket := by
    intro k
    rw [List.mem_filter, decide_eq_true_eq]
  refine ⟨⟨h.numbered, h.sorted.filter _, ?_, ?_, ?_, h.bounded, h.set, ?_⟩,
    h.told, h.ids, h.toldTidy, h.tidy⟩
  · intro k hk
    exact h.drawn k (hmem.mp hk).1
  · intro k hk
    by_cases hticket : k = ticket
    · exact .inl (hticket ▸ hturn)
    · apply (h.waiting k hk).imp_right
      intro hline
      exact hmem.mpr ⟨hline, hticket⟩
  · intro k hk
    exact h.ahead k (hmem.mp hk).1
  · intro k hk
    obtain ⟨hline, hne⟩ := hmem.mp hk
    exact (List.mem_cons.mp (h.held k hline)).resolve_left hne

/-- After a section by which no member came or went, what was told is as it was. -/
theorem AtRest.unchanged {f : Membership → Links → α × Membership × Links}
    (h : AtRest resolves others n)
    (hsame : (f n.membership n.site.links).2.1.history = n.membership.history)
    (hids : (f n.membership n.site.links).2.1.peers.byId.keys = n.membership.peers.byId.keys)
    (htidy : (f n.membership n.site.links).2.1.peers.Tidy) :
    AtRest resolves others (onMembership f n).2 := by
  have htold : (onMembership f n).2.told = n.told := if_pos hsame
  refine ⟨h.of_eq rfl rfl rfl rfl rfl, ?_, ?_, ?_, htidy⟩
  · rw [htold]
    exact h.told
  · rw [htold]
    exact h.ids.trans hids.symm
  · rw [htold]
    exact h.toldTidy

/-! ## Calm sections -/

theorem calm_onMembership {f : Membership → Links → α × Membership × Links} (hf : Quiet f) :
    Fiber.Calm (etiquette resolves) ((host resolves).atomically f) := by
  intro n others h
  obtain ⟨hhistory, hpeers⟩ := hf n.membership n.site.links
  refine ⟨h.unchanged hhistory (congrArg Dict.keys hpeers) (h.tidy.of_byId hpeers), ?_, trivial⟩
  exact ⟨List.prefix_refl _, Nat.le_refl _⟩

/-- A section on the site is calm if it leaves the line and the addresses as they are. -/
theorem calm_onSite {f : Site → α × Site}
    (hf : ∀ s, (f s).2.line = s.line ∧ (f s).2.nextTicket = s.nextTicket ∧
      (f s).2.pool.uris = s.pool.uris) :
    Fiber.Calm (etiquette resolves) (Fiber.atomically (onSite f)) := by
  intro n others h
  obtain ⟨hline, hticket, huris⟩ := hf n.site
  refine ⟨⟨h.of_eq hline hticket huris rfl rfl, h.told, h.ids, h.toldTidy, h.tidy⟩, ?_, trivial⟩
  exact ⟨List.prefix_refl _, Nat.le_refl _⟩

theorem calm_openLink (uri : String) : Fiber.Calm (etiquette resolves) (wire.openLink uri) := by
  apply calm_onSite
  intro s
  exact ⟨s.line_dial uri, s.nextTicket_dial uri, congrArg Pool.uris (s.pool_dial uri)⟩

theorem opening_calm (resolves : String → Bool) :
    Opening resolves fun _ f => Fiber.Calm (etiquette resolves) f where
  done := calm_pure
  bind hf hg := hf.bind hg
  all hfs := Fiber.Calm.all hfs
  openLink := calm_openLink
  onPool hf := calm_onSite fun s => ⟨rfl, rfl, (hf s.pool s.links).2⟩

/-! ## Following -/

/-- Who asks for what was last told leaves the node at rest.  It waits for its turn, and then sets
the addresses. -/
theorem goes_refresh (h : Orderly resolves others n)
    (hids : n.told.byId.keys = n.membership.peers.byId.keys) (htold : n.told.Tidy)
    (htidy : n.membership.peers.Tidy) :
    Fiber.Goes (etiquette resolves) ((pool resolves).refresh n.told.uris)
      (fun _ o t => AtRest resolves o t) others n := by
  have hrest := h.joinLine hids htold htidy
  have hticket : n.joinLine.2.asked[n.site.nextTicket]? = some n.told.uris := by
    rw [h.numbered]
    exact List.getElem?_concat_length
  have hlater : Later n n.joinLine.2 := ⟨List.prefix_append _ _, Nat.le_refl _⟩
  have hstable : (etiquette resolves).Stable fun t => n.site.nextTicket < t.turn := by
    intro t u htu hturn
    exact Nat.lt_of_lt_of_le hturn htu.turn
  refine ⟨hlater, [], [n.site.nextTicket], _, fun _ => hstable, hrest, ?_, ?_⟩
  · intro t o htlater ht
    refine ⟨ht, ?_⟩
    intro u o' hulater hu hhead
    have hhead : u.site.line.head? = some n.site.nextTicket := beq_iff_eq.mp hhead
    have hasked := hulater.asked_eq (htlater.asked_eq hticket)
    have hset := AtRest.setUris hu hhead hasked
    have hturn := hu.ahead _ (List.mem_of_mem_head? hhead)
    refine ⟨⟨List.prefix_refl _, hturn⟩, ⟨List.prefix_refl _, Nat.le_refl _⟩, ?_⟩
    exact ((opening_calm resolves).atPool.eager _).goes hstable hset (Nat.lt_succ_self _)
  · intro summary t o htlater ht hturn
    refine ⟨⟨List.prefix_refl _, Nat.le_refl _⟩, ?_⟩
    exact AtRest.leaveLine ht hturn

/-- What was last told is how the members are. -/
structure Current (resolves : String → Bool) (held : List Nat) (n : Node) : Prop
    extends Orderly resolves held n where
  current : n.told.byId = n.membership.peers.byId
  tidy : n.membership.peers.Tidy

/-- After a section by which a member came or went, what was told is current. -/
theorem Orderly.current {f : Membership → Links → α × Membership × Links}
    (h : Orderly resolves others n)
    (hchanged : (f n.membership n.site.links).2.1.history ≠ n.membership.history)
    (htidy : (f n.membership n.site.links).2.1.peers.Tidy) :
    Current resolves others (onMembership f n).2 :=
  ⟨h.of_eq rfl rfl rfl rfl rfl, congrArg PeerTable.byId (if_neg hchanged), htidy⟩

theorem onMembership_read (f : Membership → α) (htidy : n.membership.peers.Tidy) :
    onMembership (fun m links => (f m, m, links)) n = (f n.membership, n) := by
  simp [onMembership, htidy.givenUp_self]

/-- Reading leaves a node as it is, at rest or not. -/
theorem goes_read {β : Type} (f : Membership → α) (htidy : n.membership.peers.Tidy)
    {next : α → Fiber Node β} {post : β → List Nat → Node → Prop}
    (h : Fiber.Goes (etiquette resolves) (next (f n.membership)) post others n) :
    Fiber.Goes (etiquette resolves) ((host resolves).read f >>= next) post others n := by
  have hread := onMembership_read f htidy
  change Later n (onMembership (fun m links => (f m, m, links)) n).2 ∧
    Fiber.Goes _ (next (onMembership (fun m links => (f m, m, links)) n).1) post others
      (onMembership (fun m links => (f m, m, links)) n).2
  rw [hread]
  exact ⟨(etiquette resolves).refl n, h⟩

/-- The membership reads where its members are and has the pool follow, in one turn. -/
theorem goes_follow (h : Current resolves others n) :
    Fiber.Goes (etiquette resolves) (host resolves).follow (fun _ o t => AtRest resolves o t)
      others n := by
  have hrefresh := goes_refresh h.toOrderly (congrArg Dict.keys h.current)
    (h.tidy.of_byId h.current) h.tidy
  rw [PeerTable.uris_eq_of_byId h.current] at hrefresh
  exact goes_read (fun m => m.peers.uris) h.tidy (Fiber.Goes.bind hrefresh)

end Node

end ServiceMesh
