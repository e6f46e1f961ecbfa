import ServiceMesh.Proofs.Concurrency.Promptness
import ServiceMesh.Proofs.Gossip.Cluster

/-!
# Rounds come to an end

There are two things for which a membership may wait.  One is a call: it is handled where it leads
to, and is over before the link is looked at again.  The other one is its turn to change the
addresses of its pool: it has it at once if nobody else stands in line.  So from a cluster in
which nobody stands in line, the rounds of all nodes are over when each node had its turn, in
whatever order (`Cluster.rounds_inTurn`).

Taking turns by whole rounds is one way of moving an assembly (`Assembly.exists_run_eq_inTurn`).
-/

namespace ServiceMesh

open ServiceMesh.Fiber

namespace Cluster

variable {n : Nat} {α : Type} {resolves : Fin n → Option (String → Bool)} {answers : Answers n}
  {i : Fin n}

/-! ## Lines -/

/-- The lines at the pools. -/
def Standing (lines : Fin n → List Nat) (c : Cluster n) : Prop :=
  ∀ j, (c.site j).line = lines j

/-- Nobody stands in line at a pool. -/
def Idle (c : Cluster n) : Prop := ∀ j, (c.site j).line = []

/-- What leaves the line of a pool as it is leaves all the lines as they are. -/
theorem standing_onSite {lines : Fin n → List Nat} {f : Site → α × Site} {c : Cluster n}
    (hc : Standing lines c) (h : ∀ s, (f s).2.line = s.line) :
    Standing lines (onSite i f c).2 := by
  intro j
  change Site.line (if j = i then _ else _) = _
  split
  · next hj => rw [h, ← hj, hc j]
  · exact hc j

/-- A section on a pool that leaves its line as it is ends at once. -/
theorem prompt_site {lines : Fin n → List Nat} {f : Site → α × Site}
    (h : ∀ s, (f s).2.line = s.line) :
    Prompt (Standing lines) (Fiber.atomically (onSite i f)) := by
  refine .atomically ?_
  intro _ hc
  exact standing_onSite hc h

/-- Everything that a pool does in order to open links ends at once. -/
theorem opening_prompt (lines : Fin n → List Nat) (takes : String → Bool) :
    (pool takes i).Opening fun _ f => Prompt (Standing lines) f where
  done := .pure
  bind hf hg := hf.bind hg
  all hfs := Prompt.all hfs
  openLink uri := prompt_site (Site.line_dial uri)
  atomically _ := prompt_site fun _ => rfl

/-- Who joins an empty line is the first at once. -/
theorem prompt_inLine {body : Fiber (Cluster n) α} (hbody : ∀ lines, Prompt (Standing lines) body) :
    Prompt Idle (inLine i body) := by
  intro c hc
  have hjoined : Standing (fun j => if j = i then [(c.site i).nextTicket] else [])
      (onSite i Site.joinLine c).2 := by
    intro j
    change Site.line (if j = i then _ else _) = if j = i then _ else _
    split
    · exact congrArg (· ++ [(c.site i).nextTicket]) (hc i)
    · exact hc j
  have hline : ((onSite i Site.joinLine c).2.site i).line = [(onSite i Site.joinLine c).1] :=
    (hjoined i).trans (if_pos rfl)
  obtain ⟨a, d, hd, hstanding⟩ := hbody _ _ hjoined
  refine ⟨a, (onSite i (fun s => ((), s.leaveLine (c.site i).nextTicket)) d).2, ?_, ?_⟩
  · simp only [inLine, guarding, poll, hline, List.head?_cons, beq_self_eq_true, if_true, hd,
      result?]
    rfl
  · intro j
    change Site.line (if j = i then _ else _) = _
    split
    · simp [Site.leaveLine, hstanding i]
    · next hj => exact (hstanding j).trans (if_neg hj)

/-- Setting the addresses of an idle pool ends at once, since nobody is in line. -/
theorem prompt_refresh (takes : String → Bool) (uris : List String) :
    Prompt Idle ((pool takes i).refresh uris) := by
  apply prompt_inLine
  intro lines
  apply (prompt_site fun _ => rfl).bind
  intro summary
  exact (opening_prompt lines takes).eager summary

/-! ## Memberships -/

theorem prompt_atomically (f : Membership → Links → α × Membership × Links) :
    Prompt Idle ((hostOver resolves answers i).atomically f) := by
  refine .atomically ?_
  intro _ hc
  exact hc

theorem prompt_read (f : Cluster n → α) : Prompt Idle (Fiber.read f) := by
  refine .atomically ?_
  intro _ hc
  exact hc

/-- Following the membership with an idle pool ends at once. -/
theorem prompt_follow : Prompt Idle (hostOver resolves answers i).follow := by
  unfold GossipHost.follow
  cases hpool : (hostOver resolves answers i).pool with
  | none => exact .pure ()
  | some follower =>
    obtain ⟨takes, -, rfl⟩ := Option.map_eq_some_iff.mp hpool
    apply (prompt_atomically _).bind
    intro uris
    apply (prompt_refresh takes uris).bind
    intro _
    exact .pure ()

theorem prompt_dial (uri : String) : Prompt Idle (Fiber.atomically (dial (n := n) uri)) := by
  refine .atomically ?_
  intro c hc
  unfold dial
  split
  · exact hc
  · exact hc

/-- A connection is found or opened at once. -/
theorem prompt_connection (uri : String) :
    Prompt Idle ((hostOver resolves answers i).connection uri) := by
  apply (prompt_atomically _).bind
  intro found
  cases found with
  | some link => exact .pure _
  | none =>
    apply (prompt_dial uri).bind
    intro opened
    cases opened with
    | error fault => exact .pure _
    | ok link =>
      apply (prompt_atomically _).bind
      intro _
      exact .pure _

/-- A member is taken in at once. -/
theorem prompt_addMember (info : BrokerInfo) :
    Prompt Idle ((hostOver resolves answers i).addMember info) := by
  apply (prompt_read _).bind
  intro now
  apply (prompt_atomically _).bind
  intro isNew
  split
  · exact prompt_follow
  · exact .pure ()

/-- A member is removed at once. -/
theorem prompt_removeMember (id : String) (reason : Departure) (now : Nat) :
    Prompt Idle ((hostOver resolves answers i).removeMember id reason now) := by
  apply (prompt_atomically _).bind
  intro gone
  cases gone with
  | none => exact .pure ()
  | some member =>
    apply (prompt_atomically _).bind
    intro _
    exact prompt_follow

/-- What ends at once item by item ends at once for all of them in turn. -/
theorem prompt_eachInTurn {β : Type} {f : β → Fiber (Cluster n) Unit} (hf : ∀ b, Prompt Idle (f b))
    (bs : List β) : Prompt Idle (GossipHost.eachInTurn f bs) := by
  induction bs with
  | nil => exact .pure ()
  | cons b rest ih =>
    apply (hf b).bind
    intro _
    exact ih

section

variable (hanswers : ∀ j payload, Prompt Idle (answers j payload))

include hanswers

/-- A call ends at once if its answer does. -/
theorem prompt_call (link : LinkId) (payload : Payload) :
    Prompt Idle (call answers link payload) := by
  refine .step (fun _ hc => hc) ?_
  intro far
  obtain ⟨found, uri⟩ := far
  cases found with
  | none => exact .done _
  | some j =>
    refine .race (hanswers j payload) (fun _ => rfl) ?_
    intro _
    exact .done _

/-- A call within a time ends at once, before the time is up. -/
theorem prompt_requestWithin (timeoutMs : Nat) (link : LinkId) (payload : Payload) :
    Prompt Idle ((wire answers).requestWithin timeoutMs link payload) := by
  refine .bind (.race (prompt_call hanswers link payload) (fun _ => rfl) fun _ => .done _) ?_
  intro result
  cases result with
  | some result => exact .pure _
  | none => exact .pure _

/-- A request is answered at once. -/
theorem prompt_request (uri : String) (message : GossipMessage) :
    Prompt Idle ((hostOver resolves answers i).request uri message) := by
  unfold GossipHost.request
  split
  · exact .pure _
  · apply (prompt_connection uri).bind
    intro found
    cases found with
    | error fault => exact .pure _
    | ok link =>
      apply (prompt_atomically _).bind
      intro timeoutMs
      apply (prompt_requestWithin hanswers timeoutMs link _).bind
      intro result
      cases result with
      | ok reply => exact .pure _
      | error fault =>
        apply (prompt_atomically _).bind
        intro _
        exact .pure _

/-- A row is confirmed at once. -/
theorem prompt_confirm (row : MemberDigest) :
    Prompt Idle ((hostOver resolves answers i).confirm row) := by
  apply (prompt_request hanswers _ _).bind
  intro result
  split
  · split
    · apply (prompt_read _).bind
      intro now
      apply (prompt_atomically _).bind
      intro _
      exact prompt_addMember _
    · exact .pure ()
  · exact .pure ()

/-- A digest is observed at once. -/
theorem prompt_observe (digest : Digest) :
    Prompt Idle ((hostOver resolves answers i).observe digest) := by
  apply (prompt_atomically _).bind
  intro own
  split
  · exact .pure ()
  · apply (prompt_read _).bind
    intro now
    apply (prompt_atomically _).bind
    intro _
    apply (prompt_addMember _).bind
    intro _
    apply (prompt_atomically _).bind
    intro rows
    exact prompt_eachInTurn (prompt_confirm hanswers) rows

/-- A message is handled at once. -/
theorem prompt_handle (message : GossipMessage) :
    Prompt Idle ((hostOver resolves answers i).handle message) := by
  cases message with
  | ping digest =>
    apply (prompt_observe hanswers digest).bind
    intro _
    apply (prompt_atomically _).bind
    intro _
    exact .pure _
  | fetchBrokerInfo =>
    apply (prompt_atomically _).bind
    intro _
    exact .pure _
  | ack digest =>
    apply (prompt_observe hanswers digest).bind
    intro _
    exact .pure _
  | brokerInfo info =>
    apply (prompt_addMember info).bind
    intro _
    exact .pure _
  | leave id =>
    apply (prompt_read _).bind
    intro now
    apply (prompt_removeMember id .left now).bind
    intro _
    exact .pure _
  | controlEvent envelope => exact .pure _

/-- A payload is answered at once, whatever it carries. -/
theorem prompt_answer (payload : Payload) :
    Prompt Idle ((hostOver resolves answers i).answer payload) := by
  unfold GossipHost.answer GossipHost.reply
  split
  · exact .pure _
  · apply (prompt_handle hanswers _).bind
    intro reply
    cases reply with
    | none => exact .pure _
    | some reply =>
      dsimp only
      split
      · exact .pure _
      · exact .pure _

/-- A round ends at once. -/
theorem prompt_round : Prompt Idle (hostOver resolves answers i).round := by
  apply (prompt_read _).bind
  intro found
  apply (prompt_atomically _).bind
  intro targets
  apply (prompt_atomically _).bind
  intro digest
  refine (Prompt.all ?_).bind fun _ =>
    (prompt_read _).bind fun now => prompt_atomically _
  intro f hf
  obtain ⟨uri, -, rfl⟩ := List.mem_map.mp hf
  apply (prompt_request hanswers uri _).bind
  intro result
  split
  · exact prompt_observe hanswers _
  · exact .pure ()

end

/-- A payload is answered at once by brokers that answer one another, to any depth. -/
theorem prompt_host_answer (depth : Nat) (i : Fin n) (payload : Payload) :
    Prompt Idle ((host resolves depth i).answer payload) := by
  induction depth generalizing i payload with
  | zero => exact prompt_answer (fun _ _ => .done _) payload
  | succ depth ih => exact prompt_answer ih payload

/-- A round ends at once among brokers that answer one another, to any depth. -/
theorem prompt_host_round (depth : Nat) (i : Fin n) :
    Prompt Idle (host resolves depth i).round := by
  cases depth with
  | zero =>
    apply prompt_round
    intro _ _
    exact .done _
  | succ depth => exact prompt_round (prompt_host_answer depth)

end Cluster

namespace Assembly

variable {n : Nat}

/-! ## Whole rounds -/

/-- Nodes run their rounds, one after the other, as far as these go without waiting. -/
def inTurn (a : Assembly n) (order : List (Fin n)) : Assembly n where
  cluster := (pollsAt (order.map Fin.val) a.rounds a.cluster).2
  rounds := (pollsAt (order.map Fin.val) a.rounds a.cluster).1

/-- Moves are made one after the other. -/
theorem run_append (a : Assembly n) (first second : List (Move n)) :
    a.run (first ++ second) = (a.run first).run second := List.foldl_append

/-- Turns of one round advance it, and leave the other rounds where they are. -/
theorem run_turns {node : Nat} {f : Fiber (Cluster n) Unit} (places : List Place) {a : Assembly n}
    (hf : a.rounds[node]? = some f) : a.run (places.map (.turn node))
      = ⟨(advances places f a.cluster).2, a.rounds.set node (advances places f a.cluster).1⟩ := by
  induction places generalizing a f with
  | nil =>
    obtain ⟨hnode, rfl⟩ := List.getElem?_eq_some_iff.mp hf
    simp [run, advances, List.set_getElem_self]
  | cons place rest ih =>
    have hmove : a.move (.turn node place)
        = ⟨(advance place f a.cluster).2, a.rounds.set node (advance place f a.cluster).1⟩ := by
      simp only [move, advanceAt, hf]
    have hget : (a.move (.turn node place)).rounds[node]? = some (advance place f a.cluster).1 := by
      rw [hmove]
      exact List.getElem?_set_self (List.getElem?_eq_some_iff.mp hf).1
    change (a.move (.turn node place)).run (rest.map (.turn node)) = _
    rw [ih hget, hmove]
    simp [advances, List.set_set]

/-- Whole rounds are moves. -/
theorem exists_run_eq_inTurn (a : Assembly n) (order : List (Fin n)) :
    ∃ moves, a.run moves = a.inTurn order := by
  induction order generalizing a with
  | nil => exact ⟨[], rfl⟩
  | cons i rest ih =>
    obtain ⟨turns, hturns⟩ : ∃ turns, a.run turns = a.inTurn [i] := by
      cases hf : a.rounds[i.val]? with
      | none => exact ⟨[], by simp [run, inTurn, pollsAt, pollAt, hf]⟩
      | some f =>
        obtain ⟨places, hplaces⟩ := exists_advances_eq_poll f a.cluster
        refine ⟨places.map (.turn i), ?_⟩
        rw [run_turns places hf, hplaces]
        simp [inTurn, pollsAt, pollAt, hf]
    obtain ⟨moves, hmoves⟩ := ih (a.inTurn [i])
    refine ⟨turns ++ moves, ?_⟩
    rw [run_append, hturns, hmoves]
    rfl

end Assembly

namespace Cluster

variable {n : Nat}

/-- What becomes of a cluster when its nodes run their rounds one after the other. -/
def inTurn (resolves : Fin n → Option (String → Bool)) (depth : Nat) (order : List (Fin n))
    (c : Cluster n) : Cluster n := ((c.assemble resolves depth).inTurn order).cluster

/-- Rounds in turn all end, and leave every pool idle. -/
theorem over_inTurn {c : Cluster n} (hc : c.Idle) (resolves : Fin n → Option (String → Bool))
    (depth : Nat) {order : List (Fin n)} (hall : ∀ i, i ∈ order) :
    (c.inTurn resolves depth order).Idle ∧
      ((c.assemble resolves depth).inTurn order).Over := by
  refine over_pollsAt ?_ (fun k f hk => .inl ?_) hc
  · intro f hf
    obtain ⟨i, rfl⟩ := List.mem_ofFn.mp hf
    exact prompt_host_round depth i
  · have hkn : k < n := by simpa [assemble] using (List.getElem?_eq_some_iff.mp hk).1
    exact List.mem_map.mpr ⟨⟨k, hkn⟩, hall _, rfl⟩

/-- The rounds of nodes come to their ends in any order, and nobody stands in line again. -/
theorem rounds_inTurn {c : Cluster n} (hc : c.Idle) (resolves : Fin n → Option (String → Bool))
    (depth : Nat) {order : List (Fin n)} (hall : ∀ i, i ∈ order) :
    c.Rounds resolves depth (c.inTurn resolves depth order) ∧
      (c.inTurn resolves depth order).Idle := by
  obtain ⟨hidle, hover⟩ := over_inTurn hc resolves depth hall
  obtain ⟨moves, hmoves⟩ := (c.assemble resolves depth).exists_run_eq_inTurn order
  exact ⟨⟨moves, hmoves ▸ hover, congrArg Assembly.cluster hmoves⟩, hidle⟩

end Cluster

end ServiceMesh
