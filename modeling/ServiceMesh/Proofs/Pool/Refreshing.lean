import ServiceMesh.Proofs.Concurrency.Courses
import ServiceMesh.Proofs.Concurrency.Promptness
import ServiceMesh.Proofs.Pool.Opening
import ServiceMesh.Proofs.Pool.Site

/-!
# Setting the addresses of a pool

A pool whose addresses are set keeps the addresses that were taken up to the end of the
operation and beyond it, whichever links are opened and fail to be opened meanwhile
(`Site.heeds_refresh`).  To set them to the same list again adds nothing and removes nothing,
so no set of addresses of the pool changes and no link is opened (`Site.abides_refresh`).

The operation waits for its turn alone.  If nobody else stands in line, it is over at once
(`Site.prompt_refresh`).
-/

namespace ServiceMesh

namespace Pool

/-- The addresses of a pool: those configured, those with a link, and those that are not
used. -/
structure Endpoints where
  configured : List String
  active : Dict String LinkId
  unhealthy : List String

def endpoints (p : Pool) : Endpoints := ⟨p.uris, p.active, p.unhealthy⟩

/-- Addresses that are set again are neither new nor gone. -/
theorem setUris_again (resolves : String → Bool) (uris : List String) {p : Pool}
    (h : p.uris = takenUp resolves uris) (links : Links) :
    setUris resolves uris p links
      = (⟨[], [], (sift resolves [] uris).2⟩, { p with refreshed := true }, links) := by
  have hnext := sift_nil_fst resolves uris
  have hnone : (takenUp resolves uris).filter (fun u => !(takenUp resolves uris).contains u)
      = [] := by simp
  unfold setUris
  simp only [hnext, h, hnone, List.foldl_nil, RefreshSummary.isUnchanged, List.isEmpty_nil,
    Bool.and_self, if_true]

end Pool

namespace Site

open ServiceMesh.Fiber

variable {resolves : String → Bool} {uris : List String}

/-- The addresses of a site are those that were taken up. -/
def Settled (resolves : String → Bool) (uris : List String) (s : Site) : Prop :=
  s.pool.uris = Pool.takenUp resolves uris

/-- The course of a site whose addresses may be set to a list. -/
abbrev setting (resolves : String → Bool) (uris : List String) : Course Site :=
  .since (fun _ => True) (Settled resolves uris)

/-! ## Once -/

theorem tame_onPool {α : Type} {f : Pool → Links → α × Pool × Links}
    (h : Pool.Plain f) : Tame (setting resolves uris) ((host resolves).atomically f) := by
  refine .step (fun s _ => ⟨trivial, fun hs => (h s.pool s.links).2.trans hs⟩) ?_
  intro _
  exact .pure _

theorem opening_tame : (host resolves).Opening fun _ f => Tame (setting resolves uris) f where
  done := .pure
  bind hf hg := hf.bind hg
  all hfs := Tame.all hfs
  openLink uri := by
    refine .step (fun s _ => ⟨trivial, ?_⟩) fun _ => .pure _
    intro hs
    exact (congrArg Pool.uris (pool_dial uri s)).trans hs
  atomically := tame_onPool

/-- After the addresses of a site were set they are those that were taken up. -/
theorem heeds_refresh (s : Site) :
    Heeds (setting resolves uris) ((host resolves).refresh uris) (fun _ => Settled resolves uris)
      s := by
  have hstable : (setting resolves uris).Stable (Settled resolves uris) := by
    intro _ _ hst _ hs
    exact hst hs
  refine fun _ _ _ => ⟨trivial, id, fun _ _ _ => ⟨trivial, id⟩, _, fun _ => hstable, ?_, ?_⟩
  · intro _ _ _ _ t _ _
    have hset : Settled resolves uris (onPool (Pool.setUris resolves uris) t).2 :=
      Pool.uris_setUris resolves uris t.pool t.links
    refine ⟨trivial, fun _ => hset, ?_⟩
    apply (opening_tame.eager _ _ trivial).mono trivial
    intro _ _ hlater _ _
    exact hlater hset
  · intro _ _ _ _ hset
    exact hset

/-! ## Again -/

section

variable {e : Pool.Endpoints} (he : e.configured = Pool.takenUp resolves uris)

include he

theorem abides_setUris : Abides (fun s : Site => s.pool.endpoints = e)
    ((host resolves).atomically (Pool.setUris resolves uris)) fun summary =>
      summary.added = [] := by
  refine .step ?_
  intro s hs
  have huris : s.pool.uris = Pool.takenUp resolves uris :=
    (congrArg Pool.Endpoints.configured hs).trans he
  have hsame := Pool.setUris_again resolves uris huris s.links
  have hendpoints : (Pool.setUris resolves uris s.pool s.links).2.1.endpoints = e := by
    rw [hsame]
    exact hs
  have hadded : (Pool.setUris resolves uris s.pool s.links).1.added = [] := by rw [hsame]
  exact ⟨hendpoints, .pure hadded⟩

/-- To set the addresses of a site again changes none of them. -/
theorem abides_refresh : Abides (fun s : Site => s.pool.endpoints = e)
    ((host resolves).refresh uris) fun _ => True := by
  refine .step ?_
  intro s hs
  refine ⟨hs, .guarded (Q := fun _ => True) (fun _ h => h) (.await ?_)
    fun _ _ => .pure trivial⟩
  apply (abides_setUris he).bind
  intro summary hadded
  have hread : Abides (fun s : Site => s.pool.endpoints = e)
      ((host resolves).read (·.settings.eagerConnect)) fun _ => True :=
    .step fun t ht => ⟨ht, .pure trivial⟩
  apply hread.bind
  intro eager _
  cases eager with
  | false => exact .pure trivial
  | true =>
    rw [hadded]
    exact .pure trivial

end

/-! ## Without waiting -/

/-- Nobody stands in line. -/
def Idle (s : Site) : Prop := s.line = []

theorem prompt_onPool {α : Type} (line : List Nat) (f : Pool → Links → α × Pool × Links) :
    Prompt (fun s => s.line = line) ((host resolves).atomically f) := by
  refine .atomically ?_
  intro _ hs
  exact hs

theorem opening_prompt (line : List Nat) :
    (host resolves).Opening fun _ f => Prompt (fun s => s.line = line) f where
  done := .pure
  bind hf hg := hf.bind hg
  all hfs := Prompt.all hfs
  openLink uri := .atomically fun s hs => (line_dial uri s).trans hs
  atomically _ := prompt_onPool line _

/-- Who joins an empty line is the first at once, and leaves the line empty. -/
theorem poll_inLine {α : Type} {body : Fiber Site α} {s t : Site} {a : α} (hs : Idle s)
    (hbody : poll body s.joinLine.2 = (done a, t)) (ht : t.line = [s.nextTicket]) :
    poll (inLine body) s = (done a, t.leaveLine s.nextTicket) ∧
      Idle (t.leaveLine s.nextTicket) := by
  have hline : s.joinLine.2.line = [s.nextTicket] := by
    change s.line ++ [s.nextTicket] = _
    rw [hs, List.nil_append]
  have hready : (s.joinLine.2.line.head? == some s.joinLine.1) = true := by
    rw [hline]
    exact beq_self_eq_true (some s.nextTicket)
  constructor
  · simp only [inLine, guarding, poll, hready, if_true, hbody, result?]
    rfl
  · simp [Idle, leaveLine, ht]

theorem prompt_inLine {α : Type} {body : Fiber Site α}
    (hbody : ∀ line, Prompt (fun s => s.line = line) body) : Prompt Idle (inLine body) := by
  intro s hs
  have hline : s.joinLine.2.line = [s.nextTicket] := by
    change s.line ++ [s.nextTicket] = _
    rw [hs, List.nil_append]
  obtain ⟨a, t, hpoll, ht⟩ := hbody _ s.joinLine.2 hline
  exact ⟨a, _, poll_inLine hs hpoll ht⟩

theorem prompt_refresh (uris : List String) : Prompt Idle ((host resolves).refresh uris) := by
  apply prompt_inLine
  intro line
  apply (prompt_onPool line _).bind
  intro summary
  exact (opening_prompt line).eager summary

end Site

end ServiceMesh
