import ServiceMesh.Proofs.Gossip.Completion
import ServiceMesh.Proofs.Gossip.Exchanges

/-!
# How members spread

Nodes that know nobody have the address of one of them, the hub, among their seeds.  When each
has run a round, the hub knows all others.  When each has run another one, every node has heard
from the hub of all others, so that its members are all others (`Cluster.two_rounds_spread`).

The rounds of all nodes may overlap in any way: what a round leaves behind stays as it is while
others take turns, so it holds when all rounds are over (`Cluster.Rounds.ended`).
-/

namespace ServiceMesh

namespace Cluster

variable {n : Nat} {p : Census n} {i : Fin n} {c : Cluster n}
  {resolves : Fin n → Option (String → Bool)}

/-! ## All nodes -/

theorem host_eq (resolves : Fin n → Option (String → Bool)) (depth : Nat) :
    ∃ answers, host resolves depth = hostOver resolves answers := by
  cases depth with
  | zero => exact ⟨_, rfl⟩
  | succ depth => exact ⟨_, rfl⟩

/-- With calls nested twice, a node that is pinged can ask others who they are. -/
theorem host_round_heeds (hp : p.Proper) (depth : Nat) (hc : Sound p c) :
    Fiber.Heeds (course p) (host resolves (depth + 2) i).round
      (fun _ d => ∀ j, j ≠ i → p.url j ∈ (p.settings i).seeds → Met p i (p.url j) d) c := by
  obtain ⟨inner, hinner⟩ := host_eq resolves depth
  have htells : Tells p fun j payload => (host resolves depth j).answer payload := by
    rw [hinner]
    exact tells_answer hp
  exact round_heeds hp (tells_answer hp) (greets_answer hp htells) hc

end Cluster

namespace Assembly

variable {n : Nat} {p : Cluster.Census n}

/-- What holds of each round at its end, by its number. -/
def Ended (p : Cluster.Census n) (node : Nat) (c : Cluster n) : Prop :=
  ∀ h : node < n, ∀ j, j ≠ ⟨node, h⟩ → p.url j ∈ (p.settings ⟨node, h⟩).seeds →
    Cluster.Met p ⟨node, h⟩ (p.url j) c

theorem stable_ended (p : Cluster.Census n) (node : Nat) :
    (Cluster.course p).Stable (Ended p node) := by
  intro c d hlater hd h hnode j hji hseed
  exact Cluster.stable_met p _ _ c d hlater hd (h hnode j hji hseed)

/-- A sound cluster whose rounds are on their course. -/
structure OnCourse (p : Cluster.Census n) (a : Assembly n) : Prop where
  sound : Cluster.Sound p a.cluster
  rounds : Fiber.AllHeed (Cluster.course p) a.rounds (Ended p) a.cluster
  length : a.rounds.length = n

theorem OnCourse.move {a : Assembly n} (h : OnCourse p a) (m : Move n) :
    OnCourse p (a.move m) := by
  cases m with
  | turn node place =>
    obtain ⟨hsound, -, hrounds⟩ := h.rounds.advanceAt (stable_ended p) h.sound node place
    refine ⟨hsound, hrounds, Eq.trans ?_ h.length⟩
    change (Fiber.advanceAt node place a.rounds a.cluster).1.length = _
    unfold Fiber.advanceAt
    split
    · exact List.length_set
    · rfl
  | shift now site found =>
    have hsound : Cluster.Sound p { a.cluster with now, site, found } :=
      ⟨h.sound.resident, h.sound.kept, h.sound.fresh, h.sound.patient⟩
    have hlater : Cluster.Later a.cluster { a.cluster with now, site, found } :=
      ⟨fun _ _ h => h, fun _ _ h => h⟩
    exact ⟨hsound, h.rounds.later (stable_ended p) hlater hsound, h.length⟩

theorem OnCourse.run {a : Assembly n} (h : OnCourse p a) (moves : List (Move n)) :
    OnCourse p (a.run moves) := by
  induction moves generalizing a with
  | nil => exact h
  | cons m rest ih => exact ih (h.move m)

theorem OnCourse.over {a : Assembly n} (h : OnCourse p a) (hover : a.Over) (i : Fin n) :
    Ended p i a.cluster := by
  have hi : i.val < a.rounds.length := by
    rw [h.length]
    exact i.isLt
  have hheeds := h.rounds i.val _ (List.getElem?_eq_getElem hi)
  obtain ⟨value, hvalue⟩ := Option.isSome_iff_exists.mp (hover _ (List.getElem_mem hi))
  rw [Fiber.eq_done_of_result? hvalue] at hheeds
  exact hheeds

theorem onCourse_assemble (hp : p.Proper) {c : Cluster n} (hc : Cluster.Sound p c)
    (resolves : Fin n → Option (String → Bool)) (depth : Nat) :
    OnCourse p (c.assemble resolves (depth + 2)) := by
  refine ⟨hc, ?_, List.length_ofFn⟩
  intro k f hf
  obtain ⟨hk, rfl⟩ := List.getElem?_eq_some_iff.mp hf
  have hkn : k < n := by simpa [Cluster.assemble] using hk
  have hround : (c.assemble resolves (depth + 2)).rounds[k]
      = (Cluster.host resolves (depth + 2) ⟨k, hkn⟩).round := List.getElem_ofFn _
  rw [hround]
  apply (Cluster.host_round_heeds hp depth hc).mono hc
  intro _ d _ _ hmet h
  exact hmet

end Assembly

namespace Cluster

variable {n : Nat} {hub : Fin n} {c : Cluster n}

/-- What the rounds of all nodes leave behind. -/
theorem Rounds.ended {p : Census n} {resolves : Fin n → Option (String → Bool)} {depth : Nat}
    {d : Cluster n} (h : c.Rounds resolves (depth + 2) d) (hp : p.Proper) (hc : Sound p c) :
    Sound p d ∧ ∀ i : Fin n, Assembly.Ended p i d := by
  obtain ⟨moves, hover, rfl⟩ := h
  have hcourse := (Assembly.onCourse_assemble hp hc resolves depth).run moves
  exact ⟨hcourse.sound, hcourse.over hover⟩

/-! ## Seeds -/

/-- A cluster whose nodes know each other only by their seeds.  The hub is a seed of every other
node.  Lengths have 32 bits on the wire, so the texts of the nodes and the lists of them are
shorter than that. -/
structure Fresh (hub : Fin n) (c : Cluster n) : Prop where
  ids : ∀ i j, (c.membership i).self.id = (c.membership j).self.id → i = j
  urls : ∀ i j, (c.membership i).uri = (c.membership j).uri → i = j
  active : ∀ i, (c.membership i).self.isActive = true
  peers : ∀ i, (c.membership i).peers = {}
  seeded : ∀ i, i ≠ hub → (c.membership hub).uri ∈ (c.membership i).settings.seeds
  /-- A link that is kept open leads to the node at the address. -/
  kept : ∀ i uri link, (c.membership i).connections.get? uri = some link →
    ∃ l, c.links.get? link = some l ∧
      (l.closed = false → l.uri = uri ∧ ∃ j, (c.membership j).uri = uri)
  fresh : ∀ k, c.opened ≤ k → c.links.get? (.inside k) = none
  patient : c.lapsed = false
  fits : ∀ i, (c.membership i).self.Fits
  short : ∀ i, MsgPack.Short (c.membership i).uri
  few : n ≤ byteRange 4

/-- The census of a cluster whose nodes know at least some others. -/
def census (c : Cluster n) (known : Fin n → Fin n → Prop) : Census n where
  who i := (c.membership i).self
  settings i := (c.membership i).settings
  known := known

theorem Fresh.proper (h : c.Fresh hub) (known : Fin n → Fin n → Prop) :
    (c.census known).Proper :=
  ⟨h.ids, h.urls, h.active, h.fits, h.short, h.few⟩

theorem Fresh.sound (h : c.Fresh hub) : Sound (c.census fun _ _ => False) c := by
  refine ⟨fun i => ⟨rfl, rfl, ?_, ?_, ?_, fun _ => False.elim⟩, h.kept, h.fresh, h.patient⟩
  · rw [h.peers]
    exact PeerTable.tidy_empty
  · intro id x hx
    rw [h.peers] at hx
    cases hx
  · intro id
    rw [h.peers]
    rfl

/-- A sound cluster in which more is known. -/
theorem Sound.census {p : Census n} (hc : Sound p c) {known : Fin n → Fin n → Prop}
    (hknown : ∀ i j, known i j → Knows i (p.who j).id c) : Sound { p with known := known } c :=
  ⟨fun i => { hc.resident i with known := fun j hj => hknown i j hj }, hc.kept, hc.fresh,
    hc.patient⟩

theorem fresh_new {who : Fin n → BrokerInfo} {settings : Fin n → MembershipSettings}
    {site : Fin n → Site} (hids : ∀ i j, (who i).id = (who j).id → i = j)
    (hurls : ∀ i j, (who i).url = (who j).url → i = j) (hactive : ∀ i, (who i).isActive = true)
    (hseeded : ∀ i, i ≠ hub → (who hub).url ∈ (settings i).seeds) (hfits : ∀ i, (who i).Fits)
    (hshort : ∀ i, MsgPack.Short (who i).url) (hfew : n ≤ byteRange 4) :
    (Cluster.new who settings site).Fresh hub where
  ids := hids
  urls := hurls
  active := hactive
  peers _ := rfl
  seeded := hseeded
  kept _ _ _ hlink := nomatch hlink
  fresh _ _ := rfl
  patient := rfl
  fits := hfits
  short := hshort
  few := hfew

namespace Sample

/-- A broker at an address of its own. -/
def broker (i : Fin 3) : BrokerInfo where
  id := "b" ++ toString (i.val + 1)
  schema := "local"
  ip := "b" ++ toString (i.val + 1)
  port := 9999
  webPort := 9100
  startTimeMs := 1
  status := 1

/-- Three brokers, of which the first is the seed of the others. -/
def trio : Cluster 3 :=
  .new broker (fun i => { seeds := if i = 0 then [] else [(broker 0).url] })
    fun _ => { pool := .new "_meshrpc_broker" {} }

theorem fresh_trio : trio.Fresh 0 := by
  have hname : ∀ i, MsgPack.Short (broker i).id := by decide
  have hschema : MsgPack.Short "local" := by decide
  refine fresh_new (by decide) (by decide) (by decide) (by decide) ?_ (by decide)
    (by decide)
  intro i
  exact ⟨hname i, hschema, hname i, nofun⟩

end Sample

/-- When every node has run a round twice, the members of each node are all others.  The rounds
come to their ends, in whatever order the nodes run them, if nobody stands in line at a pool.  In
its first round a node and the hub get to know each other, and in its second round the node gets
to know whom the hub knows. -/
theorem two_rounds_spread (h : c.Fresh hub) (resolves : Fin n → Option (String → Bool))
    (depth : Nat) :
    (∀ d e, c.Rounds resolves (depth + 2) d → d.Rounds resolves (depth + 2) e → ∀ i,
      ((e.membership i).peers.members.map Member.info).Perm
        ((others i).map fun j => (c.membership j).self)) ∧
    (c.Idle → ∀ first second, (∀ i, i ∈ first) → (∀ i, i ∈ second) →
      c.Rounds resolves (depth + 2) (c.inTurn resolves (depth + 2) first) ∧
        (c.inTurn resolves (depth + 2) first).Rounds resolves (depth + 2)
          ((c.inTurn resolves (depth + 2) first).inTurn resolves (depth + 2) second)) := by
  constructor
  · intro d e hd he i
    obtain ⟨hdSound, hfirst⟩ := hd.ended (h.proper fun _ _ => False) h.sound
    have hmet : ∀ j k, j = hub ∧ k ≠ hub → Knows j (c.membership k).self.id d := by
      rintro j k ⟨rfl, hk⟩
      exact (hfirst k k.isLt j hk.symm (h.seeded k hk) j rfl hk.symm).1
    have hproper := h.proper fun j k => j = hub ∧ k ≠ hub
    obtain ⟨heSound, hsecond⟩ := he.ended hproper (hdSound.census hmet)
    have hresident := heSound.resident i
    apply hresident.perm_infos hproper
    intro j hji
    by_cases hi : i = hub
    · subst hi
      exact hresident.known j ⟨rfl, hji⟩
    · obtain ⟨-, hhub, hothers⟩ :=
        hsecond i i.isLt hub (Ne.symm hi) (h.seeded i hi) hub rfl (Ne.symm hi)
      by_cases hj : j = hub
      · subst hj
        exact hhub
      · exact hothers j ⟨rfl, hj⟩ hji
  · intro hidle first second hfirst hsecond
    obtain ⟨hrounds, hidle'⟩ := rounds_inTurn hidle resolves (depth + 2) hfirst
    exact ⟨hrounds, (rounds_inTurn hidle' resolves (depth + 2) hsecond).1⟩

open Sample in
/-- Three brokers know each other, though the second rounds are in another order. -/
theorem trio_spreads :
    let d := trio.inTurn (fun _ => some fun _ => true) 2 [2, 1, 0]
    let e := d.inTurn (fun _ => some fun _ => true) 2 [1, 2, 0]
    trio.Rounds (fun _ => some fun _ => true) 2 d ∧
    d.Rounds (fun _ => some fun _ => true) 2 e ∧
    ∀ i, ((e.membership i).peers.members.map Member.info).Perm ((others i).map broker) := by
  intro d e
  have hidle : trio.Idle := by
    intro _
    rfl
  have hall : ∀ i : Fin 3, i ∈ [2, 1, 0] := by decide
  have hall' : ∀ i : Fin 3, i ∈ [1, 2, 0] := by decide
  obtain ⟨hspread, hends⟩ := two_rounds_spread fresh_trio (fun _ => some fun _ => true) 0
  obtain ⟨hfirst, hsecond⟩ := hends hidle _ _ hall hall'
  exact ⟨hfirst, hsecond, hspread d e hfirst hsecond⟩

end Cluster

end ServiceMesh
