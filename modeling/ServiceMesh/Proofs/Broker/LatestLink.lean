import ServiceMesh.Proofs.Broker.Life

/-!
# The latest link of a provider

A provider may connect again over another link before its former link is known to be closed.
It then stands on the new link, whatever stood for it before (`Deed.admitted_route`), and the
end of a former link is no longer about it (`Home.disconnect_of_ne`).

So what a list of moves leaves of a provider that only connects and is disconnected depends on
its last connection alone (`Home.lastLink?`): the provider is known exactly if it was not
disconnected from that link since, and is then reached over that link (`Home.latest_link_wins`).
What the broker hears of its own events makes no difference, nor does anything that happens to
other providers or to the members.
-/

namespace ServiceMesh

namespace Home

/-! ## Connections of a provider -/

namespace Move

/-- The link over which a provider connects by a move, if it is taken in. -/
def link? (id : Uuid) : Move → Option LinkId
  | act (.connect setup link) =>
      if setup.app.instanceId = id ∧ Broker.refusal setup = none then some link else none
  | _ => none

/-- A provider connects or is disconnected by a move. -/
def Links : Move → Prop
  | act (.connect ..) => True
  | act (.disconnect ..) => True
  | _ => False

end Move

/-- The link over which a provider connected last, and what happened since. -/
def lastLink? (id : Uuid) : List Move → Option (LinkId × List Move)
  | [] => none
  | mv :: rest => (lastLink? id rest).or ((mv.link? id).map fun link => (link, rest))

variable {id : Uuid}

theorem lastLink?_eq_none {moves : List Move} (hnone : lastLink? id moves = none) :
    ∀ mv ∈ moves, mv.link? id = none := by
  induction moves with
  | nil =>
    intro mv hmv
    exact absurd hmv List.not_mem_nil
  | cons mv rest ih =>
    obtain ⟨hrest, hfirst⟩ := Option.or_eq_none_iff.mp hnone
    intro x hx
    rcases List.mem_cons.mp hx with rfl | hx
    · exact Option.map_eq_none_iff.mp hfirst
    · exact ih hrest x hx

theorem lastLink?_eq_some {moves : List Move} {link : LinkId} {since : List Move}
    (hsome : lastLink? id moves = some (link, since)) :
    ∃ before mv, moves = before ++ mv :: since ∧ mv.link? id = some link ∧
      ∀ x ∈ since, x.link? id = none := by
  induction moves with
  | nil => cases hsome
  | cons mv rest ih =>
    rcases Option.or_eq_some_iff.mp hsome with hlater | ⟨hrest, hfirst⟩
    · obtain ⟨before, last, rfl, hlast, hsince⟩ := ih hlater
      exact ⟨mv :: before, last, rfl, hlast, hsince⟩
    · obtain ⟨_, hlink, heq⟩ := Option.map_eq_some_iff.mp hfirst
      cases heq
      exact ⟨[], mv, rfl, hlink, lastLink?_eq_none hrest⟩

/-! ## Single moves -/

variable {h : Home}

theorem Settled.get?_act_subject (hs : h.Settled) (deed : Deed) :
    (h.move (.act deed)).table.get? deed.subject
      = (deed.effect h.uri (h.table.get? deed.subject)).1 :=
  ((hs.inOrder.perform deed).table deed.subject).trans (if_pos rfl)

/-- A provider that is taken in stands on its link. -/
theorem Settled.route_of_link? (hs : h.Settled) {mv : Move} {link : LinkId}
    (hlink : mv.link? id = some link) :
    ∃ r, (h.move mv).table.get? id = some r ∧ r.route = .direct link := by
  cases mv with
  | hear event => cases hlink
  | follow change => cases hlink
  | act deed =>
    cases deed with
    | disconnect x link => cases hlink
    | expose x services => cases hlink
    | hide x services => cases hlink
    | setStatus x status => cases hlink
    | connect setup link =>
      simp only [Move.link?] at hlink
      split at hlink
      · next htaken =>
        obtain ⟨rfl, haccepted⟩ := htaken
        cases hlink
        have htable := hs.get?_act_subject (.connect setup link)
        rw [Deed.effect, haccepted] at htable
        exact ⟨_, htable, Deed.admitted_route setup link _⟩
      · cases hlink

theorem link?_of_direct {r : Responder} {link : LinkId} (hroute : r.route = .direct link) :
    r.link? = some link := by
  rw [Responder.link?, hroute]

/-- What a provider that stands on a link loses by a disconnection from it. -/
theorem effect_disconnect_of_on (uri : String) (id : Uuid) {link : LinkId} {o : Option Responder}
    (hon : ∀ r, o = some r → r.route = .direct link) :
    ((Deed.disconnect id link).effect uri o).1 = none := by
  cases o with
  | none => rfl
  | some r =>
    have hlink := decide_eq_true (link?_of_direct (hon r rfl))
    rw [Deed.effect, Option.filter_some, if_pos hlink]

/-- A provider that stands on a link stays as it is if it is not taken in and is not
disconnected from that link. -/
theorem effect_of_links (uri : String) {link : LinkId} {deed : Deed} {o : Option Responder}
    (hon : ∀ r, o = some r → r.route = .direct link) (hlinks : (Move.act deed).Links)
    (hquiet : (Move.act deed).link? deed.subject = none)
    (hstays : deed ≠ .disconnect deed.subject link) : (deed.effect uri o).1 = o := by
  cases deed with
  | expose x services => exact hlinks.elim
  | hide x services => exact hlinks.elim
  | setStatus x status => exact hlinks.elim
  | connect setup link' =>
    cases hrefusal : Broker.refusal setup with
    | some reason => rw [Deed.effect, hrefusal]
    | none =>
      rw [Move.link?, if_pos ⟨rfl, hrefusal⟩] at hquiet
      cases hquiet
  | disconnect x link' =>
    cases o with
    | none => rfl
    | some r =>
      have hoff : r.link? ≠ some link' := by
        rw [link?_of_direct (hon r rfl)]
        rintro ⟨⟩
        exact hstays rfl
      rw [Deed.effect, Option.filter_some, if_neg (by simpa using hoff)]

/-- A provider that stands on a link goes when it is disconnected from that link. -/
theorem Settled.get?_move_disconnect (hs : h.Settled) {link : LinkId}
    (hon : ∀ r, h.table.get? id = some r → r.route = .direct link) :
    (h.move (.act (.disconnect id link))).table.get? id = none :=
  (hs.get?_act_subject (.disconnect id link)).trans (effect_disconnect_of_on h.uri id hon)

/-- A provider that stands on a link stays as it is while it does not connect and is not
disconnected from that link. -/
theorem Settled.get?_move_of_link?_none (hs : h.Settled) {link : LinkId} {mv : Move}
    (hon : ∀ r, h.table.get? id = some r → r.route = .direct link)
    (hlinks : mv.About id → mv.Links) (hquiet : mv.link? id = none)
    (hstays : mv ≠ .act (.disconnect id link)) :
    (h.move mv).table.get? id = h.table.get? id := by
  by_cases habout : mv.About id
  · cases mv with
    | hear event => exact (hlinks habout).elim
    | follow change => exact habout.elim
    | act deed =>
      obtain rfl : deed.subject = id := habout
      refine (hs.get?_act_subject deed).trans (effect_of_links h.uri hon (hlinks rfl) hquiet ?_)
      intro heq
      exact hstays (congrArg Move.act heq)
  · refine hs.get?_move_of_not_about (fun r hr => ?_) habout
    rw [Responder.isRemote, hon r hr]

/-- The end of a link does not concern a provider that is not on it. -/
theorem disconnect_of_ne {link : LinkId}
    (hother : ∀ r, h.table.get? id = some r → r.link? ≠ some link) :
    ((host h.uri).disconnect id link).run h = (false, h) := by
  have hdismiss : Broker.dismiss id link h.table = (none, h.table, []) := by
    unfold Broker.dismiss
    cases hget : h.table.get? id with
    | none => rfl
    | some r => exact if_neg (hother r hget)
  unfold BrokerHost.disconnect
  rw [run_routes, hdismiss]
  rfl

/-! ## Lists of moves -/

/-- While a provider that stands on a link does not connect, it stays as it is exactly until it is
disconnected from that link.  A provider that is gone stays so. -/
theorem Settled.get?_run_since (hs : h.Settled) {link : LinkId} {since : List Move}
    (hon : ∀ r, h.table.get? id = some r → r.route = .direct link)
    (hlinks : ∀ mv ∈ since, mv.About id → mv.Links) (hquiet : ∀ mv ∈ since, mv.link? id = none) :
    (.act (.disconnect id link) ∈ since → (h.run since).table.get? id = none) ∧
      (.act (.disconnect id link) ∉ since →
        (h.run since).table.get? id = h.table.get? id) := by
  induction since generalizing h with
  | nil =>
    constructor
    · intro hmem
      exact absurd hmem List.not_mem_nil
    · intro _
      rfl
  | cons mv rest ih =>
    have hmv := hlinks mv List.mem_cons_self
    have hrest : ∀ x ∈ rest, x.About id → x.Links := by
      intro x hx
      exact hlinks x (List.mem_cons_of_mem mv hx)
    have hsilent : ∀ x ∈ rest, x.link? id = none := by
      intro x hx
      exact hquiet x (List.mem_cons_of_mem mv hx)
    by_cases hends : mv = .act (.disconnect id link)
    · subst hends
      have hgone := hs.get?_move_disconnect hon
      have hnowhere : ∀ r, (h.move (.act (.disconnect id link))).table.get? id = some r →
          r.route = .direct link := by
        intro r hr
        rw [hgone] at hr
        cases hr
      obtain ⟨hagain, hstays⟩ := ih (hs.move _) hnowhere hrest hsilent
      refine ⟨?_, fun hnot => absurd List.mem_cons_self hnot⟩
      intro _
      by_cases hmem : .act (.disconnect id link) ∈ rest
      · exact hagain hmem
      · exact (hstays hmem).trans hgone
    · have hsame := hs.get?_move_of_link?_none hon hmv (hquiet mv List.mem_cons_self) hends
      obtain ⟨hgone, hstays⟩ := ih (hs.move mv) (by rwa [hsame]) hrest hsilent
      constructor
      · intro hmem
        exact hgone ((List.mem_cons.mp hmem).resolve_left (Ne.symm hends))
      · intro hnot
        exact (hstays fun hmem => hnot (List.mem_cons_of_mem mv hmem)).trans hsame

/-- A provider that connected is known exactly if it was not disconnected from its latest link
since, and then stands on that link. -/
theorem Settled.get?_run_of_last (hs : h.Settled) {moves : List Move}
    (hlinks : ∀ mv ∈ moves, mv.About id → mv.Links) {link : LinkId} {since : List Move}
    (hlast : lastLink? id moves = some (link, since)) :
    ((∃ r, (h.run moves).table.get? id = some r) ↔ .act (.disconnect id link) ∉ since) ∧
      ∀ r, (h.run moves).table.get? id = some r → r.route = .direct link := by
  obtain ⟨former, mv, rfl, hmv, hquiet⟩ := lastLink?_eq_some hlast
  have hformer : (h.run former).Settled := hs.run former
  obtain ⟨taken, htaken, hroute⟩ := hformer.route_of_link? hmv
  have hon : ∀ r, ((h.run former).move mv).table.get? id = some r → r.route = .direct link := by
    intro r hr
    cases htaken.symm.trans hr
    exact hroute
  have hsince : ∀ x ∈ since, x.About id → x.Links := by
    intro x hx
    exact hlinks x (List.mem_append_right former (List.mem_cons_of_mem mv hx))
  obtain ⟨hgone, hstays⟩ := (hformer.move mv).get?_run_since hon hsince hquiet
  have hrun : h.run (former ++ mv :: since) = ((h.run former).move mv).run since :=
    run_append h former (mv :: since)
  rw [← hrun] at hgone hstays
  refine ⟨⟨?_, fun hmem => ⟨taken, (hstays hmem).trans htaken⟩⟩, ?_⟩
  · rintro ⟨r, hr⟩ hmem
    cases (hgone hmem).symm.trans hr
  · intro r hr
    by_cases hmem : .act (.disconnect id link) ∈ since
    · cases (hgone hmem).symm.trans hr
    · exact hon r ((hstays hmem).symm.trans hr)

/-- A provider that was not known and did not connect is not known. -/
theorem Settled.get?_run_of_never (hs : h.Settled) {moves : List Move}
    (hlinks : ∀ mv ∈ moves, mv.About id → mv.Links) (hnever : lastLink? id moves = none)
    (hunknown : h.table.get? id = none) : (h.run moves).table.get? id = none := by
  have hnowhere : ∀ r, h.table.get? id = some r → r.route = .direct (.outside 0) := by
    intro r hr
    cases hunknown.symm.trans hr
  obtain ⟨hgone, hstays⟩ := hs.get?_run_since hnowhere hlinks (lastLink?_eq_none hnever)
  by_cases hmem : .act (.disconnect id (.outside 0)) ∈ moves
  · exact hgone hmem
  · exact (hstays hmem).trans hunknown

/-- Whatever happened to a broker before, and whatever happens to other providers meanwhile: of
a provider that only connects and is disconnected, over any links and in any order, the broker
knows after that exactly if it was not disconnected from its latest link since it connected over
it, and it then reaches the provider over that link.  To disconnect it from another link changes
nothing and tells nothing.  A provider that was not known and did not connect is not known. -/
theorem latest_link_wins (uri localApp : String) (before : List Move) {moves : List Move}
    (hlinks : ∀ mv ∈ moves, mv.About id → mv.Links) :
    let start := (new uri localApp).run before
    let h := start.run moves
    (∀ link since, lastLink? id moves = some (link, since) →
      ((∃ r, h.table.get? id = some r) ↔ .act (.disconnect id link) ∉ since) ∧
      (∀ r, h.table.get? id = some r → r.route = .direct link) ∧
      ∀ other, other ≠ link → ((host h.uri).disconnect id other).run h = (false, h)) ∧
    (lastLink? id moves = none → start.table.get? id = none →
      h.table.get? id = none ∧ ∀ link, ((host h.uri).disconnect id link).run h = (false, h)) := by
  intro start h
  have hstart : start.Settled := (settled_new uri localApp).run before
  constructor
  · intro link since hlast
    obtain ⟨hknown, hroute⟩ := hstart.get?_run_of_last hlinks hlast
    refine ⟨hknown, hroute, fun other hother => disconnect_of_ne fun r hr => ?_⟩
    rw [link?_of_direct (hroute r hr)]
    intro heq
    exact hother (Option.some.inj heq).symm
  · intro hnever hunknown
    have hnone := hstart.get?_run_of_never hlinks hnever hunknown
    refine ⟨hnone, fun link => disconnect_of_ne fun r hr => ?_⟩
    cases hnone.symm.trans hr

namespace Sample

open Pair.Sample (someId echo setup)

/-- A provider connects again before its former link is known to be closed. -/
def relinks : List Move :=
  [.act (.connect (setup [echo]) (.outside 0)), .act (.connect (setup []) (.outside 1)),
   .act (.disconnect someId (.outside 0))]

/-- A broker that saw this. -/
def relinked : Home := ((new "a" "").run []).run relinks

end Sample

open Sample Pair.Sample in
/-- The late end of a former link leaves the provider on its new link. -/
theorem late_end_harmless :
    (∃ r, relinked.table.get? someId = some r ∧ r.route = .direct (.outside 1)) ∧
      ((host "a").disconnect someId (.outside 0)).run relinked = (false, relinked) := by
  have hlinks : ∀ mv ∈ relinks, mv.About someId → mv.Links := by
    intro mv hmv _
    rcases List.mem_cons.mp hmv with rfl | hmv
    · trivial
    rcases List.mem_cons.mp hmv with rfl | hmv
    · trivial
    cases List.mem_singleton.mp hmv
    trivial
  have hlast : lastLink? someId relinks
      = some (.outside 1, [.act (.disconnect someId (.outside 0))]) := by rfl
  have hstays : Move.act (.disconnect someId (.outside 1))
      ∉ [Move.act (.disconnect someId (.outside 0))] := by simp
  obtain ⟨hknown, hroute, hother⟩ := (latest_link_wins "a" "" [] hlinks).1 _ _ hlast
  obtain ⟨r, hr⟩ := hknown.mpr hstays
  exact ⟨⟨r, hr, hroute r hr⟩, hother (.outside 0) (by decide)⟩

end Home

end ServiceMesh
