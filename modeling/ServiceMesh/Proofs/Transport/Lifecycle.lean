import ServiceMesh.Proofs.Transport.Bindings
import ServiceMesh.Proofs.Transport.Calls

/-!
# The life of a link inside the process

A network finds the handler of a link under the name of its endpoint, and closes links by that
name.  An `Exchange` is the same network in finer grain.  There each link holds the handler it
was opened to, and whether it is closed is a matter of tokens: every binding has one, every link
has one below that of the binding it was opened to, and a token that is cancelled cancels those
below it.  A binding that is replaced or given up has its token cancelled, and a link that is
closed has its own.  The two show the same after every run (`Exchange.shows_run`), however often
names were bound again: among the links that are not closed, those under one name are those of
its present binding.

So a link is open until it is closed or the binding of its name changes.  As long as it is open
it leads to one handler, which runs the calls over it, and a call over a closed link fails before
it gets to any handler (`Network.link_lives_with_binding`).
-/

namespace ServiceMesh

/-! ## Tokens -/

/-- What can be cancelled. -/
inductive Token where
  /-- A binding, and all links to it. -/
  | binding (number : Nat)
  /-- A link. -/
  | link (id : LinkId)
deriving DecidableEq

/-- A handler under a name. -/
structure Binding (η : Type) where
  /-- The handler. -/
  handler : η
  /-- The number of its token. -/
  number : Nat

/-- A link with what it holds. -/
structure HeldLink (η : Type) where
  /-- The address to which it was opened. -/
  uri : String
  /-- The name of the endpoint. -/
  name : String
  /-- The binding to which it was opened. -/
  binding : Binding η

/-- Endpoints inside the process whose links hold their handlers. -/
structure Exchange (η : Type) where
  /-- The bindings by name. -/
  bindings : Dict String (Binding η) := .empty
  /-- The links. -/
  links : Dict LinkId (HeldLink η) := .empty
  /-- The tokens that were cancelled. -/
  cancelled : List Token := []
  /-- The number of the next binding. -/
  nextBinding : Nat := 0
  /-- The number of the next link. -/
  nextLink : Nat := 1

namespace Exchange

variable {η : Type}

/-- Whether a link is closed: its token was cancelled, or the one above. -/
def isCancelled (x : Exchange η) (id : LinkId) (link : HeldLink η) : Bool :=
  .link id ∈ x.cancelled || .binding link.binding.number ∈ x.cancelled

/-- The token of the binding of a name, if it has one. -/
def tokenOf? (x : Exchange η) (name : String) : Option Token :=
  (x.bindings.get? name).map fun b => .binding b.number

/-- Gives a name a new binding or none, and cancels the one before. -/
def rebind (x : Exchange η) (name : String) (handler? : Option η) : Exchange η :=
  { x with
    bindings := x.bindings.alter name fun _ => handler?.map (⟨·, x.nextBinding⟩)
    cancelled := x.cancelled ++ (x.tokenOf? name).toList
    nextBinding := x.nextBinding + 1 }

/-- What becomes of an exchange by an act. -/
def apply (x : Exchange η) : Network.Act η → Exchange η
  | .bind name handler => x.rebind name (some handler)
  | .unbind name => x.rebind name none
  | .dial uri =>
      match x.bindings.get? uri.authority with
      | some b =>
          { x with
            links := x.links.insert (.inside x.nextLink) ⟨uri.raw, uri.authority, b⟩
            nextLink := x.nextLink + 1 }
      | none => x
  | .close id =>
      { x with cancelled := x.cancelled ++ ((x.links.get? id).map fun _ => .link id).toList }

/-- An exchange after acts. -/
def run (acts : List (Network.Act η)) : Exchange η := acts.foldl apply {}

/-- Looks at the other end of a link. -/
def farEnd (x : Exchange η) (id : LinkId) : FarEnd η :=
  match x.links.get? id with
  | none => .closed ""
  | some link =>
      if x.isCancelled id link then .closed link.uri
      else .endpoint link.name link.binding.handler link.uri

/-- Tokens are in order: each binding has a token of its own, which is not cancelled, and a link
is to the present binding of its name unless the token of its binding is cancelled. -/
structure Orderly (x : Exchange η) : Prop where
  past : ∀ {k}, .binding k ∈ x.cancelled → k < x.nextBinding
  closed : ∀ {id}, .link id ∈ x.cancelled → (x.links.get? id).isSome
  current : ∀ {name b}, x.bindings.get? name = some b →
    b.number < x.nextBinding ∧ .binding b.number ∉ x.cancelled
  apart : ∀ {name name' b b'}, x.bindings.get? name = some b → x.bindings.get? name' = some b' →
    b.number = b'.number → name = name'
  held : ∀ {id link}, x.links.get? id = some link →
    link.binding.number < x.nextBinding ∧
      (.binding link.binding.number ∉ x.cancelled → x.bindings.get? link.name = some link.binding)

/-- A network is as an exchange has it. -/
structure Shows (x : Exchange η) (n : Network η) : Prop where
  bindings : ∀ name, n.endpoints.get? name = (x.bindings.get? name).map Binding.handler
  links : ∀ id, n.links.get? id = (x.links.get? id).map fun link =>
    { uri := link.uri, carrier := .endpoint link.name, closed := x.isCancelled id link }
  nextLink : n.nextInside = x.nextLink

theorem isCancelled_iff {x : Exchange η} {id : LinkId} {link : HeldLink η} :
    x.isCancelled id link = true
      ↔ .link id ∈ x.cancelled ∨ .binding link.binding.number ∈ x.cancelled := by
  simp [isCancelled]

/-! ### New bindings -/

section

variable {x : Exchange η} (name : String) (handler? : Option η)

theorem get?_rebind (other : String) :
    (x.rebind name handler?).bindings.get? other
      = if name = other then handler?.map (⟨·, x.nextBinding⟩) else x.bindings.get? other :=
  Dict.get?_alter _ _ _ _

theorem binding_mem_rebind {k : Nat} : .binding k ∈ (x.rebind name handler?).cancelled
    ↔ .binding k ∈ x.cancelled ∨ ∃ b, x.bindings.get? name = some b ∧ b.number = k := by
  simp [rebind, tokenOf?]

theorem link_mem_rebind {id : LinkId} :
    .link id ∈ (x.rebind name handler?).cancelled ↔ .link id ∈ x.cancelled := by
  simp [rebind, tokenOf?]

/-- A new binding cancels the links to the one before, which are all that are not closed. -/
theorem Orderly.isCancelled_rebind (hx : x.Orderly) {id : LinkId} {link : HeldLink η}
    (hlink : x.links.get? id = some link) :
    (x.rebind name handler?).isCancelled id link
      = (x.isCancelled id link || decide (link.name = name)) := by
  rw [Bool.eq_iff_iff, Bool.or_eq_true, decide_eq_true_iff, isCancelled_iff, isCancelled_iff,
    link_mem_rebind, binding_mem_rebind]
  by_cases hcancelled : .binding link.binding.number ∈ x.cancelled
  · simp [hcancelled]
  · have hpresent := (hx.held hlink).2 hcancelled
    have hname : (∃ b, x.bindings.get? name = some b ∧ b.number = link.binding.number)
        ↔ link.name = name := by
      constructor
      · rintro ⟨b, hb, hnumber⟩
        exact (hx.apart hb hpresent hnumber).symm
      · rintro rfl
        exact ⟨link.binding, hpresent, rfl⟩
    simp [hcancelled, hname]

theorem Orderly.rebind (hx : x.Orderly) : (x.rebind name handler?).Orderly := by
  have hcases : ∀ {other b}, (x.rebind name handler?).bindings.get? other = some b →
      name = other ∧ b.number = x.nextBinding ∨ name ≠ other ∧ x.bindings.get? other = some b := by
    intro other b hb
    rw [get?_rebind] at hb
    split at hb
    · next h =>
      obtain ⟨handler, -, rfl⟩ := Option.map_eq_some_iff.mp hb
      exact .inl ⟨h, rfl⟩
    · next h => exact .inr ⟨h, hb⟩
  constructor
  · intro k hk
    rcases (binding_mem_rebind name handler?).mp hk with hk | ⟨b, hb, rfl⟩
    · exact Nat.lt_succ_of_lt (hx.past hk)
    · exact Nat.lt_succ_of_lt (hx.current hb).1
  · intro id hid
    exact hx.closed ((link_mem_rebind name handler?).mp hid)
  · intro other b hb
    rw [binding_mem_rebind, not_or]
    rcases hcases hb with ⟨-, hnew⟩ | ⟨hne, hold⟩
    · rw [hnew]
      refine ⟨Nat.lt_succ_self _, fun hk => Nat.lt_irrefl _ (hx.past hk), ?_⟩
      rintro ⟨b', hb', hnumber⟩
      exact absurd (hx.current hb').1 (by omega)
    · obtain ⟨hlt, hlive⟩ := hx.current hold
      refine ⟨Nat.lt_succ_of_lt hlt, hlive, ?_⟩
      rintro ⟨b', hb', hnumber⟩
      exact hne (hx.apart hb' hold hnumber)
  · intro other other' b b' hb hb' hnumber
    rcases hcases hb with ⟨rfl, hnew⟩ | ⟨hne, hold⟩
    · rcases hcases hb' with ⟨h, -⟩ | ⟨-, hold'⟩
      · exact h
      · have hlt := (hx.current hold').1
        omega
    · rcases hcases hb' with ⟨-, hnew'⟩ | ⟨-, hold'⟩
      · have hlt := (hx.current hold).1
        omega
      · exact hx.apart hold hold' hnumber
  · intro id link hlink
    obtain ⟨hlt, hpresent⟩ := hx.held hlink
    refine ⟨Nat.lt_succ_of_lt hlt, ?_⟩
    intro hlive
    rw [binding_mem_rebind, not_or] at hlive
    have hsame := hpresent hlive.1
    rw [get?_rebind, if_neg, hsame]
    rintro rfl
    exact hlive.2 ⟨_, hsame, rfl⟩

/-- A network whose name has a new handler, or none any more, is as the exchange has it. -/
theorem Shows.rebind {n n' : Network η} (h : x.Shows n) (hx : x.Orderly)
    (hendpoints : ∀ other, n'.endpoints.get? other
      = if name = other then handler? else n.endpoints.get? other)
    (hlinks : n'.links = n.links.closeAll (.endpoint name)) (hnext : n'.nextInside = n.nextInside) :
    (x.rebind name handler?).Shows n' where
  bindings other := by
    rw [hendpoints, get?_rebind]
    split
    · cases handler? <;> rfl
    · exact h.bindings other
  links id := by
    have hsame : (x.rebind name handler?).links = x.links := rfl
    rw [hlinks, Links.get?_closeAll, h.links, hsame]
    cases hlink : x.links.get? id with
    | none => rfl
    | some link =>
      simp only [Option.map_some, hx.isCancelled_rebind name handler? hlink, Carrier.endpoint.injEq]
      by_cases heq : link.name = name <;> simp [heq]
  nextLink := hnext.trans h.nextLink

end

/-! ### Every act -/

theorem Orderly.apply {x : Exchange η} (hx : x.Orderly) (a : Network.Act η) :
    (x.apply a).Orderly := by
  cases a with
  | bind name handler => exact hx.rebind name (some handler)
  | unbind name => exact hx.rebind name none
  | dial uri =>
    simp only [Exchange.apply]
    split
    · next b hb =>
      refine ⟨hx.past, ?_, hx.current, hx.apart, ?_⟩
      · intro id hid
        rw [Dict.get?_insert]
        split
        · rfl
        · exact hx.closed hid
      · intro id link hlink
        rw [Dict.get?_insert] at hlink
        split at hlink
        · obtain rfl := Option.some.inj hlink
          constructor
          · exact (hx.current hb).1
          · intro _
            exact hb
        · exact hx.held hlink
    · exact hx
  | close id =>
    have hsame : ∀ k, .binding k ∈ (x.apply (.close id)).cancelled ↔ .binding k ∈ x.cancelled := by
      simp [Exchange.apply]
    refine ⟨fun {k} hk => hx.past ((hsame k).mp hk), ?_, ?_,
      hx.apart, ?_⟩
    · intro id' hid
      rcases List.mem_append.mp hid with hid | hid
      · exact hx.closed hid
      · obtain ⟨link, hlink, heq⟩ := Option.map_eq_some_iff.mp (Option.mem_toList.mp hid)
        cases heq
        exact Option.isSome_of_mem hlink
    · intro name b hb
      rw [hsame]
      exact hx.current hb
    · intro id' link hlink
      rw [hsame]
      exact hx.held hlink

/-- Closing a link cancels its token and no other. -/
theorem isCancelled_close {x : Exchange η} {id id' : LinkId} {link : HeldLink η}
    (hlink : x.links.get? id' = some link) :
    (x.apply (.close id)).isCancelled id' link = (x.isCancelled id' link || decide (id = id')) := by
  rw [Bool.eq_iff_iff, Bool.or_eq_true, decide_eq_true_iff, isCancelled_iff, isCancelled_iff]
  by_cases h : id = id'
  · subst h
    simp [Exchange.apply, hlink]
  · simp [Exchange.apply, h]

/-- The token of the next link is not cancelled. -/
theorem Shows.not_cancelled {x : Exchange η} {n : Network η} (h : x.Shows n) (hx : x.Orderly)
    (hn : n.Numbered) : .link (.inside x.nextLink) ∉ x.cancelled := by
  intro hcancelled
  obtain ⟨link, hlink⟩ := Option.isSome_iff_exists.mp (hx.closed hcancelled)
  have hthere := h.links (.inside x.nextLink)
  rw [hlink] at hthere
  obtain ⟨k, hk, heq⟩ := hn _ _ hthere
  cases heq
  exact Nat.lt_irrefl _ (h.nextLink ▸ hk)

/-- Every act leaves a network as the exchange has it. -/
theorem Shows.apply {x : Exchange η} {n : Network η} (h : x.Shows n) (hx : x.Orderly)
    (hn : n.Numbered) (a : Network.Act η) : (x.apply a).Shows (a.apply n) := by
  cases a with
  | bind name handler =>
    exact h.rebind name (some handler) hx (Dict.get?_insert n.endpoints name · handler) rfl rfl
  | unbind name => exact h.rebind name none hx (Dict.get?_erase n.endpoints name) rfl rfl
  | dial uri =>
    have hbound := h.bindings uri.authority
    cases hb : x.bindings.get? uri.authority with
    | none =>
      rw [hb] at hbound
      have hnot : ¬n.isBound uri.authority = true := by
        simp [Network.isBound, Dict.contains, hbound]
      simp only [Network.Act.apply, Network.openInside_of_not_isBound hnot, Exchange.apply, hb]
      exact h
    | some b =>
      rw [hb] at hbound
      have hbound : n.isBound uri.authority = true := by
        simp [Network.isBound, Dict.contains, hbound]
      simp only [Network.Act.apply, Network.openInside_of_isBound hbound, Exchange.apply, hb]
      refine ⟨h.bindings, ?_, congrArg (· + 1) h.nextLink⟩
      intro id
      change (n.links.byId.insert _ _).get? id = _
      rw [h.nextLink, Dict.get?_insert, Dict.get?_insert]
      split
      · next hid =>
        subst hid
        have hlive : x.isCancelled (.inside x.nextLink) ⟨uri.raw, uri.authority, b⟩ = false := by
          rw [Bool.eq_false_iff, ne_eq, isCancelled_iff, not_or]
          exact ⟨h.not_cancelled hx hn, (hx.current hb).2⟩
        rw [Option.map_some]
        change _ = some ({
          uri := uri.raw
          carrier := .endpoint uri.authority
          closed := x.isCancelled _ _ } : Link)
        rw [hlive]
      · exact h.links id
  | close id =>
    have hlinks : (x.apply (.close id)).links = x.links := rfl
    refine ⟨h.bindings, ?_, h.nextLink⟩
    intro id'
    change (n.links.close id).get? id' = _
    rw [Links.get?_close_eq_map, hlinks, h.links]
    cases hlink : x.links.get? id' with
    | none => rfl
    | some link => simp only [Option.map_some, isCancelled_close hlink]

/-- A network is as the exchange has it after every run. -/
theorem shows_run (acts : List (Network.Act η)) :
    (run acts).Shows (Network.run acts) ∧ (run acts).Orderly := by
  induction acts using List.reverseRecOn with
  | nil =>
    refine ⟨⟨fun _ => rfl, fun _ => rfl, rfl⟩, ?_⟩
    refine ⟨fun h => ?_, fun h => ?_, fun h => ?_, fun h => ?_, fun h => ?_⟩
    all_goals cases h
  | append_singleton acts a ih =>
    obtain ⟨hshows, horderly⟩ := ih
    have hlast : run (acts ++ [a]) = (run acts).apply a := by
      rw [run, List.foldl_append, List.foldl_cons, List.foldl_nil, run]
    rw [hlast, Network.run_concat]
    exact ⟨hshows.apply horderly (Network.numbered_run acts) a, horderly.apply a⟩

/-- A link leads to the handler that it holds. -/
theorem Shows.farEnd_eq {x : Exchange η} {n : Network η} (h : x.Shows n) (hx : x.Orderly)
    (id : LinkId) : n.farEnd id = x.farEnd id := by
  unfold Network.farEnd Exchange.farEnd
  rw [h.links]
  cases hlink : x.links.get? id with
  | none => rfl
  | some link =>
    simp only [Option.map_some]
    cases hcancelled : x.isCancelled id link with
    | true => cases n.endpoints.get? link.name <;> rfl
    | false =>
      rw [Bool.eq_false_iff, ne_eq, isCancelled_iff, not_or] at hcancelled
      have hbound := h.bindings link.name
      rw [(hx.held hlink).2 hcancelled.2] at hbound
      rw [hbound]
      rfl

end Exchange

namespace Network

/-- Runs of binding, unbinding, opening and closing.  An address can be opened exactly if its
name is bound.  No two links that were opened are the same.  A link is closed exactly if it was
closed since it was opened, or the binding of its name changed; so if it is open, it leads to
the handler to which the name is bound, which is the one from when it was opened and runs the
calls over it, and if it is closed, calls over it fail before they get to any handler.  Closing a
link leaves all others as they are.  It makes no difference if each link holds its handler, and
is closed by a token below that of the binding. -/
theorem link_lives_with_binding :
    (∀ (acts : List (Act Handler)) (uri : Uri),
      (∃ id, Opens acts uri id) ↔ ∃ handler, Bound acts uri.authority handler) ∧
    (∀ (before mid : List (Act Handler)) (uri uri' : Uri) (id id' : LinkId),
      Opens before uri id → Opens (before ++ .dial uri :: mid) uri' id' → id ≠ id') ∧
    (∀ (before after : List (Act Handler)) (uri : Uri) (id : LinkId), Opens before uri id →
      let n := run (before ++ .dial uri :: after)
      (n.links.isClosed id = true ↔ ∃ a ∈ after, a.ends id uri.authority = true) ∧
      (n.links.isClosed id = false → ∃ handler, Bound before uri.authority handler ∧
        Bound (before ++ .dial uri :: after) uri.authority handler ∧
        n.farEnd id = .endpoint uri.authority handler uri.raw ∧
        ∀ m : Machine World Job, m.world.network = n →
          ReachesHandler m id uri.authority handler uri.raw) ∧
      (n.links.isClosed id = true → ∀ m : Machine World Job, m.world.network = n →
        FailsAtOnce m id uri.raw) ∧
      ∀ other, other ≠ id → (n.close other).links.isClosed id = n.links.isClosed id) ∧
    ∀ (acts : List (Act Handler)) (id : LinkId),
      (run acts).farEnd id = (Exchange.run acts).farEnd id := by
  refine ⟨fun _ _ => exists_opens_iff, fun _ _ _ _ _ _ => ne_of_opens, ?_, ?_⟩
  · intro before after uri id h n
    have hclosed : n.links.isClosed id = after.any fun a => a.ends id uri.authority :=
      isClosed_opened h after
    refine ⟨?_, ?_, ?_, ?_⟩
    · rw [hclosed, List.any_eq_true]
    · intro hopen
      obtain ⟨handler, hbound⟩ := exists_opens_iff.mp ⟨id, h⟩
      rw [hclosed] at hopen
      have hbound' := bound_of_open hbound hopen
      have hleads : n.farEnd id = .endpoint uri.authority handler uri.raw := by
        rw [farEnd_opened h, get?_run_eq_some_iff.mpr hbound', hopen]
        rfl
      refine ⟨handler, hbound, hbound', hleads, ?_⟩
      intro m hm
      exact reachesHandler_of_endpoint (hm ▸ hleads)
    · intro hended m hm
      refine failsAtOnce_of_closed ?_
      rw [hclosed] at hended
      rw [hm, farEnd_opened h, hended]
      cases (run (before ++ .dial uri :: after)).endpoints.get? uri.authority <;> rfl
    · intro other hother
      rw [Network.close, Links.isClosed_close]
      simp [hother]
  · intro acts id
    obtain ⟨hshows, horderly⟩ := Exchange.shows_run acts
    exact hshows.farEnd_eq horderly id

/-- A link outlives the closing of another one to the same endpoint, and a call over it is
answered there.  It ends when the name is bound again, be it to the same handler. -/
theorem link_ends_with_binding :
    let p : Uri := ⟨"local://p", .local, "p", none, none, by decide, by decide⟩
    let before : List (Act Handler) := [.bind "p" .echo]
    let beside := run (before ++ .dial p :: [.dial p, .close (.inside 2)])
    let bound := run (before ++ .dial p :: [.dial p, .bind "p" .echo])
    let call : Payload := ⟨[], [7]⟩
    let called :=
      Fiber.poll ((wire [] 1).request (.inside 1) call) { world := { network := beside } }
    Opens before p (.inside 1) ∧ Opens (before ++ [.dial p]) p (.inside 2) ∧
      LinkId.inside 1 ≠ .inside 2 ∧
      beside.farEnd (.inside 1) = .endpoint "p" .echo "local://p" ∧
      Fiber.result? called.1 = some (.ok call) ∧ called.2.world.received.get? "p" = some [call] ∧
      bound.links.isClosed (.inside 1) = true ∧
      FailsAtOnce { world := { network := bound } } (.inside 1) "local://p" := by
  intro p before beside bound call called
  obtain ⟨-, hdistinct, hlife, -⟩ := link_lives_with_binding
  have hfirst : Opens before p (.inside 1) := openInside_eq_ok_iff.mpr ⟨by decide +kernel, rfl⟩
  have hsecond : Opens (before ++ [.dial p]) p (.inside 2) :=
    openInside_eq_ok_iff.mpr ⟨by decide +kernel, rfl⟩
  obtain ⟨-, hopen, -, -⟩ := hlife before [.dial p, .close (.inside 2)] p _ hfirst
  obtain ⟨hbound, -, hfails, -⟩ := hlife before [.dial p, .bind "p" .echo] p _ hfirst
  have hclosed := hbound.mpr ⟨.bind "p" .echo, by simp, by decide +kernel⟩
  obtain ⟨handler, hbefore, -, hleads, hreaches⟩ := hopen (by decide +kernel)
  obtain rfl : Handler.echo = handler :=
    Option.some.inj (get?_run_eq_some_iff.mpr hbefore)
  have hcalled : called = _ := (hreaches _ rfl).request [] 0 call
  refine ⟨hfirst, hsecond, hdistinct _ _ _ _ _ _ hfirst hsecond, hleads, ?_, ?_, hclosed,
    hfails hclosed _ rfl⟩
  · rw [hcalled]
    rfl
  · rw [hcalled]
    rfl

end Network

end ServiceMesh
