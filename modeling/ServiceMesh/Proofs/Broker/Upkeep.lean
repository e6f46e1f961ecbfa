import ServiceMesh.Proofs.Concurrency.Runs
import ServiceMesh.Proofs.Pool.Opening
import ServiceMesh.Simulation.Action.Brokers

/-!
# The upkeep of a broker's pools

The pool of links between brokers is one of the pools of a broker
(`BrokerObject.furnished_addBroker`).  Its membership sets the addresses of that pool to those
of the members.  The upkeep goes over all pools of the broker, and sets the addresses of each to
those that the directory has for its destination, if the directory has any.

So a pass leaves the addresses of the pool between brokers as they are if the directory has
none for it, and otherwise takes over what the directory has (`heeds_upkeepFleet`).  They are
those of the members after the pass, as before, exactly if the directory has none or just these
(`tier_kept_iff`).
-/

namespace ServiceMesh

/-! ## Arenas -/

namespace Arena

variable {α : Type} (a : Arena α)

theorem get?_modify (ref r : Nat) (f : α → α) :
    (a.modify ref f).get? r = if ref = r then (a.get? ref).map f else a.get? r :=
  Dict.get?_modify a.objects ref r f

theorem get?_set_self (ref : Nat) (x : α) : (a.set ref x).get? ref = some x :=
  Dict.get?_insert_self a.objects ref x

theorem get?_add_self (x : α) : (a.add x).2.get? (a.add x).1 = some x :=
  Dict.get?_insert_self a.objects a.next x

theorem named?_addNamed_self (name : String) (x : α) :
    (a.addNamed name x).2.named? name = some x := by
  have hfind : (a.addNamed name x).2.find? name = some a.next :=
    Dict.get?_insert_self a.names name a.next
  rw [named?, hfind]
  exact Dict.get?_insert_self a.objects a.next x

end Arena

/-! ## The pool between brokers -/

/-- The pool under a reference. -/
def World.poolAt? (w : World) (ref : Nat) : Option Pool := (w.pools.get? ref).map (·.pool)

namespace BrokerObject

variable (b : BrokerObject)

/-- The addresses of the pool between brokers. -/
def tierUris (w : World) : List String := ((w.poolAt? b.pool).map (·.uris)).getD []

/-- The addresses of the members. -/
def memberUris (w : World) : List String :=
  ((w.nodes.get? b.node).map (·.membership.peers.uris)).getD []

/-- What the directory has for the pool between brokers. -/
def found (w : World) : Option (List String) :=
  (b.directory.bind w.directories.get?).bind fun d => d.lookup brokerDestination

/-- The pool between brokers is one of the broker's pools, under its destination. -/
structure Furnished (w : World) : Prop where
  fleet : ∃ f, w.fleets.get? b.fleet = some f ∧ f.get? brokerDestination = some b.pool
  pool : (w.poolAt? b.pool).map (·.destination) = some brokerDestination
  known : b.pool < w.pools.next

end BrokerObject

/-! ## Sections on pools -/

section

variable {α : Type} (ref r : Nat) (w : World)

/-- A world after a section on a pool and the links. -/
def World.afterPool (f : Pool → Links → α × Pool × Links) : World :=
  let r := f ((w.poolAt? ref).getD default) w.network.links
  { w with
    pools := w.pools.modify ref fun o => { o with pool := r.2.1 }
    network := { w.network with links := r.2.2 } }

/-- A section on one pool leaves the other pools alone. -/
theorem poolAt?_afterPool (f : Pool → Links → α × Pool × Links) :
    (w.afterPool ref f).poolAt? r
      = if ref = r then (w.poolAt? ref).map fun p => (f p w.network.links).2.1
        else w.poolAt? r := by
  unfold World.afterPool World.poolAt?
  simp only [Arena.get?_modify]
  split
  · cases w.pools.get? ref with
    | none => rfl
    | some o => rfl
  · rfl

/-- A change of the line of a pool leaves every pool alone. -/
theorem poolAt?_modify {g : PoolObject → PoolObject} (h : ∀ o, (g o).pool = o.pool) :
    ({ w with pools := w.pools.modify ref g } : World).poolAt? r = w.poolAt? r := by
  unfold World.poolAt?
  simp only [Arena.get?_modify]
  split
  · next heq =>
    subst heq
    rw [Option.map_map]
    exact congrArg (fun f => (w.pools.get? ref).map f) (funext h)
  · rfl

end

/-! ## What a pass leaves alone -/

namespace BrokerObject

open ServiceMesh.Fiber (Heeds Tame stable_const)

variable (b : BrokerObject)

/-- What a broker stands on is the same. -/
structure SameGround (w w' : World) : Prop where
  fleets : w'.fleets = w.fleets
  directories : w'.directories = w.directories
  nodes : w'.nodes = w.nodes
  next : w'.pools.next = w.pools.next
  pool : (w'.poolAt? b.pool).map (·.destination) = (w.poolAt? b.pool).map (·.destination)

/-- A broker is furnished, and its directory and its members are given. -/
structure Stands (answer : Option (List String)) (members : List String) (w : World) : Prop where
  furnished : b.Furnished w
  found : b.found w = answer
  members : b.memberUris w = members

/-- The course of a broker in which the pool between brokers may come to have the given
addresses. -/
abbrev course (answer : Option (List String)) (members uris : List String) :
    Course (Machine World Job) :=
  .since (fun m => b.Stands answer members m.world) fun m => b.tierUris m.world = uris

variable {b} {answer : Option (List String)} {members uris : List String} {w w' : World}

/-- A broker whose ground is the same stands as before. -/
theorem Stands.of_same (hw : b.Stands answer members w) (h : b.SameGround w w') :
    b.Stands answer members w' := by
  obtain ⟨⟨hfleet, hpool, hknown⟩, hfound, hmembers⟩ := hw
  refine ⟨⟨?_, h.pool.trans hpool, ?_⟩, ?_, ?_⟩
  · rw [h.fleets]
    exact hfleet
  · rw [h.next]
    exact hknown
  · rw [← hfound, BrokerObject.found, BrokerObject.found, h.directories]
  · rw [← hmembers, memberUris, memberUris, h.nodes]

section

variable {α β : Type} {section_ : Machine World Job → β × Machine World Job} {next : β → Proc α}

/-- A section that keeps the ground and the addresses of the tier is tame. -/
theorem tame_step
    (h : ∀ m, b.SameGround m.world (section_ m).2.world ∧
      b.tierUris (section_ m).2.world = b.tierUris m.world)
    (hnext : ∀ a, Tame (b.course answer members uris) (next a)) :
    Tame (b.course answer members uris) (Fiber.step section_ next) :=
  .step (fun m hm => ⟨hm.of_same (h m).1, fun hs => (h m).2.trans hs⟩) hnext

/-- The pools, the nodes, the directories and the fleets are the same. -/
structure SameHolds (w w' : World) : Prop where
  fleets : w'.fleets = w.fleets
  directories : w'.directories = w.directories
  nodes : w'.nodes = w.nodes
  pools : w'.pools = w.pools

/-- A section that leaves what the world holds alone, whatever it does to the network and to
the time. -/
theorem tame_apart (h : ∀ m, SameHolds m.world (section_ m).2.world)
    (hnext : ∀ a, Tame (b.course answer members uris) (next a)) :
    Tame (b.course answer members uris) (Fiber.step section_ next) := by
  refine tame_step ?_ hnext
  intro m
  obtain ⟨hfleets, hdirectories, hnodes, hpools⟩ := h m
  have hpool : (section_ m).2.world.poolAt? b.pool = m.world.poolAt? b.pool := by
    rw [World.poolAt?, World.poolAt?, hpools]
  refine ⟨⟨hfleets, hdirectories, hnodes, congrArg Arena.next hpools, ?_⟩, ?_⟩
  · rw [hpool]
  · rw [tierUris, tierUris, hpool]

/-- A section on the network is tame. -/
theorem tame_onNetwork (f : Network Handler → α × Network Handler) :
    Tame (b.course answer members uris) (Proc.onNetwork f) := by
  apply tame_apart
  · intro m
    exact ⟨rfl, rfl, rfl, rfl⟩
  · intro a
    exact .pure a

/-- Waiting is tame. -/
theorem tame_sleep (ms : Nat) :
    Tame (b.course answer members uris) (Process.sleep ms : Proc Unit) := by
  apply tame_apart
  · intro m
    exact ⟨rfl, rfl, rfl, rfl⟩
  · intro id
    refine .guarded (fun _ hm => ⟨hm, fun hs => hs⟩) (.await (.pure ())) ?_
    intro a
    exact .pure a

/-- Opening a link over a transport is tame. -/
theorem tame_openOver (uri : Uri) (transport : Transport) :
    Tame (b.course answer members uris) (openOver dialer uri transport) := by
  cases transport with
  | inside => exact tame_onNetwork fun n => n.openInside uri.raw uri.authority
  | outside name standIn =>
    have hdelayed {f : Proc (Except Fault LinkId)} (hf : Tame (b.course answer members uris) f) :
        Tame (b.course answer members uris)
          (if 0 < standIn.delayMs then dialer.sleep standIn.delayMs >>= fun _ => f else f) := by
      split
      · apply (tame_sleep standIn.delayMs).bind
        intro _
        exact hf
      · exact hf
    simp only [openOver]
    refine hdelayed ?_
    cases standIn.refusal with
    | some reason => exact .pure _
    | none =>
      exact tame_onNetwork fun n =>
        (Except.ok (n.openOutside uri.raw name standIn.certificate).1,
          (n.openOutside uri.raw name standIn.certificate).2)

/-- Opening a link is tame, whatever its address. -/
theorem tame_openLink (transports : List Transport) (uri : String) :
    Tame (b.course answer members uris) (openLink dialer transports uri) := by
  unfold openLink
  cases resolve transports uri with
  | error fault => exact .pure _
  | ok e =>
    apply (tame_openOver e.1 e.2).bind
    intro opened
    cases opened with
    | error fault => exact .pure _
    | ok id => exact tame_onNetwork (checkPin e.1 id)

/-- A section on a pool, but for those that set the addresses of the pool between brokers. -/
theorem sameGround_afterPool (ref : Nat) {f : Pool → Links → α × Pool × Links}
    (h : ref = b.pool → Pool.Plain f) (w : World) :
    b.SameGround w (w.afterPool ref f) ∧ b.tierUris (w.afterPool ref f) = b.tierUris w := by
  have hpool := poolAt?_afterPool ref b.pool w f
  by_cases href : ref = b.pool
  · have hplain := h href
    subst href
    rw [if_pos rfl] at hpool
    refine ⟨⟨rfl, rfl, rfl, rfl, ?_⟩, ?_⟩
    · rw [hpool, Option.map_map]
      exact congrArg (fun g => (w.poolAt? b.pool).map g)
        (funext fun p => (hplain p w.network.links).1)
    · rw [tierUris, tierUris, hpool, Option.map_map]
      exact congrArg (fun g => ((w.poolAt? b.pool).map g).getD [])
        (funext fun p => (hplain p w.network.links).2)
  · rw [if_neg href] at hpool
    exact ⟨⟨rfl, rfl, rfl, rfl, by rw [hpool]⟩, by rw [tierUris, tierUris, hpool]⟩

/-- A section on a pool is tame unless it sets the addresses of the tier. -/
theorem tame_onPool (ref : Nat) {f : Pool → Links → α × Pool × Links}
    (h : ref = b.pool → Pool.Plain f) : Tame (b.course answer members uris) (onPool ref f) := by
  apply tame_step (fun m => sameGround_afterPool ref h m.world)
  intro _
  exact .pure _

end

/-! ## Passes -/

variable {transports : List Transport}

/-- A pool under a reference, with what is around it. -/
abbrev hostAt (transports : List Transport) (ref : Nat) : PoolHost Proc :=
  poolHost transports (fullWire transports) ref

/-- Everything that a pool does in order to open links is tame. -/
theorem opening_tame (ref : Nat) :
    (hostAt transports ref).Opening fun _ f => Tame (b.course answer members uris) f where
  done := .pure
  bind hf hg := hf.bind hg
  all hfs := Tame.all hfs
  openLink uri := tame_openLink transports uri
  atomically hf := tame_onPool ref fun _ => hf

/-- A change of the line of a pool. -/
theorem sameGround_modify (ref : Nat) {g : PoolObject → PoolObject}
    (h : ∀ o, (g o).pool = o.pool) (w : World) :
    b.SameGround w { w with pools := w.pools.modify ref g } ∧
      b.tierUris { w with pools := w.pools.modify ref g } = b.tierUris w := by
  have hpool := poolAt?_modify ref b.pool w h
  exact ⟨⟨rfl, rfl, rfl, rfl, by rw [hpool]⟩, by rw [tierUris, tierUris, hpool]⟩

/-- Joining the line of a pool leaves the ground and the tier alone. -/
theorem sameGround_joinLine (ref : Nat) (w : World) :
    b.SameGround w (joinLine ref w).2 ∧ b.tierUris (joinLine ref w).2 = b.tierUris w :=
  sameGround_modify ref (g := fun o => { o with
    line := o.line ++ [o.nextTicket], nextTicket := o.nextTicket + 1 }) (fun _ => rfl) w

/-- Leaving the line of a pool leaves the ground and the tier alone. -/
theorem sameGround_leaveLine (ref ticket : Nat) (w : World) :
    b.SameGround w (leaveLine ref ticket w) ∧
      b.tierUris (leaveLine ref ticket w) = b.tierUris w :=
  sameGround_modify ref (g := fun o => { o with line := o.line.filter (· ≠ ticket) })
    (fun _ => rfl) w

/-- What is done to a pool in line. -/
theorem heeds_inLine {α : Type} (ref : Nat) {body : Proc α} {Q : World → Prop}
    (hQ : (b.course answer members uris).Stable fun m => Q m.world)
    (hleave : ∀ ticket w, Q w → Q (leaveLine ref ticket w))
    (hbody : ∀ m, b.Stands answer members m.world →
      Heeds (b.course answer members uris) body (fun _ m => Q m.world) m)
    (m : Machine World Job) :
    Heeds (b.course answer members uris) (inLine ref body) (fun _ m => Q m.world) m := by
  intro t _ ht
  obtain ⟨hjoined, huris⟩ := sameGround_joinLine (b := b) ref t.world
  refine ⟨ht.of_same hjoined, fun hs => huris.trans hs, ?_, _, fun _ => hQ, ?_, ?_⟩
  · intro u _ hu
    obtain ⟨hleft, huris⟩ := sameGround_leaveLine (b := b) ref (joinLine ref t.world).1 u.world
    constructor
    · exact hu.of_same hleft
    · intro hs
      exact huris.trans hs
  · intro u _ hu _
    exact hbody u hu
  · intro _ u _ _ hu
    exact hleave _ _ hu

/-- Setting the addresses of another pool leaves the pool between brokers alone. -/
theorem tame_refresh {ref : Nat} (href : ref ≠ b.pool) (us : List String) :
    Tame (b.course answer members uris) ((hostAt transports ref).refresh us) := by
  refine fun m _ => (heeds_inLine ref (Q := fun _ => True) (stable_const True)
    (fun _ _ => id) ?_ m)
  intro t ht
  refine Tame.bind (tame_onPool ref fun h => absurd h href) ?_ t ht
  intro summary
  exact (opening_tame ref).eager summary

/-- The section that sets the addresses of the pool between brokers. -/
theorem tierUris_setUris (hw : b.Furnished w) (takes : String → Bool) (us : List String) :
    let w' := w.afterPool b.pool (Pool.setUris takes us)
    b.SameGround w w' ∧ b.tierUris w' = Pool.takenUp takes us := by
  intro w'
  obtain ⟨p, hp, -⟩ := Option.map_eq_some_iff.mp hw.pool
  have hpool : w'.poolAt? b.pool
      = some (Pool.setUris takes us p w.network.links).2.1 := by
    rw [poolAt?_afterPool, if_pos rfl, hp]
    rfl
  refine ⟨⟨rfl, rfl, rfl, rfl, ?_⟩, ?_⟩
  · rw [hpool, hp]
    exact congrArg some (Pool.destination_setUris _ us p w.network.links)
  · rw [tierUris, hpool]
    exact Pool.uris_setUris _ us p w.network.links

/-- Setting the addresses of the pool between brokers. -/
theorem heeds_refresh (us : List String) (m : Machine World Job) :
    Heeds (b.course answer members (Pool.takenUp (resolves transports) us))
      ((hostAt transports b.pool).refresh us)
      (fun _ m => b.tierUris m.world = Pool.takenUp (resolves transports) us) m := by
  refine heeds_inLine b.pool (Q := fun w => b.tierUris w = Pool.takenUp (resolves transports) us)
    (fun _ _ hlater _ hs => hlater hs) ?_ ?_ m
  · intro ticket w hw
    exact (sameGround_leaveLine b.pool ticket w).2.trans hw
  · intro t ht u _ hu
    obtain ⟨hsame, hset⟩ := tierUris_setUris hu.furnished (resolves transports) us
    have hu' := hu.of_same hsame
    refine ⟨hu', fun _ => hset, ?_⟩
    refine Tame.heeds ((opening_tame b.pool).eager _) (fun _ _ hlater _ hs => hlater hs) hu' hset

/-- The addresses of the pool between brokers after a pass over it. -/
def upkept (b : BrokerObject) (transports : List Transport) (w : World) : List String :=
  match b.found w with
  | some us => Pool.takenUp (resolves transports) us
  | none => b.tierUris w

variable {us : List String}

/-- One pass over another pool. -/
theorem tame_upkeep {ref : Nat} (href : ref ≠ b.pool) :
    Tame (b.course answer members uris) ((hostAt transports ref).upkeep (lookup b.directory)) := by
  have hread : Tame (b.course answer members uris) ((hostAt transports ref).read (·.destination)) :=
    tame_onPool ref fun _ => Pool.plain_read _
  apply (opening_tame ref).retry.bind
  intro _
  apply hread.bind
  intro destination
  have hlookup : Tame (b.course answer members uris) (lookup b.directory destination) :=
    .step (fun _ hm => ⟨hm, id⟩) fun _ => .pure _
  apply hlookup.bind
  intro found
  cases found with
  | some us =>
    apply (tame_refresh href us).bind
    intro _
    exact .pure _
  | none => exact .pure _

/-- One pass over the pool between brokers sets its addresses if the directory has some. -/
theorem heeds_upkeep
    (huris : ∀ us, answer = some us → uris = Pool.takenUp (resolves transports) us)
    {m : Machine World Job} (hm : b.Stands answer members m.world) :
    Heeds (b.course answer members uris) ((hostAt transports b.pool).upkeep (lookup b.directory))
      (fun _ m => answer ≠ none → b.tierUris m.world = uris) m := by
  apply ((opening_tame b.pool).retry m hm).andThen hm
  intro _ t _ ht _
  refine Heeds.andThen (Q := fun name _ => name = brokerDestination) ht ?_ ?_
  · intro u _ hu
    obtain ⟨p, hp, hname⟩ := Option.map_eq_some_iff.mp hu.furnished.pool
    obtain ⟨hsame, huris⟩ := sameGround_afterPool b.pool (fun _ => Pool.plain_read (·.destination))
      u.world
    refine ⟨hu.of_same hsame, fun hs => huris.trans hs, ?_⟩
    change ((u.world.poolAt? b.pool).getD default).destination = brokerDestination
    rw [hp]
    exact hname
  · rintro destination t _ ht rfl
    refine Heeds.andThen (Q := fun found _ => found = answer) ht ?_ ?_
    · intro u _ hu
      exact ⟨hu, id, hu.found⟩
    · rintro found u _ hu rfl
      cases found with
      | none =>
        intro h
        exact absurd rfl h
      | some us =>
        obtain rfl := huris us rfl
        apply (heeds_refresh us u).andThen hu
        intro _ _ _ _ hset _
        exact hset

/-- One pass over several pools.  What a pass over one of them sets, the passes over the others
leave. -/
theorem heeds_upkeepAll
    (huris : ∀ us, answer = some us → uris = Pool.takenUp (resolves transports) us)
    (refs : List Nat) {m : Machine World Job} (hm : b.Stands answer members m.world) :
    Heeds (b.course answer members uris)
      (upkeepAll (lookup b.directory) (refs.map (hostAt transports)))
      (fun _ m => b.pool ∈ refs → answer ≠ none → b.tierUris m.world = uris) m := by
  induction refs generalizing m with
  | nil =>
    intro h
    exact nomatch h
  | cons ref rest ih =>
    have hfirst : Heeds (b.course answer members uris)
        ((hostAt transports ref).upkeep (lookup b.directory))
        (fun _ m => b.pool = ref → answer ≠ none → b.tierUris m.world = uris) m := by
      by_cases href : ref = b.pool
      · subst href
        apply (heeds_upkeep huris hm).mono hm
        intro _ _ _ _ hset _
        exact hset
      · apply (tame_upkeep href m hm).mono hm
        intro _ _ _ _ _ h
        exact absurd h.symm href
    apply hfirst.andThen hm
    intro _ t _ ht hset
    apply (ih ht).mono ht
    intro _ u hlater _ hrest hmem
    rcases List.mem_cons.mp hmem with h | h
    · intro hanswer
      exact hlater (hset h hanswer)
    · exact hrest h

/-- One pass over all pools of a broker. -/
theorem heeds_upkeepFleet
    (huris : ∀ us, answer = some us → uris = Pool.takenUp (resolves transports) us)
    {m : Machine World Job} (hm : b.Stands answer members m.world) :
    Heeds (b.course answer members uris)
      (upkeepFleet transports (fullWire transports) b.fleet b.directory)
      (fun _ t => (answer = none → b.tierUris m.world = uris) → b.tierUris t.world = uris) m := by
  have hpass : Heeds (b.course answer members uris)
      (upkeepFleet transports (fullWire transports) b.fleet b.directory)
      (fun _ t => answer ≠ none → b.tierUris t.world = uris) m := by
    refine Heeds.andThen (Q := fun refs _ => b.pool ∈ refs) hm ?_ ?_
    · intro t _ ht
      obtain ⟨f, hf, hpool⟩ := ht.furnished.fleet
      have hrefs : poolsOf b.fleet t.world = f.pools.values := by
        rw [poolsOf, hf]
        rfl
      refine ⟨ht, id, ?_⟩
      change b.pool ∈ poolsOf b.fleet t.world
      rw [hrefs]
      exact Dict.mem_values_of_get? hpool
    · intro refs t _ ht hmem
      apply (heeds_upkeepAll huris refs ht).mono ht
      intro _ _ _ _ hset
      exact hset hmem
  apply hpass.mono hm
  intro _ t hlater _ hset hbefore
  by_cases hanswer : answer = none
  · exact hlater (hbefore hanswer)
  · exact hset hanswer

/-! ## The members -/

variable (b)

/-- The addresses of the pool between brokers are those of the members. -/
def Tracks (w : World) : Prop := ∀ uri, uri ∈ b.tierUris w ↔ uri ∈ b.memberUris w

/-- The broker stays furnished, and its directory, its members and the addresses of the pool
between brokers stay as they are. -/
structure LeftAlone (w w' : World) : Prop where
  furnished : b.Furnished w'
  found : b.found w' = b.found w
  members : b.memberUris w' = b.memberUris w
  tier : b.tierUris w' = b.tierUris w

variable {b}

theorem poolOf_of_none {fleet : Nat} {f : Fleet Nat} (destination : String)
    (hf : w.fleets.get? fleet = some f) (hnone : f.get? destination = none) :
    poolOf fleet destination w = (w.pools.next, { w with
      pools := (w.pools.add { pool := Pool.new destination f.settings }).2
      fleets := w.fleets.set fleet (f.add destination w.pools.next) }) := by
  simp only [poolOf, hf, hnone]
  rfl

/-- A new broker is furnished, and has neither members nor addresses of other brokers. -/
theorem furnished_addBroker (name : String) (settings : Settings) (directory : Option Nat)
    (w : World) :
    ∃ b, (w.addBroker name settings directory).brokers.named? name = some b ∧
      b.directory = directory ∧ b.Furnished (w.addBroker name settings directory) ∧
      b.tierUris (w.addBroker name settings directory) = [] ∧
      b.memberUris (w.addBroker name settings directory) = [] := by
  have hmade := poolOf_of_none (w := { w with
      tables := (w.tables.add { watcher := some w.routers.next }).2
      fleets := (w.fleets.add { settings := settings.pools }).2 })
    brokerDestination (Arena.get?_add_self w.fleets _) rfl
  have hpool := Arena.get?_add_self w.pools { pool := Pool.new brokerDestination settings.pools }
  unfold World.addBroker
  simp only [hmade]
  refine ⟨_, Arena.named?_addNamed_self _ _ _, rfl,
    ⟨⟨_, Arena.get?_set_self .., Dict.get?_insert_self ..⟩, ?_, Nat.lt_succ_self _⟩, ?_, ?_⟩
  · exact congrArg (fun o => (o.map (·.pool)).map (·.destination)) hpool
  · exact congrArg (fun o => ((o.map (·.pool)).map (·.uris)).getD []) hpool
  · refine (congrArg (fun o => (o.map (·.membership.peers.uris)).getD [])
      (Arena.get?_add_self w.nodes _)).trans ?_
    exact List.mergeSort_nil

/-- A pool that is made for a destination leaves a broker alone. -/
theorem leftAlone_poolOf (hb : b.Furnished w) (fleet : Nat) (destination : String) :
    b.LeftAlone w (poolOf fleet destination w).2 := by
  have hsame : b.LeftAlone w w := ⟨hb, rfl, rfl, rfl⟩
  unfold poolOf
  split
  · exact hsame
  · next f hf =>
    split
    · exact hsame
    · next hnone =>
      have hpool : (w.pools.add { pool := Pool.new destination f.settings }).2.get? b.pool
          = w.pools.get? b.pool := Dict.get?_insert_of_ne _ (Nat.ne_of_gt hb.known) _
      refine ⟨⟨?_, ?_, Nat.lt_succ_of_lt hb.known⟩, rfl, rfl, ?_⟩
      · obtain ⟨g, hg, hgpool⟩ := hb.fleet
        by_cases hfleet : fleet = b.fleet
        · subst hfleet
          cases hf.symm.trans hg
          refine ⟨_, Arena.get?_set_self .., ?_⟩
          have hne : destination ≠ brokerDestination := by
            rintro rfl
            rw [hgpool] at hnone
            cases hnone
          exact (Dict.get?_insert_of_ne _ hne _).trans hgpool
        · exact ⟨g, (Dict.get?_insert_of_ne _ hfleet _).trans hg, hgpool⟩
      · rw [← hb.pool, World.poolAt?, World.poolAt?, hpool]
      · rw [tierUris, tierUris, World.poolAt?, World.poolAt?, hpool]

/-- A pass of the upkeep over the pools of a broker, of whose members, directory and pool
between brokers others take no hold meanwhile, takes over for that pool what the directory has
for it.  If its addresses are those of the members before, they still are after the pass
exactly if the directory has none, or has those of the members and what no transport takes. -/
theorem tier_kept_iff {meanwhile : Machine World Job → Machine World Job → Prop}
    (hmeanwhile : ∀ m m', meanwhile m m' → b.Furnished m.world → b.LeftAlone m.world m'.world)
    {m m' : Machine World Job} (hb : b.Furnished m.world) (hbefore : b.Tracks m.world)
    (h : Fiber.Runs meanwhile (upkeepFleet transports (fullWire transports) b.fleet b.directory)
      m () m') :
    b.tierUris m'.world = b.upkept transports m.world ∧
      b.memberUris m'.world = b.memberUris m.world ∧
      (b.Tracks m'.world ↔ ∀ us, b.found m.world = some us → ∀ uri,
        uri ∈ us ∧ resolves transports uri = true ↔ uri ∈ b.memberUris m.world) := by
  have huris (us : List String) (hus : b.found m.world = some us) :
      b.upkept transports m.world = Pool.takenUp (resolves transports) us := by
    rw [upkept, hus]
  have hstands : b.Stands (b.found m.world) (b.memberUris m.world) m.world := ⟨hb, rfl, rfl⟩
  have hothers (s t : Machine World Job) (change : meanwhile s t)
      (hs : b.Stands (b.found m.world) (b.memberUris m.world) s.world) :
      b.Stands (b.found m.world) (b.memberUris m.world) t.world ∧
        (b.tierUris s.world = b.upkept transports m.world →
          b.tierUris t.world = b.upkept transports m.world) := by
    obtain ⟨hfurnished, hfound, hmembers, htier⟩ := hmeanwhile s t change hs.furnished
    constructor
    · exact ⟨hfurnished, hfound.trans hs.found, hmembers.trans hs.members⟩
    · intro hheld
      exact htier.trans hheld
  have hstable (_ : Unit) : (b.course (b.found m.world) (b.memberUris m.world)
      (b.upkept transports m.world)).Stable fun t =>
        (b.found m.world = none → b.tierUris m.world = b.upkept transports m.world) →
          b.tierUris t.world = b.upkept transports m.world := by
    intro _ _ hlater _ hs hnone
    exact hlater (hs hnone)
  obtain ⟨hafter, hset⟩ := (heeds_upkeepFleet huris hstands).runs hothers hstable hstands h
  have htier : b.tierUris m'.world = b.upkept transports m.world := by
    apply hset
    intro hnone
    rw [upkept, hnone]
  refine ⟨htier, hafter.members, ?_⟩
  unfold Tracks
  rw [htier, hafter.members]
  cases hfound : b.found m.world with
  | none =>
    rw [upkept, hfound]
    apply iff_of_true hbefore
    intro _ h
    exact nomatch h
  | some us =>
    rw [huris us hfound]
    simp only [Pool.mem_takenUp, Option.some.injEq, forall_eq']

namespace Sample

/-- A world with a directory that has an address for the pool between brokers. -/
def bare : World :=
  let directory := Directory.table (Dict.empty.insert brokerDestination ["local://x:1"])
  { directories := (Arena.add {} directory).2 }

/-- A broker without members goes by the directory. -/
def world : World := bare.addBroker "b1" {} (some 0)

/-- What others may do meanwhile: they have a pool made for a destination. -/
def MakesPool (m m' : Machine World Job) : Prop :=
  ∃ fleet destination, m'.world = (poolOf fleet destination m.world).2

/-- A pass of its upkeep. -/
def pass (b : BrokerObject) : Proc Unit :=
  upkeepFleet [.inside] (fullWire [.inside]) b.fleet b.directory

/-- The machine after the pass. -/
def passed (b : BrokerObject) : Machine World Job := (Fiber.poll (pass b) { world := world }).2

/-- Whether the pass is over, and the addresses of other brokers that it left. -/
def outcome (b : BrokerObject) : Option (Option Unit × List String) :=
  some ((Fiber.poll (pass b) { world := world }).1.result?, b.tierUris (passed b).world)

end Sample

open Sample in
/-- A broker without members takes over what its directory has for the pool between brokers. -/
theorem tier_overtaken :
    ∃ b, world.brokers.named? "b1" = some b ∧ b.Furnished world ∧ b.Tracks world ∧
      b.tierUris (passed b).world = ["local://x:1"] ∧ b.memberUris (passed b).world = [] ∧
      ¬b.Tracks (passed b).world := by
  obtain ⟨b, hb, hdirectory, hfurnished, htier, hmembers⟩ :=
    furnished_addBroker "b1" {} (some 0) bare
  have htracks : b.Tracks world := by
    intro uri
    rw [world, htier, hmembers]
  have houtcome : outcome b = some (some (), ["local://x:1"]) := by
    have hnamed : (world.brokers.named? "b1").bind outcome = some (some (), ["local://x:1"]) := by
      decide +kernel
    rwa [world, hb] at hnamed
  simp only [outcome, Option.some.injEq, Prod.mk.injEq] at houtcome
  have hrun : Fiber.Runs MakesPool (pass b) { world := world } () (passed b) :=
    .of_poll (Prod.ext (Fiber.eq_done_of_result? houtcome.1) rfl)
  have hothers (m m' : Machine World Job) (change : MakesPool m m')
      (hb' : b.Furnished m.world) : b.LeftAlone m.world m'.world := by
    obtain ⟨fleet, destination, hworld⟩ := change
    rw [hworld]
    exact leftAlone_poolOf hb' fleet destination
  have hfound : b.found world = some ["local://x:1"] := by
    rw [found, hdirectory]
    decide +kernel
  obtain ⟨-, hkept, hiff⟩ := tier_kept_iff hothers hfurnished htracks hrun
  have hnone : b.memberUris world = [] := hmembers
  refine ⟨b, hb, hfurnished, htracks, houtcome.2, hkept.trans hnone, ?_⟩
  intro hafter
  have hmember := (hiff.mp hafter _ hfound "local://x:1").mp (by decide +kernel)
  rw [hnone] at hmember
  cases hmember

end BrokerObject

end ServiceMesh
