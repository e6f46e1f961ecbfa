import ServiceMesh.Report.Values
import ServiceMesh.Simulation.World

/-!
# Views of a world

What an observer sees of the parts of a world.  A part that keeps a journal shows what
was added since it was last looked at, so looking at it changes the world: the journal
is marked as seen.
-/

namespace ServiceMesh

open Document (nat text texts flag bytes list record ofOption ofExcept optional)

namespace World

/-! ## Links and pools -/

/-- The number of a link, which is not shown once brokers open links of their own. -/
def linkNumber (w : World) (id : LinkId) : Document :=
  if w.brokers.isEmpty && w.nodes.isEmpty && w.fleets.isEmpty then nat id.number else .null

/-- A link. -/
def viewLink (w : World) (id : LinkId) : Document :=
  record [("id", w.linkNumber id), ("uri", text (w.network.links.uriOf id)),
    ("closed", flag (w.network.links.isClosed id)),
    ("cert", ofOption bytes ((w.network.links.get? id).bind Link.certificate))]

/-- A link over a transport to the outside. -/
def viewOutside (link : Link) : Document :=
  record [("uri", text link.uri), ("closed", flag link.closed)]

/-- A pool. -/
def viewPool (p : Pool) : Document :=
  record [("destination", text p.destination), ("uris", texts p.uris),
    ("active", texts p.activeUris), ("unhealthy", texts p.unhealthyUris),
    ("refreshed", flag p.refreshed), ("checked", flag p.checked)]

/-- The pool under a reference. -/
def pool? (w : World) (ref : Nat) : Option Pool := (w.pools.get? ref).map (·.pool)

/-- All pools of a fleet, by destination. -/
def viewFleet (w : World) (ref : Nat) : Document :=
  match w.fleets.get? ref with
  | none => .null
  | some f => list ((f.destinations.filterMap fun d => (f.get? d).bind w.pool?).map viewPool)

/-! ## Routes -/

/-- Locators by their written forms. -/
def viewLocators (ls : List Locator) : Document := texts (sortedTexts (ls.map Locator.gsv))

/-- The fields of a responder that every observer sees. -/
def responderFields (w : World) (r : Responder) : List (String × Document) :=
  [("instance", text r.key), ("app", text r.app.name), ("ip", text r.app.ip),
    ("weight", nat r.app.weight.toNat), ("status", r.status.toDocument),
    ("serving", flag r.isServing), ("remote", flag r.isRemote),
    ("services", viewLocators r.services),
    match r.route with
      | .direct link => ("conn", text (w.network.links.uriOf link))
      | .peer uri => ("via", text uri)]

/-- A responder of a broker. -/
def viewProvider (w : World) (r : Responder) : Document := record (w.responderFields r)

/-- A responder with the number of its link, which is zero if it has none. -/
def viewResponder (w : World) (r : Responder) : Document :=
  record (w.responderFields r
    ++ [("connection_id", nat ((r.link?.map LinkId.number).getD 0)),
      ("debug", text (r.debugText w.network.links))])

/-- A change of a route table. -/
def viewChange (c : RouteChange) : Document :=
  record ([("kind", text c.kind), ("instance", text c.instanceId.toText), ("app", text c.appName),
    ("services", viewLocators c.services)]
    ++ match c with
      | .registered .. => []
      | .unregistered _ _ _ removed => [("removed", flag removed)]
      | .statusChanged _ _ _ before after =>
          [("from", before.toDocument), ("to", after.toDocument)])

/-- A change as one line. -/
def changeLine (c : RouteChange) : String :=
  c.kind ++ ":" ++ c.instanceId.toText ++ ":" ++ toString c.services.length

/-- The hashes of the services that changes affect, in order. -/
def affectedHashes (changes : List RouteChange) : List Nat :=
  (changes.flatMap fun c => c.services.map fun l => l.hash.toNat).mergeSort

/-- A route table with the changes that were not seen yet. -/
def viewTable (w : World) (o : TableObject) : Document :=
  let changes := o.history.drop o.reported
  record [("responders", list (o.table.responders.map w.viewResponder)),
    ("len", nat o.table.size), ("empty", flag o.table.isEmpty),
    ("all", texts o.table.allServices), ("names", texts o.table.serviceNames),
    ("changes", list (changes.map viewChange)),
    ("invalidated", list ((affectedHashes changes).map nat)),
    ("evicted", texts (changes.filterMap fun c => c.gone?.map Uuid.toText)),
    ("observed", texts (changes.map changeLine))]

/-- Marks the changes of a table as seen. -/
def seeTable (ref : Nat) (w : World) : World :=
  { w with tables := w.tables.modify ref fun o => { o with reported := o.history.length } }

/-! ## Events -/

/-- An event with its services by their written forms. -/
def orderServices : Event → Event
  | .servicesExposed id app services uri =>
      .servicesExposed id app (services.mergeSort fun a b => decide (a.gsv ≤ b.gsv)) uri
  | .servicesHidden id app services =>
      .servicesHidden id app (services.mergeSort fun a b => decide (a.gsv ≤ b.gsv))
  | event => event

/-- The type that the last part of a dotted name gives. -/
def typeOfName? (name : String) : Option EventType :=
  EventType.ofShortName? (String.ofList (name.toList.reverse.takeWhile (· ≠ '.')).reverse)

/-- An event that an envelope should carry, or why it cannot be read. -/
def viewEventIn (e : Envelope) : Document :=
  match typeOfName? e.eventType with
  | none => .failure "bad_input" none
  | some t => ofExcept EventError.toDocument (fun x => (orderServices x).toDocument) (e.unwrap t)

/-- An envelope without the parts that are drawn at random. -/
def viewEnvelope (e : Envelope) : Document :=
  record [("eventType", text e.eventType), ("source", text e.source), ("event", viewEventIn e)]

/-- A gossip message without the times at which brokers started. -/
def viewGossip (m : GossipMessage) : Document := m.toDocument false viewEnvelope

/-- Settings. -/
def viewConfig (config : Dict String String) : Document :=
  record (config.entries.map fun e => (e.1, text e.2))

/-- The consumers of a bus. -/
def consumerFields (w : World) (o : ConsumerObject) : List (String × Document) :=
  [("config", viewConfig o.state.config),
    ("config_len", list [nat o.state.config.size, nat (if o.state.config.isEmpty then 1 else 0)]),
    ("ports", record (o.state.ports.entries.map fun e => (e.1.toText, portsDocument e.2))),
    ("upstreams", w.viewFleet o.fleet)]
    ++ optional "table" w.viewTable (w.tables.get? o.table)

/-- A bus with what it wrote down since it was last seen. -/
def viewBus (w : World) (o : BusObject) : Document :=
  record ([("source", text o.bus.source),
    ("log", list (o.log.map fun e =>
      list [text e.1, text e.2.type.wireName, (orderServices e.2).toDocument])),
    ("sent", list (o.sent.map viewEnvelope))]
    ++ (o.consumers.map w.consumerFields).getD [])

/-- Marks what a bus wrote down as seen. -/
def seeBus (ref : Nat) (w : World) : World :=
  let consumed := (w.buses.get? ref).bind (·.consumers)
  let w := { w with buses := w.buses.modify ref fun o => { o with log := [], sent := [] } }
  match consumed with
  | some c => w.seeTable c.table
  | none => w

/-! ## Members -/

/-- A member, without the time at which it joined. -/
def viewMember (m : Member) : Document := record m.fields

/-- A membership with what happened since it was last seen. -/
def viewNode (w : World) (o : NodeObject) : Document :=
  let m := o.membership
  record [("state", text m.state.name), ("uri", text m.uri), ("id", text m.self.id),
    ("members", list (m.peers.members.map viewMember)), ("uris", texts m.peers.uris),
    ("changes", list ((m.history.drop o.reported).map MembershipChange.toDocument)),
    ("events", list (o.events.map viewEnvelope)),
    ("detector", ofOption texts m.detector.journal?),
    ("upstream", ofOption (fun p => texts p.uris) (o.pool.bind w.pool?))]

/-- Marks what happened to a membership as seen. -/
def seeNode (ref : Nat) (w : World) : World :=
  { w with nodes := w.nodes.modify ref fun o =>
      { o with
        events := []
        reported := o.membership.history.length
        membership := { o.membership with detector := o.membership.detector.clearJournal } } }

/-! ## Brokers and workers -/

/-- What a broker knows of its cluster. -/
def clusterFields (w : World) (b : BrokerObject) : List (String × Document) :=
  match w.nodes.get? b.node with
  | none => []
  | some o =>
      [("members", list (o.membership.peers.members.map viewMember)),
        ("member_state", text o.membership.state.name)]

/-- The settings that a broker was told. -/
def configOf (w : World) (b : BrokerObject) : Dict String String :=
  (((w.buses.get? b.bus).bind (·.consumers)).map (·.state.config)).getD .empty

/-- A broker. -/
def viewBroker (w : World) (b : BrokerObject) : Document :=
  let table := ((w.tables.get? b.table).map (·.table)).getD {}
  record ([("id", text b.info.id), ("uri", text b.info.url), ("health", text b.health.name),
    ("responders", list (table.responders.map w.viewProvider)),
    ("names", texts table.serviceNames), ("upstreams", w.viewFleet b.fleet),
    ("config", viewConfig (w.configOf b))]
    ++ w.clusterFields b)

/-- What a worker counted. -/
def countsOf : Duty → Int × Nat × Nat × Nat
  | .counting sum commands ticks stops => (sum, commands, ticks, stops)
  | _ => (0, 0, 0, 0)

/-- A worker that counts, and whether it runs. -/
def viewWorker (o : WorkerObject) (running : Bool) : Document :=
  let (sum, commands, ticks, stops) := countsOf o.duty
  record [("name", text o.worker.name), ("running", flag running), ("sum", .number sum),
    ("commands", nat commands), ("ticks", nat ticks), ("stops", nat stops)]

end World

end ServiceMesh
