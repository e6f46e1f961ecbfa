import ServiceMesh.Balance.Balancer
import ServiceMesh.Gossip.Message
import ServiceMesh.Gossip.Peers
import ServiceMesh.Metadata.Routing
import ServiceMesh.Report.Failure
import ServiceMesh.Settings
import ServiceMesh.Uri

/-!
# Values as documents

The forms in which addresses, events, members and settings are shown.  Fields have
the names they have on the wire, and a field that may be missing on the wire is left
out when it is missing.
-/

namespace ServiceMesh

open Document (nat text texts flag number bytes float record list ofOption optional ofExcept)

/-! ## Addresses -/

/-- A list of locators, as written. -/
def locatorsDocument (services : List Locator) : Document := texts (services.map Locator.gsv)

/-- A locator, with the key of a method if one is named. -/
def Locator.toDocument (l : Locator) (method : Option String) : Document :=
  record ([("group", text l.group), ("service", text l.service), ("version", text l.version),
    ("gsv", text l.gsv), ("hash", nat l.hash.toNat), ("display", text l.gsv),
    ("debug", text l.debugText), ("string", text l.gsv)]
    ++ optional "method_key" text (method.map l.methodKey))

/-- The fields of a routing entry. -/
def Routing.fields (r : Routing) : List (String × Document) :=
  [("gsv", text r.locator.gsv), ("method", text r.method), ("sticky", flag r.sticky),
    ("service_hash", nat r.serviceHash.toNat), ("handler_hash", nat r.handlerHash.toNat),
    ("key", text r.key)]

/-- A routing entry. -/
def Routing.toDocument (r : Routing) : Document := record r.fields

/-- A routing entry with its written forms, and what reading them gives. -/
def Routing.toFullDocument (r : Routing) : Document :=
  record (r.fields ++ [("binary", bytes r.encodeBinary),
    ("composite", ofExcept MetadataError.toDocument bytes r.toComposite),
    ("decoded", ofExcept MetadataError.toDocument (fun d => flag (d == r))
      (decodeBinary r.encodeBinary))])

/-- The routing entry of call metadata. -/
def Composite.routingDocument (c : Composite) : Document :=
  ofExcept MetadataError.toDocument Routing.toDocument c.routing

/-- A call. -/
def Payload.toDocument (p : Payload) : Document :=
  record [("metadata", bytes p.metadata), ("data", bytes p.data)]

/-- The name of a scheme. -/
def Scheme.kind : Scheme → String
  | tcp => "Tcp"
  | tls => "Tls"
  | ws => "Ws"
  | wss => "Wss"
  | .local => "Local"

/-- An address. -/
def Uri.toDocument (u : Uri) : Document :=
  record [("scheme", text u.scheme.kind), ("secure", flag u.scheme.isSecure), ("host", text u.host),
    ("port", ofOption (fun p => nat p.toNat) u.port), ("authority", text u.authority),
    ("fingerprint", ofOption text u.fingerprint), ("raw", text u.raw), ("display", text u.raw)]

/-! ## Applications and brokers -/

/-- The fields of what a broker says about itself; its start may be left out. -/
def BrokerInfo.fieldDocuments (b : BrokerInfo) (withStart : Bool) : List (String × Document) :=
  [("id", text b.id), ("schema", text b.schema), ("ip", text b.ip)]
    ++ optional "externalDomain" text b.externalDomain
    ++ [("port", nat b.port.toNat), ("webPort", nat b.webPort.toNat)]
    ++ (if withStart then [("startTimeMs", nat b.startTimeMs.toNat)] else [])
    ++ [("status", number b.status.toInt)]

/-- What a broker says about itself. -/
def BrokerInfo.toDocument (b : BrokerInfo) : Document := record (b.fieldDocuments true)

/-- Ports by transport. -/
def portsDocument (ports : TextMap UInt16) : Document :=
  record (ports.entries.map fun e => (e.1, nat e.2.toNat))

/-- What an application says about itself. -/
def AppMetadata.toDocument (a : AppMetadata) : Document :=
  record [("instanceId", text a.instanceId.toText), ("name", text a.name), ("ip", text a.ip),
    ("ports", portsDocument a.ports), ("secure", flag a.secure), ("weight", nat a.weight.toNat),
    ("tags", record (a.tags.entries.map fun e => (e.1, text e.2)))]

/-- The first frame of a provider. -/
def Setup.toDocument (s : Setup) : Document :=
  record [("app", s.app.toDocument), ("services", locatorsDocument s.services)]

/-- A status. -/
def AppStatus.toDocument (s : AppStatus) : Document := text s.wireName

/-! ## Events and gossip -/

/-- An event. -/
def Event.toDocument : Event → Document
  | servicesExposed id app services uri =>
      record ([("instanceId", text id.toText), ("appName", text app),
        ("services", locatorsDocument services)] ++ optional "brokerUri" text uri)
  | servicesHidden id app services =>
      record [("instanceId", text id.toText), ("appName", text app),
        ("services", locatorsDocument services)]
  | appStatusChanged id app status =>
      record [("instanceId", text id.toText), ("appName", text app), ("status", status.toDocument)]
  | configChanged app key value =>
      record [("appName", text app), ("key", text key), ("value", text value)]
  | portsUpdated id ports =>
      record [("instanceId", text id.toText), ("ports", portsDocument ports)]
  | clusterChanged destination uris =>
      record [("destination", text destination), ("uris", texts uris)]
  | cacheInvalidate app keys => record (optional "appName" text app ++ [("keys", texts keys)])

/-- An envelope, with the event in it if a type is asked for. -/
def Envelope.toDocument (e : Envelope) (as? : Option EventType) : Document :=
  record ([("id", text e.id.toText), ("eventType", text e.eventType), ("source", text e.source),
    ("timeMs", nat e.timeMs.toNat), ("data", bytes e.data)]
    ++ optional "event" (ofExcept EventError.toDocument Event.toDocument) (as?.map e.unwrap))

/-- A digest under the kind of message that carries it. -/
def Digest.toDocument (d : Digest) (kind : String) (withStart : Bool) : Document :=
  record [("type", text kind), ("from", record (d.sender.fieldDocuments withStart)),
    ("members", list (d.members.map fun m => record [("id", text m.id), ("uri", text m.uri)]))]

/-- A gossip message, envelopes shown by `envelope`. -/
def GossipMessage.toDocument (m : GossipMessage) (withStart : Bool)
    (envelope : Envelope → Document) : Document :=
  match m with
  | ping d => d.toDocument m.tag withStart
  | ack d => d.toDocument m.tag withStart
  | fetchBrokerInfo => record [("type", text m.tag)]
  | brokerInfo info => record (("type", text m.tag) :: info.fieldDocuments withStart)
  | leave id => record [("type", text m.tag), ("id", text id)]
  | controlEvent e => record [("type", text m.tag), ("envelope", envelope e)]

/-- The fields of a member. -/
def Member.fields (m : Member) : List (String × Document) :=
  [("id", text m.info.id), ("uri", text m.uri), ("state", text m.state.name),
    ("status", number m.info.status.toInt), ("externalDomain", ofOption text m.info.externalDomain)]

/-- A member, with the time at which it joined. -/
def Member.toDocument (m : Member) : Document :=
  record (m.fields ++ [("joined", nat m.joinedAtMs)])

/-- A change of the peer table. -/
def MembershipChange.toDocument : MembershipChange → Document
  | added info => record [("added", text info.id), ("uri", text info.url)]
  | removed info reason =>
      record [("removed", text info.id), ("uri", text info.url), ("reason", text reason.name)]

/-! ## Settings and balancers -/

/-- The settings of pools. -/
def PoolSettings.toDocument (s : PoolSettings) : Document :=
  record [("strategy", text s.strategy.name), ("call_timeout_ms", nat s.callTimeoutMs),
    ("refresh_interval_ms", nat s.refreshIntervalMs), ("eager_connect", flag s.eagerConnect),
    ("exploration", float s.exploration)]

/-- The settings of a membership. -/
def MembershipSettings.toDocument (s : MembershipSettings) : Document :=
  record [("seeds", texts s.seeds), ("gossip_interval_ms", nat s.gossipIntervalMs),
    ("failure_timeout_ms", nat s.failureTimeoutMs), ("request_timeout_ms", nat s.requestTimeoutMs)]

/-- The settings of pools and of a membership. -/
def partsDocument (p : PoolSettings) (m : MembershipSettings) : Document :=
  record [("upstream", p.toDocument), ("membership", m.toDocument)]

/-- All settings of a broker, with what follows from them. -/
def Settings.toDocument (s : Settings) : Document :=
  let info := s.brokerInfo "id-0" 42
  record [("broker_id", ofOption text s.brokerId), ("app_name", text s.appName), ("ip", text s.ip),
    ("external_domain", ofOption text s.externalDomain), ("schema", text s.schema),
    ("port", nat s.port.toNat), ("web_port", nat s.webPort.toNat), ("seeds", texts s.seeds),
    ("gossip_interval_ms", nat s.gossipIntervalMs),
    ("failure_timeout_ms", nat s.failureTimeoutMs),
    ("refresh_interval_ms", nat s.refreshIntervalMs), ("load_balance", text s.loadBalance.name),
    ("sticky", flag s.sticky), ("call_timeout_ms", nat s.callTimeoutMs),
    ("eager_connect", flag s.eagerConnect), ("exploration", float s.exploration),
    ("log_json", flag s.logJson), ("resolved_id", ofOption text s.brokerId),
    ("info", info.toDocument), ("info_url", text info.url), ("info_host", text info.publicHost),
    ("parts", partsDocument s.pools s.membership)]

/-- The kind of a strategy. -/
def Strategy.kind : Strategy → String
  | roundRobin => "RoundRobin"
  | random => "Random"
  | consistentHash => "ConsistentHash"
  | weightedStats => "WeightedStats"

/-- What is known about a candidate. -/
def CandidateStats.toDocument (s : CandidateStats) : Document :=
  Document.record [("ewma", float s.latencyMs), ("failure", float s.failureRate),
    ("cost", float s.cost), ("outstanding", nat s.outstanding), ("samples", nat s.samples)]

/-- What is known about a candidate whose latency was measured on a real clock. -/
def CandidateStats.toCountsDocument (s : CandidateStats) : Document :=
  Document.record [("failure", float s.failureRate), ("outstanding", nat s.outstanding),
    ("samples", nat s.samples)]

end ServiceMesh
