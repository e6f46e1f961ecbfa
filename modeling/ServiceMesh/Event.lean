import ServiceMesh.Identity

/-!
# Control events

Brokers tell each other about providers, settings and endpoint sets through
control events.  There are seven types of event.  An event travels in an envelope
that carries the name of its type, its source and its bytes, so that it can be
passed on without being read.
-/

namespace ServiceMesh

/-- The types of control events. -/
inductive EventType where
  | servicesExposed
  | servicesHidden
  | appStatusChanged
  | configChanged
  | portsUpdated
  | clusterChanged
  | cacheInvalidate
deriving DecidableEq, Repr

namespace EventType

/-- The types in order. -/
def all : List EventType :=
  [servicesExposed, servicesHidden, appStatusChanged, configChanged, portsUpdated, clusterChanged,
    cacheInvalidate]

/-- The last part of the name of a type. -/
def shortName : EventType → String
  | servicesExposed => "ServicesExposed"
  | servicesHidden => "ServicesHidden"
  | appStatusChanged => "AppStatusChanged"
  | configChanged => "ConfigChanged"
  | portsUpdated => "PortsUpdated"
  | clusterChanged => "UpstreamClusterChanged"
  | cacheInvalidate => "CacheInvalidate"

/-- The name of a type on the wire. -/
def wireName (t : EventType) : String := "meshrpc.events." ++ t.shortName

/-- The type with a wire name. -/
def ofWireName? (s : String) : Option EventType := all.find? fun t => t.wireName == s

/-- The type with a short name. -/
def ofShortName? (s : String) : Option EventType := all.find? fun t => t.shortName == s

end EventType

/-- The destination under which brokers reach each other. -/
def brokerDestination : String := "meshrpc-broker"

/-- A control event. -/
inductive Event where
  /-- A provider serves the listed services, at this broker or through the one at
  `brokerUri`. -/
  | servicesExposed (instanceId : Uuid) (appName : String) (services : List Locator)
      (brokerUri : Option String)
  /-- A provider stopped serving the listed services, or all if none is listed. -/
  | servicesHidden (instanceId : Uuid) (appName : String) (services : List Locator)
  /-- The status of a provider changed. -/
  | appStatusChanged (instanceId : Uuid) (appName : String) (status : AppStatus)
  /-- A setting of an application changed. -/
  | configChanged (appName key value : String)
  /-- The ports of a provider changed. -/
  | portsUpdated (instanceId : Uuid) (ports : TextMap UInt16)
  /-- The endpoints of a destination changed. -/
  | clusterChanged (destination : String) (uris : List String)
  /-- Cached settings are out of date, of all applications if none is named. -/
  | cacheInvalidate (appName : Option String) (keys : List String)
deriving DecidableEq, Repr

namespace Event

/-- The type of an event. -/
def type : Event → EventType
  | servicesExposed .. => .servicesExposed
  | servicesHidden .. => .servicesHidden
  | appStatusChanged .. => .appStatusChanged
  | configChanged .. => .configChanged
  | portsUpdated .. => .portsUpdated
  | clusterChanged .. => .clusterChanged
  | cacheInvalidate .. => .cacheInvalidate

/-- Whether a change of settings addressed to `appName` is for `localName`. -/
def addresses (appName localName : String) : Bool := Text.sameIgnoringAsciiCase appName localName

/-! ## Wire forms -/

open MsgPack (Value Fields)

/-- A list of locators as a wire value. -/
def locatorsValue (ls : List Locator) : Value := .array (ls.map Locator.toValue)

/-- A list of texts as a wire value. -/
def textsValue (ts : List String) : Value := .array (ts.map .text)

/-- The wire form. -/
def toValue : Event → Value
  | servicesExposed instanceId appName services brokerUri =>
      MsgPack.recordOf ([("instanceId", instanceId.toValue), ("appName", .text appName),
        ("services", locatorsValue services)]
        ++ MsgPack.optionalField "brokerUri" (brokerUri.map .text))
  | servicesHidden instanceId appName services =>
      MsgPack.recordOf [("instanceId", instanceId.toValue), ("appName", .text appName),
        ("services", locatorsValue services)]
  | appStatusChanged instanceId appName status =>
      MsgPack.recordOf [("instanceId", instanceId.toValue), ("appName", .text appName),
        ("status", status.toValue)]
  | configChanged appName key value =>
      MsgPack.recordOf [("appName", .text appName), ("key", .text key), ("value", .text value)]
  | portsUpdated instanceId ports =>
      MsgPack.recordOf [("instanceId", instanceId.toValue),
        ("ports", MsgPack.ofTextMap portValue ports)]
  | clusterChanged destination uris =>
      MsgPack.recordOf [("destination", .text destination), ("uris", textsValue uris)]
  | cacheInvalidate appName keys =>
      MsgPack.recordOf (MsgPack.optionalField "appName" (appName.map .text)
        ++ [("keys", textsValue keys)])

/-- Reads an event of a known type. -/
def ofValue (t : EventType) (v : Value) : Option Event :=
  let locators := Value.asList Locator.ofValue
  let texts := Value.asList Value.asText
  let id := Value.asUuid .strict
  match t with
  | .servicesExposed => do
      let f ← MsgPack.asFields .strict ["instanceId", "appName", "services", "brokerUri"] v
      return .servicesExposed (← f.required 0 id) (← f.required 1 Value.asText)
        (← f.required 2 locators) (← f.withDefault 3 (Value.asOption Value.asText) none)
  | .servicesHidden => do
      let f ← MsgPack.asFields .strict ["instanceId", "appName", "services"] v
      return .servicesHidden (← f.required 0 id) (← f.required 1 Value.asText)
        (← f.withDefault 2 locators [])
  | .appStatusChanged => do
      let f ← MsgPack.asFields .strict ["instanceId", "appName", "status"] v
      return .appStatusChanged (← f.required 0 id) (← f.required 1 Value.asText)
        (← f.required 2 AppStatus.ofValue)
  | .configChanged => do
      let f ← MsgPack.asFields .strict ["appName", "key", "value"] v
      return .configChanged (← f.required 0 Value.asText) (← f.required 1 Value.asText)
        (← f.required 2 Value.asText)
  | .portsUpdated => do
      let f ← MsgPack.asFields .strict ["instanceId", "ports"] v
      return .portsUpdated (← f.required 0 id) (← f.required 1 (Value.asTextMap readPort))
  | .clusterChanged => do
      let f ← MsgPack.asFields .strict ["destination", "uris"] v
      return .clusterChanged (← f.required 0 Value.asText) (← f.required 1 texts)
  | .cacheInvalidate => do
      let f ← MsgPack.asFields .strict ["appName", "keys"] v
      return .cacheInvalidate (← f.withDefault 0 (Value.asOption Value.asText) none)
        (← f.required 1 texts)

/-- The bytes of an event. -/
def encode (e : Event) : Bytes := e.toValue.encode

/-- Reads the bytes of an event of a known type. -/
def decode? (t : EventType) (b : Bytes) : Option Event := MsgPack.decode? b >>= ofValue t

end Event

/-! ## Envelopes -/

/-- Why an envelope does not give an event. -/
inductive EventError where
  /-- The bytes are not an event. -/
  | decode
  /-- The event cannot be written. -/
  | encode
  /-- The envelope carries another type. -/
  | typeMismatch (expected actual : String)
deriving DecidableEq, Repr

/-- The text of an event error.  The causes inside the wire format have no text of
their own. -/
def EventError.message : EventError → String
  | decode => "failed to decode event"
  | encode => "failed to encode event"
  | typeMismatch expected actual => "envelope carries " ++ actual ++ ", expected " ++ expected

/-- An event on its way. -/
structure Envelope where
  /-- One id per publication. -/
  id : Uuid
  /-- The wire name of the type. -/
  eventType : String
  /-- Who published the event. -/
  source : String
  /-- When it was published. -/
  timeMs : UInt64
  /-- The bytes of the event. -/
  data : Bytes
deriving DecidableEq, Repr

namespace Envelope

open MsgPack (Value Reading)

/-- Puts an event into an envelope with a given id and time. -/
def wrap (id : Uuid) (timeMs : UInt64) (source : String) (e : Event) : Envelope :=
  ⟨id, e.type.wireName, source, timeMs, e.encode⟩

/-- Whether the envelope carries a type of event. -/
def is (env : Envelope) (t : EventType) : Bool := env.eventType == t.wireName

/-- Takes an event of a type out of the envelope. -/
def unwrap (env : Envelope) (t : EventType) : Except EventError Event :=
  if env.is t then
    match Event.decode? t env.data with
    | some e => .ok e
    | none => .error .decode
  else .error (.typeMismatch t.wireName env.eventType)

/-- The fields on the wire. -/
def fieldNames : List String := ["id", "eventType", "source", "timeMs", "data"]

/-- The fields of the wire form. -/
def toFields (env : Envelope) : List (String × Value) :=
  [("id", env.id.toValue), ("eventType", .text env.eventType), ("source", .text env.source),
    ("timeMs", .nat env.timeMs.toNat), ("data", .binary env.data)]

/-- Reads the wire form. -/
def ofValue (reading : Reading) (v : Value) : Option Envelope := do
  let f ← MsgPack.asFields reading fieldNames v
  return {
    id := ← f.required 0 (Value.asUuid reading)
    eventType := ← f.required 1 Value.asText
    source := ← f.required 2 Value.asText
    timeMs := ← f.required 3 readLong
    data := ← f.required 4 Value.asBytes }

/-- The bytes of an envelope. -/
def encode (env : Envelope) : Bytes := (MsgPack.recordOf env.toFields).encode

/-- Reads the bytes of an envelope. -/
def decode? (b : Bytes) : Option Envelope := MsgPack.decode? b >>= ofValue .strict

end Envelope

end ServiceMesh
