import ServiceMesh.Proofs.Gossip.Messages
import ServiceMesh.Proofs.MsgPack.Applications

/-!
# Events and envelopes are read back

An event travels as a record of the fields of its type, without those that are missing.  The
envelope that carries it names the type, so the event is taken out as what it was, and as no
other type (`Envelope.unwrap_wrap_of_ne`).  An envelope is read back whether it travels by itself
or inside a gossip message.

`formats_read_back` collects what is read back on the control plane: messages between brokers,
envelopes, events of every type and setup frames, whenever their texts, bytes and collections fit
the length fields.
-/

namespace ServiceMesh

open MsgPack (Value Fields Reading Writable Short)

/-- The names of the fields of an event. -/
def EventType.fieldNames : EventType → List String
  | servicesExposed => ["instanceId", "appName", "services", "brokerUri"]
  | servicesHidden => ["instanceId", "appName", "services"]
  | appStatusChanged => ["instanceId", "appName", "status"]
  | configChanged => ["appName", "key", "value"]
  | portsUpdated => ["instanceId", "ports"]
  | clusterChanged => ["destination", "uris"]
  | cacheInvalidate => ["appName", "keys"]

theorem EventType.short_fieldNames (t : EventType) : ∀ name ∈ t.fieldNames, Short name := by
  cases t <;> decide +kernel

theorem EventType.nodup_fieldNames (t : EventType) : t.fieldNames.Nodup := by
  cases t <;> decide

theorem EventType.wireName_inj {t u : EventType} (h : t.wireName = u.wireName) : t = u := by
  revert h
  cases t <;> cases u <;> decide

namespace Event

/-! ## Fields -/

/-- The fields by position. -/
def placed : Event → Fields
  | servicesExposed instanceId appName services brokerUri =>
      [(0, instanceId.toValue), (1, .text appName), (2, locatorsValue services)]
        ++ (brokerUri.map fun uri => (3, Value.text uri)).toList
  | servicesHidden instanceId appName services =>
      [(0, instanceId.toValue), (1, .text appName), (2, locatorsValue services)]
  | appStatusChanged instanceId appName status =>
      [(0, instanceId.toValue), (1, .text appName), (2, status.toValue)]
  | configChanged appName key value => [(0, .text appName), (1, .text key), (2, .text value)]
  | portsUpdated instanceId ports =>
      [(0, instanceId.toValue), (1, MsgPack.ofTextMap portValue ports)]
  | clusterChanged destination uris => [(0, .text destination), (1, textsValue uris)]
  | cacheInvalidate appName keys =>
      (appName.map fun name => (0, Value.text name)).toList ++ [(1, textsValue keys)]

theorem toValue_eq (e : Event) :
    e.toValue = MsgPack.recordOf (MsgPack.named e.type.fieldNames e.placed) := by
  cases e with
  | servicesExposed instanceId appName services brokerUri => cases brokerUri <;> rfl
  | cacheInvalidate appName keys => cases appName <;> rfl
  | _ => rfl

theorem positions_placed (e : Event) :
    (e.placed.map Prod.fst).Nodup ∧ ∀ i ∈ e.placed.map Prod.fst, i < e.type.fieldNames.length := by
  cases e with
  | servicesExposed instanceId appName services brokerUri =>
    cases brokerUri <;> simp [placed, type, EventType.fieldNames]
  | cacheInvalidate appName keys => cases appName <;> simp [placed, type, EventType.fieldNames]
  | _ => simp [placed, type, EventType.fieldNames]

theorem asFields_toValue (e : Event) :
    MsgPack.asFields .strict e.type.fieldNames e.toValue = some e.placed := by
  rw [toValue_eq]
  exact MsgPack.asFields_recordOf .strict _ e.placed _ rfl e.type.nodup_fieldNames
    e.positions_placed.1 e.positions_placed.2

/-! ## Values -/

@[simp] theorem asList_locatorsValue (ls : List Locator) :
    Value.asList Locator.ofValue (locatorsValue ls) = some ls :=
  mapM_map_eq_some Locator.ofValue_toValue ls

@[simp] theorem asList_textsValue (ts : List String) :
    Value.asList Value.asText (textsValue ts) = some ts :=
  mapM_map_eq_some asText_text ts

theorem asOption_text (s : String) :
    Value.asOption Value.asText (.text s) = some (some s) := rfl

/-- Every event is read back from its wire form. -/
theorem ofValue_toValue (e : Event) : ofValue e.type e.toValue = some e := by
  have hfields := e.asFields_toValue
  cases e with
  | servicesExposed instanceId appName services brokerUri =>
    simp only [type, EventType.fieldNames] at hfields
    cases brokerUri with
    | none => simp [ofValue, type, hfields, placed, Fields.at?_nil]
    | some uri => simp [ofValue, type, hfields, placed, asOption_text]
  | portsUpdated instanceId ports =>
    simp only [type, EventType.fieldNames] at hfields
    simp [ofValue, type, hfields, placed, asTextMap_ofTextMap readPort_portValue]
  | cacheInvalidate appName keys =>
    simp only [type, EventType.fieldNames] at hfields
    cases appName with
    | none => simp [ofValue, type, hfields, placed, Fields.at?_nil]
    | some name => simp [ofValue, type, hfields, placed, asOption_text]
  | _ =>
    simp only [type, EventType.fieldNames] at hfields
    simp [ofValue, type, hfields, placed]

/-! ## Bytes -/

/-- The texts, the lists and the maps of the event can be written. -/
def Fits : Event → Prop
  | servicesExposed _ appName services brokerUri =>
      Short appName ∧ ShortTexts (services.map Locator.gsv) ∧
        ∀ uri, brokerUri = some uri → Short uri
  | servicesHidden _ appName services => Short appName ∧ ShortTexts (services.map Locator.gsv)
  | appStatusChanged _ appName _ => Short appName
  | configChanged appName key value => Short appName ∧ Short key ∧ Short value
  | portsUpdated _ ports => ShortTexts (ports.entries.map Prod.fst)
  | clusterChanged destination uris => Short destination ∧ ShortTexts uris
  | cacheInvalidate appName keys => (∀ name, appName = some name → Short name) ∧ ShortTexts keys

theorem short_wireName (s : AppStatus) : Short s.wireName := by
  cases s <;> decide +kernel

theorem Fits.writable_placed {e : Event} (h : e.Fits) : ∀ f ∈ e.placed, Writable 1 f.2 := by
  intro f hf
  cases e with
  | servicesExposed instanceId appName services brokerUri =>
    obtain ⟨hname, hservices, huri⟩ := h
    simp only [placed, List.mem_append, List.mem_cons, List.not_mem_nil, or_false,
      Option.mem_toList, Option.map_eq_some_iff] at hf
    obtain (rfl | rfl | rfl) | ⟨uri, hb, rfl⟩ := hf
    · exact writable_id instanceId 1
    · exact .text hname
    · exact writable_locators hservices 0
    · exact .text (huri uri hb)
  | servicesHidden instanceId appName services =>
    simp only [placed, List.mem_cons, List.not_mem_nil, or_false] at hf
    obtain rfl | rfl | rfl := hf
    · exact writable_id instanceId 1
    · exact .text h.1
    · exact writable_locators h.2 0
  | appStatusChanged instanceId appName status =>
    simp only [placed, List.mem_cons, List.not_mem_nil, or_false] at hf
    obtain rfl | rfl | rfl := hf
    · exact writable_id instanceId 1
    · exact .text h
    · exact .text (short_wireName status)
  | configChanged appName key value =>
    simp only [placed, List.mem_cons, List.not_mem_nil, or_false] at hf
    obtain rfl | rfl | rfl := hf
    · exact .text h.1
    · exact .text h.2.1
    · exact .text h.2.2
  | portsUpdated instanceId ports =>
    simp only [placed, List.mem_cons, List.not_mem_nil, or_false] at hf
    obtain rfl | rfl := hf
    · exact writable_id instanceId 1
    · apply writable_ofTextMap h
      intro e _
      exact writable_port e.2 0
  | clusterChanged destination uris =>
    simp only [placed, List.mem_cons, List.not_mem_nil, or_false] at hf
    obtain rfl | rfl := hf
    · exact .text h.1
    · exact h.2.writable 0
  | cacheInvalidate appName keys =>
    simp only [placed, List.mem_append, List.mem_cons, List.not_mem_nil, or_false,
      Option.mem_toList, Option.map_eq_some_iff] at hf
    obtain ⟨name, hname, rfl⟩ | rfl := hf
    · exact .text (h.1 name hname)
    · exact h.2.writable 0

theorem length_placed (e : Event) : e.placed.length ≤ 4 := by
  cases e with
  | servicesExposed instanceId appName services brokerUri => cases brokerUri <;> simp [placed]
  | cacheInvalidate appName keys => cases appName <;> simp [placed]
  | _ => simp [placed]

theorem Fits.writable {e : Event} (h : e.Fits) : Writable 2 e.toValue := by
  have hlength : e.placed.length < byteRange 4 := Nat.lt_of_le_of_lt e.length_placed (by decide)
  rw [toValue_eq]
  exact .named e.type.short_fieldNames hlength h.writable_placed

/-- An event that fits is read back from its bytes as an event of its type. -/
theorem decode?_encode {e : Event} (h : e.Fits) : decode? e.type e.encode = some e :=
  h.writable.decode?_bind (by decide) e.ofValue_toValue

end Event

/-! ## Envelopes -/

namespace Envelope

theorem Fits.writable {e : Envelope} (h : e.Fits) : Writable 1 (MsgPack.recordOf e.toFields) := by
  change Writable 1 (MsgPack.recordOf (MsgPack.named fieldNames e.fields))
  exact .named short_fieldNames (show 5 < byteRange 4 by decide) h.writable_field

/-- An envelope that fits is read back from its bytes. -/
theorem decode?_encode {e : Envelope} (h : e.Fits) : decode? e.encode = some e :=
  h.writable.decode?_bind (by decide) (e.ofValue_toFields .strict)

section

variable (id : Uuid) (timeMs : UInt64) (source : String) {e : Event}

theorem unwrap_wrap (h : e.Fits) : (wrap id timeMs source e).unwrap e.type = .ok e := by
  have his : (wrap id timeMs source e).is e.type = true := beq_self_eq_true _
  have hdata : Event.decode? e.type (wrap id timeMs source e).data = some e :=
    Event.decode?_encode h
  rw [unwrap, if_pos his, hdata]

/-- An event is not taken out as one of another type. -/
theorem unwrap_wrap_of_ne {t : EventType} (h : t ≠ e.type) :
    (wrap id timeMs source e).unwrap t = .error (.typeMismatch t.wireName e.type.wireName) := by
  have hnot : ¬(wrap id timeMs source e).is t = true := by
    intro his
    exact h (EventType.wireName_inj (beq_iff_eq.mp his)).symm
  rw [unwrap, if_neg hnot]
  rfl

end

end Envelope

/-- What is sent on the control plane arrives as it was, if its texts, bytes and collections fit
the length fields: messages between brokers, as calls that are marked as gossip; envelopes;
events, each as its own type and as no other; and setup frames. -/
theorem formats_read_back :
    (∀ m : GossipMessage, ∃ p, m.toPayload = .ok p ∧
      (∃ c, Composite.decode p.metadata = .ok c ∧ c.isGossip = true) ∧
      (m.Fits → GossipMessage.ofPayload p = some m)) ∧
    (∀ e : Envelope, e.Fits → Envelope.decode? e.encode = some e) ∧
    (∀ (e : Event) (id : Uuid) (timeMs : UInt64) (source : String),
      (e.Fits → (Envelope.wrap id timeMs source e).unwrap e.type = .ok e) ∧
      ∀ t, t ≠ e.type → (Envelope.wrap id timeMs source e).unwrap t
        = .error (.typeMismatch t.wireName e.type.wireName)) ∧
    ∀ s : Setup, s.Fits → Setup.decode? s.encode = some s := by
  refine ⟨fun m => ?_, fun e => Envelope.decode?_encode, ?_, fun s => Setup.decode?_encode⟩
  · refine ⟨_, m.toPayload_eq, ⟨GossipMessage.metadata, ?_, rfl⟩, ?_⟩
    · exact Composite.decode_bytes GossipMessage.fits_metadata
    · intro h
      exact GossipMessage.ofPayload_of_fits h m.toPayload_eq
  · intro e id timeMs source
    constructor
    · exact Envelope.unwrap_wrap id timeMs source
    · intro t
      exact Envelope.unwrap_wrap_of_ne id timeMs source

namespace Event.Sample

def reckoner : Locator := ⟨"g", "Calc", "1", by decide, by decide, by decide, by decide⟩

def provider : AppMetadata :=
  { instanceId := .nil, name := "calc", ip := "::1", tags := .ofList [("zone", "a")] }

def exposure : Event := .servicesExposed .nil "calc" [reckoner] (some "tcp://b1:9999")

/-- What a broker tells the others when the provider connects. -/
def letter : Envelope := .wrap .nil 1700000000000 "b1" exposure

end Event.Sample

open Event.Sample in
/-- A provider connects, and its broker tells another one what it exposes. -/
theorem exposure_read_back :
    (∃ p, (GossipMessage.controlEvent letter).toPayload = .ok p ∧
      GossipMessage.ofPayload p = some (.controlEvent letter)) ∧
    Envelope.decode? letter.encode = some letter ∧
    letter.unwrap .servicesExposed = .ok exposure ∧
    letter.unwrap .servicesHidden
      = .error (.typeMismatch EventType.servicesHidden.wireName exposure.type.wireName) ∧
    Setup.decode? (Setup.encode ⟨provider, [reckoner]⟩) = some ⟨provider, [reckoner]⟩ := by
  obtain ⟨hmessage, henvelope, hevent, hsetup⟩ := formats_read_back
  have hservices : ShortTexts ([reckoner].map Locator.gsv) := ⟨by decide, by decide +kernel⟩
  have hexposure : exposure.Fits :=
    ⟨by decide +kernel, hservices, fun uri h => by obtain rfl := Option.some.inj h; decide +kernel⟩
  have hletter : letter.Fits := ⟨by decide +kernel, by decide +kernel, by decide +kernel⟩
  have hprovider : provider.Fits :=
    ⟨by decide +kernel, by decide +kernel, ⟨by decide, by decide⟩, ⟨by decide, by decide +kernel⟩,
      by decide +kernel⟩
  obtain ⟨p, hp, -, hback⟩ := hmessage (.controlEvent letter)
  obtain ⟨hunwrap, hother⟩ := hevent exposure .nil 1700000000000 "b1"
  exact ⟨⟨p, hp, hback hletter⟩, henvelope letter hletter, hunwrap hexposure,
    hother .servicesHidden (by decide), hsetup _ ⟨hprovider, hservices⟩⟩

end ServiceMesh
