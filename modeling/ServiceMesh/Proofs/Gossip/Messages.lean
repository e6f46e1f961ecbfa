import ServiceMesh.Gossip.Protocol
import ServiceMesh.Proofs.MsgPack.Records

/-!
# Messages arrive as they were sent

A message fits the wire if its texts, its bytes and its list of members fit the length fields.
`GossipMessage.ofPayload_of_fits` says that a message that fits arrives as it was sent.  On the
way back, as a reply, it is never taken for the empty reply that carries no message.
-/

namespace ServiceMesh

open MsgPack (Value Fields Reading Writable Short)

/-! ## Envelopes -/

namespace Envelope

/-- The texts and the bytes of the envelope can be written. -/
structure Fits (e : Envelope) : Prop where
  eventType : Short e.eventType
  source : Short e.source
  data : e.data.length < byteRange 4

/-- The fields by position. -/
def fields (e : Envelope) : Fields :=
  [(0, e.id.toValue), (1, .text e.eventType), (2, .text e.source), (3, .nat e.timeMs.toNat),
    (4, .binary e.data)]

theorem ofValue_toFields (reading : Reading) (e : Envelope) :
    ofValue reading (MsgPack.recordOf e.toFields) = some e := by
  have hfields : MsgPack.asFields reading fieldNames (MsgPack.recordOf e.toFields)
      = some e.fields :=
    MsgPack.asFields_recordOf reading fieldNames e.fields [0, 1, 2, 3, 4] rfl (by decide)
      (by decide) (by decide)
  have hread : ofValue reading (MsgPack.recordOf e.toFields) = (do
      let id ← Uuid.ofBytes? e.id.bytes
      let timeMs ← readLong (.nat e.timeMs.toNat)
      return { e with id, timeMs }) := by
    rw [ofValue, hfields]
    rfl
  rw [hread, Uuid.ofBytes?_bytes, readLong_nat]
  rfl

theorem short_fieldNames : ∀ name ∈ fieldNames, Short name := by decide +kernel

theorem Fits.writable_field {e : Envelope} (h : e.Fits) {d : Nat} :
    ∀ f ∈ e.fields, Writable d f.2 := by
  intro f hf
  simp only [fields, List.mem_cons, List.not_mem_nil, or_false] at hf
  obtain rfl | rfl | rfl | rfl | rfl := hf
  · exact writable_id e.id d
  · exact .text h.eventType
  · exact .text h.source
  · exact .nat e.timeMs.toNat_lt
  · exact .binary h.data

end Envelope

/-- The sender, the rows and their number can be written. -/
structure Digest.Fits (d : Digest) : Prop where
  sender : d.sender.Fits
  length : d.members.length < byteRange 4
  id : ∀ row ∈ d.members, Short row.id
  uri : ∀ row ∈ d.members, Short row.uri

namespace GossipMessage

/-! ## Rows and digests -/

theorem readMember_memberValue (row : MemberDigest) : readMember (memberValue row) = some row := by
  have hfields : MsgPack.asFields .loose ["id", "uri"] (memberValue row)
      = some [(0, .text row.id), (1, .text row.uri)] :=
    MsgPack.asFields_recordOf .loose ["id", "uri"] [(0, .text row.id), (1, .text row.uri)] [0, 1]
      rfl (by decide) (by decide) (by decide)
  rw [readMember, hfields]
  rfl

/-- The fields of a digest by position. -/
def content (d : Digest) : Fields :=
  [(0, d.sender.toValue), (1, .array (d.members.map memberValue))]

theorem readDigest_digestFields (d : Digest) :
    readDigest (MsgPack.recordOf (digestFields d)) = some d := by
  have hfields : MsgPack.asFields .loose ["from", "members"] (MsgPack.recordOf (digestFields d))
      = some (content d) :=
    MsgPack.asFields_recordOf .loose _ (content d) [0, 1] rfl (by decide) (by decide) (by decide)
  have hread : readDigest (MsgPack.recordOf (digestFields d)) = (do
      let sender ← BrokerInfo.ofValue .loose d.sender.toValue
      let members ← (d.members.map memberValue).mapM readMember
      return ⟨sender, members⟩) := by
    rw [readDigest, hfields]
    rfl
  rw [hread, BrokerInfo.ofValue_toValue, mapM_map_eq_some readMember_memberValue]
  rfl

/-! ## Messages -/

/-- The number of the kind of a message. -/
def kind : GossipMessage → Nat
  | ping _ => 0
  | ack _ => 1
  | fetchBrokerInfo => 2
  | brokerInfo _ => 3
  | leave _ => 4
  | controlEvent _ => 5

/-- The names of the fields of a message. -/
def names : GossipMessage → List String
  | ping _ => ["from", "members"]
  | ack _ => ["from", "members"]
  | fetchBrokerInfo => []
  | brokerInfo _ => BrokerInfo.fieldNames
  | leave _ => ["id"]
  | controlEvent _ => Envelope.fieldNames

/-- The fields of a message by position. -/
def placed : GossipMessage → Fields
  | ping d => content d
  | ack d => content d
  | fetchBrokerInfo => []
  | brokerInfo info => info.fields
  | leave id => [(0, .text id)]
  | controlEvent e => Envelope.fields e

theorem fields_eq (m : GossipMessage) : m.fields = MsgPack.named m.names m.placed := by
  cases m with
  | brokerInfo info => exact info.toFields_eq
  | _ => rfl

theorem asVariant_tag (m : GossipMessage) : (Value.text m.tag).asVariant tags = some m.kind := by
  have hkind : m.kind < tags.length := by cases m <;> simp [kind, tags]
  have htag : tags[m.kind] = m.tag := by cases m <;> rfl
  rw [Value.asVariant, ← htag]
  exact MsgPack.positionOfName_getElem (by decide) hkind

theorem ne_type_of_mem_fields (m : GossipMessage) : ∀ f ∈ m.fields, f.1 ≠ "type" := by
  have hnames : "type" ∉ m.names := by
    cases m <;> simp [names, BrokerInfo.fieldNames, Envelope.fieldNames]
  intro f hf htype
  rw [fields_eq] at hf
  rcases MsgPack.mem_named hf with h | h
  · exact hnames (htype ▸ h)
  · exact absurd (h.symm.trans htype) (by decide)

theorem ofValue_eq_ofContent (m : GossipMessage) :
    ofValue m.toValue = ofContent m.kind (MsgPack.recordOf m.fields) := by
  have hfields : ∀ r ∈ m.fields.map fun f => (Value.text f.1, f.2), isTagKey r.1 = false := by
    intro r hr
    obtain ⟨f, hf, rfl⟩ := List.mem_map.mp hr
    exact beq_eq_false_iff_ne.mpr (m.ne_type_of_mem_fields f hf)
  have htag : isTagKey (.text "type") = true := beq_self_eq_true _
  have hkept : (m.fields.map fun f => (Value.text f.1, f.2)).filter (fun r => !isTagKey r.1)
      = m.fields.map fun f => (Value.text f.1, f.2) :=
    List.filter_eq_self.mpr fun r hr => by rw [hfields r hr]; rfl
  have hdropped : (m.fields.map fun f => (Value.text f.1, f.2)).filter (isTagKey ·.1) = [] :=
    List.filter_eq_nil_iff.mpr fun r hr => by simp [hfields r hr]
  simp only [toValue, MsgPack.recordOf, ofValue, List.map_cons, List.filter_cons, htag, hkept,
    hdropped, if_true, Bool.not_true, Bool.false_eq_true, if_false, asVariant_tag,
    Option.bind_eq_bind, Option.bind_some]

/-- Every message is read back from its wire form. -/
theorem ofValue_toValue (m : GossipMessage) : ofValue m.toValue = some m := by
  rw [ofValue_eq_ofContent]
  cases m with
  | ping d => exact congrArg (Option.map ping) (readDigest_digestFields d)
  | ack d => exact congrArg (Option.map ack) (readDigest_digestFields d)
  | fetchBrokerInfo => rfl
  | brokerInfo info => exact congrArg (Option.map brokerInfo) (info.ofValue_toValue .loose)
  | leave id =>
    have hfields : MsgPack.asFields .loose ["id"] (MsgPack.recordOf (leave id).fields)
        = some [(0, .text id)] :=
      MsgPack.asFields_recordOf .loose ["id"] [(0, .text id)] [0] rfl (by decide) (by decide)
        (by decide)
    simp only [kind, ofContent, hfields]
    rfl
  | controlEvent e => exact congrArg (Option.map controlEvent) (e.ofValue_toFields .loose)

/-! ## Bytes -/

/-- The message can be written. -/
def Fits : GossipMessage → Prop
  | ping d => d.Fits
  | ack d => d.Fits
  | fetchBrokerInfo => True
  | brokerInfo info => info.Fits
  | leave id => Short id
  | controlEvent e => e.Fits

theorem writable_memberValue {row : MemberDigest} (hid : Short row.id) (huri : Short row.uri)
    (d : Nat) : Writable (d + 1) (memberValue row) := by
  change Writable (d + 1) (MsgPack.recordOf
    (MsgPack.named ["id", "uri"] [(0, .text row.id), (1, .text row.uri)]))
  refine .named (by decide +kernel) (show 2 < byteRange 4 by decide) ?_
  intro f hf
  simp only [List.mem_cons, List.not_mem_nil, or_false] at hf
  obtain rfl | rfl := hf
  · exact .text hid
  · exact .text huri

theorem writable_content {d : Digest} (h : d.Fits) : ∀ f ∈ content d, Writable 2 f.2 := by
  intro f hf
  simp only [content, List.mem_cons, List.not_mem_nil, or_false] at hf
  obtain rfl | rfl := hf
  · exact h.sender.writable 1
  · refine .array (by rw [List.length_map]; exact h.length) ?_
    intro v hv
    obtain ⟨row, hrow, rfl⟩ := List.mem_map.mp hv
    exact writable_memberValue (h.id row hrow) (h.uri row hrow) 0

theorem writable_placed {m : GossipMessage} (h : m.Fits) : ∀ f ∈ m.placed, Writable 2 f.2 := by
  intro f hf
  cases m with
  | ping d => exact writable_content h f hf
  | ack d => exact writable_content h f hf
  | fetchBrokerInfo => cases hf
  | brokerInfo info => exact h.writable_field f hf
  | leave id =>
    obtain rfl := List.mem_singleton.mp hf
    exact .text h
  | controlEvent e => exact h.writable_field f hf

theorem short_names (m : GossipMessage) : ∀ name ∈ m.names, Short name := by
  have hdigest : ∀ name ∈ ["from", "members"], Short name := by decide +kernel
  cases m with
  | ping d => exact hdigest
  | ack d => exact hdigest
  | fetchBrokerInfo =>
    intro name hname
    cases hname
  | brokerInfo info => exact BrokerInfo.short_fieldNames
  | leave id =>
    have hid : ∀ name ∈ ["id"], Short name := by decide +kernel
    exact hid
  | controlEvent e => exact Envelope.short_fieldNames

theorem length_placed (m : GossipMessage) : m.placed.length ≤ 8 := by
  cases m with
  | brokerInfo info => exact info.length_fields
  | _ => simp [placed, content, Envelope.fields]

theorem Fits.writable {m : GossipMessage} (h : m.Fits) : Writable 3 m.toValue := by
  have hlength : m.placed.length + 1 < byteRange 4 :=
    Nat.lt_of_le_of_lt (Nat.succ_le_succ m.length_placed) (by decide)
  have htype : Short "type" := by decide +kernel
  have htags : ∀ tag ∈ tags, Short tag := by decide +kernel
  have htag : m.tag ∈ tags := by cases m <;> simp [tag, tags]
  rw [toValue, fields_eq]
  refine .recordOf ?_ ?_ ?_
  · rwa [List.length_cons, MsgPack.named, List.length_map]
  · intro f hf
    rcases List.mem_cons.mp hf with rfl | hf
    · exact htype
    · exact MsgPack.short_of_mem_named m.short_names hf
  · intro f hf
    rcases List.mem_cons.mp hf with rfl | hf
    · exact .text (htags _ htag)
    · obtain ⟨g, hg, rfl⟩ := List.mem_map.mp hf
      exact writable_placed h g hg

/-- A message that fits is read back from its bytes. -/
theorem decode?_encode {m : GossipMessage} (h : m.Fits) : decode? m.encode = some m :=
  h.writable.decode?_bind (by decide) (ofValue_toValue m)

/-! ## Calls and replies -/

theorem fits_metadata : metadata.Fits := by
  intro e he
  obtain rfl := List.mem_singleton.mp he
  exact ⟨by decide +kernel, by decide +kernel, by decide +kernel, by decide +kernel⟩

/-- Every message becomes a call. -/
theorem toPayload_eq (m : GossipMessage) : m.toPayload = .ok ⟨metadata.bytes, m.encode⟩ := by
  rw [toPayload, Composite.encode_of_fits fits_metadata]
  rfl

/-- A message that fits arrives as it was sent. -/
theorem ofPayload_of_fits {m : GossipMessage} (h : m.Fits) {p : Payload}
    (hp : m.toPayload = .ok p) : ofPayload p = some m := by
  rw [toPayload_eq] at hp
  cases hp
  exact decode?_encode h

/-- As a reply, it is not taken for the empty one. -/
theorem readReply_of_fits {m : GossipMessage} (h : m.Fits) {p : Payload}
    (hp : m.toPayload = .ok p) : GossipHost.readReply p = .ok (some m) := by
  have hread := ofPayload_of_fits h hp
  rw [toPayload_eq] at hp
  cases hp
  have hdata : m.encode.isEmpty = false :=
    List.isEmpty_eq_false_iff.mpr (List.ne_nil_of_length_pos m.toValue.length_encode_pos)
  simp only [GossipHost.readReply, hdata, hread, Bool.false_eq_true, if_false]

end GossipMessage

end ServiceMesh
