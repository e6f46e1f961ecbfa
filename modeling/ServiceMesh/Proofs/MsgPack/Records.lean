import ServiceMesh.Identity
import ServiceMesh.Proofs.MsgPack.RoundTrip

/-!
# Records are read back

A record is written as a map from the names of its fields, and is read by position.
`asFields_recordOf` says that the reader finds at its position every field that was written.
The fields themselves are read back one kind at a time, and brokers from these.
-/

namespace ServiceMesh

/-- Texts with the same bytes are the same. -/
theorem utf8_inj {s t : String} : utf8 s = utf8 t ↔ s = t := by
  constructor
  · intro h
    have hs := ofUtf8?_utf8 s
    rw [h, ofUtf8?_utf8] at hs
    exact (Option.some.inj hs).symm
  · exact congrArg utf8

/-- The items of a list are read back if each of them is. -/
theorem mapM_map_eq_some {α β : Type} {write : α → β} {read : β → Option α}
    (h : ∀ a, read (write a) = some a) (items : List α) :
    (items.map write).mapM read = some items := by
  induction items with
  | nil => rfl
  | cons a rest ih =>
    rw [List.map_cons, List.mapM_cons, h, ih]
    rfl

namespace MsgPack

/-! ## Fields by name -/

/-- A name is found by its text as by its bytes. -/
theorem positionOfName_utf8 (names : List String) (name : String) :
    Value.positionOfName names (utf8 name) = names.findIdx? (· == name) := by
  refine congrArg (List.findIdx? · names) (funext ?_)
  intro other
  rw [Bool.eq_iff_iff, beq_iff_eq, beq_iff_eq, utf8_inj]

/-- Names without repetitions are found at their own positions. -/
theorem positionOfName_getElem {names : List String} (hnames : names.Nodup) {i : Nat}
    (hi : i < names.length) : Value.positionOfName names (utf8 names[i]) = some i := by
  rw [positionOfName_utf8, List.findIdx?_eq_some_iff_getElem]
  refine ⟨hi, beq_self_eq_true _, ?_⟩
  intro j hj
  have hne : names[j] ≠ names[i] := List.pairwise_iff_getElem.mp hnames j i _ hi hj
  simpa using hne

/-- The fields of a record with their names. -/
def named (names : List String) (fields : Fields) : List (String × Value) :=
  fields.map fun f => (names.getD f.1 "", f.2)

/-- A field gets one of the names, or none if its position has no name. -/
theorem mem_named {names : List String} {fields : Fields} {f : String × Value}
    (hf : f ∈ named names fields) : f.1 ∈ names ∨ f.1 = "" := by
  obtain ⟨⟨i, v⟩, -, rfl⟩ := List.mem_map.mp hf
  rcases Nat.lt_or_ge i names.length with hi | hi
  · have hname : names.getD i "" = names[i] := by simp [hi]
    exact .inl (hname ▸ List.getElem_mem hi)
  · exact .inr (by simp [hi])

/-- A field whose position is not there is missing. -/
theorem at?_of_not_mem {fields : Fields} {i : Nat} (hi : i ∉ fields.map Prod.fst) :
    fields.at? i = none := by
  induction fields with
  | nil => rfl
  | cons f rest ih =>
    obtain ⟨j, v⟩ := f
    rw [List.map_cons, List.mem_cons, not_or] at hi
    have hne : (i == j) = false := beq_eq_false_iff_ne.mpr hi.1
    rw [Fields.at?, List.lookup_cons, hne]
    exact ih hi.2

/-- Rows with known names and without repetitions are collected in order, after what was collected
before. -/
theorem fieldsOfRows_named (reading : Reading) {names : List String} (hnames : names.Nodup)
    (before fields : Fields) (hpositions : ((before ++ fields).map Prod.fst).Nodup)
    (hrange : ∀ i ∈ fields.map Prod.fst, i < names.length) :
    fieldsOfRows reading names before ((named names fields).map fun f => (.text f.1, f.2))
      = some (before ++ fields) := by
  induction fields generalizing before with
  | nil => rw [List.append_nil]; rfl
  | cons f rest ih =>
    obtain ⟨i, v⟩ := f
    have hi : i < names.length := hrange i List.mem_cons_self
    have hname : names.getD i "" = names[i] := by simp [hi]
    have hnew : i ∉ before.map Prod.fst := by
      rw [List.map_append, List.nodup_append] at hpositions
      intro hmem
      exact hpositions.2.2 i hmem i List.mem_cons_self rfl
    have hkey : FieldKey.of reading names (.text (names.getD i "")) = some (.known i) := by
      simp only [FieldKey.of, FieldKey.named, hname, positionOfName_getElem hnames hi]
    have habsent : ¬ (before.at? i).isSome = true := by simp [at?_of_not_mem hnew]
    rw [List.append_cons] at hpositions ⊢
    change fieldsOfRows reading names before
      ((.text (names.getD i ""), v) :: (named names rest).map fun f => (.text f.1, f.2)) = _
    simp only [fieldsOfRows, hkey, if_neg habsent]
    apply ih _ hpositions
    intro j hj
    exact hrange j (List.mem_cons_of_mem _ hj)

/-- Every field of a record is found at its position. -/
theorem asFields_recordOf (reading : Reading) (names : List String) (fields : Fields)
    (positions : List Nat) (hfields : fields.map Prod.fst = positions) (hnames : names.Nodup)
    (hpositions : positions.Nodup) (hrange : ∀ i ∈ positions, i < names.length) :
    asFields reading names (recordOf (named names fields)) = some fields := by
  subst hfields
  exact fieldsOfRows_named reading hnames [] fields hpositions hrange

section

variable {α : Type} {item : Value → Option α} {default : α} {i j : Nat} {v : Value} {rest : Fields}

/-- No field is there without fields. -/
theorem Fields.at?_nil : Fields.at? [] i = none := rfl

@[simp] theorem Fields.at?_cons_self : Fields.at? ((i, v) :: rest) i = some v := by
  rw [Fields.at?, List.lookup_cons, beq_self_eq_true]

@[simp] theorem Fields.at?_cons_of_ne (h : i ≠ j) : Fields.at? ((j, v) :: rest) i = rest.at? i := by
  rw [Fields.at?, List.lookup_cons, beq_eq_false_iff_ne.mpr h]
  rfl

/-- A required field that is there is read. -/
@[simp] theorem Fields.required_of_at? {fields : Fields} (h : fields.at? i = some v) :
    fields.required i item = item v := by
  rw [Fields.required, h]

/-- An optional field that is there is read. -/
@[simp] theorem Fields.withDefault_of_at? {fields : Fields} (h : fields.at? i = some v) :
    fields.withDefault i item default = item v := by
  rw [Fields.withDefault, h]

/-- An optional field that is missing has its default. -/
@[simp] theorem Fields.withDefault_of_none {fields : Fields} (h : fields.at? i = none) :
    fields.withDefault i item default = some default := by
  rw [Fields.withDefault, h]

end

/-! ## What can be written -/

/-- A text whose length fits a length field. -/
def Short (s : String) : Prop := (utf8 s).length < byteRange 4

instance (s : String) : Decidable (Short s) := inferInstanceAs (Decidable (_ < _))

/-- A record can be written if its names are short and its values can. -/
theorem Writable.recordOf {d : Nat} {fields : List (String × Value)}
    (hlength : fields.length < byteRange 4) (hnames : ∀ f ∈ fields, Short f.1)
    (hvalues : ∀ f ∈ fields, Writable d f.2) : Writable (d + 1) (recordOf fields) := by
  refine .map (by rwa [List.length_map]) ?_ ?_
  · intro r hr
    obtain ⟨f, hf, rfl⟩ := List.mem_map.mp hr
    exact .text (hnames f hf)
  · intro r hr
    obtain ⟨f, hf, rfl⟩ := List.mem_map.mp hr
    exact hvalues f hf

/-- The names in a record are those of its fields, and these are short. -/
theorem short_of_mem_named {names : List String} (hnames : ∀ name ∈ names, Short name)
    {fields : Fields} {f : String × Value} (hf : f ∈ named names fields) : Short f.1 := by
  rcases mem_named hf with h | h
  · exact hnames _ h
  · rw [h]
    decide +kernel

/-- Fields by position can be written if their values can. -/
theorem Writable.named {d : Nat} {names : List String} (hnames : ∀ name ∈ names, Short name)
    {fields : Fields} (hlength : fields.length < byteRange 4)
    (hvalues : ∀ f ∈ fields, Writable d f.2) :
    Writable (d + 1) (MsgPack.recordOf (MsgPack.named names fields)) := by
  refine .recordOf (by rwa [MsgPack.named, List.length_map]) (fun f => short_of_mem_named hnames) ?_
  intro r hr
  obtain ⟨f, hf, rfl⟩ := List.mem_map.mp hr
  exact hvalues f hf

/-- What can be read from a value is read from its bytes. -/
theorem Writable.decode?_bind {d : Nat} {v : Value} (hv : Writable d v) (hdepth : d < maxDepth)
    {α : Type} {read : Value → Option α} {a : α} (hread : read v = some a) :
    decode? v.encode >>= read = some a := by
  have hvalue := decode?_encode hv hdepth []
  rw [List.append_nil] at hvalue
  rw [hvalue]
  exact hread

end MsgPack

open MsgPack (Value Fields Reading Writable Short)

/-! ## Ids and numbers -/

@[simp] theorem Uuid.asUuid_toValue (reading : Reading) (u : Uuid) :
    Value.asUuid reading u.toValue = some u :=
  u.ofBytes?_bytes

theorem writable_id (u : Uuid) (d : Nat) : Writable d u.toValue :=
  .binary (by rw [u.size_eq]; decide)

theorem writable_port (p : UInt16) (d : Nat) : Writable d (portValue p) :=
  .nat (Nat.lt_trans p.toNat_lt (by decide))

/-- A port is read back from its value. -/
theorem readPort_portValue (p : UInt16) : readPort (portValue p) = some p := by
  have hp : p.toNat ≤ 65535 := Nat.le_of_lt_succ p.toNat_lt
  simp [readPort, portValue, Value.nat, Value.asNat, hp]

/-- A word of 64 bits is read back from its value. -/
theorem readLong_nat (n : UInt64) : readLong (.nat n.toNat) = some n := by
  have hn : n.toNat ≤ 18446744073709551615 := Nat.le_of_lt_succ n.toNat_lt
  simp [readLong, Value.nat, Value.asNat, hn]

/-- A signed word of 32 bits is read back from its value. -/
theorem readSigned_int (n : Int32) : readSigned (.int n.toInt) = some n := by
  have hlow := n.le_toInt
  have hhigh := n.toInt_lt
  have hback : Int32.ofInt n.toInt = n := Int32.ofInt_toInt n
  unfold readSigned Value.int
  split
  · next hpos =>
    have hnat : ((n.toInt.toNat : Nat) : Int) = n.toInt := Int.toNat_of_nonneg hpos
    have hmax : n.toInt ≤ 2147483647 := by omega
    simp only [Value.nat, Value.asInt, hnat, if_pos hmax, Option.map_some, hback]
  · have hrange : -2147483648 ≤ n.toInt ∧ n.toInt ≤ 2147483647 := by omega
    simp only [Value.asInt, if_pos hrange, Option.map_some, hback]

theorem writable_int (n : Int32) (d : Nat) : Writable d (.int n.toInt) := by
  have hlow := n.le_toInt
  have hhigh := n.toInt_lt
  have hrange : byteRange 8 = 18446744073709551616 := rfl
  unfold Value.int
  split
  · exact .nat (by omega)
  · exact .negative (by omega) (by omega)

/-! ## Brokers -/

namespace BrokerInfo

/-- The texts of the broker can be written. -/
structure Fits (b : BrokerInfo) : Prop where
  id : Short b.id
  schema : Short b.schema
  ip : Short b.ip
  externalDomain : ∀ domain, b.externalDomain = some domain → Short domain

/-- The fields by position. -/
def fields (b : BrokerInfo) : Fields :=
  [(0, .text b.id), (1, .text b.schema), (2, .text b.ip)]
    ++ (b.externalDomain.map fun domain => (3, Value.text domain)).toList
    ++ [(4, portValue b.port), (5, portValue b.webPort), (6, .nat b.startTimeMs.toNat),
      (7, .int b.status.toInt)]

/-- The wire form of a broker names the fields by their positions. -/
theorem toFields_eq (b : BrokerInfo) : b.toFields = MsgPack.named fieldNames b.fields := by
  unfold toFields fields
  cases b.externalDomain <;> rfl

/-- The fields of a broker stand at fixed positions, and the external domain may be missing. -/
theorem positions_fields (b : BrokerInfo) :
    b.fields.map Prod.fst = [0, 1, 2, 4, 5, 6, 7] ∨
      b.fields.map Prod.fst = [0, 1, 2, 3, 4, 5, 6, 7] := by
  unfold fields
  cases b.externalDomain with
  | none => exact .inl rfl
  | some domain => exact .inr rfl

/-- The fields of a broker are collected from its wire form. -/
theorem asFields_toValue (reading : Reading) (b : BrokerInfo) :
    MsgPack.asFields reading fieldNames b.toValue = some b.fields := by
  rw [toValue, toFields_eq]
  rcases b.positions_fields with h | h
  · exact MsgPack.asFields_recordOf reading _ _ _ h (by decide) (by decide) (by decide)
  · exact MsgPack.asFields_recordOf reading _ _ _ h (by decide) (by decide) (by decide)

/-- A broker is read back from its wire form, in both ways of reading. -/
theorem ofValue_toValue (reading : Reading) (b : BrokerInfo) :
    ofValue reading b.toValue = some b := by
  have hread : ofValue reading b.toValue = (do
      let port ← readPort (portValue b.port)
      let webPort ← readPort (portValue b.webPort)
      let startTimeMs ← readLong (.nat b.startTimeMs.toNat)
      let status ← readSigned (.int b.status.toInt)
      return { b with port, webPort, startTimeMs, status }) := by
    rw [ofValue, b.asFields_toValue reading]
    obtain ⟨_, _, _, externalDomain, _, _, _, _⟩ := b
    cases externalDomain <;> rfl
  rw [hread, readPort_portValue, readPort_portValue, readLong_nat, readSigned_int]
  rfl

theorem short_fieldNames : ∀ name ∈ fieldNames, Short name := by decide +kernel

theorem length_fields (b : BrokerInfo) : b.fields.length ≤ 8 := by
  unfold fields
  cases b.externalDomain <;> simp

/-- Each field of a broker that fits can be written. -/
theorem Fits.writable_field {b : BrokerInfo} (h : b.Fits) {d : Nat} :
    ∀ f ∈ b.fields, Writable d f.2 := by
  intro f hf
  simp only [fields, List.mem_append, List.mem_cons, List.not_mem_nil, or_false,
    Option.mem_toList, Option.map_eq_some_iff] at hf
  obtain ((rfl | rfl | rfl) | ⟨domain, hb, rfl⟩) | (rfl | rfl | rfl | rfl) := hf
  · exact .text h.id
  · exact .text h.schema
  · exact .text h.ip
  · exact .text (h.externalDomain domain hb)
  · exact writable_port b.port d
  · exact writable_port b.webPort d
  · exact .nat b.startTimeMs.toNat_lt
  · exact writable_int b.status d

/-- A broker that fits can be written. -/
theorem Fits.writable {b : BrokerInfo} (h : b.Fits) (d : Nat) : Writable (d + 1) b.toValue := by
  have hlength : b.fields.length < byteRange 4 := Nat.lt_of_le_of_lt b.length_fields (by decide)
  rw [toValue, toFields_eq]
  exact .named short_fieldNames hlength h.writable_field

end BrokerInfo

end ServiceMesh
