import ServiceMesh.Proofs.Locator.Grammar
import ServiceMesh.Proofs.MsgPack.Records

/-!
# Setup frames are read back

Locators travel in their written form, which determines them.  Maps travel as their rows in
order, from which they are put together again (`TextMap.ofList_entries`).  With these and the
numbers, everything that an application says about itself is read back, and so is the setup
frame that carries it, if its texts, maps and lists fit the length fields
(`Setup.decode?_encode`).
-/

namespace ServiceMesh

open MsgPack (Value Fields Reading Writable Short)

/-! ## Sorted maps -/

namespace TextMap

variable {ν : Type u}

theorem put_of_forall_lt {k : String} {v : ν} {rows : List (String × ν)}
    (h : ∀ e ∈ rows, e.1 < k) : put k v rows = rows ++ [(k, v)] := by
  induction rows with
  | nil => rfl
  | cons e rest ih =>
    obtain ⟨k', v'⟩ := e
    have hlt : k' < k := h (k', v') List.mem_cons_self
    have hnot : ¬k < k' := String.lt_asymm hlt
    have hne : ¬k = k' := by
      intro he
      exact String.lt_irrefl k' (he ▸ hlt)
    rw [put, if_neg hnot, if_neg hne, ih fun e he => h e (List.mem_cons_of_mem _ he)]
    rfl

/-- Rows that stand in order behind those of a map are put behind them. -/
theorem entries_foldl_insert (rows : List (String × ν)) (m : TextMap ν)
    (h : (m.entries ++ rows).Pairwise fun a b => a.1 < b.1) :
    (rows.foldl (fun m e => m.insert e.1 e.2) m).entries = m.entries ++ rows := by
  induction rows generalizing m with
  | nil => rw [List.append_nil]; rfl
  | cons e rest ih =>
    have hlast : ∀ x ∈ m.entries, x.1 < e.1 := by
      intro x hx
      exact (List.pairwise_append.mp h).2.2 x hx e List.mem_cons_self
    have hput : (m.insert e.1 e.2).entries = m.entries ++ [e] := put_of_forall_lt hlast
    rw [List.append_cons] at h ⊢
    rw [List.foldl_cons, ih _ (hput ▸ h), hput]

theorem ofList_entries (m : TextMap ν) : ofList m.entries = m :=
  ext_entries (entries_foldl_insert m.entries empty m.sorted)

end TextMap

/-! ## Single values -/

@[simp] theorem asText_text (s : String) : Value.asText (.text s) = some s := rfl

@[simp] theorem Locator.ofValue_toValue (l : Locator) : ofValue l.toValue = some l := by
  simp only [ofValue, toValue, Value.asText, Option.bind_eq_bind, Option.bind_some, parse_gsv]

@[simp] theorem AppStatus.ofValue_toValue (s : AppStatus) : ofValue s.toValue = some s := by
  cases s <;> rfl

theorem readWord_nat (n : UInt32) : readWord (.nat n.toNat) = some n := by
  have hn : n.toNat ≤ 4294967295 := Nat.le_of_lt_succ n.toNat_lt
  simp [readWord, Value.nat, Value.asNat, hn]

/-! ## Lists and maps -/

/-- A list of texts that can be written. -/
structure ShortTexts (texts : List String) : Prop where
  length : texts.length < byteRange 4
  short : ∀ s ∈ texts, Short s

theorem ShortTexts.writable {texts : List String} (h : ShortTexts texts) (d : Nat) :
    Writable (d + 1) (.array (texts.map .text)) := by
  refine .array (by rw [List.length_map]; exact h.length) ?_
  intro v hv
  obtain ⟨s, hs, rfl⟩ := List.mem_map.mp hv
  exact .text (h.short s hs)

theorem writable_locators {ls : List Locator} (h : ShortTexts (ls.map Locator.gsv)) (d : Nat) :
    Writable (d + 1) (.array (ls.map Locator.toValue)) := by
  have htexts : ls.map Locator.toValue = (ls.map Locator.gsv).map .text := by
    rw [List.map_map]
    rfl
  rw [htexts]
  exact h.writable d

section

variable {α : Type} {write : α → Value}

theorem asTextMap_ofTextMap {read : Value → Option α} (h : ∀ a, read (write a) = some a)
    (m : TextMap α) : Value.asTextMap read (MsgPack.ofTextMap write m) = some m := by
  have hrow (e : String × α) : (do
      let k ← Value.asText (.text e.1)
      let a ← read (write e.2)
      return (k, a)) = some e := by
    rw [h]
    rfl
  have hrows : (m.entries.map fun e => (Value.text e.1, write e.2)).mapM (fun r => do
      let k ← r.1.asText
      let a ← read r.2
      return (k, a)) = some m.entries := mapM_map_eq_some hrow m.entries
  change (do
    let rows ← (m.entries.map fun e => (Value.text e.1, write e.2)).mapM fun r => do
      let k ← r.1.asText
      let a ← read r.2
      return (k, a)
    return TextMap.ofList rows) = some m
  rw [hrows]
  exact congrArg some m.ofList_entries

theorem writable_ofTextMap {m : TextMap α} {d : Nat} (hkeys : ShortTexts (m.entries.map Prod.fst))
    (hvalues : ∀ e ∈ m.entries, Writable d (write e.2)) :
    Writable (d + 1) (MsgPack.ofTextMap write m) := by
  have hlength : m.entries.length < byteRange 4 := by
    have := hkeys.length
    rwa [List.length_map] at this
  refine .map (by rwa [List.length_map]) ?_ ?_
  · intro r hr
    obtain ⟨e, he, rfl⟩ := List.mem_map.mp hr
    exact .text (hkeys.short e.1 (List.mem_map_of_mem he))
  · intro r hr
    obtain ⟨e, he, rfl⟩ := List.mem_map.mp hr
    exact hvalues e he

end

/-! ## Applications -/

namespace AppMetadata

/-- The texts and the maps of the application can be written. -/
structure Fits (a : AppMetadata) : Prop where
  name : Short a.name
  ip : Short a.ip
  ports : ShortTexts (a.ports.entries.map Prod.fst)
  tags : ShortTexts (a.tags.entries.map Prod.fst)
  tag : ∀ e ∈ a.tags.entries, Short e.2

/-- The fields by position. -/
def fields (a : AppMetadata) : Fields :=
  [(0, a.instanceId.toValue), (1, .text a.name), (2, .text a.ip),
    (3, MsgPack.ofTextMap portValue a.ports), (4, .bool a.secure), (5, .nat a.weight.toNat),
    (6, MsgPack.ofTextMap .text a.tags)]

theorem ofValue_toValue (a : AppMetadata) : ofValue a.toValue = some a := by
  have hfields : MsgPack.asFields .strict fieldNames a.toValue = some a.fields :=
    MsgPack.asFields_recordOf .strict fieldNames a.fields [0, 1, 2, 3, 4, 5, 6] rfl (by decide)
      (by decide) (by decide)
  have hread : ofValue a.toValue = (do
      let instanceId ← Value.asUuid .strict a.instanceId.toValue
      let ports ← Value.asTextMap readPort (MsgPack.ofTextMap portValue a.ports)
      let weight ← readWord (.nat a.weight.toNat)
      let tags ← Value.asTextMap Value.asText (MsgPack.ofTextMap .text a.tags)
      return { a with instanceId, ports, weight, tags }) := by
    rw [ofValue, hfields]
    rfl
  rw [hread, Uuid.asUuid_toValue, asTextMap_ofTextMap readPort_portValue, readWord_nat,
    asTextMap_ofTextMap asText_text]
  rfl

theorem short_fieldNames : ∀ name ∈ fieldNames, Short name := by decide +kernel

theorem Fits.writable {a : AppMetadata} (h : a.Fits) (d : Nat) : Writable (d + 2) a.toValue := by
  change Writable (d + 2) (MsgPack.recordOf (MsgPack.named fieldNames a.fields))
  refine .named short_fieldNames (show 7 < byteRange 4 by decide) ?_
  intro f hf
  simp only [fields, List.mem_cons, List.not_mem_nil, or_false] at hf
  obtain rfl | rfl | rfl | rfl | rfl | rfl | rfl := hf
  · exact writable_id a.instanceId _
  · exact .text h.name
  · exact .text h.ip
  · apply writable_ofTextMap h.ports
    intro e _
    exact writable_port e.2 d
  · exact .bool a.secure
  · exact .nat (Nat.lt_trans a.weight.toNat_lt (by decide))
  · apply writable_ofTextMap h.tags
    intro e he
    exact .text (h.tag e he)

end AppMetadata

/-! ## Setup frames -/

namespace Setup

/-- The application and the services can be written. -/
structure Fits (s : Setup) : Prop where
  app : s.app.Fits
  services : ShortTexts (s.services.map Locator.gsv)

/-- The fields by position. -/
def fields (s : Setup) : Fields :=
  [(0, s.app.toValue), (1, .array (s.services.map Locator.toValue))]

theorem ofValue_toValue (s : Setup) : ofValue s.toValue = some s := by
  have hfields : MsgPack.asFields .strict fieldNames s.toValue = some s.fields :=
    MsgPack.asFields_recordOf .strict fieldNames s.fields [0, 1] rfl (by decide) (by decide)
      (by decide)
  have hread : ofValue s.toValue = (do
      let app ← AppMetadata.ofValue s.app.toValue
      let services ← (s.services.map Locator.toValue).mapM Locator.ofValue
      return { app, services }) := by
    rw [ofValue, hfields]
    rfl
  rw [hread, AppMetadata.ofValue_toValue, mapM_map_eq_some Locator.ofValue_toValue]
  rfl

theorem short_fieldNames : ∀ name ∈ fieldNames, Short name := by decide +kernel

theorem Fits.writable {s : Setup} (h : s.Fits) : Writable 3 s.toValue := by
  change Writable 3 (MsgPack.recordOf (MsgPack.named fieldNames s.fields))
  refine .named short_fieldNames (show 2 < byteRange 4 by decide) ?_
  intro f hf
  simp only [fields, List.mem_cons, List.not_mem_nil, or_false] at hf
  obtain rfl | rfl := hf
  · exact h.app.writable 0
  · exact writable_locators h.services 1

/-- A setup frame that fits is read back from its bytes. -/
theorem decode?_encode {s : Setup} (h : s.Fits) : decode? s.encode = some s :=
  h.writable.decode?_bind (by decide) s.ofValue_toValue

end Setup

end ServiceMesh
