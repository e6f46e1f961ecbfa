import ServiceMesh.Proofs.Metadata.Codec

/-!
# Metadata that breaks off

Entries are read field after field, and each field is asked for by its length.  So bytes
that break off within a field are found too short for it, and what stands in front of the
field is read as if they did not (`Composite.take_cut`).  Neither a mime type nor a content
that breaks off is ever read, whatever its bytes look like.

Written metadata that is cut at any place is therefore read as its first entries if it is cut
behind one of them, or at the start, and found truncated everywhere else
(`Composite.decode_cut`).
-/

namespace ServiceMesh

/-! ## Where entries end -/

namespace MetadataEntry

/-- How many bytes an entry takes: its first byte, the mime type, the length field and the
content. -/
def size (e : MetadataEntry) : Nat := 1 + (utf8 e.mime).length + 3 + e.content.length

@[simp] theorem length_bytes (e : MetadataEntry) : e.bytes.length = e.size := by
  simp only [bytes, size, Composite.lengthField, List.length_append, List.length_cons,
    List.length_nil]
  omega

end MetadataEntry

/-- How many bytes entries take. -/
def sizeOfEntries : List MetadataEntry → Nat
  | [] => 0
  | e :: rest => e.size + sizeOfEntries rest

theorem length_flatMap_bytes (es : List MetadataEntry) :
    (es.flatMap MetadataEntry.bytes).length = sizeOfEntries es := by
  induction es with
  | nil => rfl
  | cons e rest ih =>
    rw [List.flatMap_cons, List.length_append, MetadataEntry.length_bytes, ih, sizeOfEntries]

namespace Composite

open MetadataEntry (Fits)

/-- Where the `j`-th entry ends in the bytes of the metadata, the first entry being number
one.  Number zero stands for the start. -/
def endOf (c : Composite) (j : Nat) : Nat := sizeOfEntries (c.entries.take j)

/-! ## Steps of reading -/

/-- Something ends because bytes are missing. -/
def CutShort {α : Type} (result : Except MetadataError α) : Prop :=
  ∃ needed available, available < needed ∧ result = .error (.truncated needed available)

theorem CutShort.bind {α β : Type} {x : Except MetadataError α} (h : CutShort x)
    (f : α → Except MetadataError β) : CutShort (x >>= f) := by
  obtain ⟨needed, available, hlt, rfl⟩ := h
  exact ⟨needed, available, hlt, rfl⟩

theorem CutShort.of_bind {α β : Type} {x : Except MetadataError α} {a : α} (hx : x = .ok a)
    {f : α → Except MetadataError β} (h : CutShort (f a)) : CutShort (x >>= f) := by
  rw [hx]
  exact h

/-- Bytes that break off somewhere are too short for the first field, or have it whole. -/
theorem take_cut {n : Nat} {field rest p : Bytes} (hfield : field.length = n)
    (hp : p <+: field ++ rest) :
    CutShort (take n p) ∨ ∃ q, q <+: rest ∧ p = field ++ q ∧ take n p = .ok (field, q) := by
  by_cases hlt : p.length < n
  · exact .inl ⟨n, p.length, hlt, if_pos hlt⟩
  · right
    have hfront : field <+: p :=
      List.prefix_of_prefix_length_le (List.prefix_append field rest) hp (by omega)
    obtain ⟨q, rfl⟩ := hfront
    exact ⟨q, (List.prefix_append_right_inj field).mp hp, rfl, take_eq_ok_iff.mpr ⟨hfield, rfl⟩⟩

/-- Bytes that start as an entry and break off somewhere are too short for the entry, or have it
whole.  Each field is missing in part, or is read and leaves the fields behind it. -/
theorem decodeEntry_cut {e : MetadataEntry} (h : e.Fits) {rest p : Bytes}
    (hp : p <+: e.bytes ++ rest) :
    CutShort (decodeEntry e.header p) ∨ ∃ q, q <+: rest ∧ p = e.bytes ++ q := by
  have hnat := h.sized.header_toNat
  have hle := h.mime_le
  simp only [maxMimeLength] at hle
  have hbit : ¬e.header &&& 0x80 ≠ 0 :=
    not_not.mpr ((highBit_eq_zero_iff e.header).mpr (by omega))
  have hmime : (e.header :: utf8 e.mime).length = e.header.toNat + 2 := by
    rw [List.length_cons]
    omega
  have hfield : (lengthField e.content.length).length = 3 := rfl
  have hcontent := (lengthOf_lengthField h.content_le).symm
  have hbytes : e.bytes ++ rest = (e.header :: utf8 e.mime) ++
      (lengthField e.content.length ++ (e.content ++ rest)) := by
    rw [MetadataEntry.bytes, List.append_assoc, List.append_assoc]
  have hread : mimeOf (utf8 e.mime) = .ok e.mime := mimeOf_eq_ok_iff.mpr ⟨rfl, h.ascii⟩
  rw [hbytes] at hp
  unfold decodeEntry
  rw [if_neg hbit]
  rcases take_cut hmime hp with hshort | ⟨q, hq, rfl, htake⟩
  · exact .inl (hshort.bind _)
  rcases take_cut hfield hq with hshort | ⟨r, hr, rfl, htake'⟩
  · exact .inl (.of_bind htake (.of_bind hread (hshort.bind _)))
  rcases take_cut hcontent hr with hshort | ⟨s, hs, rfl, -⟩
  · exact .inl (.of_bind htake (.of_bind hread (.of_bind htake' (hshort.bind _))))
  · refine .inr ⟨s, hs, ?_⟩
    rw [MetadataEntry.bytes, List.append_assoc, List.append_assoc]

/-! ## Lists of entries -/

/-- Bytes of entries that break off anywhere but at the end of an entry are too short. -/
theorem decodeEntries_cut {fuel : Nat} {es : List MetadataEntry} {p : Bytes}
    (hfits : ∀ e ∈ es, e.Fits) (hp : p <+: es.flatMap MetadataEntry.bytes)
    (hfuel : p.length ≤ fuel) (hend : ∀ j, p.length ≠ sizeOfEntries (es.take j)) :
    CutShort (decodeEntries fuel p) := by
  induction es generalizing fuel p with
  | nil => exact absurd (congrArg List.length (List.prefix_nil.mp hp)) (hend 0)
  | cons e es ih =>
    rw [List.forall_mem_cons] at hfits
    rw [List.flatMap_cons] at hp
    match fuel, p, hfuel with
    | _, [], _ => exact absurd rfl (hend 0)
    | fuel + 1, x :: p, hfuel =>
      obtain rfl : x = e.header := (List.cons_prefix_cons.mp hp).1
      change CutShort (decodeEntry e.header (e.header :: p) >>= _)
      rcases decodeEntry_cut hfits.1 hp with hshort | ⟨q, hq, hpq⟩
      · exact hshort.bind _
      · rw [hpq]
        rw [hpq, List.length_append, MetadataEntry.length_bytes] at hfuel hend
        refine .of_bind (decodeEntry_bytes hfits.1 q) ((ih hfits.2 hq ?_ ?_).bind _)
        · simp only [MetadataEntry.size] at hfuel
          omega
        · intro j
          have hnext := hend (j + 1)
          rw [List.take_succ_cons, sizeOfEntries] at hnext
          omega

/-- Bytes that end where the `j`-th entry of metadata ends are those of the first `j`. -/
theorem eq_bytes_take {c : Composite} {p : Bytes} {j : Nat} (hp : p <+: c.bytes)
    (hend : p.length = c.endOf j) : p = bytes ⟨c.entries.take j⟩ := by
  have htake : bytes ⟨c.entries.take j⟩ <+: c.bytes := by
    refine ⟨(c.entries.drop j).flatMap MetadataEntry.bytes, ?_⟩
    change (c.entries.take j).flatMap _ ++ _ = c.entries.flatMap _
    rw [← List.flatMap_append, List.take_append_drop]
  have hlength : p.length = (bytes ⟨c.entries.take j⟩).length :=
    hend.trans (length_flatMap_bytes _).symm
  exact (List.prefix_of_prefix_length_le hp htake (Nat.le_of_eq hlength)).eq_of_length hlength

/-- Metadata that fits is written, and what was written can be cut anywhere.  Cut where an
entry ends, it is read as the entries up to there, as they were.  Cut anywhere else, it is
found truncated, with fewer bytes at hand than are needed. -/
theorem decode_cut {c : Composite} (h : c.Fits) :
    ∃ b, encode c = .ok b ∧ ∀ p, p <+: b →
      (∀ j, p.length = c.endOf j → decode p = .ok ⟨c.entries.take j⟩) ∧
      ((∀ j, p.length ≠ c.endOf j) →
        ∃ needed available, available < needed ∧
          decode p = .error (.truncated needed available)) := by
  refine ⟨c.bytes, encode_of_fits h, fun p hp => ⟨?_, ?_⟩⟩
  · intro j hj
    rw [eq_bytes_take hp hj]
    apply decode_bytes
    intro e he
    exact h e (List.mem_of_mem_take he)
  · intro hend
    exact (decodeEntries_cut h hp (Nat.le_refl _) hend).bind _

/-- A content that looks like an entry is no entry when it breaks off. -/
theorem cut_in_misleading_content :
    let c : Composite := ⟨[⟨"a", [7]⟩, ⟨"b/c", [0, 97, 0, 0, 0]⟩]⟩
    c.Fits ∧ ∃ b, encode c = .ok b ∧ decode (b.take 6) = .ok ⟨[⟨"a", [7]⟩]⟩ ∧
      ∃ needed available, available < needed ∧
        decode (b.take 17) = .error (.truncated needed available) := by
  intro c
  have hfits : c.Fits := by
    intro e he
    rcases List.mem_cons.mp he with rfl | he
    · exact ⟨by decide +kernel, by decide +kernel, by decide +kernel, by decide⟩
    · obtain rfl := List.mem_singleton.mp he
      exact ⟨by decide +kernel, by decide +kernel, by decide +kernel, by decide⟩
  obtain ⟨b, hb, hcut⟩ := decode_cut hfits
  have hlength : b.length = 18 := by
    rw [← (encode_eq_ok_iff.mp hb).2, bytes, length_flatMap_bytes]
    decide +kernel
  have hsizes : c.endOf 1 = 6 ∧ ∀ j, c.endOf j ≠ 17 := by
    refine ⟨by decide +kernel, ?_⟩
    intro j
    match j with
    | 0 => decide
    | 1 => decide +kernel
    | j + 2 =>
      have hall : c.endOf (j + 2) = c.endOf 2 := by simp [endOf, c]
      rw [hall]
      decide +kernel
  refine ⟨hfits, b, hb, (hcut _ (b.take_prefix 6)).1 1 ?_, (hcut _ (b.take_prefix 17)).2 ?_⟩
  · rw [List.length_take, hlength, hsizes.1]
    rfl
  · intro j
    rw [List.length_take, hlength]
    exact (hsizes.2 j).symm

end Composite

end ServiceMesh
