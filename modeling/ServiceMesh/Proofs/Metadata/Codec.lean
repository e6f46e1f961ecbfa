import Mathlib.Data.List.Basic
import ServiceMesh.Metadata.Routing

/-!
# Which bytes are call metadata

An entry *fits* the format if its mime type is ASCII of 1 to 128 bytes and its content is
short enough for the length field.  Each step of reading is characterised by an
equivalence, from the parts up to whole metadata: `Composite.decode_eq_ok_iff` says that
bytes read as a list of entries exactly if all of these fit and the bytes are theirs, one
entry after the other.  So what is read is never changed by writing it again, and a longer
list starts with the bytes of a shorter one.

Writing asks for less: `Composite.encode_eq_ok_iff` says that a list is written exactly if all its
entries are *sized*, be their mime types ASCII or not.  What is written is read back only if they
are (`Composite.decode_written`).
-/

namespace ServiceMesh

/-! ## Text and steps of reading -/

theorem ofUtf8?_eq_some_iff {b : Bytes} {s : String} : ofUtf8? b = some s ↔ utf8 s = b := by
  unfold ofUtf8? utf8 String.fromUTF8?
  constructor
  · intro h
    split at h
    · cases h
      rfl
    · cases h
  · rintro rfl
    have hs : (⟨s.toByteArray.data.toList.toArray⟩ : ByteArray) = s.toByteArray := rfl
    rw [hs, dif_pos s.isValidUTF8]
    rfl

@[simp] theorem ofUtf8?_utf8 (s : String) : ofUtf8? (utf8 s) = some s :=
  ofUtf8?_eq_some_iff.mpr rfl

/-- A computation of two steps succeeds exactly if both do. -/
theorem bind_eq_ok_iff {ε α β : Type} {x : Except ε α} {f : α → Except ε β} {b : β} :
    x >>= f = .ok b ↔ ∃ a, x = .ok a ∧ f a = .ok b := by
  cases x with
  | error e =>
    constructor
    · intro h
      cases h
    · rintro ⟨a, ha, -⟩
      cases ha
  | ok a =>
    constructor
    · intro h
      exact ⟨a, rfl, h⟩
    · rintro ⟨a', ha, hf⟩
      cases ha
      exact hf

/-! ## Entries that fit -/

namespace MetadataEntry

/-- An entry that the format can carry. -/
structure Fits (e : MetadataEntry) : Prop where
  ascii : ∀ x ∈ utf8 e.mime, x < 0x80
  mime_pos : 0 < (utf8 e.mime).length
  mime_le : (utf8 e.mime).length ≤ maxMimeLength
  content_le : e.content.length ≤ maxContentLength

/-- The first byte of an entry. -/
def header (e : MetadataEntry) : UInt8 := UInt8.ofNat ((utf8 e.mime).length - 1)

/-- The bytes of an entry. -/
def bytes (e : MetadataEntry) : Bytes :=
  e.header :: utf8 e.mime ++ Composite.lengthField e.content.length ++ e.content

/-- An entry whose parts have lengths that the format can say. -/
structure Sized (e : MetadataEntry) : Prop where
  mime_pos : 0 < (utf8 e.mime).length
  mime_le : (utf8 e.mime).length ≤ maxMimeLength
  content_le : e.content.length ≤ maxContentLength

/-- An entry with an ASCII mime type. -/
def Ascii (e : MetadataEntry) : Prop := ∀ x ∈ utf8 e.mime, x < 0x80

instance (e : MetadataEntry) : Decidable e.Ascii :=
  inferInstanceAs (Decidable (∀ x ∈ utf8 e.mime, x < 0x80))

theorem fits_iff {e : MetadataEntry} : e.Fits ↔ e.Sized ∧ e.Ascii := by
  constructor
  · rintro ⟨hascii, hpos, hle, hcontent⟩
    exact ⟨⟨hpos, hle, hcontent⟩, hascii⟩
  · rintro ⟨⟨hpos, hle, hcontent⟩, hascii⟩
    exact ⟨hascii, hpos, hle, hcontent⟩

theorem Fits.sized {e : MetadataEntry} (h : e.Fits) : e.Sized := (fits_iff.mp h).1

theorem Sized.header_toNat {e : MetadataEntry} (h : e.Sized) :
    e.header.toNat + 1 = (utf8 e.mime).length := by
  have hpos := h.mime_pos
  have hle := h.mime_le
  simp only [maxMimeLength] at hle
  simp only [header, UInt8.toNat_ofNat']
  omega

end MetadataEntry

/-- The high bit of a byte is clear if the byte is ASCII. -/
theorem highBit_eq_zero_iff (x : UInt8) : x &&& 0x80 = 0 ↔ x.toNat < 128 := by
  have hall : ∀ n : Fin 256, UInt8.ofFin n &&& 0x80 = 0 ↔ n.val < 128 := by decide +kernel
  exact hall x.toFin

namespace Composite

open MetadataEntry (Fits)

/-! ## The fields -/

theorem take_eq_ok_iff {n : Nat} {data a b : Bytes} :
    take n data = .ok (a, b) ↔ a.length = n ∧ a ++ b = data := by
  unfold take
  constructor
  · intro h
    split at h
    · cases h
    · rename_i hlen
      rw [List.splitAt_eq] at h
      cases h
      exact ⟨by rw [List.length_take]; omega, List.take_append_drop n data⟩
  · rintro ⟨rfl, rfl⟩
    rw [if_neg (by simp), List.splitAt_eq, List.take_left, List.drop_left]

theorem mimeOf_eq_ok_iff {b : Bytes} {mime : String} :
    mimeOf b = .ok mime ↔ utf8 mime = b ∧ ∀ x ∈ b, x < 0x80 := by
  unfold mimeOf
  constructor
  · intro h
    split at h
    · rename_i hall
      split at h
      · rename_i s hs
        cases h
        exact ⟨ofUtf8?_eq_some_iff.mp hs, by simpa using hall⟩
      · cases h
    · cases h
  · rintro ⟨rfl, hall⟩
    rw [if_pos (by simpa using hall), ofUtf8?_utf8]

/-- The number that the bytes of a length field write. -/
def lengthOf (b : Bytes) : Nat := b.foldl (fun n x => n * 256 + x.toNat) 0

theorem lengthOf_lengthField {n : Nat} (h : n ≤ maxContentLength) :
    lengthOf (lengthField n) = n := by
  simp only [maxContentLength] at h
  simp only [lengthOf, lengthField, List.foldl_cons, List.foldl_nil, UInt8.toNat_ofNat']
  omega

theorem lengthField_lengthOf {b : Bytes} (h : b.length = 3) :
    lengthField (lengthOf b) = b ∧ lengthOf b ≤ maxContentLength := by
  match b, h with
  | [x, y, z], _ =>
    have hx := x.toNat_lt
    have hy := y.toNat_lt
    have hz := z.toNat_lt
    simp only [lengthOf, lengthField, maxContentLength, List.foldl_cons, List.foldl_nil,
      List.cons.injEq, ← UInt8.toNat_inj, UInt8.toNat_ofNat', and_true]
    omega

/-! ## One entry -/

/-- What is read as an entry fits, and its bytes are those that were read.  The first byte is read
again as the first of the mime field. -/
theorem of_decodeEntry {x : UInt8} {data rest : Bytes} {e : MetadataEntry}
    (h : decodeEntry x (x :: data) = .ok (e, rest)) :
    e.Fits ∧ e.bytes ++ rest = x :: data := by
  unfold decodeEntry at h
  split at h
  · cases h
  · rename_i hbit
    have hx : x.toNat < 128 := (highBit_eq_zero_iff x).mp (not_not.mp hbit)
    obtain ⟨⟨front, data1⟩, hfront, h⟩ := bind_eq_ok_iff.mp h
    obtain ⟨mime, hmime, h⟩ := bind_eq_ok_iff.mp h
    obtain ⟨⟨field, data2⟩, hfield, h⟩ := bind_eq_ok_iff.mp h
    obtain ⟨⟨content, data3⟩, hcontent, h⟩ := bind_eq_ok_iff.mp h
    cases h
    obtain ⟨hfrontLength, hdata⟩ := take_eq_ok_iff.mp hfront
    obtain ⟨hmime, hascii⟩ := mimeOf_eq_ok_iff.mp hmime
    obtain ⟨hfieldLength, rfl⟩ := take_eq_ok_iff.mp hfield
    obtain ⟨hcontentLength, rfl⟩ := take_eq_ok_iff.mp hcontent
    obtain ⟨hfield, hle⟩ := lengthField_lengthOf hfieldLength
    match front, hfrontLength, hdata with
    | y :: mimeBytes, hlen, hdata =>
      rw [List.cons_append, List.cons.injEq] at hdata
      obtain ⟨rfl, rfl⟩ := hdata
      rw [List.drop_one, List.tail_cons] at hmime hascii
      subst hmime
      rw [List.length_cons] at hlen
      have hlen : (utf8 mime).length = y.toNat + 1 := by omega
      have hheader : UInt8.ofNat ((utf8 mime).length - 1) = y := by
        rw [hlen, Nat.add_sub_cancel, UInt8.ofNat_toNat]
      refine ⟨⟨hascii, Nat.lt_of_lt_of_eq (Nat.succ_pos _) hlen.symm, ?_, ?_⟩, ?_⟩
      · simp only [maxMimeLength, hlen]
        omega
      · exact Nat.le_trans (Nat.le_of_eq hcontentLength) hle
      · simp only [MetadataEntry.bytes, MetadataEntry.header, hheader, hcontentLength]
        change _ ++ lengthField (lengthOf field) ++ _ ++ _ = _
        rw [hfield]
        simp only [List.append_assoc, List.cons_append]

/-- The bytes of an entry are read as the entry, whatever follows them, if the mime type is
read. -/
theorem decodeEntry_sized {e : MetadataEntry} (h : e.Sized) (rest : Bytes) :
    decodeEntry e.header (e.bytes ++ rest)
      = (mimeOf (utf8 e.mime)).map fun mime => (⟨mime, e.content⟩, rest) := by
  have hnat := h.header_toNat
  have hle := h.mime_le
  simp only [maxMimeLength] at hle
  have hbit : ¬e.header &&& 0x80 ≠ 0 :=
    not_not.mpr ((highBit_eq_zero_iff e.header).mpr (by omega))
  have hlength : (e.header :: utf8 e.mime).length = e.header.toNat + 2 := by
    rw [List.length_cons]
    omega
  have hbytes : e.bytes ++ rest = (e.header :: utf8 e.mime) ++
      (lengthField e.content.length ++ (e.content ++ rest)) := by
    rw [MetadataEntry.bytes, List.append_assoc, List.append_assoc]
  have hfield : (lengthField e.content.length).length = 3 := rfl
  have hcontent := (lengthOf_lengthField h.content_le).symm
  have hmime := take_eq_ok_iff.mpr ⟨hlength, hbytes.symm⟩
  unfold decodeEntry
  rw [if_neg hbit, hmime]
  cases hread : mimeOf (utf8 e.mime) with
  | error cause =>
    change mimeOf (utf8 e.mime) >>= _ = _
    rw [hread]
    rfl
  | ok mime =>
    refine bind_eq_ok_iff.mpr ⟨_, rfl, bind_eq_ok_iff.mpr ⟨mime, hread, ?_⟩⟩
    refine bind_eq_ok_iff.mpr ⟨_, take_eq_ok_iff.mpr ⟨hfield, rfl⟩, ?_⟩
    exact bind_eq_ok_iff.mpr ⟨_, take_eq_ok_iff.mpr ⟨hcontent, rfl⟩, rfl⟩

/-- An entry that fits is read from its bytes, whatever follows them. -/
theorem decodeEntry_bytes {e : MetadataEntry} (hfits : e.Fits) (rest : Bytes) :
    decodeEntry e.header (e.bytes ++ rest) = .ok (e, rest) := by
  rw [decodeEntry_sized hfits.sized, mimeOf_eq_ok_iff.mpr ⟨rfl, hfits.ascii⟩]
  rfl

/-- A sized entry is not read if its mime type is not ASCII. -/
theorem decodeEntry_of_not_ascii {e : MetadataEntry} (h : e.Sized) (hascii : ¬e.Ascii)
    (rest : Bytes) :
    decodeEntry e.header (e.bytes ++ rest) = .error (.invalidUtf8 .mimeType) := by
  have hmime : mimeOf (utf8 e.mime) = .error (.invalidUtf8 .mimeType) := by
    rw [mimeOf, if_neg (by simpa [MetadataEntry.Ascii] using hascii)]
  rw [decodeEntry_sized h, hmime]
  rfl

/-- Reading one entry succeeds exactly if the bytes start with those of an entry that
fits, and it is this entry that is read. -/
theorem decodeEntry_eq_ok_iff {x : UInt8} {data rest : Bytes} {e : MetadataEntry} :
    decodeEntry x (x :: data) = .ok (e, rest) ↔ e.Fits ∧ e.bytes ++ rest = x :: data := by
  constructor
  · exact of_decodeEntry
  · rintro ⟨hfits, hdata⟩
    have hx : e.header = x := (List.cons.inj hdata).1
    rw [← hdata, ← hx]
    exact decodeEntry_bytes hfits rest

/-- An entry is written exactly if it is sized. -/
theorem encodeEntry_eq_ok_iff {e : MetadataEntry} {b : Bytes} :
    encodeEntry e = .ok b ↔ e.Sized ∧ e.bytes = b := by
  unfold encodeEntry
  simp only
  constructor
  · intro h
    split at h
    · cases h
    · next hmime =>
      split at h
      · cases h
      · next hcontent =>
        cases h
        rw [not_or, Nat.not_lt] at hmime
        exact ⟨⟨Nat.pos_of_ne_zero hmime.1, hmime.2, Nat.not_lt.mp hcontent⟩, rfl⟩
  · rintro ⟨⟨hpos, hle, hcontent⟩, rfl⟩
    rw [if_neg (by omega), if_neg (by omega)]
    rfl

/-! ## Lists of entries -/

/-- The bytes of metadata, entry by entry. -/
def bytes (c : Composite) : Bytes := c.entries.flatMap MetadataEntry.bytes

/-- Metadata whose entries all fit. -/
def Fits (c : Composite) : Prop := ∀ e ∈ c.entries, e.Fits

theorem decodeEntries_eq_ok_iff {fuel : Nat} {data : Bytes} {es : List MetadataEntry}
    (hfuel : data.length ≤ fuel) :
    decodeEntries fuel data = .ok es
      ↔ (∀ e ∈ es, e.Fits) ∧ es.flatMap MetadataEntry.bytes = data := by
  induction fuel generalizing data es with
  | zero =>
    obtain rfl : data = [] := List.eq_nil_of_length_eq_zero (Nat.le_zero.mp hfuel)
    cases es with
    | nil => simp [decodeEntries]
    | cons e rest => simp [decodeEntries, MetadataEntry.bytes]
  | succ fuel ih =>
    cases data with
    | nil =>
      cases es with
      | nil => simp [decodeEntries]
      | cons e rest => simp [decodeEntries, MetadataEntry.bytes]
    | cons x data =>
      unfold decodeEntries
      constructor
      · intro h
        obtain ⟨⟨e, rest⟩, he, h⟩ := bind_eq_ok_iff.mp h
        obtain ⟨es', hes, h⟩ := bind_eq_ok_iff.mp h
        cases h
        obtain ⟨hfits, hbytes⟩ := decodeEntry_eq_ok_iff.mp he
        have hshort : rest.length ≤ fuel := by
          have hlen := congrArg List.length hbytes
          simp only [MetadataEntry.bytes, List.length_append, List.length_cons] at hlen hfuel
          omega
        obtain ⟨hall, hrest⟩ := (ih hshort).mp hes
        refine ⟨List.forall_mem_cons.mpr ⟨hfits, hall⟩, ?_⟩
        rw [List.flatMap_cons, hrest, hbytes]
      · rintro ⟨hall, hbytes⟩
        cases es with
        | nil => cases hbytes
        | cons e es =>
          rw [List.forall_mem_cons] at hall
          rw [List.flatMap_cons] at hbytes
          have hshort : (es.flatMap MetadataEntry.bytes).length ≤ fuel := by
            have hlen := congrArg List.length hbytes
            simp only [MetadataEntry.bytes, List.length_append, List.length_cons] at hlen hfuel
            omega
          refine bind_eq_ok_iff.mpr ⟨(e, es.flatMap MetadataEntry.bytes), ?_, ?_⟩
          · exact decodeEntry_eq_ok_iff.mpr ⟨hall.1, hbytes⟩
          · exact bind_eq_ok_iff.mpr ⟨es, (ih hshort).mpr ⟨hall.2, rfl⟩, rfl⟩

/-- Bytes read as metadata exactly if its entries all fit and the bytes are theirs. -/
theorem decode_eq_ok_iff {data : Bytes} {c : Composite} :
    decode data = .ok c ↔ c.Fits ∧ c.bytes = data := by
  unfold decode
  constructor
  · intro h
    obtain ⟨es, hes, h⟩ := bind_eq_ok_iff.mp h
    cases h
    exact (decodeEntries_eq_ok_iff (Nat.le_refl _)).mp hes
  · intro h
    exact bind_eq_ok_iff.mpr ⟨c.entries, (decodeEntries_eq_ok_iff (Nat.le_refl _)).mpr h, rfl⟩

theorem encodeEntries_eq_ok_iff {es : List MetadataEntry} {b : Bytes} :
    encodeEntries es = .ok b ↔ (∀ e ∈ es, e.Sized) ∧ es.flatMap MetadataEntry.bytes = b := by
  induction es generalizing b with
  | nil => simp [encodeEntries]
  | cons e es ih =>
    rw [List.forall_mem_cons, List.flatMap_cons]
    constructor
    · intro h
      obtain ⟨head, hhead, h⟩ := bind_eq_ok_iff.mp h
      obtain ⟨tail, htail, h⟩ := bind_eq_ok_iff.mp h
      cases h
      obtain ⟨hsized, rfl⟩ := encodeEntry_eq_ok_iff.mp hhead
      obtain ⟨hall, rfl⟩ := ih.mp htail
      exact ⟨⟨hsized, hall⟩, rfl⟩
    · rintro ⟨⟨hsized, hall⟩, rfl⟩
      refine bind_eq_ok_iff.mpr ⟨e.bytes, encodeEntry_eq_ok_iff.mpr ⟨hsized, rfl⟩, ?_⟩
      exact bind_eq_ok_iff.mpr ⟨_, ih.mpr ⟨hall, rfl⟩, rfl⟩

/-- Metadata is written exactly if its entries are all sized. -/
theorem encode_eq_ok_iff {c : Composite} {b : Bytes} :
    encode c = .ok b ↔ (∀ e ∈ c.entries, e.Sized) ∧ c.bytes = b :=
  encodeEntries_eq_ok_iff

theorem encode_of_fits {c : Composite} (h : c.Fits) : encode c = .ok c.bytes :=
  encode_eq_ok_iff.mpr ⟨fun e he => (h e he).sized, rfl⟩

/-- What can be written fits, if its mime types are ASCII. -/
theorem of_encode {c : Composite} {b : Bytes}
    (hascii : ∀ e ∈ c.entries, ∀ x ∈ utf8 e.mime, x < 0x80) (h : encode c = .ok b) : c.Fits := by
  intro e he
  exact MetadataEntry.fits_iff.mpr ⟨(encode_eq_ok_iff.mp h).1 e he, hascii e he⟩

/-- Metadata that fits is read back from the bytes that it is written to. -/
theorem decode_bytes {c : Composite} (h : c.Fits) : decode c.bytes = .ok c :=
  decode_eq_ok_iff.mpr ⟨h, rfl⟩

/-- Writing and reading are inverse to each other between the lists of entries that fit and
the bytes that can be read.  A list fits exactly if it can be written and is then read back
as it was, and bytes read as a list exactly if it fits and is written to those bytes. -/
theorem encode_decode_inverse :
    (∀ c : Composite, c.Fits ↔ ∃ b, encode c = .ok b ∧ decode b = .ok c) ∧
    (∀ (b : Bytes) (c : Composite), decode b = .ok c ↔ c.Fits ∧ encode c = .ok b) := by
  constructor
  · intro c
    constructor
    · intro h
      exact ⟨c.bytes, encode_of_fits h, decode_bytes h⟩
    · rintro ⟨b, -, hb⟩
      exact (decode_eq_ok_iff.mp hb).1
  · intro b c
    rw [decode_eq_ok_iff]
    apply and_congr_right
    intro h
    rw [encode_of_fits h, Except.ok.injEq]

/-! ## What is written -/

/-- Entries are read up to the first one whose mime type is not ASCII. -/
theorem decodeEntries_of_not_ascii {fuel : Nat} {es : List MetadataEntry}
    (hfuel : (es.flatMap MetadataEntry.bytes).length ≤ fuel) (hsized : ∀ e ∈ es, e.Sized)
    (hascii : ∃ e ∈ es, ¬e.Ascii) :
    decodeEntries fuel (es.flatMap MetadataEntry.bytes) = .error (.invalidUtf8 .mimeType) := by
  induction es generalizing fuel with
  | nil =>
    obtain ⟨e, he, -⟩ := hascii
    cases he
  | cons e es ih =>
    rw [List.forall_mem_cons] at hsized
    rw [List.flatMap_cons] at hfuel ⊢
    cases fuel with
    | zero => cases hfuel
    | succ fuel =>
      have hshort : (es.flatMap MetadataEntry.bytes).length ≤ fuel := by
        simp only [MetadataEntry.bytes, List.length_append, List.length_cons] at hfuel
        omega
      change decodeEntry e.header (e.bytes ++ es.flatMap MetadataEntry.bytes) >>= _ = _
      by_cases he : e.Ascii
      · have hlater : ∃ e ∈ es, ¬e.Ascii := by
          obtain ⟨e', he', hnot⟩ := hascii
          rcases List.mem_cons.mp he' with rfl | he'
          · exact absurd he hnot
          · exact ⟨e', he', hnot⟩
        rw [decodeEntry_bytes (MetadataEntry.fits_iff.mpr ⟨hsized.1, he⟩)]
        change decodeEntries fuel (es.flatMap MetadataEntry.bytes) >>= _ = _
        rw [ih hshort hsized.2 hlater]
        rfl
      · rw [decodeEntry_of_not_ascii hsized.1 he]
        rfl

/-- Metadata that was written is read back if all its mime types are ASCII, and otherwise is
refused for the first one that is not. -/
theorem decode_written {c : Composite} {b : Bytes} (h : encode c = .ok b) :
    decode b = if ∀ e ∈ c.entries, e.Ascii then .ok c else .error (.invalidUtf8 .mimeType) := by
  obtain ⟨hsized, rfl⟩ := encode_eq_ok_iff.mp h
  split
  · next hascii =>
    apply decode_bytes
    intro e he
    exact MetadataEntry.fits_iff.mpr ⟨hsized e he, hascii e he⟩
  · next hascii =>
    have hascii : ∃ e ∈ c.entries, ¬e.Ascii := by
      simpa only [not_forall, exists_prop] using hascii
    exact congrArg (· >>= _) (decodeEntries_of_not_ascii (Nat.le_refl _) hsized hascii)

/-- A mime type that is not ASCII is written, but not read. -/
theorem written_not_read :
    let c : Composite := ⟨[⟨"text/plain", [104, 105]⟩, ⟨"é", []⟩]⟩
    ∃ b, encode c = .ok b ∧ decode b = .error (.invalidUtf8 .mimeType) := by
  intro c
  have hsized : ∀ e ∈ c.entries, e.Sized := by
    intro e he
    rcases List.mem_cons.mp he with rfl | he
    · exact ⟨by decide +kernel, by decide +kernel, by decide⟩
    · obtain rfl := List.mem_singleton.mp he
      exact ⟨by decide +kernel, by decide +kernel, by decide⟩
  have hwritten : encode c = .ok c.bytes := encode_eq_ok_iff.mpr ⟨hsized, rfl⟩
  have hascii : ¬∀ e ∈ c.entries, e.Ascii := by decide +kernel
  refine ⟨c.bytes, hwritten, ?_⟩
  rw [decode_written hwritten, if_neg hascii]

end Composite

end ServiceMesh
