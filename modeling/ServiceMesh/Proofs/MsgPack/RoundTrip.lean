import ServiceMesh.MsgPack.Decode
import ServiceMesh.Proofs.Metadata.Codec

/-!
# What is written is read back

A value is *writable* if it is one that the writer can tell apart from all others: its lengths
fit the length fields, its numbers fit 64 bits and are in their narrowest form, and its lists
and maps stand inside each other less deep than the reader goes.  `decode?_encode` says that
the reader gets every writable value back.

The first byte of a value says what follows.  There is one lemma for each kind of header, which
says what the reader does with it; values follow by induction on how they are writable.
-/

namespace ServiceMesh.MsgPack

/-- A value that can be written, with lists and maps at most so deep inside each other. -/
inductive Writable : Nat → Value → Prop where
  | nil {d : Nat} : Writable d .nil
  | bool {d : Nat} (b : Bool) : Writable d (.bool b)
  | nat {d n : Nat} (hn : n < byteRange 8) : Writable d (.nat n)
  | negative {d : Nat} {n : Int} (hneg : n < 0) (hn : -(byteRange 8 / 2 : Nat) ≤ n) :
      Writable d (.signed n)
  | float {d : Nat} {bits : Bytes} (h : bits.length = 4 ∨ bits.length = 8) :
      Writable d (.float bits)
  | text {d : Nat} {s : String} (h : (utf8 s).length < byteRange 4) : Writable d (.text s)
  | binary {d : Nat} {b : Bytes} (h : b.length < byteRange 4) : Writable d (.binary b)
  | array {d : Nat} {items : List Value} (h : items.length < byteRange 4)
      (hitems : ∀ v ∈ items, Writable d v) : Writable (d + 1) (.array items)
  | map {d : Nat} {rows : List (Value × Value)} (h : rows.length < byteRange 4)
      (hkeys : ∀ r ∈ rows, Writable d r.1) (hvalues : ∀ r ∈ rows, Writable d r.2) :
      Writable (d + 1) (.map rows)
  | extension {d : Nat} {kind : UInt8} {data : Bytes} (h : data.length < byteRange 4) :
      Writable d (.extension kind data)

/-! ## Numbers -/

theorem length_bigEndian (n width : Nat) : (bigEndian n width).length = width := by
  induction width generalizing n with
  | zero => rfl
  | succ width ih => rw [bigEndian, List.length_append, ih, List.length_singleton]

/-- A number that fits its width is read back from its bytes. -/
theorem natOfBytes_bigEndian {n width : Nat} (h : n < byteRange width) :
    natOfBytes (bigEndian n width) = n := by
  induction width generalizing n with
  | zero => exact (Nat.lt_one_iff.mp h).symm
  | succ width ih =>
    have hhigh : n / 256 < byteRange width := Nat.div_lt_of_lt_mul (Nat.mul_comm _ _ ▸ h)
    have hlow : natOfBytes (bigEndian n (width + 1))
        = natOfBytes (bigEndian (n / 256) width) * 256 + n % 256 := by
      simp only [natOfBytes, bigEndian, List.foldl_append, List.foldl_cons, List.foldl_nil,
        UInt8.toNat_ofNat']
    rw [hlow, ih hhigh]
    omega

/-- The width that is chosen for a number holds it. -/
theorem Width.lt_of {n : Nat} (h : n < byteRange 8) : n < byteRange (Width.of n).bytes := by
  unfold Width.of
  split
  · next hn => exact hn
  · split
    · next hn => exact hn
    · split
      · next hn => exact hn
      · exact h

/-- Taking as many bytes as there are in front takes those and leaves the rest. -/
theorem takeBytes_append {b : Bytes} {n : Nat} (h : b.length = n) (rest : Bytes) :
    takeBytes n (b ++ rest) = some (b, rest) := by
  subst h
  simp [takeBytes]

/-- A number is taken off the front of the bytes it was written to. -/
theorem takeNat_bigEndian {n width : Nat} (h : n < byteRange width) (rest : Bytes) :
    takeNat width (bigEndian n width ++ rest) = some (n, rest) := by
  simp only [takeNat, takeBytes_append (length_bigEndian n width), Option.bind_eq_bind,
    Option.bind_some, natOfBytes_bigEndian h, Option.pure_def]

/-- A negative number is taken off the front of its complement. -/
theorem takeInt_complement {n : Int} {width : Nat} (hneg : n < 0)
    (h : -(byteRange width / 2 : Nat) ≤ n) (rest : Bytes) :
    takeInt width (complement n width ++ rest) = some (n, rest) := by
  have hrange : (n + byteRange width).toNat < byteRange width := by omega
  have hupper : ¬ (n + byteRange width).toNat < byteRange width / 2 := by omega
  have hback : ((n + byteRange width).toNat : Int) - byteRange width = n := by omega
  simp only [takeInt, complement, takeNat_bigEndian hrange, Option.bind_eq_bind, Option.bind_some,
    if_neg hupper, hback, Option.pure_def]

/-! ## Headers -/

namespace Marker

/-- A byte below 128 is a number by itself. -/
theorem of_positive {n : Nat} (h : n < 128) :
    Marker.of (UInt8.ofNat n) = .whole (.unsigned .one n) := by
  have hb : (UInt8.ofNat n).toNat = n := by
    rw [UInt8.toNat_ofNat']
    omega
  simp only [Marker.of, hb, if_pos h]

/-- A byte from 0x80 on announces a short map. -/
theorem of_map {n : Nat} (h : n < 16) : Marker.of (UInt8.ofNat (0x80 + n)) = .map n := by
  have hb : (UInt8.ofNat (0x80 + n)).toNat = 0x80 + n := by
    rw [UInt8.toNat_ofNat']
    omega
  simp only [Marker.of, hb]
  rw [if_neg (by omega), if_pos (by omega), Nat.add_sub_cancel_left]

/-- A byte from 0x90 on announces a short list. -/
theorem of_array {n : Nat} (h : n < 16) : Marker.of (UInt8.ofNat (0x90 + n)) = .array n := by
  have hb : (UInt8.ofNat (0x90 + n)).toNat = 0x90 + n := by
    rw [UInt8.toNat_ofNat']
    omega
  simp only [Marker.of, hb]
  rw [if_neg (by omega), if_neg (by omega), if_pos (by omega), Nat.add_sub_cancel_left]

/-- A byte from 0xa0 on announces a short text. -/
theorem of_text {n : Nat} (h : n < 32) : Marker.of (UInt8.ofNat (0xa0 + n)) = .text n := by
  have hb : (UInt8.ofNat (0xa0 + n)).toNat = 0xa0 + n := by
    rw [UInt8.toNat_ofNat']
    omega
  simp only [Marker.of, hb]
  rw [if_neg (by omega), if_neg (by omega), if_neg (by omega), if_pos (by omega),
    Nat.add_sub_cancel_left]

/-- A byte from 0xe0 on is a negative number by itself. -/
theorem of_negative {n : Int} (hneg : n < 0) (h : -32 ≤ n) :
    Marker.of (UInt8.ofNat (n + 256).toNat) = .whole (.signed n) := by
  have hb : (UInt8.ofNat (n + 256).toNat).toNat = (n + 256).toNat := by
    rw [UInt8.toNat_ofNat']
    omega
  have hn : ((n + 256).toNat : Int) - 256 = n := by omega
  simp only [Marker.of, hb]
  rw [if_neg (by omega), if_neg (by omega), if_neg (by omega), if_neg (by omega),
    if_pos (by omega), hn]

end Marker

section

variable {fuel depth n width : Nat} {b : UInt8} (rest : Bytes)

/-- Behind a marker for a number its bytes are read, whatever its width. -/
theorem decodeValue_unsigned {w : Width} (hb : Marker.of b = .unsigned w)
    (hn : n < byteRange w.bytes) :
    decodeValue (fuel + 1) depth (b :: bigEndian n w.bytes ++ rest)
      = some (.unsigned w n, rest) := by
  simp only [List.cons_append, decodeValue, hb, takeNat_bigEndian hn, Option.bind_eq_bind,
    Option.bind_some, Option.pure_def]

/-- Behind a marker for a signed number its complement is read. -/
theorem decodeValue_signed {n : Int} (hb : Marker.of b = .signed width) (hneg : n < 0)
    (hn : -(byteRange width / 2 : Nat) ≤ n) :
    decodeValue (fuel + 1) depth (b :: complement n width ++ rest) = some (.signed n, rest) := by
  simp only [List.cons_append, decodeValue, hb, takeInt_complement hneg hn, Option.bind_eq_bind,
    Option.bind_some, Option.pure_def]

theorem decodeValue_float {bits : Bytes} (hb : Marker.of b = .float width)
    (hbits : bits.length = width) :
    decodeValue (fuel + 1) depth (b :: bits ++ rest) = some (.float bits, rest) := by
  simp only [List.cons_append, decodeValue, hb, takeBytes_append hbits, Option.bind_eq_bind,
    Option.bind_some, Option.pure_def]

/-- Behind a marker for a text its length is read, then the text. -/
theorem decodeValue_textOf (hb : Marker.of b = .textOf width) (hn : n < byteRange width) :
    decodeValue (fuel + 1) depth (b :: bigEndian n width ++ rest) = takeText n rest := by
  simp only [List.cons_append, decodeValue, hb, takeNat_bigEndian hn, Option.bind_eq_bind,
    Option.bind_some]

theorem decodeValue_binaryOf (hb : Marker.of b = .binaryOf width) (hn : n < byteRange width) :
    decodeValue (fuel + 1) depth (b :: bigEndian n width ++ rest) = takeBinary n rest := by
  simp only [List.cons_append, decodeValue, hb, takeNat_bigEndian hn, Option.bind_eq_bind,
    Option.bind_some]

/-- Behind a marker for a list its length is read, then the items. -/
theorem decodeValue_arrayOf (hb : Marker.of b = .arrayOf width) (hn : n < byteRange width) :
    decodeValue (fuel + 1) depth (b :: bigEndian n width ++ rest)
      = decodeArray fuel depth n rest := by
  simp only [List.cons_append, decodeValue, hb, takeNat_bigEndian hn, Option.bind_eq_bind,
    Option.bind_some]

/-- Behind a marker for a map its length is read, then the rows. -/
theorem decodeValue_mapOf (hb : Marker.of b = .mapOf width) (hn : n < byteRange width) :
    decodeValue (fuel + 1) depth (b :: bigEndian n width ++ rest)
      = decodeMap fuel depth n rest := by
  simp only [List.cons_append, decodeValue, hb, takeNat_bigEndian hn, Option.bind_eq_bind,
    Option.bind_some]

theorem decodeValue_extension (hb : Marker.of b = .extension n) :
    decodeValue (fuel + 1) depth ([b] ++ rest) = takeExtension n rest := by
  simp only [List.singleton_append, decodeValue, hb]

theorem decodeValue_extensionOf (hb : Marker.of b = .extensionOf width)
    (hn : n < byteRange width) :
    decodeValue (fuel + 1) depth (b :: bigEndian n width ++ rest) = takeExtension n rest := by
  simp only [List.cons_append, decodeValue, hb, takeNat_bigEndian hn, Option.bind_eq_bind,
    Option.bind_some]

/-- A number is read back, whichever of its widths was written. -/
theorem decodeValue_encodeNat (h : n < byteRange 8) :
    decodeValue (fuel + 1) depth (encodeNat n ++ rest) = some (.nat n, rest) := by
  unfold encodeNat Value.nat
  split
  · next hn =>
    rw [List.singleton_append, decodeValue, Marker.of_positive hn, Width.of, if_pos (by omega)]
  · have hfits := Width.lt_of h
    cases hw : Width.of n with
    | one => exact decodeValue_unsigned (w := .one) rest rfl (hw ▸ hfits)
    | two => exact decodeValue_unsigned (w := .two) rest rfl (hw ▸ hfits)
    | four => exact decodeValue_unsigned (w := .four) rest rfl (hw ▸ hfits)
    | eight => exact decodeValue_unsigned (w := .eight) rest rfl (hw ▸ hfits)

/-- A negative number is read back, whichever of its widths was written. -/
theorem decodeValue_encodeNegative {n : Int} (hneg : n < 0) (h : -(byteRange 8 / 2 : Nat) ≤ n) :
    decodeValue (fuel + 1) depth (encodeNegative n ++ rest) = some (.signed n, rest) := by
  unfold encodeNegative
  split
  · next hn =>
    change decodeValue (fuel + 1) depth (UInt8.ofNat (n + 256).toNat :: rest) = _
    rw [decodeValue, Marker.of_negative hneg hn]
  · split
    · next hn => exact decodeValue_signed rest rfl hneg hn
    · split
      · next hn => exact decodeValue_signed rest rfl hneg hn
      · split
        · next hn => exact decodeValue_signed rest rfl hneg hn
        · exact decodeValue_signed rest rfl hneg h

/-- The header of a text is read as its length. -/
theorem decodeValue_textHeader (h : n < byteRange 4) :
    decodeValue (fuel + 1) depth (textHeader n ++ rest) = takeText n rest := by
  unfold textHeader
  split
  · next hn => rw [List.singleton_append, decodeValue, Marker.of_text hn]
  · split
    · next hn => exact decodeValue_textOf rest rfl hn
    · split
      · next hn => exact decodeValue_textOf rest rfl hn
      · exact decodeValue_textOf rest rfl h

theorem decodeValue_binaryHeader (h : n < byteRange 4) :
    decodeValue (fuel + 1) depth (binaryHeader n ++ rest) = takeBinary n rest := by
  unfold binaryHeader
  split
  · next hn => exact decodeValue_binaryOf rest rfl hn
  · split
    · next hn => exact decodeValue_binaryOf rest rfl hn
    · exact decodeValue_binaryOf rest rfl h

/-- The header of a list is read as its length. -/
theorem decodeValue_arrayHeader (h : n < byteRange 4) :
    decodeValue (fuel + 1) depth (arrayHeader n ++ rest) = decodeArray fuel depth n rest := by
  unfold arrayHeader
  split
  · next hn => rw [List.singleton_append, decodeValue, Marker.of_array hn]
  · split
    · next hn => exact decodeValue_arrayOf rest rfl hn
    · exact decodeValue_arrayOf rest rfl h

/-- The header of a map is read as its length. -/
theorem decodeValue_mapHeader (h : n < byteRange 4) :
    decodeValue (fuel + 1) depth (mapHeader n ++ rest) = decodeMap fuel depth n rest := by
  unfold mapHeader
  split
  · next hn => rw [List.singleton_append, decodeValue, Marker.of_map hn]
  · split
    · next hn => exact decodeValue_mapOf rest rfl hn
    · exact decodeValue_mapOf rest rfl h

theorem decodeValue_extensionHeader (h : n < byteRange 4) :
    decodeValue (fuel + 1) depth (extensionHeader n ++ rest) = takeExtension n rest := by
  unfold extensionHeader
  split
  · next hn => exact decodeValue_extension rest (hn ▸ rfl)
  · split
    · next hn => exact decodeValue_extension rest (hn ▸ rfl)
    · split
      · next hn => exact decodeValue_extension rest (hn ▸ rfl)
      · split
        · next hn => exact decodeValue_extension rest (hn ▸ rfl)
        · split
          · next hn => exact decodeValue_extension rest (hn ▸ rfl)
          · split
            · next hn => exact decodeValue_extensionOf rest rfl hn
            · split
              · next hn => exact decodeValue_extensionOf rest rfl hn
              · exact decodeValue_extensionOf rest rfl h

end

/-! ## Values -/

/-- Every value takes at least one byte, which is why the fuel suffices. -/
theorem Value.length_encode_pos (v : Value) : 0 < v.encode.length := by
  have hheader (b : UInt8) (rest data : Bytes) : 0 < (b :: rest ++ data).length := Nat.succ_pos _
  have hnat (n : Nat) : 0 < (encodeNat n).length := by
    unfold encodeNat
    repeat' split
    all_goals exact Nat.succ_pos _
  cases v with
  | nil => exact Nat.succ_pos _
  | bool b => cases b <;> exact Nat.succ_pos _
  | unsigned w n => exact hnat n
  | signed n =>
    unfold Value.encode encodeNegative
    repeat' split
    · exact hnat _
    · rw [complement, length_bigEndian]
      exact Nat.one_pos
    all_goals exact Nat.succ_pos _
  | float bits => exact Nat.succ_pos _
  | text s =>
    simp only [Value.encode, textHeader]
    repeat' split
    all_goals exact hheader ..
  | binary b =>
    simp only [Value.encode, binaryHeader]
    repeat' split
    all_goals exact hheader ..
  | array items =>
    simp only [Value.encode, arrayHeader]
    repeat' split
    all_goals exact hheader ..
  | map rows =>
    simp only [Value.encode, mapHeader]
    repeat' split
    all_goals exact hheader ..
  | extension kind data =>
    simp only [Value.encode, extensionHeader]
    repeat' split
    all_goals exact hheader ..

/-- The reader gets a value back from its bytes, whatever follows them, if it has some fuel. -/
def Returns (d : Nat) (v : Value) : Prop :=
  ∀ (fuel depth : Nat) (rest : Bytes), 3 * v.encode.length ≤ fuel → d < depth →
    decodeValue fuel depth (v.encode ++ rest) = some (v, rest)

/-- Items that are read back one by one are read back as a list. -/
theorem decodeItems_encodeItems {d : Nat} {items : List Value} (hitems : ∀ v ∈ items, Returns d v)
    {fuel depth : Nat} (rest : Bytes) (hfuel : 3 * (encodeItems items).length + 1 ≤ fuel)
    (hdepth : d < depth) :
    decodeItems fuel depth items.length (encodeItems items ++ rest) = some (items, rest) := by
  induction items generalizing fuel with
  | nil =>
    unfold decodeItems
    rfl
  | cons v items ih =>
    have hpos := v.length_encode_pos
    rw [encodeItems, List.length_append] at hfuel
    obtain ⟨fuel, rfl⟩ : ∃ k, fuel = k + 1 := ⟨fuel - 1, by omega⟩
    have hfirstFuel : 3 * v.encode.length ≤ fuel := by omega
    have hrest : 3 * (encodeItems items).length + 1 ≤ fuel := by omega
    have hfirst := hitems v List.mem_cons_self fuel depth (encodeItems items ++ rest) hfirstFuel
      hdepth
    have hothers := ih (fun w hw => hitems w (List.mem_cons_of_mem _ hw)) hrest
    simp only [encodeItems, List.length_cons, List.append_assoc, decodeItems, hfirst, hothers,
      Option.bind_eq_bind, Option.bind_some, Option.pure_def]

/-- Rows whose keys and values are read back are read back as a map. -/
theorem decodeRows_encodeRows {d : Nat} {rows : List (Value × Value)}
    (hkeys : ∀ r ∈ rows, Returns d r.1) (hvalues : ∀ r ∈ rows, Returns d r.2)
    {fuel depth : Nat} (rest : Bytes) (hfuel : 3 * (encodeRows rows).length + 1 ≤ fuel)
    (hdepth : d < depth) :
    decodeRows fuel depth rows.length (encodeRows rows ++ rest) = some (rows, rest) := by
  induction rows generalizing fuel with
  | nil =>
    unfold decodeRows
    rfl
  | cons r rows ih =>
    obtain ⟨k, v⟩ := r
    have hpos := k.length_encode_pos
    rw [encodeRows, List.length_append, List.length_append] at hfuel
    obtain ⟨fuel, rfl⟩ : ∃ k, fuel = k + 1 := ⟨fuel - 1, by omega⟩
    have hkeyFuel : 3 * k.encode.length ≤ fuel := by omega
    have hvalueFuel : 3 * v.encode.length ≤ fuel := by omega
    have hrest : 3 * (encodeRows rows).length + 1 ≤ fuel := by omega
    have hkey := hkeys (k, v) List.mem_cons_self fuel depth
      (v.encode ++ (encodeRows rows ++ rest)) hkeyFuel hdepth
    have hvalue := hvalues (k, v) List.mem_cons_self fuel depth (encodeRows rows ++ rest)
      hvalueFuel hdepth
    have hothers := ih (fun w hw => hkeys w (List.mem_cons_of_mem _ hw))
      (fun w hw => hvalues w (List.mem_cons_of_mem _ hw)) hrest
    simp only [encodeRows, List.length_cons, List.append_assoc, decodeRows, hkey, hvalue, hothers,
      Option.bind_eq_bind, Option.bind_some, Option.pure_def]

/-- It suffices to read a value back with fuel left, for it takes at least one byte. -/
theorem Returns.of_succ {d : Nat} {v : Value}
    (h : ∀ (fuel depth : Nat) (rest : Bytes), 3 * v.encode.length ≤ fuel + 1 → d < depth →
      decodeValue (fuel + 1) depth (v.encode ++ rest) = some (v, rest)) : Returns d v := by
  intro fuel depth rest hfuel hdepth
  have hpos := v.length_encode_pos
  obtain ⟨fuel, rfl⟩ : ∃ k, fuel = k + 1 := ⟨fuel - 1, by omega⟩
  exact h fuel depth rest hfuel hdepth

theorem length_arrayHeader_pos (n : Nat) : 0 < (arrayHeader n).length := by
  unfold arrayHeader
  repeat' split
  all_goals exact Nat.succ_pos _

theorem length_mapHeader_pos (n : Nat) : 0 < (mapHeader n).length := by
  unfold mapHeader
  repeat' split
  all_goals exact Nat.succ_pos _

/-- The reader gets every writable value back.  A list or a map takes one unit of fuel for its
header and one to go down. -/
theorem Writable.returns {d : Nat} {v : Value} (hv : Writable d v) : Returns d v := by
  induction hv with
  | nil =>
    refine .of_succ ?_
    intro _ _ rest _ _
    simp only [Value.encode, List.singleton_append, decodeValue]
    rfl
  | bool b =>
    refine .of_succ ?_
    intro _ _ rest _ _
    cases b
    all_goals
      simp only [Value.encode, List.singleton_append, decodeValue]
      rfl
  | nat hn =>
    refine .of_succ ?_
    intro _ _ rest _ _
    exact decodeValue_encodeNat rest hn
  | negative hneg hn =>
    refine .of_succ ?_
    intro _ _ rest _ _
    rw [Value.encode, if_neg (by omega)]
    exact decodeValue_encodeNegative rest hneg hn
  | @float _ bits h =>
    refine .of_succ ?_
    intro _ _ rest _ _
    rcases h with h | h
    · simp only [Value.encode, if_pos h]
      exact decodeValue_float rest rfl h
    · have hne : ¬ bits.length = 4 := by omega
      simp only [Value.encode, if_neg hne]
      exact decodeValue_float rest rfl h
  | text h =>
    refine .of_succ ?_
    intro _ _ rest _ _
    simp only [Value.encode, List.append_assoc, decodeValue_textHeader _ h, takeText,
      takeBytes_append rfl, Option.bind_eq_bind, Option.bind_some, ofUtf8?_utf8, Option.pure_def]
  | binary h =>
    refine .of_succ ?_
    intro _ _ rest _ _
    simp only [Value.encode, List.append_assoc, decodeValue_binaryHeader _ h, takeBinary,
      takeBytes_append rfl, Option.bind_eq_bind, Option.bind_some, Option.pure_def]
  | @array d items h _ ih =>
    refine .of_succ ?_
    intro fuel depth rest hfuel hdepth
    have hpos := length_arrayHeader_pos items.length
    simp only [Value.encode, List.length_append] at hfuel
    obtain ⟨fuel, rfl⟩ : ∃ k, fuel = k + 1 := ⟨fuel - 1, by omega⟩
    have hitems : decodeItems fuel (depth - 1) items.length (encodeItems items ++ rest)
        = some (items, rest) := decodeItems_encodeItems ih rest (by omega) (by omega)
    have hdeep : ¬ depth ≤ 1 := by omega
    simp only [Value.encode, List.append_assoc, decodeValue_arrayHeader _ h, decodeArray,
      if_neg hdeep, hitems, Option.bind_eq_bind, Option.bind_some, Option.pure_def]
  | @map d rows h _ _ ihk ihv =>
    refine .of_succ ?_
    intro fuel depth rest hfuel hdepth
    have hpos := length_mapHeader_pos rows.length
    simp only [Value.encode, List.length_append] at hfuel
    obtain ⟨fuel, rfl⟩ : ∃ k, fuel = k + 1 := ⟨fuel - 1, by omega⟩
    have hrows : decodeRows fuel (depth - 1) rows.length (encodeRows rows ++ rest)
        = some (rows, rest) := decodeRows_encodeRows ihk ihv rest (by omega) (by omega)
    have hdeep : ¬ depth ≤ 1 := by omega
    simp only [Value.encode, List.append_assoc, decodeValue_mapHeader _ h, decodeMap,
      if_neg hdeep, hrows, Option.bind_eq_bind, Option.bind_some, Option.pure_def]
  | extension h =>
    refine .of_succ ?_
    intro _ _ rest _ _
    have hkind (kind : UInt8) (rest : Bytes) : takeBytes 1 (kind :: rest) = some ([kind], rest) :=
      takeBytes_append (b := [kind]) rfl rest
    simp only [Value.encode, List.append_assoc, List.cons_append,
      decodeValue_extensionHeader _ h, takeExtension, hkind, takeBytes_append rfl,
      Option.bind_eq_bind, Option.bind_some, List.headD_cons, Option.pure_def]

/-- Bytes that start with those of a writable value are read as that value. -/
theorem decode?_encode {d : Nat} {v : Value} (hv : Writable d v) (hdepth : d < maxDepth)
    (rest : Bytes) : decode? (v.encode ++ rest) = some v := by
  have hfuel : 3 * v.encode.length ≤ 3 * (v.encode ++ rest).length + 3 := by
    rw [List.length_append]
    omega
  rw [decode?, hv.returns _ _ rest hfuel hdepth]
  rfl

end ServiceMesh.MsgPack
