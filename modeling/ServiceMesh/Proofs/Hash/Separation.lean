import Mathlib.Data.Nat.Digits.Lemmas
import ServiceMesh.Hash.Murmur3

/-!
# What the hash keeps apart

Every step of the hash can be undone.  A product with an odd constant can, and so can a
rotation, the xor of a word with a shift of itself, and the addition of a constant.  So the
running hash after a word determines the one before it, if the word is known, and the word, if
the one before is known.  The avalanche at the end determines what it was given.

Data therefore has different hashes under different seeds.  Under one seed, data of one length
that differs within a single word, or within the short word at the end, has different hashes
(`Hash.one_word_apart`).
-/

namespace ServiceMesh.Hash

open Function (Injective)

/-! ## Steps on words -/

theorem mul_injective {a b : UInt32} (h : a * b = 1) : Injective fun x : UInt32 => x * a := by
  intro x y hxy
  have hundone := congrArg (· * b) hxy
  simpa only [UInt32.mul_assoc, h, UInt32.mul_one] using hundone

theorem add_injective (a : UInt32) : Injective fun x : UInt32 => x + a := by
  intro _ _ hxy
  exact (UInt32.add_left_inj a).mp hxy

theorem xor_injective (a : UInt32) : Injective fun x : UInt32 => x ^^^ a := by
  intro _ _ hxy
  exact (UInt32.xor_left_inj a).mp hxy

/-- A word is zero if a shift leaves it as it is. -/
theorem eq_zero_of_shiftRight_eq {z s : UInt32} (hs : 0 < s.toNat % 32) (h : z >>> s = z) :
    z = 0 := by
  have hnat := congrArg UInt32.toNat h
  rw [UInt32.toNat_shiftRight, Nat.shiftRight_eq_div_pow] at hnat
  by_contra hz
  have hpos : 0 < z.toNat := Nat.pos_of_ne_zero fun h0 => hz (UInt32.toNat_inj.mp h0)
  have hlt := Nat.div_lt_self hpos (Nat.one_lt_two_pow (Nat.pos_iff_ne_zero.mp hs))
  omega

/-- The xor of a word with a shift of itself determines the word.  The difference of two such
words would be the same after the shift. -/
theorem xorShift_injective {s : UInt32} (hs : 0 < s.toNat % 32) :
    Injective fun x : UInt32 => x ^^^ (x >>> s) := by
  intro x y hxy
  have hxy : x ^^^ (x >>> s) = y ^^^ (y >>> s) := hxy
  have hshift : (x ^^^ y) >>> s = x ^^^ y := by
    calc (x ^^^ y) >>> s
        = x ^^^ (x ^^^ (x >>> s)) ^^^ (y >>> s) := by
          rw [UInt32.shiftRight_xor, ← UInt32.xor_assoc x x, UInt32.xor_self, UInt32.zero_xor]
      _ = x ^^^ (y ^^^ (y >>> s)) ^^^ (y >>> s) := by rw [hxy]
      _ = x ^^^ y := by
          rw [UInt32.xor_assoc, UInt32.xor_assoc, UInt32.xor_self, UInt32.xor_zero]
  exact UInt32.xor_eq_zero_iff.mp (eq_zero_of_shiftRight_eq hs hshift)

theorem toBitVec_rotateLeft {x n : UInt32} (hpos : 0 < n.toNat) (hlt : n.toNat < 32) :
    (rotateLeft x n).toBitVec = x.toBitVec.rotateLeft n.toNat := by
  have hback : (32 - n).toNat = 32 - n.toNat := by
    rw [UInt32.toNat_sub_of_le _ _ (UInt32.le_iff_toNat_le.mpr (Nat.le_of_lt hlt))]
    rfl
  have hback_lt : 32 - n.toNat < 32 := by omega
  apply BitVec.eq_of_toNat_eq
  rw [BitVec.toNat_rotateLeft, UInt32.toNat_toBitVec, UInt32.toNat_toBitVec, rotateLeft,
    UInt32.toNat_or, UInt32.toNat_shiftLeft, UInt32.toNat_shiftRight, hback,
    Nat.mod_eq_of_lt hlt, Nat.mod_eq_of_lt hback_lt]

/-- Each bit of a word is found in the rotated word. -/
theorem getLsbD_rotateLeft_add {w r i : Nat} (x : BitVec w) (hr : r < w) (hi : i < w) :
    (x.rotateLeft r).getLsbD ((i + r) % w) = x.getLsbD i := by
  rw [BitVec.getLsbD_rotateLeft, Nat.mod_eq_of_lt hr]
  by_cases h : i + r < w
  · rw [Nat.mod_eq_of_lt h]
    simp [h]
  · have hmod : (i + r) % w = i + r - w := by
      rw [Nat.mod_eq_sub_mod (by omega), Nat.mod_eq_of_lt (by omega)]
    have hlow : i + r - w < r := by omega
    have hsame : w - r + (i + r - w) = i := by omega
    simp [hmod, hlow, hsame]

theorem rotateLeft_injective {n : UInt32} (hpos : 0 < n.toNat) (hlt : n.toNat < 32) :
    Injective fun x => rotateLeft x n := by
  intro x y hxy
  have hbits : x.toBitVec.rotateLeft n.toNat = y.toBitVec.rotateLeft n.toNat := by
    rw [← toBitVec_rotateLeft hpos hlt, ← toBitVec_rotateLeft hpos hlt]
    exact congrArg UInt32.toBitVec hxy
  refine UInt32.toBitVec_inj.mp (BitVec.eq_of_getLsbD_eq ?_)
  intro i hi
  rw [← getLsbD_rotateLeft_add x.toBitVec hlt hi, hbits, getLsbD_rotateLeft_add y.toBitVec hlt hi]

/-! ## Steps of the hash -/

theorem scramble_injective : Injective scramble :=
  have hfirst := mul_injective (a := 0xcc9e2d51) (b := 0xdee13bb1) (by decide)
  have hturn := rotateLeft_injective (n := 15) (by decide) (by decide)
  have hlast := mul_injective (a := 0x1b873593) (b := 0x56ed309b) (by decide)
  hlast.comp (hturn.comp hfirst)

/-- What a word leaves of the running hash, once it is xored into it. -/
theorem mixed_injective : Injective fun x : UInt32 => rotateLeft x 13 * 5 + 0xe6546b64 :=
  have hturn := rotateLeft_injective (n := 13) (by decide) (by decide)
  have hmul := mul_injective (a := 5) (b := 0xcccccccd) (by decide)
  (add_injective 0xe6546b64).comp (hmul.comp hturn)

theorem mixWord_injective_left (k : UInt32) : Injective fun h => mixWord h k :=
  mixed_injective.comp (xor_injective (scramble k))

theorem mixWord_injective_right (h : UInt32) : Injective fun k => mixWord h k := by
  intro k k' hk
  have hxor : h ^^^ scramble k = h ^^^ scramble k' := mixed_injective hk
  exact scramble_injective ((UInt32.xor_right_inj h).mp hxor)

theorem avalanche_injective : Injective avalanche :=
  have hfirst := xorShift_injective (s := 16) (by decide)
  have hmul := mul_injective (a := 0x85ebca6b) (b := 0xa5cb9243) (by decide)
  have hsecond := xorShift_injective (s := 13) (by decide)
  have hmul' := mul_injective (a := 0xc2b2ae35) (b := 0x7ed1b41d) (by decide)
  hfirst.comp (hmul'.comp (hsecond.comp (hmul.comp hfirst)))

/-! ## Words of data -/

theorem digit_lt {bs : Bytes} {d : Nat} (hd : d ∈ bs.map UInt8.toNat) : d < 256 := by
  obtain ⟨b, -, rfl⟩ := List.mem_map.mp hd
  exact b.toNat_lt

/-- Up to four bytes are the digits of the word they write. -/
theorem toNat_wordOf {bs : Bytes} (h : bs.length ≤ 4) :
    (wordOf bs).toNat = Nat.ofDigits 256 (bs.map UInt8.toNat) := by
  induction bs with
  | nil => rfl
  | cons b bs ih =>
    rw [List.length_cons] at h
    have hlt : Nat.ofDigits 256 (bs.map UInt8.toNat) < 256 ^ 3 := by
      have hdigits : ∀ d ∈ bs.map UInt8.toNat, d < 256 := by
        intro _
        exact digit_lt
      have hown := Nat.ofDigits_lt_base_pow_length (by decide) hdigits
      rw [List.length_map] at hown
      exact Nat.lt_of_lt_of_le hown (Nat.pow_le_pow_right (by decide) (by omega))
    have hshift : (wordOf bs <<< 8).toNat = 2 ^ 8 * Nat.ofDigits 256 (bs.map UInt8.toNat) := by
      rw [UInt32.toNat_shiftLeft, ih (by omega)]
      change _ <<< 8 % 2 ^ 32 = _
      rw [Nat.shiftLeft_eq]
      omega
    rw [wordOf, UInt32.toNat_or, UInt8.toNat_toUInt32, hshift, Nat.or_comm,
      ← Nat.two_pow_add_eq_or_of_lt b.toNat_lt, List.map_cons, Nat.ofDigits_cons, Nat.add_comm]

/-- A word determines the bytes that write it, if their number is known. -/
theorem wordOf_injective {x y : Bytes} (hlength : x.length = y.length) (hle : x.length ≤ 4)
    (h : wordOf x = wordOf y) : x = y := by
  have hnat := congrArg UInt32.toNat h
  rw [toNat_wordOf hle, toNat_wordOf (hlength ▸ hle)] at hnat
  have hdigits := Nat.ofDigits_inj_of_len_eq (by decide) (by simpa using hlength)
    (fun _ => digit_lt) (fun _ => digit_lt) hnat
  exact List.map_injective_iff.mpr (fun _ _ => UInt8.toNat_inj.mp) hdigits

/-! ## The running hash -/

theorem mixAll_nil (h : UInt32) : mixAll h [] = h := by
  unfold mixAll
  rfl

theorem mixAll_word {w : Bytes} (hw : w.length = 4) (h : UInt32) (rest : Bytes) :
    mixAll h (w ++ rest) = mixAll (mixWord h (wordOf w)) rest := by
  match w, hw with
  | [a, b, c, d], _ =>
    change mixAll h (a :: b :: c :: d :: rest) = _
    conv_lhs => unfold mixAll

/-- What is left behind the last full word is scrambled in as it is. -/
theorem mixAll_short {tail : Bytes} (hlt : tail.length < 4) (h : UInt32) :
    mixAll h tail = h ^^^ scramble (wordOf tail) := by
  unfold mixAll
  match tail, hlt with
  | [], _ =>
    have hzero : scramble (wordOf []) = 0 := by decide
    rw [hzero, UInt32.xor_zero]
  | [_], _ => rfl
  | [_, _], _ => rfl
  | [_, _, _], _ => rfl

/-- The bytes of full words are mixed in before what follows them. -/
theorem mixAll_append {p : Bytes} (hp : 4 ∣ p.length) (h : UInt32) (rest : Bytes) :
    mixAll h (p ++ rest) = mixAll (mixAll h p) rest := by
  obtain ⟨k, hk⟩ := hp
  induction k generalizing p h with
  | zero =>
    obtain rfl := List.eq_nil_of_length_eq_zero hk
    rw [List.nil_append, mixAll_nil]
  | succ k ih =>
    have hword : (p.take 4).length = 4 := by
      rw [List.length_take]
      omega
    have hrest : (p.drop 4).length = 4 * k := by
      rw [List.length_drop]
      omega
    rw [← List.take_append_drop 4 p, List.append_assoc, mixAll_word hword, mixAll_word hword,
      ih _ hrest]

/-- The running hash at the end determines the one at the start. -/
theorem mixAll_injective (data : Bytes) : Injective fun h => mixAll h data := by
  induction hn : data.length using Nat.strong_induction_on generalizing data with
  | _ n ih =>
    intro h h' heq
    have heq : mixAll h data = mixAll h' data := heq
    by_cases hshort : data.length < 4
    · rw [mixAll_short hshort, mixAll_short hshort] at heq
      exact (UInt32.xor_left_inj _).mp heq
    · have hword : (data.take 4).length = 4 := by
        rw [List.length_take]
        omega
      have hlt : (data.drop 4).length < n := by
        rw [List.length_drop]
        omega
      rw [← List.take_append_drop 4 data, mixAll_word hword, mixAll_word hword] at heq
      exact mixWord_injective_left _ (ih _ hlt _ rfl heq)

/-- Data that differs in one word, be it a full one or the short one at the end, leaves
different running hashes. -/
theorem mixAll_ne {p x y s : Bytes} (hp : 4 ∣ p.length) (hlength : x.length = y.length)
    (hle : x.length ≤ 4) (hs : x.length ≠ 4 → s = []) (hne : x ≠ y) (h : UInt32) :
    mixAll h (p ++ x ++ s) ≠ mixAll h (p ++ y ++ s) := by
  intro heq
  rw [List.append_assoc, List.append_assoc, mixAll_append hp, mixAll_append hp] at heq
  generalize mixAll h p = before at heq
  refine hne (wordOf_injective hlength hle ?_)
  by_cases hfull : x.length = 4
  · rw [mixAll_word hfull, mixAll_word (hlength ▸ hfull)] at heq
    exact mixWord_injective_right _ (mixAll_injective s heq)
  · have hlt : x.length < 4 := by omega
    rw [hs hfull, List.append_nil, List.append_nil, mixAll_short hlt,
      mixAll_short (hlength ▸ hlt)] at heq
    exact scramble_injective ((UInt32.xor_right_inj _).mp heq)

/-! ## The hash -/

theorem murmur3_ne {a b : Bytes} {seed seed' : UInt32} (hlength : a.length = b.length)
    (h : mixAll seed a ≠ mixAll seed' b) : murmur3 a seed ≠ murmur3 b seed' := by
  intro heq
  have hmixed := avalanche_injective heq
  rw [hlength] at hmixed
  exact h ((UInt32.xor_left_inj _).mp hmixed)

/-- Two byte strings of one length differ, but only within one block of four bytes, the blocks
being counted from the start. -/
structure DifferInBlock (a b : Bytes) : Prop where
  length_eq : a.length = b.length
  ne : a ≠ b
  elsewhere : ∃ i, ∀ k, k / 4 ≠ i → a[k]? = b[k]?

/-- Byte strings that differ in one block are put together from this block, what stands in
front of it, and what stands behind it if the block is full. -/
theorem DifferInBlock.cut {a b : Bytes} (h : DifferInBlock a b) :
    ∃ p x y s, a = p ++ x ++ s ∧ b = p ++ y ++ s ∧ 4 ∣ p.length ∧ x.length = y.length ∧
      x.length ≤ 4 ∧ (x.length ≠ 4 → s = []) ∧ x ≠ y := by
  obtain ⟨hlength, hne, i, hsame⟩ := h
  have hfront : b.take (4 * i) = a.take (4 * i) := by
    apply List.ext_getElem?
    intro k
    rw [List.getElem?_take, List.getElem?_take]
    split
    · exact (hsame k (by omega)).symm
    · rfl
  have hback : b.drop (4 * i + 4) = a.drop (4 * i + 4) := by
    apply List.ext_getElem?
    intro k
    rw [List.getElem?_drop, List.getElem?_drop]
    exact (hsame _ (by omega)).symm
  have hparts : ∀ z : Bytes,
      z = z.take (4 * i) ++ (z.drop (4 * i)).take 4 ++ z.drop (4 * i + 4) := by
    intro z
    rw [List.append_assoc, ← List.drop_drop, List.take_append_drop, List.take_append_drop]
  have hb := hparts b
  rw [hfront, hback] at hb
  have hblock : (a.drop (4 * i)).take 4 ≠ (b.drop (4 * i)).take 4 := by
    intro heq
    exact hne (by rw [hparts a, heq, ← hb])
  have hle : 4 * i ≤ a.length := by
    by_contra hlt
    rw [List.drop_eq_nil_of_le (by omega), List.drop_eq_nil_of_le (by omega)] at hblock
    exact hblock rfl
  refine ⟨_, _, _, _, hparts a, hb, ⟨i, ?_⟩, ?_, ?_, ?_, hblock⟩
  · rw [List.length_take, Nat.min_eq_left hle]
  · simp only [List.length_take, List.length_drop, hlength]
  · exact List.length_take_le 4 _
  · intro hfull
    rw [List.length_take, List.length_drop] at hfull
    exact List.drop_eq_nil_of_le (by omega)

/-- Hashes are different if one word of the data is, be it a full word, with anything behind
it, or the short one at the end; and they are different if the seeds are.  So byte strings that
differ in one block have different hashes, and keys whose lower-case forms do have different
routing hashes. -/
theorem one_word_apart :
    (∀ (seed : UInt32) (p x y s : Bytes), 4 ∣ p.length → x.length = y.length → x.length ≤ 4 →
      (x.length ≠ 4 → s = []) → x ≠ y → murmur3 (p ++ x ++ s) seed ≠ murmur3 (p ++ y ++ s) seed) ∧
    (∀ (data : Bytes) (seed seed' : UInt32), seed ≠ seed' →
      murmur3 data seed ≠ murmur3 data seed') ∧
    (∀ (seed : UInt32) (a b : Bytes), DifferInBlock a b → murmur3 a seed ≠ murmur3 b seed) ∧
    (∀ key key' : String, DifferInBlock (utf8 (Text.lowercase key)) (utf8 (Text.lowercase key')) →
      routingHash key ≠ routingHash key') := by
  have hword : ∀ (seed : UInt32) (p x y s : Bytes), 4 ∣ p.length → x.length = y.length →
      x.length ≤ 4 → (x.length ≠ 4 → s = []) → x ≠ y →
      murmur3 (p ++ x ++ s) seed ≠ murmur3 (p ++ y ++ s) seed := by
    intro seed p x y s hp hlength hle hs hne
    refine murmur3_ne ?_ (mixAll_ne hp hlength hle hs hne seed)
    simp only [List.length_append, hlength]
  have hblock : ∀ (seed : UInt32) (a b : Bytes), DifferInBlock a b →
      murmur3 a seed ≠ murmur3 b seed := by
    intro seed a b hab
    obtain ⟨p, x, y, s, rfl, rfl, hp, hlength, hle, hs, hne⟩ := hab.cut
    exact hword seed p x y s hp hlength hle hs hne
  refine ⟨hword, ?_, hblock, fun key key' => hblock routingSeed _ _⟩
  intro data seed seed' hne
  apply murmur3_ne rfl
  intro heq
  exact hne (mixAll_injective data heq)

/-- Two versions of a service have different routing hashes, and so have two short words at the
end of the same data. -/
theorem versions_apart :
    DifferInBlock (utf8 (Text.lowercase "G!Calc:1")) (utf8 (Text.lowercase "g!Calc:2")) ∧
      routingHash "G!Calc:1" ≠ routingHash "g!Calc:2" ∧
      murmur3 ([1, 2, 3, 4] ++ [5, 6] ++ []) 7 ≠ murmur3 ([1, 2, 3, 4] ++ [5, 0] ++ []) 7 ∧
      murmur3 [1] 7 ≠ murmur3 [1] 8 := by
  obtain ⟨hword, hseed, -, hkeys⟩ := one_word_apart
  have hapart : DifferInBlock (utf8 (Text.lowercase "G!Calc:1"))
      (utf8 (Text.lowercase "g!Calc:2")) := by
    have hfirst : utf8 (Text.lowercase "G!Calc:1") = [103, 33, 99, 97, 108, 99, 58, 49] := by
      decide +kernel
    have hsecond : utf8 (Text.lowercase "g!Calc:2") = [103, 33, 99, 97, 108, 99, 58, 50] := by
      decide +kernel
    rw [hfirst, hsecond]
    refine ⟨rfl, by decide, 1, ?_⟩
    intro k hk
    match k, hk with
    | 0, _ | 1, _ | 2, _ | 3, _ => rfl
    | k + 8, _ => rfl
  refine ⟨hapart, hkeys _ _ hapart, ?_, hseed _ 7 8 (by decide)⟩
  exact hword 7 [1, 2, 3, 4] [5, 6] [5, 0] [] (by decide) rfl (by decide) (fun _ => rfl) (by decide)

end ServiceMesh.Hash
