import ServiceMesh.Uuid

/-!
# Written ids

An id is read back from its written form (`Uuid.ofText?_toText`), so two ids that are
written alike are one.  Balancers know providers by the written forms of their ids.
-/

namespace ServiceMesh

/-! ## Hexadecimal digits -/

theorem hexValue?_hexDigit {n : Nat} (h : n < 16) : hexValue? (hexDigit n) = some n := by
  revert n
  decide

/-- The digits of bytes write these bytes. -/
theorem bytesOfHex?_digits (b : Bytes) : bytesOfHex? (b.flatMap hexOfByte) = some b := by
  induction b with
  | nil => rfl
  | cons x rest ih =>
    have hhigh : hexValue? (hexDigit (x.toNat / 16)) = some (x.toNat / 16) :=
      hexValue?_hexDigit (by have := x.toNat_lt; omega)
    have hlow : hexValue? (hexDigit (x.toNat % 16)) = some (x.toNat % 16) :=
      hexValue?_hexDigit (Nat.mod_lt _ (by decide))
    have hbyte : UInt8.ofNat (x.toNat / 16 * 16 + x.toNat % 16) = x := by
      rw [Nat.div_add_mod']
      exact UInt8.ofNat_toNat
    simp only [List.flatMap_cons, hexOfByte, List.cons_append, List.nil_append, bytesOfHex?, hhigh,
      hlow, ih, hbyte, Option.bind_eq_bind, Option.bind_some, pure]

theorem length_digits (b : Bytes) : (b.flatMap hexOfByte).length = 2 * b.length := by
  induction b with
  | nil => rfl
  | cons x rest ih =>
    simp only [List.flatMap_cons, hexOfByte, List.cons_append, List.nil_append, List.length_cons,
      ih]
    omega

/-! ## Groups of digits -/

namespace Uuid

/-- Groups of digits of the right lengths, with hyphens between them, are read as the digits
without the hyphens. -/
theorem ofHyphenated?_groups {a b c d e : List Char} (ha : a.length = 8) (hb : b.length = 4)
    (hc : c.length = 4) (hd : d.length = 4) (he : e.length = 12) :
    ofHyphenated? (a ++ '-' :: b ++ '-' :: c ++ '-' :: d ++ '-' :: e)
      = (bytesOfHex? (a ++ b ++ c ++ d ++ e)).bind ofBytes? := by
  simp [ofHyphenated?, List.drop_append, List.drop_eq_nil_of_le, List.take_of_length_le, ha, hb,
    hc, hd, he]

/-- The bytes are those of the five groups. -/
theorem groups_eq (u : Uuid) :
    (u.bytes.drop 0).take 4 ++ (u.bytes.drop 4).take 2 ++ (u.bytes.drop 6).take 2
      ++ (u.bytes.drop 8).take 2 ++ (u.bytes.drop 10).take 6 = u.bytes := by
  rw [List.drop_zero, ← List.take_add, ← List.take_add, ← List.take_add, ← List.take_add]
  exact List.take_of_length_le (Nat.le_of_eq u.size_eq)

/-- An id is read back from its written form. -/
theorem ofText?_toText (u : Uuid) : ofText? u.toText = some u := by
  have hlength (i n : Nat) (h : i + n ≤ 16) :
      (((u.bytes.drop i).take n).flatMap hexOfByte).length = 2 * n := by
    rw [length_digits, List.length_take, List.length_drop, u.size_eq]
    omega
  have hread := ofHyphenated?_groups (hlength 0 4 (by decide)) (hlength 4 2 (by decide))
    (hlength 6 2 (by decide)) (hlength 8 2 (by decide)) (hlength 10 6 (by decide))
  rw [← List.flatMap_append, ← List.flatMap_append, ← List.flatMap_append, ← List.flatMap_append,
    u.groups_eq, bytesOfHex?_digits, Option.bind_some, ofBytes?_bytes] at hread
  have htext : u.toText.toList.length = 36 := by
    simp only [toText, String.toList_ofList, List.length_append, List.length_cons, length_digits,
      List.length_take, List.length_drop, u.size_eq]
    decide
  have hchars : ofHyphenated? u.toText.toList = some u := by
    rw [toText, String.toList_ofList]
    exact hread
  simp only [ofText?, htext, hchars]
  rfl

theorem toText_injective {u v : Uuid} (h : u.toText = v.toText) : u = v := by
  have hread := u.ofText?_toText
  rw [h, v.ofText?_toText] at hread
  exact (Option.some.inj hread).symm

end Uuid

end ServiceMesh
