import Mathlib.Data.List.Forall2
import ServiceMesh.Hash.Murmur3

/-!
# The case of ASCII letters

Two spellings of a text that differ only in the case of ASCII letters have one lower-case
form (`Text.lowercase_eq_of_same`), and so one routing hash.  This is not true character by
character: whether a sigma is final depends on the characters around it.  But whether a
character has case, and whether it is passed over when looking for case, is the same for a
letter in either case, so the sigmas agree too (`Text.lowerFrom_map_toLower`).

`Text.Respelled` says of two texts, without a word on lower case, that they differ in the case
of ASCII letters at most.  They do exactly if they are the same once these letters are in lower
case (`Text.respelled_iff`).
-/

namespace ServiceMesh

namespace Text

/-! ## Characters -/

theorem toLower_of_le {c : Char} (h : 128 ≤ c.toNat) : c.toLower = c := by
  have hnot : ¬(c.val ≥ 'A'.val ∧ c.val ≤ 'Z'.val) := by
    rintro ⟨-, hle⟩
    have hz : c.toNat ≤ 90 := UInt32.le_iff_toNat_le.mp hle
    omega
  exact dif_neg hnot

/-- What is the same for each ASCII character and its lower case is so for every character. -/
theorem apply_toLower {β : Type} {f : Char → β}
    (h : ∀ n < 128, f (Char.ofNat n).toLower = f (Char.ofNat n)) (c : Char) :
    f c.toLower = f c := by
  rcases Nat.lt_or_ge c.toNat 128 with hlt | hge
  · have hc := h c.toNat hlt
    rwa [Char.ofNat_toNat] at hc
  · rw [toLower_of_le hge]

@[simp] theorem isCased_toLower (c : Char) : isCased c.toLower = isCased c :=
  apply_toLower (by decide +kernel) c

@[simp] theorem isCaseIgnorable_toLower (c : Char) :
    isCaseIgnorable c.toLower = isCaseIgnorable c :=
  apply_toLower (by decide +kernel) c

@[simp] theorem lowerChar_toLower (c : Char) : lowerChar c.toLower = lowerChar c :=
  apply_toLower (by decide +kernel) c

theorem toLower_eq_sigma_iff (c : Char) : c.toLower = 'Σ' ↔ c = 'Σ' :=
  Eq.to_iff (apply_toLower (f := fun c => c = 'Σ') (by decide +kernel) c)

/-- Two characters are the same, or one letter of ASCII in its two cases.  These lie 32 code points
apart. -/
def SameLetter (c d : Char) : Prop :=
  c = d ∨ (c.isUpper = true ∧ d.toNat = c.toNat + 32) ∨ (d.isUpper = true ∧ c.toNat = d.toNat + 32)

theorem isUpper_iff (c : Char) : c.isUpper = true ↔ 65 ≤ c.toNat ∧ c.toNat ≤ 90 :=
  decide_eq_true_iff.trans (and_congr UInt32.le_iff_toNat_le UInt32.le_iff_toNat_le)

theorem isLower_iff (c : Char) : c.isLower = true ↔ 97 ≤ c.toNat ∧ c.toNat ≤ 122 :=
  Bool.and_eq_true_iff.trans (and_congr (decide_eq_true_iff.trans UInt32.le_iff_toNat_le)
    (decide_eq_true_iff.trans UInt32.le_iff_toNat_le))

theorem toNat_toLower (c : Char) :
    c.toLower.toNat = if c.isUpper then c.toNat + 32 else c.toNat := by
  by_cases h : c.isUpper = true
  · have hval : c.toLower.toNat = (c.val + 32).toNat :=
      congrArg Char.toNat (dif_pos (decide_eq_true_iff.mp h))
    have hle := (isUpper_iff c).mp h
    rw [if_pos h, hval, UInt32.toNat_add, Char.toNat_val]
    exact Nat.mod_eq_of_lt (by simp; omega)
  · rw [if_neg h]
    exact congrArg Char.toNat (dif_neg (mt decide_eq_true_iff.mpr h))

theorem toLower_eq_toLower_iff (c d : Char) : c.toLower = d.toLower ↔ SameLetter c d := by
  have hc := isUpper_iff c
  have hd := isUpper_iff d
  rw [SameLetter, ← Char.toNat_inj, ← Char.toNat_inj, toNat_toLower, toNat_toLower]
  split <;> split <;> simp_all <;> omega

/-- What is no letter is the lower case of itself alone. -/
theorem toLower_eq_iff_of_not_isAlpha {d : Char} (h : d.isAlpha = false) (c : Char) :
    c.toLower = d ↔ c = d := by
  obtain ⟨hupper, hlower⟩ : d.isUpper = false ∧ d.isLower = false := Bool.or_eq_false_iff.mp h
  rw [← Bool.not_eq_true, isUpper_iff] at hupper
  rw [← Bool.not_eq_true, isLower_iff] at hlower
  rw [← Char.toNat_inj, ← Char.toNat_inj, toNat_toLower]
  split
  · next hc =>
    have hle := (isUpper_iff c).mp hc
    omega
  · rfl

/-! ## Texts -/

@[simp] theorem toList_asciiLower (s : String) :
    (asciiLower s).toList = s.toList.map Char.toLower :=
  String.toList_ofList

@[simp] theorem asciiLower_ofList (cs : List Char) :
    asciiLower (String.ofList cs) = String.ofList (cs.map Char.toLower) := by
  rw [asciiLower, String.toList_ofList]

@[simp] theorem asciiLower_eq_empty_iff (s : String) : asciiLower s = "" ↔ s = "" := by
  rw [← String.toList_inj, ← String.toList_inj, toList_asciiLower]
  exact List.map_eq_nil_iff

theorem asciiLower_ofList_eq {cs : List Char} {s : String} (h : cs.map Char.toLower = s.toList) :
    asciiLower (String.ofList cs) = s := by
  rw [asciiLower_ofList, h, String.ofList_toList]

/-- Two texts differ at most in the case of ASCII letters. -/
def Respelled (a b : String) : Prop := List.Forall₂ SameLetter a.toList b.toList

theorem respelled_iff {a b : String} : Respelled a b ↔ asciiLower a = asciiLower b := by
  rw [Respelled, ← String.toList_inj, toList_asciiLower, toList_asciiLower, ← List.forall₂_eq_eq_eq,
    List.forall₂_map_left_iff, List.forall₂_map_right_iff]
  simp only [toLower_eq_toLower_iff]

theorem sameIgnoringAsciiCase_iff {a b : String} :
    sameIgnoringAsciiCase a b = true ↔ Respelled a b :=
  beq_iff_eq.trans respelled_iff.symm

theorem startsCased_map_toLower (cs : List Char) :
    startsCased (cs.map Char.toLower) = startsCased cs := by
  have hignorable : isCaseIgnorable ∘ Char.toLower = isCaseIgnorable :=
    funext isCaseIgnorable_toLower
  rw [startsCased, startsCased, List.dropWhile_map, hignorable]
  cases cs.dropWhile isCaseIgnorable with
  | nil => rfl
  | cons c rest => exact isCased_toLower c

/-- Neither what comes before nor what comes after need keep the case of its ASCII letters. -/
theorem lowerFrom_map_toLower (before cs : List Char) :
    lowerFrom (before.map Char.toLower) (cs.map Char.toLower) = lowerFrom before cs := by
  induction cs generalizing before with
  | nil => rfl
  | cons c rest ih =>
    have hrest := ih (c :: before)
    rw [List.map_cons] at hrest
    simp only [List.map_cons, lowerFrom, hrest, startsCased_map_toLower, toLower_eq_sigma_iff,
      lowerChar_toLower]

theorem lowercase_asciiLower (s : String) : lowercase (asciiLower s) = lowercase s := by
  rw [lowercase, asciiLower, String.toList_ofList]
  exact congrArg String.ofList (lowerFrom_map_toLower [] s.toList)

/-- Spellings that differ only in the case of ASCII letters have one lower-case form. -/
theorem lowercase_eq_of_same {a b : String} (h : sameIgnoringAsciiCase a b = true) :
    lowercase a = lowercase b := by
  rw [← lowercase_asciiLower a, ← lowercase_asciiLower b, beq_iff_eq.mp h]

end Text

theorem Hash.routingHash_asciiLower (key : String) :
    routingHash (Text.asciiLower key) = routingHash key := by
  rw [routingHash, routingHash, Text.lowercase_asciiLower]

/-- Spellings that differ only in the case of ASCII letters have one routing hash. -/
theorem Hash.routingHash_eq_of_same {a b : String} (h : Text.sameIgnoringAsciiCase a b = true) :
    routingHash a = routingHash b := by
  rw [routingHash, routingHash, Text.lowercase_eq_of_same h]

end ServiceMesh
