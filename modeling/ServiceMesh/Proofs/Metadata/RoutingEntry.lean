import ServiceMesh.Proofs.Locator.Grammar

/-!
# Which routing entries are read back

A key is read by three cuts: at the first group separator, at the first version separator after
it, and at the last point before that.  Points may stand in the group, the service and the
version, and whatever stands after the last point of the service part is the method.  So a
method is *carried* by the keys of a service if it has no point and no version separator in it,
and a group separator only if the group of the service comes before it
(`Routing.parseKey_key_iff`).

The binary form puts the hash of the service and the flags in front of the key.  Both forms say
the same about service and method: `Routing.read_back_iff_carried`.

Reading is lenient: an empty group or version is left out of the locator.  So an entry that was read
need not be read from its own key.  It is not if the empty group came before a method with a group
separator in it, for that separator is then the first one of the key (`Routing.read_again`).
-/

namespace ServiceMesh

/-! ## Keys -/

theorem groupSeparator_ne_point : groupSeparator ≠ '.' := by decide

/-- The spelling of a locator has a separator of groups iff the locator has a group. -/
theorem Locator.group_separator_mem_gsv_iff (l : Locator) :
    groupSeparator ∈ l.gsv.toList ↔ l.group ≠ "" := by
  obtain ⟨-, hservice, hversion⟩ := l.no_group_separator
  rw [Locator.gsv, toList_formatGsv]
  by_cases hg : l.group = "" <;> by_cases hv : l.version = "" <;>
    simp [hg, hv, hservice, hversion, groupSeparator_ne_versionSeparator]

namespace Routing

/-- A key without a separator has no group. -/
theorem beforeGroup_of_notMem {key : String} (h : groupSeparator ∉ key.toList) :
    beforeGroup key = ("", key) := by
  rw [beforeGroup, Text.cut?_eq_none_iff.mpr h]

/-- A key is cut at its first separator of groups. -/
theorem beforeGroup_of_eq {key : String} {a b : List Char}
    (h : key.toList = a ++ groupSeparator :: b) (ha : groupSeparator ∉ a) :
    beforeGroup key = (String.ofList a, String.ofList b) := by
  rw [beforeGroup, h, Text.cut?_append ha]

/-- A rest without a separator has no version. -/
theorem beforeVersion_of_notMem {rest : String} (h : versionSeparator ∉ rest.toList) :
    beforeVersion rest = (rest, "") := by
  rw [beforeVersion, Text.cut?_eq_none_iff.mpr h]

/-- A rest is cut at its first separator of versions. -/
theorem beforeVersion_of_eq {rest : String} {a b : List Char}
    (h : rest.toList = a ++ versionSeparator :: b) (ha : versionSeparator ∉ a) :
    beforeVersion rest = (String.ofList a, String.ofList b) := by
  rw [beforeVersion, h, Text.cut?_append ha]

/-- What stands before the version has no separator of versions. -/
theorem notMem_beforeVersion (rest : String) :
    versionSeparator ∉ (beforeVersion rest).1.toList := by
  unfold beforeVersion
  split
  · next name version h => simpa using (Text.append_of_cut? h).2
  · next h => exact Text.cut?_eq_none_iff.mp h

/-- What stands before the version is part of the rest. -/
theorem mem_of_mem_beforeVersion {rest : String} {x : Char}
    (h : x ∈ (beforeVersion rest).1.toList) : x ∈ rest.toList := by
  unfold beforeVersion at h
  split at h
  · next name version hcut =>
    rw [(Text.append_of_cut? hcut).1]
    exact List.mem_append_left _ (by simpa using h)
  · exact h

/-- What a key is read as: the method stands after the last point of the part before the
version, and the other parts make the locator. -/
theorem parseKey_eq_ok_iff {key : String} {sticky : Bool} {r : Routing} :
    parseKey key sticky = .ok r ↔ ∃ service,
      (beforeVersion (beforeGroup key).2).1.toList = service ++ '.' :: r.method.toList ∧
      '.' ∉ r.method.toList ∧ r.method ≠ "" ∧ r.sticky = sticky ∧
      r.locator.gsv = formatGsv (beforeGroup key).1 (String.ofList service)
        (beforeVersion (beforeGroup key).2).2 := by
  unfold parseKey
  simp only
  constructor
  · intro h
    split at h
    · cases h
    · next service method hcut =>
      split at h
      · cases h
      · next hne =>
        split at h
        · cases h
        · next locator hlocator =>
          cases h
          obtain ⟨hname, hmethod⟩ := Text.append_of_cutLast? hcut
          refine ⟨service, by simpa using hname, by simpa using hmethod, ?_, rfl,
            Locator.parse_eq_ok_iff.mp hlocator⟩
          simpa using hne
  · rintro ⟨service, hname, hmethod, hne, hsticky, hlocator⟩
    have hempty : ¬r.method.toList.isEmpty = true := by simpa using hne
    rw [hname, Text.cutLast?_append hmethod]
    simp only
    rw [if_neg hempty, Locator.parse_eq_ok_iff.mpr hlocator, ← hsticky, String.ofList_toList]

/-- The keys of the service carry the method. -/
structure Carried (l : Locator) (method : String) : Prop where
  ne_empty : method ≠ ""
  no_point : '.' ∉ method.toList
  no_version_separator : ':' ∉ method.toList
  group_first : '!' ∈ method.toList → l.group ≠ ""

/-- The key without its group. -/
def ungroupedKey (r : Routing) : String :=
  formatGsv "" (r.locator.service ++ "." ++ r.method) r.locator.version

/-- The group of a key is read back unless the method brings a separator without there being a
group. -/
theorem beforeGroup_key {r : Routing} (h : '!' ∈ r.method.toList → r.locator.group ≠ "") :
    beforeGroup r.key = (r.locator.group, r.ungroupedKey) := by
  obtain ⟨hgroup, hservice, hversion⟩ := r.locator.no_group_separator
  by_cases hg : r.locator.group = ""
  · have hsame : r.key = r.ungroupedKey := by
      rw [key, ungroupedKey, Locator.methodKey, hg]
    have hmethod : groupSeparator ∉ r.method.toList := by
      intro hm
      exact h hm hg
    have hkey : groupSeparator ∉ r.ungroupedKey.toList := by
      rw [ungroupedKey, toList_formatGsv, if_pos rfl]
      split <;> simp [hservice, hmethod, hversion, groupSeparator_ne_point,
        groupSeparator_ne_versionSeparator]
    rw [hsame, beforeGroup_of_notMem hkey, hg]
  · have hkey : r.key.toList
        = r.locator.group.toList ++ groupSeparator :: r.ungroupedKey.toList := by
      simp [key, Locator.methodKey, ungroupedKey, toList_formatGsv, hg]
    rw [beforeGroup_of_eq hkey hgroup, String.ofList_toList, String.ofList_toList]

/-- The version of an ungrouped spelling is read back. -/
theorem beforeVersion_formatGsv {name : String} (version : String)
    (hname : versionSeparator ∉ name.toList) :
    beforeVersion (formatGsv "" name version) = (name, version) := by
  by_cases hv : version = ""
  · have hsame : formatGsv "" name version = name := by
      simp [formatGsv, hv]
    rw [hsame, beforeVersion_of_notMem hname, hv]
  · have hrest : (formatGsv "" name version).toList
        = name.toList ++ versionSeparator :: version.toList := by
      simp [toList_formatGsv, hv]
    rw [beforeVersion_of_eq hrest hname, String.ofList_toList, String.ofList_toList]

/-- The version of a key is read back unless the method brings a separator. -/
theorem beforeVersion_ungroupedKey {r : Routing} (h : ':' ∉ r.method.toList) :
    beforeVersion r.ungroupedKey
      = (r.locator.service ++ "." ++ r.method, r.locator.version) := by
  obtain ⟨-, hservice, -⟩ := r.locator.no_version_separator
  have hpoint : versionSeparator ≠ '.' := by decide
  refine beforeVersion_formatGsv r.locator.version ?_
  simp [String.toList_append, hservice, hpoint, show versionSeparator ∉ r.method.toList from h]

/-- A key that carries its method is read back. -/
theorem Carried.parseKey_key {r : Routing} (h : Carried r.locator r.method) :
    parseKey r.key r.sticky = .ok r := by
  rw [parseKey_eq_ok_iff, beforeGroup_key h.group_first,
    beforeVersion_ungroupedKey h.no_version_separator]
  refine ⟨r.locator.service.toList, ?_, h.no_point, h.ne_empty, rfl, ?_⟩
  · simp [String.toList_append]
  · rw [String.ofList_toList]
    rfl

/-- A key has a group separator in its method, and none in front of it. -/
def LoneSeparator (r : Routing) : Prop := '!' ∈ r.method.toList ∧ r.locator.group = ""

instance (r : Routing) : Decidable r.LoneSeparator :=
  inferInstanceAs (Decidable ('!' ∈ r.method.toList ∧ r.locator.group = ""))

/-- Such a key is cut in its method: what comes before the separator is taken for the group. -/
theorem LoneSeparator.beforeGroup_key {r : Routing} (h : r.LoneSeparator) :
    ∃ before after, r.method.toList = before ++ groupSeparator :: after ∧
      beforeGroup r.key = (String.ofList (r.locator.service.toList ++ '.' :: before),
        formatGsv "" (String.ofList after) r.locator.version) := by
  obtain ⟨hmethod, hg⟩ := h
  obtain ⟨before, after, hsplit, hbefore⟩ :
      ∃ before after, r.method.toList = before ++ groupSeparator :: after ∧
        groupSeparator ∉ before := by
    cases hcut : Text.cut? groupSeparator r.method.toList with
    | none => exact absurd hmethod (Text.cut?_eq_none_iff.mp hcut)
    | some p => exact ⟨p.1, p.2, Text.append_of_cut? hcut⟩
  obtain ⟨-, hservice, -⟩ := r.locator.no_group_separator
  have hfront : groupSeparator ∉ r.locator.service.toList ++ '.' :: before := by
    simp [hservice, groupSeparator_ne_point, hbefore]
  have hkey : r.key.toList = (r.locator.service.toList ++ '.' :: before) ++ groupSeparator ::
      (formatGsv "" (String.ofList after) r.locator.version).toList := by
    simp [key, Locator.methodKey, toList_formatGsv, hg, String.toList_append, hsplit]
  refine ⟨before, after, hsplit, ?_⟩
  rw [beforeGroup_of_eq hkey hfront, String.ofList_toList]

/-- If the group separator of a key stands in its method, what is read has a group that the
service does not have. -/
theorem group_of_parseKey_key {r r' : Routing} (hlone : r.LoneSeparator)
    (h : parseKey r.key r.sticky = .ok r') : r'.locator.group ≠ "" := by
  obtain ⟨before, after, -, hcut⟩ := hlone.beforeGroup_key
  obtain ⟨service, -, -, -, -, hlocator⟩ := parseKey_eq_ok_iff.mp h
  rw [hcut] at hlocator
  rw [← r'.locator.group_separator_mem_gsv_iff, hlocator, toList_formatGsv]
  simp

/-- A key with a lone separator is not read if its method is one that reading can give: no point
is left in front of the version. -/
theorem LoneSeparator.parseKey_key {r : Routing} (hlone : r.LoneSeparator)
    (hpoint : '.' ∉ r.method.toList) (hcolon : ':' ∉ r.method.toList) (sticky : Bool) :
    parseKey r.key sticky = .error (.missingMethod r.key) := by
  obtain ⟨before, after, hsplit, hcut⟩ := hlone.beforeGroup_key
  rw [hsplit, List.mem_append, List.mem_cons, not_or, not_or] at hpoint hcolon
  have hname : versionSeparator ∉ (String.ofList after).toList := by
    rw [String.toList_ofList]
    exact hcolon.2.2
  unfold parseKey
  rw [hcut]
  simp only
  rw [beforeVersion_formatGsv r.locator.version hname]
  simp only
  rw [String.toList_ofList, Text.cutLast?_eq_none_iff.mpr hpoint.2.2]

/-- The methods that reading can give. -/
theorem method_of_parseKey {key : String} {sticky : Bool} {r : Routing}
    (h : parseKey key sticky = .ok r) :
    r.method ≠ "" ∧ '.' ∉ r.method.toList ∧ ':' ∉ r.method.toList := by
  obtain ⟨service, hname, hpoint, hne, -, -⟩ := parseKey_eq_ok_iff.mp h
  have hcolon := notMem_beforeVersion (beforeGroup key).2
  rw [hname, List.mem_append, List.mem_cons, not_or, not_or] at hcolon
  exact ⟨hne, hpoint, hcolon.2.2⟩

/-- A key is read as sticky as it is said to be. -/
theorem sticky_of_parseKey {key : String} {sticky : Bool} {r : Routing}
    (h : parseKey key sticky = .ok r) : r.sticky = sticky := by
  obtain ⟨service, -, -, -, hsticky, -⟩ := parseKey_eq_ok_iff.mp h
  exact hsticky

/-- A key is read back exactly if it carries its method. -/
theorem parseKey_key_iff {r : Routing} :
    parseKey r.key r.sticky = .ok r ↔ Carried r.locator r.method := by
  constructor
  · intro h
    obtain ⟨hne, hpoint, hcolon⟩ := method_of_parseKey h
    refine ⟨hne, hpoint, hcolon, ?_⟩
    intro hmethod hg
    exact group_of_parseKey_key ⟨hmethod, hg⟩ h hg
  · exact Carried.parseKey_key

/-! ## The binary form -/

/-- A word is made of its last byte and of what stands above it. -/
theorem shift_or_low (w : UInt32) : (w >>> 8) <<< 8 ||| w.toUInt8.toUInt32 = w := by
  have hw := w.toNat_lt
  have height : (8 : UInt32).toNat % 32 = 8 := by decide
  have hlow : w.toNat % 2 ^ 8 < 2 ^ 8 := Nat.mod_lt _ (by decide)
  have hhigh : w.toNat >>> 8 <<< 8 < 2 ^ 32 := by
    rw [Nat.shiftLeft_eq, Nat.shiftRight_eq_div_pow]
    omega
  apply UInt32.toNat_inj.mp
  rw [UInt32.toNat_or, UInt32.toNat_shiftLeft, UInt32.toNat_shiftRight, UInt8.toNat_toUInt32,
    UInt32.toNat_toUInt8, height, Nat.mod_eq_of_lt hhigh, ← Nat.shiftLeft_add_eq_or_of_lt hlow,
    Nat.shiftLeft_eq, Nat.shiftRight_eq_div_pow]
  omega

/-- Shifting further by a byte is shifting once more. -/
theorem shift_again (w n : UInt32) (h : n.toNat + 8 < 32) : w >>> (n + 8) = w >>> n >>> 8 := by
  have hn : n.toNat < 32 := by omega
  have hsum : (n + 8).toNat = n.toNat + 8 := by
    rw [UInt32.toNat_add]
    exact Nat.mod_eq_of_lt (Nat.lt_trans h (by decide))
  have height : (8 : UInt32).toNat % 32 = 8 := by decide
  apply UInt32.toNat_inj.mp
  rw [UInt32.toNat_shiftRight, UInt32.toNat_shiftRight, UInt32.toNat_shiftRight, hsum, height,
    Nat.mod_eq_of_lt h, Nat.mod_eq_of_lt hn, Nat.shiftRight_add]

/-- A word is read back from its bytes, each of which comes behind those of the shifted word. -/
theorem wordOfField_wordField (w : UInt32) : wordOfField (wordField w) = w := by
  have htop : (0 : UInt32) <<< 8 ||| (w >>> 24).toUInt8.toUInt32 = w >>> 24 := by
    have hnone : w >>> 24 >>> 8 = 0 := by
      have hw := w.toNat_lt
      apply UInt32.toNat_inj.mp
      simp only [UInt32.toNat_shiftRight, Nat.shiftRight_eq_div_pow]
      change w.toNat / 2 ^ 24 / 2 ^ 8 = 0
      omega
    rw [← hnone, shift_or_low]
  have hnext : w >>> 24 = w >>> 16 >>> 8 := shift_again w 16 (by decide)
  have hlast : w >>> 16 = w >>> 8 >>> 8 := shift_again w 8 (by decide)
  simp only [wordOfField, wordField, List.foldl_cons, List.foldl_nil]
  rw [htop, hnext, shift_or_low, hlast, shift_or_low, shift_or_low]

/-- The flags in front of a key. -/
def flags (r : Routing) : UInt8 := if r.sticky then stickyFlag else 0

/-- A routing entry is two hashes, the flags and the key. -/
theorem encodeBinary_eq (r : Routing) :
    r.encodeBinary
      = wordField r.serviceHash ++ (wordField r.handlerHash ++ r.flags :: utf8 r.key) := by
  rw [encodeBinary, List.append_assoc]
  rfl

/-- The hash in front is read without the rest, if there is enough of it. -/
theorem peekServiceHash_wordField (w : UInt32) {rest : Bytes} (h : 5 ≤ rest.length) :
    peekServiceHash (wordField w ++ rest) = .ok w := by
  have hlength : ¬(wordField w ++ rest).length < binaryHeaderLength := by
    rw [List.length_append, binaryHeaderLength]
    simp only [wordField, List.length_cons, List.length_nil]
    omega
  have hfield : (wordField w ++ rest).take 4 = wordField w := rfl
  rw [peekServiceHash, if_neg hlength, hfield, wordOfField_wordField]

/-- The hash of the service is read off the front of a written entry. -/
theorem peekServiceHash_encodeBinary (r : Routing) :
    peekServiceHash r.encodeBinary = .ok r.serviceHash := by
  rw [encodeBinary_eq]
  exact peekServiceHash_wordField _ (by simp [wordField])

/-- Bytes with a header and a key are read as the key is, and then the hashes are compared. -/
theorem decodeBinary_eq {data : Bytes} {declared : UInt32} {key : String}
    (hdeclared : peekServiceHash data = .ok declared)
    (hkey : ofUtf8? (data.drop binaryHeaderLength) = some key) :
    decodeBinary data = (parseKey key ((data.drop 8).headD 0 &&& stickyFlag ≠ 0) >>= fun r =>
      if r.serviceHash ≠ declared then .error (.hashMismatch declared r.serviceHash)
      else .ok r) := by
  simp only [decodeBinary, hdeclared, hkey, bind, Except.bind]
  cases parseKey key ((data.drop 8).headD 0 &&& stickyFlag ≠ 0) with
  | error cause => rfl
  | ok r =>
    simp only
    split
    · rfl
    · rfl

/-- The binary form is read as its key is, and then the hashes are compared. -/
theorem decodeBinary_encodeBinary (r : Routing) :
    decodeBinary r.encodeBinary = (parseKey r.key r.sticky >>= fun r' =>
      if r'.serviceHash ≠ r.serviceHash then
        .error (.hashMismatch r.serviceHash r'.serviceHash)
      else .ok r') := by
  have hflags : (r.encodeBinary.drop 8).headD 0 = r.flags := rfl
  have hkey : r.encodeBinary.drop binaryHeaderLength = utf8 r.key := rfl
  have hsticky : decide (r.flags &&& stickyFlag ≠ 0) = r.sticky := by
    cases hs : r.sticky <;> simp [flags, hs, stickyFlag]
  rw [decodeBinary_eq r.peekServiceHash_encodeBinary (by rw [hkey, ofUtf8?_utf8]), hflags, hsticky]

/-- The binary form is read as its key is, if that is read as a service with the same hash. -/
theorem decodeBinary_encodeBinary_eq_ok_iff {r r' : Routing} :
    decodeBinary r.encodeBinary = .ok r'
      ↔ parseKey r.key r.sticky = .ok r' ∧ r'.serviceHash = r.serviceHash := by
  rw [decodeBinary_encodeBinary]
  constructor
  · intro h
    obtain ⟨routing, hparse, h⟩ := bind_eq_ok_iff.mp h
    split at h
    · cases h
    · next hsame =>
      cases h
      exact ⟨hparse, not_not.mp hsame⟩
  · rintro ⟨hparse, hsame⟩
    exact bind_eq_ok_iff.mpr ⟨r', hparse, if_neg (not_not.mpr hsame)⟩

/-- What is read from a binary form is read from its key. -/
theorem exists_of_decodeBinary {data : Bytes} {r : Routing} (h : decodeBinary data = .ok r) :
    ∃ key, ofUtf8? (data.drop binaryHeaderLength) = some key ∧ parseKey key r.sticky = .ok r := by
  unfold decodeBinary at h
  obtain ⟨declared, -, h⟩ := bind_eq_ok_iff.mp h
  simp only at h
  split at h
  · cases h
  · next key hkey =>
    obtain ⟨routing, hparse, h⟩ := bind_eq_ok_iff.mp h
    split at h
    · cases h
    · cases h
      exact ⟨key, hkey, by rw [sticky_of_parseKey hparse, hparse]⟩

end Routing

/-! ## Call metadata -/

/-- The metadata without the entries of a mime type. -/
def Composite.without (c : Composite) (mime : String) : Composite :=
  ⟨c.entries.filter fun e => e.mime ≠ mime⟩

namespace Routing

/-- The types of the entries of a call are ASCII. -/
theorem ascii_composite (r : Routing) : ∀ e ∈ r.composite.entries, ∀ x ∈ utf8 e.mime, x < 0x80 := by
  have hbinary : ∀ x ∈ utf8 mimeBinaryRouting, x < 0x80 := by decide +kernel
  have htext : ∀ x ∈ utf8 mimeTextRouting, x < 0x80 := by decide +kernel
  intro e he
  rcases List.mem_cons.mp he with rfl | he
  · exact hbinary
  · obtain rfl := List.mem_singleton.mp he
    exact htext

/-- A routing entry has a header of fixed length before its key. -/
theorem length_encodeBinary (r : Routing) :
    r.encodeBinary.length = (utf8 r.key).length + binaryHeaderLength := by
  simp [encodeBinary_eq, wordField, binaryHeaderLength]

/-- The metadata can be written if the key leaves room for the header. -/
theorem fits_composite {r : Routing}
    (h : (utf8 r.key).length + binaryHeaderLength ≤ maxContentLength) : r.composite.Fits := by
  have hbinary : 0 < (utf8 mimeBinaryRouting).length ∧
      (utf8 mimeBinaryRouting).length ≤ maxMimeLength := by decide +kernel
  have htext : 0 < (utf8 mimeTextRouting).length ∧
      (utf8 mimeTextRouting).length ≤ maxMimeLength := by decide +kernel
  intro e he
  have hascii := r.ascii_composite e he
  rcases List.mem_cons.mp he with rfl | he
  · exact ⟨hascii, hbinary.1, hbinary.2, r.length_encodeBinary ▸ h⟩
  · obtain rfl := List.mem_singleton.mp he
    exact ⟨hascii, htext.1, htext.2, Nat.le_of_add_right_le h⟩

/-- The routing of the metadata of a call is its binary entry read. -/
theorem routing_composite (r : Routing) :
    r.composite.routing = decodeBinary r.encodeBinary := rfl

/-- Without the binary entry the routing is the key read, which is not sticky. -/
theorem routing_composite_without (r : Routing) :
    (r.composite.without mimeBinaryRouting).routing = parseKey r.key false := by
  have hentries : r.composite.without mimeBinaryRouting = ⟨[⟨mimeTextRouting, utf8 r.key⟩]⟩ := rfl
  have hbinary : Composite.get? ⟨[⟨mimeTextRouting, utf8 r.key⟩]⟩ mimeBinaryRouting = none := rfl
  have htext : Composite.get? ⟨[⟨mimeTextRouting, utf8 r.key⟩]⟩ mimeTextRouting
      = some ⟨mimeTextRouting, utf8 r.key⟩ := rfl
  rw [hentries, Composite.routing, hbinary, htext]
  simp only [ofUtf8?_utf8]

/-- The binary form is read back exactly if the method is not empty, has no point and no version
separator in it, and has a group separator in it only if the service has a group.  Then the hash
in front is that of the service, and metadata that can be written is read as the same entry, or
without its binary form as the same service and method, not sticky. -/
theorem read_back_iff_carried (l : Locator) (method : String) (sticky : Bool) :
    let r : Routing := ⟨l, method, sticky⟩
    (decodeBinary r.encodeBinary = .ok r
      ↔ method ≠ "" ∧ '.' ∉ method.toList ∧ ':' ∉ method.toList ∧
        ('!' ∈ method.toList → l.group ≠ "")) ∧
    (decodeBinary r.encodeBinary = .ok r →
      peekServiceHash r.encodeBinary = .ok r.serviceHash ∧
      ∀ b, r.toComposite = .ok b → ∃ c, Composite.decode b = .ok c ∧ c.routing = .ok r ∧
        (c.without mimeBinaryRouting).routing = .ok ⟨l, method, false⟩) := by
  intro r
  have hcarried : decodeBinary r.encodeBinary = .ok r ↔ Carried l method := by
    rw [decodeBinary_encodeBinary_eq_ok_iff, parseKey_key_iff]
    exact and_iff_left rfl
  constructor
  · rw [hcarried]
    constructor
    · rintro ⟨hne, hpoint, hcolon, hgroup⟩
      exact ⟨hne, hpoint, hcolon, hgroup⟩
    · rintro ⟨hne, hpoint, hcolon, hgroup⟩
      exact ⟨hne, hpoint, hcolon, hgroup⟩
  · intro h
    refine ⟨r.peekServiceHash_encodeBinary, ?_⟩
    intro b hb
    have hfits : r.composite.Fits := Composite.of_encode r.ascii_composite hb
    have hbytes : Composite.decode b = .ok r.composite := by
      rw [toComposite, Composite.encode_of_fits hfits] at hb
      cases hb
      exact Composite.decode_bytes hfits
    refine ⟨r.composite, hbytes, r.routing_composite.trans h, ?_⟩
    rw [routing_composite_without]
    exact Carried.parseKey_key (r := ⟨l, method, false⟩) (hcarried.mp h)

/-- A method with a group separator in it, of a service with a group and points in its name. -/
theorem read_back_behind_group :
    let l : Locator := ⟨"g", "demo.Clock", "2", by decide, by decide, by decide, by decide⟩
    let r : Routing := ⟨l, "set!", true⟩
    decodeBinary r.encodeBinary = .ok r ∧ peekServiceHash r.encodeBinary = .ok r.serviceHash ∧
      ∃ b c, r.toComposite = .ok b ∧ Composite.decode b = .ok c ∧ c.routing = .ok r ∧
        (c.without mimeBinaryRouting).routing = .ok ⟨l, "set!", false⟩ := by
  intro l r
  obtain ⟨hiff, hread⟩ := read_back_iff_carried l "set!" true
  have hback : decodeBinary r.encodeBinary = .ok r :=
    hiff.mpr ⟨by decide, by decide, by decide, fun _ => by decide⟩
  obtain ⟨hpeek, hcomposite⟩ := hread hback
  have hfits : r.composite.Fits := fits_composite (by decide +kernel)
  have hwritten : r.toComposite = .ok r.composite.bytes := Composite.encode_of_fits hfits
  obtain ⟨c, hdecode, hrouting, hwithout⟩ := hcomposite _ hwritten
  exact ⟨hback, hpeek, _, c, hwritten, hdecode, hrouting, hwithout⟩

/-! ## Reading what was read -/

/-- What was read from a key is read from its own key, unless that has a lone separator. -/
theorem parseKey_again {key : String} {sticky : Bool} {r : Routing}
    (h : parseKey key sticky = .ok r) :
    parseKey r.key sticky
      = if r.LoneSeparator then .error (.missingMethod r.key) else .ok r := by
  obtain ⟨hne, hpoint, hcolon⟩ := method_of_parseKey h
  split
  · next hlone => exact hlone.parseKey_key hpoint hcolon sticky
  · next hlone =>
    have hcarried : Carried r.locator r.method :=
      ⟨hne, hpoint, hcolon, fun hmethod hg => hlone ⟨hmethod, hg⟩⟩
    rw [← sticky_of_parseKey h]
    exact hcarried.parseKey_key

/-- A lone separator is read only from a key that starts with one: the group in front of it is
empty, and is left out of the locator.  The method stands in the key, and with it the separator.
-/
theorem LoneSeparator.of_parseKey {key : String} {sticky : Bool} {r : Routing}
    (hlone : r.LoneSeparator) (h : parseKey key sticky = .ok r) :
    ∃ rest, key.toList = groupSeparator :: rest := by
  obtain ⟨hmethod, hg⟩ := hlone
  obtain ⟨service, hname, -, -, -, hlocator⟩ := parseKey_eq_ok_iff.mp h
  cases hcut : Text.cut? groupSeparator key.toList with
  | none =>
    have hnone := Text.cut?_eq_none_iff.mp hcut
    rw [beforeGroup_of_notMem hnone] at hname
    refine absurd (mem_of_mem_beforeVersion ?_) hnone
    rw [hname]
    exact List.mem_append_right _ (List.mem_cons_of_mem _ hmethod)
  | some p =>
    obtain ⟨hkey, hbefore⟩ := Text.append_of_cut? hcut
    rw [beforeGroup_of_eq hkey hbefore] at hlocator
    have hnot : groupSeparator ∉ r.locator.gsv.toList := by
      intro hmem
      exact r.locator.group_separator_mem_gsv_iff.mp hmem hg
    rw [hlocator, toList_formatGsv] at hnot
    cases hgroup : p.1 with
    | nil => exact ⟨p.2, by rw [hkey, hgroup, List.nil_append]⟩
    | cons x xs => simp [hgroup] at hnot

/-- Whatever routing entry was read from bytes or from a key, its binary form and its key are read
as the same entry, unless its method has a group separator in it and its service no group.  Then
neither is read, for want of a method.  Only keys that start with a group separator are read as
such entries. -/
theorem read_again (data : Bytes) (key : String) (sticky : Bool) (r : Routing) :
    (decodeBinary data = .ok r → decodeBinary r.encodeBinary
      = if r.LoneSeparator then .error (.missingMethod r.key) else .ok r) ∧
    (parseKey key sticky = .ok r → parseKey r.key sticky
      = if r.LoneSeparator then .error (.missingMethod r.key) else .ok r) ∧
    (parseKey key sticky = .ok r → r.LoneSeparator → ∃ rest, key.toList = '!' :: rest) := by
  refine ⟨?_, parseKey_again, fun h hlone => hlone.of_parseKey h⟩
  intro h
  obtain ⟨key', -, hparse⟩ := exists_of_decodeBinary h
  have hagain := parseKey_again hparse
  split
  · next hlone =>
    rw [if_pos hlone] at hagain
    rw [decodeBinary_encodeBinary, hagain]
    rfl
  · next hlone =>
    rw [if_neg hlone] at hagain
    exact decodeBinary_encodeBinary_eq_ok_iff.mpr ⟨hagain, rfl⟩

/-- A key that starts with a group separator and has another one in its method. -/
theorem lone_separator_not_read_again :
    let l : Locator := ⟨"", "Calc", "", by decide, by decide, by decide, by decide⟩
    let r : Routing := ⟨l, "add!x", false⟩
    let data := wordField r.serviceHash ++ (wordField 0 ++ 0 :: utf8 "!Calc.add!x")
    decodeBinary data = .ok r ∧ parseKey "!Calc.add!x" false = .ok r ∧ r.LoneSeparator ∧
      decodeBinary r.encodeBinary = .error (.missingMethod "Calc.add!x") ∧
      parseKey r.key false = .error (.missingMethod "Calc.add!x") := by
  intro l r data
  have hparse : parseKey "!Calc.add!x" false = .ok r := by
    refine parseKey_eq_ok_iff.mpr ⟨"Calc".toList, by decide +kernel, by decide, by decide, rfl, ?_⟩
    decide +kernel
  have hdecode : decodeBinary data = .ok r := by
    have hdeclared : peekServiceHash data = .ok r.serviceHash :=
      peekServiceHash_wordField _ (by simp [wordField])
    have hkey : ofUtf8? (data.drop binaryHeaderLength) = some "!Calc.add!x" := ofUtf8?_utf8 _
    have hflags : decide ((data.drop 8).headD 0 &&& stickyFlag ≠ 0) = false := by
      change decide ((0 : UInt8) &&& stickyFlag ≠ 0) = false
      decide
    rw [decodeBinary_eq hdeclared hkey, hflags, hparse]
    exact bind_eq_ok_iff.mpr ⟨r, rfl, if_neg (not_not.mpr rfl)⟩
  have hlone : r.LoneSeparator := by decide
  have hwritten : r.key = "Calc.add!x" := by decide +kernel
  obtain ⟨hbinary, hkey, -⟩ := read_again data "!Calc.add!x" false r
  refine ⟨hdecode, hparse, hlone, ?_, ?_⟩
  · rw [hbinary hdecode, if_pos hlone, hwritten]
  · rw [hkey hparse, if_pos hlone, hwritten]

end Routing

end ServiceMesh
