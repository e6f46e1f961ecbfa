import ServiceMesh.Proofs.Metadata.RoutingEntry
import ServiceMesh.Proofs.Text.LetterCase

/-!
# The case of ASCII letters in locators and keys

No separator is a letter, so a text is cut at the same places however its ASCII letters are
spelled.  What is read from the lower-case spelling of a text is thus what is read from the text,
its parts in lower case, and nothing is read from the one if nothing is from the other:
`Locator.of_asciiLower_eq_ok_iff`, `Locator.parse_asciiLower_eq_ok_iff` and
`Routing.parseKey_asciiLower_eq_ok_iff`.

The hashes of a locator and of a key are those of their lower-case spellings.  So all spellings of
a service have one hash, and all spellings of a method too (`hashes_ignore_case`), though the
locators that are read from them differ.
-/

namespace ServiceMesh

namespace Text

/-! ## Characters that are no letters -/

/-- A character that is the lower case of itself alone. -/
def Caseless (d : Char) : Prop := ∀ c : Char, c.toLower = d ↔ c = d

theorem caseless_groupSeparator : Caseless groupSeparator := toLower_eq_iff_of_not_isAlpha rfl

theorem caseless_versionSeparator : Caseless versionSeparator := toLower_eq_iff_of_not_isAlpha rfl

theorem caseless_point : Caseless '.' := toLower_eq_iff_of_not_isAlpha rfl

namespace Caseless

variable {d : Char} (h : Caseless d)

include h

theorem toLower_eq_self : d.toLower = d := (h d).mpr rfl

/-- A character without case stands in a text iff it does so in lower case. -/
theorem mem_map (cs : List Char) : d ∈ cs.map Char.toLower ↔ d ∈ cs := by
  simp [List.mem_map, h _]

/-- A list whose lower-case form has the character in it has the character at the same place. -/
theorem map_eq_append_cons {cs a b : List Char} (hcs : cs.map Char.toLower = a ++ d :: b) :
    ∃ a' b', cs = a' ++ d :: b' ∧ a'.map Char.toLower = a ∧ b'.map Char.toLower = b := by
  obtain ⟨a', rest, rfl, rfl, hrest⟩ := List.map_eq_append_iff.mp hcs
  obtain ⟨c, b', rfl, hc, rfl⟩ := List.map_eq_cons_iff.mp hrest
  obtain rfl := (h c).mp hc
  exact ⟨a', b', rfl, rfl, rfl⟩

/-- A text is cut at the same places in lower case. -/
theorem cut?_map (cs : List Char) :
    cut? d (cs.map Char.toLower)
      = (cut? d cs).map (Prod.map (List.map Char.toLower) (List.map Char.toLower)) := by
  induction cs with
  | nil => rfl
  | cons c cs ih =>
    simp only [List.map_cons, cut?, h c, ih]
    split
    · rfl
    · simp [Function.comp_def]

end Caseless

end Text

open Text (asciiLower)

/-! ## Segments -/

/-- A segment is clean in lower case iff it is clean. -/
theorem cleanSegment_asciiLower (s : String) : CleanSegment (asciiLower s) ↔ CleanSegment s := by
  rw [cleanSegment_iff, cleanSegment_iff, Text.toList_asciiLower,
    Text.caseless_groupSeparator.mem_map, Text.caseless_versionSeparator.mem_map]

/-- A spelling in lower case is that of the segments in lower case. -/
theorem formatGsv_asciiLower (group service version : String) :
    formatGsv (asciiLower group) (asciiLower service) (asciiLower version)
      = asciiLower (formatGsv group service version) := by
  have hgroup := Text.caseless_groupSeparator.toLower_eq_self
  have hversion := Text.caseless_versionSeparator.toLower_eq_self
  rw [← String.toList_inj, Text.toList_asciiLower, toList_formatGsv, toList_formatGsv]
  by_cases hg : group = "" <;> by_cases hv : version = "" <;> simp [hg, hv, hgroup, hversion]

/-- A text is written of three parts if its lower-case spelling is, and the parts of the one are
the parts of the other in lower case. -/
theorem exists_formatGsv_of_asciiLower {x group service version : String}
    (h : asciiLower x = formatGsv group service version) :
    ∃ g s v, formatGsv g s v = x ∧ asciiLower g = group ∧ asciiLower s = service ∧
      asciiLower v = version := by
  rw [← String.toList_inj, Text.toList_asciiLower, toList_formatGsv] at h
  obtain ⟨rest, back, hx, hrest, hback⟩ := List.map_eq_append_iff.mp h
  obtain ⟨front, s, hfs, hfront, hs⟩ := List.map_eq_append_iff.mp hrest
  have hgroup : ∃ g, asciiLower g = group ∧
      front = if g = "" then [] else g.toList ++ [groupSeparator] := by
    split at hfront
    · next hg => exact ⟨"", by simp [hg], by simpa using hfront⟩
    · next hg =>
      obtain ⟨g, none, rfl, hlow, hnone⟩ := Text.caseless_groupSeparator.map_eq_append_cons hfront
      obtain rfl := List.map_eq_nil_iff.mp hnone
      obtain rfl := Text.asciiLower_ofList_eq hlow
      refine ⟨String.ofList g, rfl, ?_⟩
      rw [if_neg (mt (Text.asciiLower_eq_empty_iff _).mpr hg), String.toList_ofList]
  have hversion : ∃ v, asciiLower v = version ∧
      back = if v = "" then [] else versionSeparator :: v.toList := by
    split at hback
    · next hv => exact ⟨"", by simp [hv], by simpa using hback⟩
    · next hv =>
      obtain ⟨c, v, rfl, hc, hlow⟩ := List.map_eq_cons_iff.mp hback
      obtain rfl := (Text.caseless_versionSeparator c).mp hc
      obtain rfl := Text.asciiLower_ofList_eq hlow
      refine ⟨String.ofList v, rfl, ?_⟩
      rw [if_neg (mt (Text.asciiLower_eq_empty_iff _).mpr hv), String.toList_ofList]
  obtain ⟨g, hlow, hg⟩ := hgroup
  obtain ⟨v, hlow', hv⟩ := hversion
  refine ⟨g, String.ofList s, v, ?_, hlow, Text.asciiLower_ofList_eq hs, hlow'⟩
  rw [← String.toList_inj, toList_formatGsv, ← hg, ← hv, String.toList_ofList, ← hfs, ← hx]

/-! ## Locators -/

namespace Locator

/-- A locator with its ASCII letters in lower case. -/
def lowered (l : Locator) : Locator where
  group := asciiLower l.group
  service := asciiLower l.service
  version := asciiLower l.version
  service_ne := mt (Text.asciiLower_eq_empty_iff _).mp l.service_ne
  group_clean := (cleanSegment_asciiLower _).mpr l.group_clean
  service_clean := (cleanSegment_asciiLower _).mpr l.service_clean
  version_clean := (cleanSegment_asciiLower _).mpr l.version_clean

/-- A locator in lower case is spelled in lower case. -/
theorem gsv_lowered (l : Locator) : l.lowered.gsv = asciiLower l.gsv :=
  formatGsv_asciiLower l.group l.service l.version

/-- A locator in lower case has the same hash. -/
theorem hash_lowered (l : Locator) : l.lowered.hash = l.hash := by
  rw [hash, gsv_lowered, Hash.routingHash_asciiLower, hash]

/-- Segments in lower case make the locators in lower case, and no others. -/
theorem of_asciiLower_eq_ok_iff {group service version : String} {m : Locator} :
    of (asciiLower group) (asciiLower service) (asciiLower version) = .ok m
      ↔ ∃ l, of group service version = .ok l ∧ l.lowered = m := by
  constructor
  · intro h
    obtain ⟨hg, hs, hv⟩ := of_eq_ok_iff.mp h
    let l : Locator :=
      { group, service, version
        service_ne := mt (Text.asciiLower_eq_empty_iff _).mpr (hs ▸ m.service_ne)
        group_clean := (cleanSegment_asciiLower _).mp (hg ▸ m.group_clean)
        service_clean := (cleanSegment_asciiLower _).mp (hs ▸ m.service_clean)
        version_clean := (cleanSegment_asciiLower _).mp (hv ▸ m.version_clean) }
    refine ⟨l, of_eq_ok_iff.mpr ⟨rfl, rfl, rfl⟩, ?_⟩
    cases m
    cases hg
    cases hs
    cases hv
    rfl
  · rintro ⟨l, hl, rfl⟩
    obtain ⟨rfl, rfl, rfl⟩ := of_eq_ok_iff.mp hl
    exact of_eq_ok_iff.mpr ⟨rfl, rfl, rfl⟩

/-- Spellings in lower case are read as the locators in lower case, and as no others. -/
theorem parse_asciiLower_eq_ok_iff {x : String} {m : Locator} :
    parse (asciiLower x) = .ok m ↔ ∃ l, parse x = .ok l ∧ l.lowered = m := by
  simp only [parse_eq_ok_iff]
  constructor
  · intro h
    obtain ⟨g, s, v, rfl, hg, hs, hv⟩ := exists_formatGsv_of_asciiLower h.symm
    have hof := of_eq_ok_iff.mpr ⟨hg.symm, hs.symm, hv.symm⟩
    obtain ⟨l, hl, rfl⟩ := of_asciiLower_eq_ok_iff.mp hof
    obtain ⟨rfl, rfl, rfl⟩ := of_eq_ok_iff.mp hl
    exact ⟨l, rfl, rfl⟩
  · rintro ⟨l, rfl, rfl⟩
    exact l.gsv_lowered

end Locator

/-! ## Keys -/

namespace Routing

/-- A key in lower case is cut after the same group. -/
theorem beforeGroup_asciiLower (key : String) :
    beforeGroup (asciiLower key) = (beforeGroup key).map asciiLower asciiLower := by
  rw [beforeGroup, beforeGroup, Text.toList_asciiLower, Text.caseless_groupSeparator.cut?_map]
  cases Text.cut? groupSeparator key.toList with
  | none => rfl
  | some p => simp

/-- A rest in lower case is cut before the same version. -/
theorem beforeVersion_asciiLower (rest : String) :
    beforeVersion (asciiLower rest) = (beforeVersion rest).map asciiLower asciiLower := by
  rw [beforeVersion, beforeVersion, Text.toList_asciiLower,
    Text.caseless_versionSeparator.cut?_map]
  cases Text.cut? versionSeparator rest.toList with
  | none => rfl
  | some p => simp

/-- A routing entry with its ASCII letters in lower case. -/
def lowered (r : Routing) : Routing :=
  { r with locator := r.locator.lowered, method := asciiLower r.method }

/-- A routing in lower case has its key in lower case. -/
theorem key_lowered (r : Routing) : r.lowered.key = asciiLower r.key := by
  have hname : asciiLower r.locator.service ++ "." ++ asciiLower r.method
      = asciiLower (r.locator.service ++ "." ++ r.method) := by
    rw [← String.toList_inj]
    simp [String.toList_append, Text.caseless_point.toLower_eq_self]
  exact (congrArg (formatGsv _ · _) hname).trans (formatGsv_asciiLower _ _ _)

/-- A routing in lower case is for the same service. -/
theorem serviceHash_lowered (r : Routing) : r.lowered.serviceHash = r.serviceHash :=
  r.locator.hash_lowered

/-- A routing in lower case is for the same handler. -/
theorem handlerHash_lowered (r : Routing) : r.lowered.handlerHash = r.handlerHash := by
  rw [handlerHash, key_lowered, Hash.routingHash_asciiLower, handlerHash]

/-- Keys in lower case are read as the routings in lower case, and as no others.  The last point
of the lower-case key is the last point of the key. -/
theorem parseKey_asciiLower_eq_ok_iff {key : String} {sticky : Bool} {m : Routing} :
    parseKey (asciiLower key) sticky = .ok m
      ↔ ∃ r, parseKey key sticky = .ok r ∧ r.lowered = m := by
  simp only [parseKey_eq_ok_iff, beforeGroup_asciiLower, beforeVersion_asciiLower, Prod.map_fst,
    Prod.map_snd, Text.toList_asciiLower]
  constructor
  · rintro ⟨service, hname, hpoint, hne, hsticky, hlocator⟩
    obtain ⟨service, method, hsplit, rfl, hmethod⟩ := Text.caseless_point.map_eq_append_cons hname
    rw [← hmethod, Text.caseless_point.mem_map] at hpoint
    have hmethod : asciiLower (String.ofList method) = m.method :=
      Text.asciiLower_ofList_eq hmethod
    rw [← Text.asciiLower_ofList, formatGsv_asciiLower] at hlocator
    obtain ⟨l, hl, hlow⟩ :=
      Locator.parse_asciiLower_eq_ok_iff.mp (Locator.parse_eq_ok_iff.mpr hlocator)
    refine ⟨⟨l, String.ofList method, sticky⟩, ⟨service, ?_, ?_, ?_, rfl,
      Locator.parse_eq_ok_iff.mp hl⟩, ?_⟩
    · simpa using hsplit
    · simpa using hpoint
    · exact mt (Text.asciiLower_eq_empty_iff _).mpr (hmethod ▸ hne)
    · cases m
      simp only at hlow hmethod hsticky
      rw [lowered, hlow, hmethod, hsticky]
  · rintro ⟨r, ⟨service, hname, hpoint, hne, hsticky, hlocator⟩, rfl⟩
    refine ⟨service.map Char.toLower, ?_, ?_, mt (Text.asciiLower_eq_empty_iff _).mp hne, hsticky,
      ?_⟩
    · simp [hname, lowered, Text.caseless_point.toLower_eq_self]
    · simpa [lowered, Text.caseless_point.mem_map] using hpoint
    · rw [← Text.asciiLower_ofList, formatGsv_asciiLower, ← hlocator]
      exact r.locator.gsv_lowered

end Routing

/-! ## Hashes -/

/-- Texts that differ only in the case of ASCII letters have one routing hash.  If a locator is
made of some parts, or read from a written form, then one with the same hash is made of all other
spellings of the parts, or read from all other spellings of the form.  It is the same with keys,
the hashes of their services and their own. -/
theorem hashes_ignore_case :
    (∀ a b, Text.Respelled a b → Hash.routingHash a = Hash.routingHash b) ∧
    (∀ g s v g' s' v' l, Text.Respelled g g' → Text.Respelled s s' → Text.Respelled v v' →
      Locator.of g s v = .ok l → ∃ l', Locator.of g' s' v' = .ok l' ∧ l'.hash = l.hash) ∧
    (∀ x y l, Text.Respelled x y → Locator.parse x = .ok l →
      ∃ l', Locator.parse y = .ok l' ∧ l'.hash = l.hash) ∧
    (∀ r r' : Routing, Text.Respelled r.key r'.key → r'.handlerHash = r.handlerHash) ∧
    (∀ key key' sticky r, Text.Respelled key key' → Routing.parseKey key sticky = .ok r →
      ∃ r', Routing.parseKey key' sticky = .ok r' ∧ r'.serviceHash = r.serviceHash ∧
        r'.handlerHash = r.handlerHash) := by
  have hhash : ∀ a b, Text.Respelled a b → Hash.routingHash a = Hash.routingHash b := by
    intro a b h
    exact Hash.routingHash_eq_of_same (Text.sameIgnoringAsciiCase_iff.mpr h)
  refine ⟨hhash, ?_, ?_, fun r r' h => (hhash _ _ h).symm, ?_⟩
  · intro g s v g' s' v' l hg hs hv hl
    have hlow := Locator.of_asciiLower_eq_ok_iff.mpr ⟨l, hl, rfl⟩
    rw [Text.respelled_iff.mp hg, Text.respelled_iff.mp hs, Text.respelled_iff.mp hv] at hlow
    obtain ⟨l', hl', heq⟩ := Locator.of_asciiLower_eq_ok_iff.mp hlow
    exact ⟨l', hl', by rw [← l'.hash_lowered, heq, l.hash_lowered]⟩
  · intro x y l hxy hl
    have hlow := Locator.parse_asciiLower_eq_ok_iff.mpr ⟨l, hl, rfl⟩
    rw [Text.respelled_iff.mp hxy] at hlow
    obtain ⟨l', hl', heq⟩ := Locator.parse_asciiLower_eq_ok_iff.mp hlow
    exact ⟨l', hl', by rw [← l'.hash_lowered, heq, l.hash_lowered]⟩
  · intro key key' sticky r hkey hr
    have hlow := Routing.parseKey_asciiLower_eq_ok_iff.mpr ⟨r, hr, rfl⟩
    rw [Text.respelled_iff.mp hkey] at hlow
    obtain ⟨r', hr', heq⟩ := Routing.parseKey_asciiLower_eq_ok_iff.mp hlow
    refine ⟨r', hr', ?_, ?_⟩
    · rw [← r'.serviceHash_lowered, heq, r.serviceHash_lowered]
    · rw [← r'.handlerHash_lowered, heq, r.handlerHash_lowered]

/-- Spellings of a service and of one of its methods.  The capital sigma ends a word in the written
form of the service, and none in the key. -/
theorem hashes_alike_beside_sigma :
    Text.lowercase "Demo!CLOCKΣ:2" = "demo!clockς:2" ∧
    Text.lowercase "Demo!CLOCKΣ.Now:2" = "demo!clockσ.now:2" ∧
    Hash.routingHash "Demo!CLOCKΣ:2" = Hash.routingHash "demo!ClockΣ:2" ∧
    (∃ l l', Locator.of "Demo" "CLOCKΣ" "2" = .ok l ∧ Locator.of "demo" "ClockΣ" "2" = .ok l' ∧
      l'.hash = l.hash) ∧
    (∃ l l', Locator.parse "Demo!CLOCKΣ:2" = .ok l ∧ Locator.parse "demo!ClockΣ:2" = .ok l' ∧
      l ≠ l' ∧ l'.hash = l.hash) ∧
    ∃ r r', Routing.parseKey "Demo!CLOCKΣ.Now:2" true = .ok r ∧
      Routing.parseKey "demo!ClockΣ.now:2" true = .ok r' ∧ r'.serviceHash = r.serviceHash ∧
      r'.handlerHash = r.handlerHash := by
  obtain ⟨htexts, hof, hparse, hkeys, hparseKey⟩ := hashes_ignore_case
  let l : Locator := ⟨"Demo", "CLOCKΣ", "2", by decide, by decide, by decide, by decide⟩
  let l' : Locator := ⟨"demo", "ClockΣ", "2", by decide, by decide, by decide, by decide⟩
  let r : Routing := ⟨l, "Now", true⟩
  let r' : Routing := ⟨l', "now", true⟩
  have hforms : Text.Respelled "Demo!CLOCKΣ:2" "demo!ClockΣ:2" := Text.respelled_iff.mpr (by decide)
  have hl : Locator.of "Demo" "CLOCKΣ" "2" = .ok l := Locator.of_eq_ok_iff.mpr ⟨rfl, rfl, rfl⟩
  have hread : Locator.parse "Demo!CLOCKΣ:2" = .ok l := Locator.parse_eq_ok_iff.mpr (by decide)
  have hr : Routing.parseKey r.key true = .ok r :=
    Routing.Carried.parseKey_key ⟨by decide, by decide, by decide, by decide⟩
  have hr' : Routing.parseKey r'.key true = .ok r' :=
    Routing.Carried.parseKey_key ⟨by decide, by decide, by decide, by decide⟩
  refine ⟨by decide +kernel, by decide +kernel, htexts _ _ hforms, ?_, ?_, ?_⟩
  · obtain ⟨m, hm, hhash⟩ := hof "Demo" "CLOCKΣ" "2" "demo" "ClockΣ" "2" l
      (Text.respelled_iff.mpr (by decide)) (Text.respelled_iff.mpr (by decide))
      (Text.respelled_iff.mpr (by decide)) hl
    exact ⟨l, m, hl, hm, hhash⟩
  · obtain ⟨m, hm, hhash⟩ := hparse _ _ l hforms hread
    refine ⟨l, m, hread, hm, ?_, hhash⟩
    rintro rfl
    exact absurd (Locator.parse_eq_ok_iff.mp hm) (by decide)
  · have hspelled : Text.Respelled r.key r'.key := Text.respelled_iff.mpr (by decide)
    obtain ⟨m, hm, hservice, -⟩ := hparseKey _ r'.key true r hspelled hr
    obtain rfl : r' = m := by
      cases hr'.symm.trans hm
      rfl
    exact ⟨r, r', hr, hr', hservice, hkeys r r' hspelled⟩

end ServiceMesh
