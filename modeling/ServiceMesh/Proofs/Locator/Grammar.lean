import ServiceMesh.Locator
import ServiceMesh.Proofs.Metadata.Codec

/-!
# Which texts are locators

A text is a locator exactly if it is written `[group!]service[:version]`, with parts that are
not empty and hold no separator.  Reading and writing are inverse to each other
(`Locator.parse_eq_ok_iff`): a locator is read from its written form and from no other text.
The triple of a locator is thus determined by its written form, whatever parts are left out.

Reading cuts the text at each separator in turn.  `CutsTo` says what such a cut gives, and
`Locator.parse_eq_ok_iff_cuts` what reading does with the two cuts.
-/

namespace ServiceMesh

/-! ## Segments -/

/-- A segment is clean if it has neither separator. -/
theorem cleanSegment_iff {s : String} :
    CleanSegment s ↔ groupSeparator ∉ s.toList ∧ versionSeparator ∉ s.toList := by
  unfold CleanSegment separatorIn
  split
  · next hg => simp [hg]
  · next hg =>
    split
    · next hv => simp [hv]
    · next hv => simp [hg, hv]

theorem cleanSegment_empty : CleanSegment "" := by decide

theorem groupSeparator_ne_versionSeparator : groupSeparator ≠ versionSeparator := by decide

/-- A spelling is the group with its separator, the service, and the version with its own, where
these are there. -/
theorem toList_formatGsv (group service version : String) :
    (formatGsv group service version).toList
      = (if group = "" then [] else group.toList ++ [groupSeparator]) ++ service.toList
        ++ (if version = "" then [] else versionSeparator :: version.toList) := by
  unfold formatGsv
  split <;> split <;> simp [String.toList_append, String.toList_push]

/-- What a text is cut into at a separator that stands in it at most once. -/
inductive CutsTo (sep : Char) (input : String) : Option (String × String) → Prop where
  | whole (h : sep ∉ input.toList) : CutsTo sep input none
  | parts {a b : String} (h : input.toList = a.toList ++ sep :: b.toList) (ha : sep ∉ a.toList)
      (hb : sep ∉ b.toList) : CutsTo sep input (some (a, b))

namespace Locator

/-- No segment of a locator has a separator of groups. -/
theorem no_group_separator (l : Locator) :
    groupSeparator ∉ l.group.toList ∧ groupSeparator ∉ l.service.toList ∧
      groupSeparator ∉ l.version.toList :=
  ⟨(cleanSegment_iff.mp l.group_clean).1, (cleanSegment_iff.mp l.service_clean).1,
    (cleanSegment_iff.mp l.version_clean).1⟩

/-- No segment of a locator has a separator of versions. -/
theorem no_version_separator (l : Locator) :
    versionSeparator ∉ l.group.toList ∧ versionSeparator ∉ l.service.toList ∧
      versionSeparator ∉ l.version.toList :=
  ⟨(cleanSegment_iff.mp l.group_clean).2, (cleanSegment_iff.mp l.service_clean).2,
    (cleanSegment_iff.mp l.version_clean).2⟩

/-- A segment that is refused is not clean. -/
theorem not_clean_of_checkSegment {segment : Segment} {s : String} {cause : LocatorError}
    (h : checkSegment segment s = .error cause) : ¬CleanSegment s := by
  intro hclean
  unfold checkSegment at h
  split at h
  · next sep hsep => cases hclean.symm.trans hsep
  · cases h

/-- A clean segment is accepted. -/
theorem checkSegment_of_clean (segment : Segment) {s : String} (h : CleanSegment s) :
    checkSegment segment s = .ok ⟨h⟩ := by
  cases hcheck : checkSegment segment s with
  | ok clean => rfl
  | error cause => exact absurd h (not_clean_of_checkSegment hcheck)

/-- What is made of a triple is the locator with these segments. -/
theorem of_eq_ok_iff {group service version : String} {l : Locator} :
    of group service version = .ok l
      ↔ l.group = group ∧ l.service = service ∧ l.version = version := by
  unfold of
  constructor
  · intro h
    split at h
    · cases h
    · obtain ⟨⟨_⟩, -, h⟩ := bind_eq_ok_iff.mp h
      obtain ⟨⟨_⟩, -, h⟩ := bind_eq_ok_iff.mp h
      obtain ⟨⟨_⟩, -, h⟩ := bind_eq_ok_iff.mp h
      cases h
      exact ⟨rfl, rfl, rfl⟩
  · rintro ⟨rfl, rfl, rfl⟩
    rw [dif_neg l.service_ne]
    refine bind_eq_ok_iff.mpr ⟨_, checkSegment_of_clean .group l.group_clean, ?_⟩
    refine bind_eq_ok_iff.mpr ⟨_, checkSegment_of_clean .service l.service_clean, ?_⟩
    exact bind_eq_ok_iff.mpr ⟨_, checkSegment_of_clean .version l.version_clean, rfl⟩

/-! ## Cuts -/

/-- A text is cut once, and the cut is the only one. -/
theorem cutOnce_eq_ok_iff {input : String} {sep : Char} {cut : Option (String × String)} :
    cutOnce input sep = .ok cut ↔ CutsTo sep input cut := by
  unfold cutOnce
  constructor
  · intro h
    split at h
    · cases h
    · next hcount =>
      cases h
      cases hcut : Text.cut? sep input.toList with
      | none => exact .whole (Text.cut?_eq_none_iff.mp hcut)
      | some p =>
        obtain ⟨a, b⟩ := p
        obtain ⟨hinput, ha⟩ := Text.append_of_cut? hcut
        have hb : sep ∉ b := by
          rw [hinput, List.count_append, List.count_cons_self] at hcount
          exact List.count_eq_zero.mp (by omega)
        exact .parts (by simpa using hinput) (by simpa using ha) (by simpa using hb)
  · intro h
    cases h with
    | whole h =>
      rw [List.count_eq_zero.mpr h, if_neg (by omega), Text.cut?_eq_none_iff.mpr h]
      rfl
    | @parts a b h ha hb =>
      have hcount : input.toList.count sep = 1 := by
        rw [h, List.count_append, List.count_cons_self, List.count_eq_zero.mpr ha,
          List.count_eq_zero.mpr hb]
      rw [hcount, if_neg (by omega), h, Text.cut?_append ha]
      simp

/-- Reading succeeds exactly if both cuts do, no part before or after a separator is empty,
and the parts make a locator. -/
theorem parse_eq_ok_iff_cuts {x : String} {l : Locator} :
    parse x = .ok l ↔ ∃ byGroup byVersion,
      CutsTo groupSeparator x byGroup ∧
      CutsTo versionSeparator ((byGroup.map (·.2)).getD x) byVersion ∧
      (∀ p ∈ byGroup, p.1 ≠ "") ∧ (∀ p ∈ byVersion, p.2 ≠ "") ∧
      l.group = (byGroup.map (·.1)).getD "" ∧
      l.service = (byVersion.map (·.1)).getD ((byGroup.map (·.2)).getD x) ∧
      l.version = (byVersion.map (·.2)).getD "" := by
  have hempty (part : Option (String × String)) (f : String × String → String) :
      ¬(part.isSome = true ∧ (part.map f).getD "" = "") ↔ ∀ p ∈ part, f p ≠ "" := by
    cases part <;> simp
  unfold parse
  constructor
  · intro h
    obtain ⟨byGroup, hg, h⟩ := bind_eq_ok_iff.mp h
    obtain ⟨byVersion, hv, h⟩ := bind_eq_ok_iff.mp h
    obtain ⟨_, -, h⟩ := bind_eq_ok_iff.mp h
    refine ⟨byGroup, byVersion, cutOnce_eq_ok_iff.mp hg, cutOnce_eq_ok_iff.mp hv, ?_⟩
    simp only at h
    split at h
    · cases h
    · next hgroup =>
      split at h
      · cases h
      · next hversion =>
        exact ⟨(hempty byGroup _).mp hgroup, (hempty byVersion _).mp hversion, of_eq_ok_iff.mp h⟩
  · rintro ⟨byGroup, byVersion, hg, hv, hgroup, hversion, hl⟩
    refine bind_eq_ok_iff.mpr ⟨byGroup, cutOnce_eq_ok_iff.mpr hg, ?_⟩
    refine bind_eq_ok_iff.mpr ⟨byVersion, cutOnce_eq_ok_iff.mpr hv, ?_⟩
    have hclean : CleanSegment ((byGroup.map (·.1)).getD "") := hl.1 ▸ l.group_clean
    refine bind_eq_ok_iff.mpr ⟨_, checkSegment_of_clean .group hclean, ?_⟩
    simp only
    rw [if_neg ((hempty byGroup _).mpr hgroup), if_neg ((hempty byVersion _).mpr hversion)]
    exact of_eq_ok_iff.mpr hl

/-! ## Reading and writing -/

/-- The written form without its group. -/
def ungrouped (l : Locator) : String := formatGsv "" l.service l.version

/-- What the written form is cut into around its group. -/
def byGroup (l : Locator) : Option (String × String) :=
  if l.group = "" then none else some (l.group, l.ungrouped)

/-- What the rest is cut into around its version. -/
def byVersion (l : Locator) : Option (String × String) :=
  if l.version = "" then none else some (l.service, l.version)

/-- The spelling of a locator is cut at its group. -/
theorem cutsTo_gsv (l : Locator) : CutsTo groupSeparator l.gsv l.byGroup := by
  obtain ⟨hgroup, hservice, hversion⟩ := l.no_group_separator
  have hrest : groupSeparator ∉ l.ungrouped.toList := by
    rw [ungrouped, toList_formatGsv, if_pos rfl]
    split <;> simp [hservice, hversion, groupSeparator_ne_versionSeparator]
  unfold byGroup
  split
  · next hg =>
    refine .whole ?_
    rwa [gsv, hg]
  · next hg =>
    refine .parts ?_ hgroup hrest
    simp [gsv, ungrouped, toList_formatGsv, hg]

/-- The rest of a spelling is cut at its version. -/
theorem cutsTo_ungrouped (l : Locator) : CutsTo versionSeparator l.ungrouped l.byVersion := by
  obtain ⟨-, hservice, hversion⟩ := l.no_version_separator
  unfold byVersion
  split
  · next hv =>
    refine .whole ?_
    simpa [ungrouped, toList_formatGsv, hv] using hservice
  · next hv =>
    refine .parts ?_ hservice hversion
    simp [ungrouped, toList_formatGsv, hv]

/-- A locator is read from its written form, and from no other text. -/
theorem parse_eq_ok_iff {x : String} {l : Locator} : parse x = .ok l ↔ l.gsv = x := by
  rw [parse_eq_ok_iff_cuts]
  constructor
  · rintro ⟨byGroup, byVersion, hg, hv, hgroup, hversion, hlg, hls, hlv⟩
    rw [← String.toList_inj, gsv, toList_formatGsv, hlg, hls, hlv]
    cases hg with
    | whole _ =>
      cases hv with
      | whole _ => simp
      | @parts service version hx _ _ =>
        have hne : version ≠ "" := hversion _ rfl
        simpa [hne] using hx.symm
    | @parts group rest hx _ _ =>
      have hne : group ≠ "" := hgroup _ rfl
      cases hv with
      | whole _ => simp [hne, hx]
      | @parts service version hrest _ _ =>
        have hne' : version ≠ "" := hversion _ rfl
        have hrest : rest.toList = service.toList ++ versionSeparator :: version.toList := hrest
        simp [hne, hne', hx, hrest]
  · rintro rfl
    have hrest : (l.byGroup.map (·.2)).getD l.gsv = l.ungrouped := by
      unfold byGroup
      split
      · next hg => rw [gsv, hg]; rfl
      · rfl
    refine ⟨l.byGroup, l.byVersion, l.cutsTo_gsv, hrest ▸ l.cutsTo_ungrouped, ?_, ?_, ?_, ?_, ?_⟩
    · by_cases hg : l.group = "" <;> simp [byGroup, hg]
    · by_cases hv : l.version = "" <;> simp [byVersion, hv]
    · by_cases hg : l.group = "" <;> simp [byGroup, hg]
    · rw [hrest]
      by_cases hv : l.version = "" <;> simp [byVersion, hv, ungrouped, formatGsv]
    · by_cases hv : l.version = "" <;> simp [byVersion, hv]

/-- The spelling of a locator is read as that locator. -/
theorem parse_gsv (l : Locator) : parse l.gsv = .ok l := parse_eq_ok_iff.mpr rfl

/-- Locators with the same spelling are the same. -/
theorem gsv_inj {l m : Locator} (h : l.gsv = m.gsv) : l = m := by
  have hl := l.parse_gsv
  rw [h, m.parse_gsv] at hl
  cases hl
  rfl

end Locator

/-! ## The grammar -/

/-- A text that may stand as one part of a locator. -/
structure IsPart (s : String) : Prop where
  ne_empty : s ≠ ""
  no_group_separator : '!' ∉ s.toList
  no_version_separator : ':' ∉ s.toList

/-- The text is `[group!]service[:version]`. -/
structure Written (x : String) (group : Option String) (service : String)
    (version : Option String) : Prop where
  text : x = (group.map (· ++ "!")).getD "" ++ service ++ (version.map (":" ++ ·)).getD ""
  group : ∀ g ∈ group, IsPart g
  service : IsPart service
  version : ∀ v ∈ version, IsPart v

/-- A part that may be missing. -/
def part? (s : String) : Option String := if s = "" then none else some s

/-- A part of the grammar is a clean segment. -/
theorem IsPart.clean {s : String} (h : IsPart s) : CleanSegment s :=
  cleanSegment_iff.mpr ⟨h.no_group_separator, h.no_version_separator⟩

/-- A clean segment that is not empty is a part of the grammar. -/
theorem isPart_of_clean {s : String} (hne : s ≠ "") (h : CleanSegment s) : IsPart s :=
  ⟨hne, (cleanSegment_iff.mp h).1, (cleanSegment_iff.mp h).2⟩

/-- A part that may be missing is a clean segment. -/
theorem clean_getD {part : Option String} (h : ∀ s ∈ part, IsPart s) :
    CleanSegment (part.getD "") := by
  cases part with
  | none => exact cleanSegment_empty
  | some s => exact (h s rfl).clean

/-- A clean segment is a part of the grammar, or missing. -/
theorem isPart_of_mem_part? {s : String} (h : CleanSegment s) : ∀ p ∈ part? s, IsPart p := by
  unfold part?
  split
  · simp
  · next hne =>
    intro p hp
    cases hp
    exact isPart_of_clean hne h

theorem getD_part? (s : String) : (part? s).getD "" = s := by
  unfold part?
  split
  · next h => exact h.symm
  · rfl

/-- A part that is missing is left out with its separator, and no other. -/
theorem formatGsv_getD {group version : Option String} (service : String)
    (hg : ∀ g ∈ group, IsPart g) (hv : ∀ v ∈ version, IsPart v) :
    formatGsv (group.getD "") service (version.getD "")
      = (group.map (· ++ "!")).getD "" ++ service ++ (version.map (":" ++ ·)).getD "" := by
  have hfront : (if group.getD "" = "" then "" else (group.getD "").push groupSeparator)
      = (group.map (· ++ "!")).getD "" := by
    cases group with
    | none => rfl
    | some g =>
      rw [Option.getD_some, if_neg (hg g rfl).ne_empty]
      rfl
  have hback : (if version.getD "" = "" then "" else versionSeparator.toString ++ version.getD "")
      = (version.map (":" ++ ·)).getD "" := by
    cases version with
    | none => rfl
    | some v =>
      rw [Option.getD_some, if_neg (hv v rfl).ne_empty]
      rfl
  rw [formatGsv, hfront, hback]

namespace Locator

/-- A locator is written from its parts. -/
theorem written_gsv (l : Locator) :
    Written l.gsv (part? l.group) l.service (part? l.version) := by
  have hg := isPart_of_mem_part? l.group_clean
  have hv := isPart_of_mem_part? l.version_clean
  refine ⟨?_, hg, isPart_of_clean l.service_ne l.service_clean, hv⟩
  rw [← formatGsv_getD l.service hg hv, getD_part?, getD_part?]
  rfl

/-- What follows the grammar is the written form of a locator with these parts. -/
theorem exists_of_written {x : String} {group : Option String} {service : String}
    {version : Option String} (h : Written x group service version) :
    ∃ l : Locator, l.gsv = x ∧ l.group = group.getD "" ∧ l.service = service ∧
      l.version = version.getD "" := by
  let l : Locator := ⟨group.getD "", service, version.getD "", h.service.ne_empty,
    clean_getD h.group, h.service.clean, clean_getD h.version⟩
  refine ⟨l, ?_, rfl, rfl, rfl⟩
  exact (formatGsv_getD service h.group h.version).trans h.text.symm

/-- Texts are read exactly if they follow the grammar, and then as the locator of their parts,
of which they are the written form.  What is made of a triple is read back from its written
form, so that no two triples have the same one. -/
theorem parse_follows_grammar :
    (∀ x, (∃ l, parse x = .ok l) ↔ ∃ group service version, Written x group service version) ∧
    (∀ x group service version, Written x group service version →
      ∃ l, parse x = .ok l ∧ of (group.getD "") service (version.getD "") = .ok l ∧
        l.group = group.getD "" ∧ l.service = service ∧ l.version = version.getD "" ∧
        l.gsv = x ∧ l.hash = Hash.routingHash x) ∧
    (∀ group service version l, of group service version = .ok l → parse l.gsv = .ok l) ∧
    (∀ group service version l group' service' version' l',
      of group service version = .ok l → of group' service' version' = .ok l' →
      l.gsv = l'.gsv → (group, service, version) = (group', service', version')) := by
  refine ⟨fun x => ⟨?_, ?_⟩, ?_, ?_, ?_⟩
  · rintro ⟨l, hl⟩
    obtain rfl := parse_eq_ok_iff.mp hl
    exact ⟨_, _, _, l.written_gsv⟩
  · rintro ⟨group, service, version, h⟩
    obtain ⟨l, hl, -⟩ := exists_of_written h
    exact ⟨l, parse_eq_ok_iff.mpr hl⟩
  · intro x group service version h
    obtain ⟨l, rfl, hg, hs, hv⟩ := exists_of_written h
    exact ⟨l, l.parse_gsv, of_eq_ok_iff.mpr ⟨hg, hs, hv⟩, hg, hs, hv, rfl, rfl⟩
  · intro group service version l _
    exact l.parse_gsv
  · intro group service version l group' service' version' l' hl hl' hsame
    obtain ⟨rfl, rfl, rfl⟩ := of_eq_ok_iff.mp hl
    obtain ⟨rfl, rfl, rfl⟩ := of_eq_ok_iff.mp hl'
    rw [gsv_inj hsame]

/-- A text without a group, and two triples one of which leaves out what the other has. -/
theorem parse_without_group :
    (∃ l, parse "demo.Clock:2" = .ok l ∧ of "" "demo.Clock" "2" = .ok l ∧
      l.hash = Hash.routingHash "demo.Clock:2") ∧
    ∃ l l', of "" "demo" "Clock" = .ok l ∧ of "demo" "Clock" "" = .ok l' ∧
      parse l.gsv = .ok l ∧ l.gsv ≠ l'.gsv := by
  obtain ⟨-, hread, hback, hinj⟩ := parse_follows_grammar
  constructor
  · have hservice : IsPart "demo.Clock" := ⟨by decide, by decide, by decide⟩
    have hversion : IsPart "2" := ⟨by decide, by decide, by decide⟩
    have hwritten : Written "demo.Clock:2" none "demo.Clock" (some "2") := by
      refine ⟨by decide, by simp, hservice, ?_⟩
      intro v hv
      cases hv
      exact hversion
    obtain ⟨l, hl, hof, -, -, -, -, hhash⟩ := hread _ _ _ _ hwritten
    exact ⟨l, hl, hof, hhash⟩
  · let l : Locator := ⟨"", "demo", "Clock", by decide, by decide, by decide, by decide⟩
    let l' : Locator := ⟨"demo", "Clock", "", by decide, by decide, by decide, by decide⟩
    have hl : of "" "demo" "Clock" = .ok l := of_eq_ok_iff.mpr ⟨rfl, rfl, rfl⟩
    have hl' : of "demo" "Clock" "" = .ok l' := of_eq_ok_iff.mpr ⟨rfl, rfl, rfl⟩
    refine ⟨l, l', hl, hl', hback _ _ _ _ hl, ?_⟩
    intro hsame
    have htriples := hinj _ _ _ _ _ _ _ _ hl hl' hsame
    simp at htriples

end Locator

end ServiceMesh
