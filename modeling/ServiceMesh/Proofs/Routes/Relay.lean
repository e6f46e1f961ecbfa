import ServiceMesh.Proofs.Metadata.Codec
import ServiceMesh.Routes.Router

/-!
# Relayed calls

A call that a router aims at a remote responder has no relay entry.  As the next broker
gets it, it has one: the entries that were read, then the entry that names the broker, and
the data as it came.  What the call wants is read off the entries in front, so it stays the
same (`Router.isRelay_relayed`).

A call with a relay entry is aimed at no remote responder, by no router and on no table
(`Router.direct_of_isRelayed`).  So a relay is not relayed again.
-/

namespace ServiceMesh

/-! ## The relay entry -/

/-- The relay entry of a broker. -/
def relayEntry (brokerId : String) : MetadataEntry := ⟨mimeRelay, utf8 brokerId⟩

theorem fits_relayEntry {brokerId : String} (h : (utf8 brokerId).length ≤ maxContentLength) :
    (relayEntry brokerId).Fits := by
  have hmime : (∀ x ∈ utf8 mimeRelay, x < 0x80) ∧ 0 < (utf8 mimeRelay).length ∧
      (utf8 mimeRelay).length ≤ maxMimeLength := by decide +kernel
  exact ⟨hmime.1, hmime.2.1, hmime.2.2, h⟩

namespace Composite

theorem isRelayed_iff (c : Composite) :
    c.isRelayed = true ↔ ∃ e ∈ c.entries, e.mime = mimeRelay := by
  unfold isRelayed get?
  rw [List.find?_isSome]
  constructor
  · rintro ⟨e, he, hm⟩
    exact ⟨e, he, beq_iff_eq.mp hm⟩
  · rintro ⟨e, he, hm⟩
    exact ⟨e, he, beq_iff_eq.mpr hm⟩

theorem isRelayed_push (c : Composite) (brokerId : String) :
    (c.push mimeRelay (utf8 brokerId)).isRelayed = true := by
  rw [isRelayed_iff]
  exact ⟨relayEntry brokerId, List.mem_append_right _ (List.mem_singleton_self _), rfl⟩

theorem Fits.push {c : Composite} (h : c.Fits) {mime : String} {content : Bytes}
    (he : MetadataEntry.Fits ⟨mime, content⟩) : (c.push mime content).Fits := by
  intro e hmem
  rcases List.mem_append.mp hmem with hmem | hmem
  · exact h e hmem
  · obtain rfl := List.mem_singleton.mp hmem
    exact he

/-- An entry at the end hides no entry with another mime type. -/
theorem get?_push_of_ne (c : Composite) {mime other : String} (content : Bytes) (h : mime ≠ other) :
    (c.push mime content).get? other = c.get? other := by
  unfold get? push
  rw [List.find?_append, List.find?_cons_of_neg (by simpa using h), List.find?_nil, Option.or_none]

/-- The relay entry says nothing about where the call goes. -/
theorem routing_push_relay (c : Composite) (content : Bytes) :
    (c.push mimeRelay content).routing = c.routing := by
  have hbinary : mimeRelay ≠ mimeBinaryRouting := by decide
  have htext : mimeRelay ≠ mimeTextRouting := by decide
  unfold routing
  rw [c.get?_push_of_ne content hbinary, c.get?_push_of_ne content htext]

end Composite

/-! ## Aiming -/

namespace Router

theorem readMetadata_eq_ok_iff {p : Payload} {c : Composite} {routing : Routing} :
    readMetadata p = .ok (c, routing)
      ↔ Composite.decode p.metadata = .ok c ∧ c.routing = .ok routing := by
  unfold readMetadata
  constructor
  · intro h
    split at h
    · cases h
    · rename_i c' hc
      split at h
      · cases h
      · rename_i routing' hr
        cases h
        exact ⟨hc, hr⟩
  · rintro ⟨hc, hr⟩
    simp only [hc, hr]

/-- A call that has a target is readable, and the target is one of those who may get it. -/
theorem of_aim {draw : Draw} {p : Payload} {r : Router} {table : RouteTable} {target : Target}
    (h : (aim draw p r table).1 = .ok target) :
    readMetadata p = .ok (target.metadata, target.routing) ∧
      target.responder ∈ eligible table target.metadata target.routing := by
  unfold aim at h
  split at h
  · cases h
  · rename_i c routing hread
    simp only at h
    split at h
    · rename_i responder hfind
      cases h
      obtain ⟨key, -, hfind⟩ := Option.bind_eq_some_iff.mp hfind
      exact ⟨hread, List.mem_of_find?_eq_some hfind⟩
    · cases h

theorem isRelayed_eq_false_of_peer {table : RouteTable} {c : Composite} {routing : Routing}
    {x : Responder} {uri : String} (h : x ∈ eligible table c routing) (hx : x.route = .peer uri) :
    c.isRelayed = false := by
  have hnear := (List.mem_filter.mp h).2
  have hremote : x.isRemote = true := by
    unfold Responder.isRemote
    rw [hx]
  rw [hremote, Bool.not_true, Bool.or_false, Bool.not_eq_true'] at hnear
  exact hnear

/-- A call with a relay entry only goes to responders that are connected here. -/
theorem direct_of_isRelayed {draw : Draw} {q : Payload} {r : Router} {table : RouteTable}
    {target : Target} {c : Composite} (hc : Composite.decode q.metadata = .ok c)
    (hrelayed : c.isRelayed = true) (h : (aim draw q r table).1 = .ok target) :
    ∃ link, target.responder.route = .direct link := by
  obtain ⟨hread, hmem⟩ := of_aim h
  have hsame : target.metadata = c := by
    have hc' := (readMetadata_eq_ok_iff.mp hread).1
    rw [hc] at hc'
    exact (Except.ok.inj hc').symm
  cases hroute : target.responder.route with
  | direct link => exact ⟨link, rfl⟩
  | peer uri =>
    have hnot := isRelayed_eq_false_of_peer hmem hroute
    rw [hsame, hrelayed] at hnot
    cases hnot

/-! ## Relaying -/

/-- The one call, as a broker gets it, is the other as the next broker gets it. -/
structure IsRelay (brokerId : String) (p q : Payload) : Prop where
  /-- No entry of the call says that it was relayed.  All of them stay, in order, and the
  relay entry comes last. -/
  passed : ∃ c, Composite.decode p.metadata = .ok c ∧ (∀ e ∈ c.entries, e.mime ≠ mimeRelay) ∧
    Composite.decode q.metadata = .ok ⟨c.entries ++ [relayEntry brokerId]⟩ ∧
    (⟨c.entries ++ [relayEntry brokerId]⟩ : Composite).routing = c.routing
  data : q.data = p.data

/-- What goes to a remote responder can be written, and is a relay of what came. -/
theorem isRelay_relayed {draw : Draw} {p : Payload} {r r' : Router} {table : RouteTable}
    {target : Target} {uri : String} (hid : (utf8 r'.brokerId).length ≤ maxContentLength)
    (h : (aim draw p r table).1 = .ok target) (hroute : target.responder.route = .peer uri) :
    ∃ q, r'.relayed target p.data = .ok q ∧ IsRelay r'.brokerId p q := by
  obtain ⟨hread, hmem⟩ := of_aim h
  have hfirst := isRelayed_eq_false_of_peer hmem hroute
  obtain ⟨hdecode, -⟩ := readMetadata_eq_ok_iff.mp hread
  have hfits : (target.metadata.push mimeRelay (utf8 r'.brokerId)).Fits :=
    Composite.Fits.push (Composite.decode_eq_ok_iff.mp hdecode).1 (fits_relayEntry hid)
  refine ⟨⟨(target.metadata.push mimeRelay (utf8 r'.brokerId)).bytes, p.data⟩, ?_, ?_, rfl⟩
  · unfold relayed
    simp only [hfirst, Bool.false_eq_true, if_false, Composite.encode_of_fits hfits]
  · refine ⟨target.metadata, hdecode, ?_, Composite.decode_bytes hfits, ?_⟩
    · intro e he hmime
      have hmarked := target.metadata.isRelayed_iff.mpr ⟨e, he, hmime⟩
      rw [hfirst] at hmarked
      cases hmarked
    · exact target.metadata.routing_push_relay _

/-- No router aims a relay at a remote responder. -/
theorem IsRelay.direct {brokerId : String} {p q : Payload} (h : IsRelay brokerId p q) {draw : Draw}
    {r : Router} {table : RouteTable} {target : Target}
    (haim : (aim draw q r table).1 = .ok target) :
    ∃ link, target.responder.route = .direct link := by
  obtain ⟨c, -, -, hdecode, -⟩ := h.passed
  refine direct_of_isRelayed hdecode ?_ haim
  exact c.isRelayed_push brokerId

end Router

end ServiceMesh
