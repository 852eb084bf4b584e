import Coap.Proofs.Forward.Origin
import Coap.Proofs.Forward.Parts

/-!
# URLs restated as options

The request to an origin has the path and the query of its URL as options. Their values are the segments
and the arguments as the URL has them, which is percent-encoded, and without the empty ones; what the
URL stands for are all of them, decoded.

* `Url.restatedPath` — the values of Uri-Path that stand for the path of a URL.
* `Message.valuesOf_toOrigin_uriPath`, `Message.valuesOf_toOrigin_uriQuery` — the values that there are.
* `Message.toOrigin_restates` — where the two are the same, and which values of a request that names its
  target in parts reach the origin.
-/

namespace Coap

open Percent

/-! ### Values that stand for a URL -/

/-- The values of Uri-Path that stand for the path of a URL: one for each segment, but none for a path
that is empty or a single slash. -/
def Url.restatedPath (u : Url) : List Bytes :=
  if u.path.text = "" ∨ u.path.text = "/" then [] else u.pathValues

/-- Pieces that are written as they are, without the empty ones, are what they stand for where none is
empty and none encodes an octet. -/
theorem written_eq_decoded_iff {pieces : List (List Char)} :
    (pieces.filter fun piece => !piece.isEmpty).map Text.encode = pieces.map decode ↔
      ∀ piece ∈ pieces, piece ≠ [] ∧ Bare piece := by
  constructor
  · intro h
    have hlength := congrArg List.length h
    rw [List.length_map, List.length_map] at hlength
    have hall := List.length_filter_eq_length_iff.mp hlength
    rw [List.filter_eq_self.mpr hall] at h
    intro piece hpiece
    refine ⟨by simpa using hall piece hpiece, decode_eq_encode_iff.mp ?_⟩
    exact (List.map_inj_left.mp h piece hpiece).symm
  · intro h
    rw [List.filter_eq_self.mpr fun piece hpiece => by simpa using (h piece hpiece).1]
    exact List.map_congr_left fun piece hpiece => (decode_of_bare (h piece hpiece).2).symm

/-- The option values that are made of the non-empty pieces of a text. -/
theorem segmentValues_pieces (sep : Char) (s : String) :
    (Options.segmentValues? (Text.pieces sep s)).getD [] =
      (Text.piecesChars sep s.toList).map Text.encode := by
  have hbytes : (Text.pieces sep s).map Text.bytes =
      (Text.piecesChars sep s.toList).map Text.encode := by
    rw [Text.pieces_eq_map, List.map_map]
    exact List.map_congr_left fun piece _ => congrArg Text.encode String.toList_ofList
  rw [← hbytes, Options.segmentValues?]
  cases Text.pieces sep s <;> rfl

/-- A first slash makes no difference to what is not empty. -/
theorem UrlPath.filter_pieces (p : UrlPath) :
    Text.piecesChars '/' p.text.toList = p.pieces.filter fun piece => !piece.isEmpty := by
  unfold pieces
  split
  · next cs heq =>
    rw [heq]
    exact Text.piecesChars_append_sep [] cs
  · rfl

namespace Message

variable (m : Message) (u : Url) (id : UInt16) (token : Token)

theorem valuesOf_toOrigin_uriPath : (m.toOrigin u id token).options.valuesOf .uriPath =
    (u.path.pieces.filter fun piece => !piece.isEmpty).map Text.encode := by
  rw [Options.valuesOf, get?_toOrigin, if_pos (by decide), Url.contribution?, if_pos rfl,
    segmentValues_pieces, UrlPath.filter_pieces]

theorem valuesOf_toOrigin_uriQuery : (m.toOrigin u id token).options.valuesOf .uriQuery =
    (u.arguments.filter fun piece => !piece.isEmpty).map Text.encode := by
  rw [Options.valuesOf, get?_toOrigin, if_pos (by decide), Url.contribution?, if_neg (by decide),
    if_pos rfl, Url.arguments]
  cases u.query with
  | none => rfl
  | some query => exact segmentValues_pieces '&' query

theorem uriPath_restated_iff :
    (m.toOrigin u id token).options.valuesOf .uriPath = u.restatedPath ↔
      (u.path.text = "" ∨ u.path.text = "/") ∨
        ∀ piece ∈ u.path.pieces, piece ≠ [] ∧ Bare piece := by
  rw [valuesOf_toOrigin_uriPath, Url.restatedPath]
  split
  · next hslash =>
    have hpieces : u.path.pieces = [[]] := by
      obtain htext | htext := hslash <;> rw [UrlPath.pieces, htext] <;> rfl
    simp [hpieces, hslash]
  · next hslash =>
    rw [or_iff_right hslash]
    exact written_eq_decoded_iff

/-! ### Values that reach the origin -/

variable {m u}

theorem pathTexts_of_path? {texts : List String} (hpath : m.path? = some texts) :
    m.pathTexts = texts.map String.toList := by
  rw [pathTexts, m.path?_eq_some_iff.mp hpath, List.map_map]
  exact List.map_congr_left fun text _ => congrArg String.toList (Text.ofBytesLossy_bytes text)

/-- A path of characters that stay is read as it is written. -/
theorem readPath_eq_self (h : ∀ c ∈ m.writtenPath, Url.StaysInPath c) :
    m.readPath = m.writtenPath := by
  refine m.readPath_eq_iff.mpr ⟨?_, fun c hc => ?_⟩
  · unfold keptPath
    split
    · refine List.rdropWhile_eq_self_iff.mpr fun hne => ?_
      simp [(h _ (List.getLast_mem hne)).isMargin_eq_false]
    · rfl
  · have hstays := h c hc
    exact ⟨hstays.ne (by decide), hstays.ne (by decide), hstays.isBreak_eq_false⟩

/-- Segments that have only characters that stay, and lead down, are the names of the path. -/
theorem segments_readPath {texts : List String} (hpath : m.path? = some texts) (hne : texts ≠ [])
    (hplain : ∀ text ∈ texts, text ≠ "." ∧ text ≠ ".." ∧ '/' ∉ text.toList ∧ '%' ∉ text.toList)
    (hstays : ∀ text ∈ texts, ∀ c ∈ text.toList, Url.StaysInPath c)
    (hread : m.readPath = m.writtenPath) : Url.segments false m.readPath = texts := by
  have hcut : Url.cutSegments false m.readPath = texts.map String.toList := by
    rw [hread, writtenPath, pathTexts_of_path? hpath]
    refine Text.splitChars_joinChars (by simpa using hne) fun piece hpiece => ?_
    obtain ⟨text, htext, rfl⟩ := List.mem_map.mp hpiece
    exact (hplain text htext).2.2.1
  have hvisible (text : String) (htext : text ∈ texts) : Url.visible text.toList = text.toList :=
    List.filter_eq_self.mpr fun c hc => by simp [(hstays text htext c hc).isBreak_eq_false]
  have hdown : ∀ piece ∈ texts.map String.toList, Url.Step.ofSegment (Url.visible piece) = .down := by
    intro piece hpiece
    obtain ⟨text, htext, rfl⟩ := List.mem_map.mp hpiece
    obtain ⟨hone, htwo, -, hpercent⟩ := hplain text htext
    rw [hvisible text htext]
    refine Url.Step.ofSegment_of_bare (bare_of_notMem hpercent) ?_ ?_
    · exact fun h => hone (String.toList_inj.mp h)
    · exact fun h => htwo (String.toList_inj.mp h)
  rw [Url.segments, hcut, Url.Trail.follow_of_down hdown, List.map_map]
  refine (List.nil_append _).trans ?_
  refine (List.map_congr_left fun text htext => ?_).trans (List.map_id texts)
  exact (Url.encodeSegment_eq_self (hstays text htext)).trans String.ofList_toList

/-- Values of a request that names its target in parts reach the origin if they are not empty and all
their characters stay, and only then. -/
theorem Names.uriPath_kept_iff {host : String} (h : m.Names "coap" host)
    (htarget : m.proxyTarget = .ok u) {texts : List String} (hpath : m.path? = some texts)
    (hplain : ∀ text ∈ texts, text ≠ "." ∧ text ≠ ".." ∧
      ∀ c ∈ text.toList, c ∉ ['/', '?', '#', '%']) :
    (m.toOrigin u id token).options.valuesOf .uriPath = m.options.valuesOf .uriPath ↔
      ∀ text ∈ texts, text ≠ "" ∧ ∀ c ∈ text.toList, Url.StaysInPath c := by
  have hvalues := m.path?_eq_some_iff.mp hpath
  obtain ⟨-, hread, -⟩ := h.read (by decide) htarget
  rw [valuesOf_toOrigin_uriPath, hread, Url.pieces_segments, hvalues]
  constructor
  · intro hsame text htext
    -- a value that is a name of the URL was encoded on the way, so nothing is left to encode in it
    have hmem : Text.bytes text ∈ texts.map Text.bytes := List.mem_map_of_mem htext
    rw [← hsame] at hmem
    obtain ⟨piece, hpiece, heq⟩ := List.mem_map.mp hmem
    obtain ⟨hpiece, hne⟩ := List.mem_filter.mp hpiece
    obtain ⟨name, hname, rfl⟩ := List.mem_map.mp hpiece
    obtain rfl := Text.bytes_injective heq
    exact ⟨by simpa using hne, Url.staysInPath_of_mem_segments _ _ name hname⟩
  · intro hstays
    have hchars : ∀ c ∈ m.writtenPath, Url.StaysInPath c := by
      intro c hc
      rw [writtenPath, pathTexts_of_path? hpath] at hc
      obtain rfl | ⟨piece, hpiece, hc⟩ := Text.mem_joinChars hc
      · exact ⟨by decide, by decide⟩
      · obtain ⟨text, htext, rfl⟩ := List.mem_map.mp hpiece
        exact (hstays text htext).2 c hc
    have hwritten := readPath_eq_self hchars
    by_cases hnone : texts = []
    · subst hnone
      rw [hwritten, writtenPath, pathTexts_of_path? hpath]
      rfl
    · have hnames : Url.segments (Url.isSpecial "coap") m.readPath = texts := by
        refine segments_readPath hpath hnone (fun text htext => ?_)
          (fun text htext => (hstays text htext).2) hwritten
        obtain ⟨hone, htwo, hfree⟩ := hplain text htext
        exact ⟨hone, htwo, fun hmem => hfree _ hmem (by simp), fun hmem => hfree _ hmem (by simp)⟩
      have hfilter : ((texts.map String.toList).filter fun piece => !piece.isEmpty) =
          texts.map String.toList := by
        refine List.filter_eq_self.mpr fun piece hpiece => ?_
        obtain ⟨text, htext, rfl⟩ := List.mem_map.mp hpiece
        simpa using (hstays text htext).1
      rw [hnames, hfilter, List.map_map]
      rfl

/-- **Restating a URL.** The values of Uri-Path and of Uri-Query that an origin is sent are the decoded
segments and arguments of its URL exactly where none of these is empty and none encodes an octet. If
the URL was put together from a client's request, with values that a path can hold, then the values of
Uri-Path are again those of the client exactly where none is empty and none has a character that is
encoded. -/
theorem toOrigin_restates (m : Message) (u : Url) (id : UInt16) (token : Token) :
    ((m.toOrigin u id token).options.valuesOf .uriPath = u.restatedPath ↔
      (u.path.text = "" ∨ u.path.text = "/") ∨
        ∀ piece ∈ u.path.pieces, piece ≠ [] ∧ Bare piece) ∧
    ((m.toOrigin u id token).options.valuesOf .uriQuery = u.queryValues ↔
      ∀ piece ∈ u.arguments, piece ≠ [] ∧ Bare piece) ∧
    ∀ {host : String} {texts : List String}, m.Names "coap" host → m.proxyTarget = .ok u →
      m.path? = some texts →
      (∀ text ∈ texts, text ≠ "." ∧ text ≠ ".." ∧ ∀ c ∈ text.toList, c ∉ ['/', '?', '#', '%']) →
      ((m.toOrigin u id token).options.valuesOf .uriPath = m.options.valuesOf .uriPath ↔
        ∀ text ∈ texts, text ≠ "" ∧ ∀ c ∈ text.toList, Url.StaysInPath c) := by
  refine ⟨m.uriPath_restated_iff u id token, ?_, fun h htarget hpath hplain =>
    h.uriPath_kept_iff id token htarget hpath hplain⟩
  rw [valuesOf_toOrigin_uriQuery]
  exact written_eq_decoded_iff

/-! ### Letters and blanks -/

/-- The URL of a path at a numeric host. -/
def askedUrl (names : List String) : Url :=
  ⟨"coap", some ⟨"", none, some (.name "1.2.3.4"), none⟩, .segments names, none, none⟩

/-- Letters and digits reach the origin. -/
theorem toOrigin_restates_letters :
    (inParts "coap" ["a", "b2"] []).Names "coap" "1.2.3.4" ∧
    (inParts "coap" ["a", "b2"] []).proxyTarget = .ok (askedUrl ["a", "b2"]) ∧
    (inParts "coap" ["a", "b2"] []).path? = some ["a", "b2"] ∧
    ((inParts "coap" ["a", "b2"] []).toOrigin (askedUrl ["a", "b2"]) 9 .empty).options.valuesOf
      .uriPath = [Text.bytes "a", Text.bytes "b2"] := by
  have hnames := names_inParts "coap" ["a", "b2"] []
  have htarget : (inParts "coap" ["a", "b2"] []).proxyTarget = .ok (askedUrl ["a", "b2"]) := by
    decide +kernel
  have hpath : (inParts "coap" ["a", "b2"] []).path? = some ["a", "b2"] :=
    path?_eq_some_iff.mpr rfl
  obtain ⟨-, -, hkept⟩ :=
    toOrigin_restates (inParts "coap" ["a", "b2"] []) (askedUrl ["a", "b2"]) 9 .empty
  have hstays : ∀ text ∈ ["a", "b2"], text ≠ "" ∧ ∀ c ∈ text.toList, Url.StaysInPath c := by
    simp
    decide
  exact ⟨hnames, htarget, hpath, (hkept hnames htarget hpath (by simp)).mpr hstays⟩

/-- A blank reaches the origin encoded. -/
theorem toOrigin_restates_blank :
    (inParts "coap" ["a b"] []).proxyTarget = .ok (askedUrl ["a%20b"]) ∧
    (inParts "coap" ["a b"] []).path? = some ["a b"] ∧
    (askedUrl ["a%20b"]).restatedPath = [Text.bytes "a b"] ∧
    ((inParts "coap" ["a b"] []).toOrigin (askedUrl ["a%20b"]) 9 .empty).options.valuesOf .uriPath =
      [Text.bytes "a%20b"] := by
  refine ⟨?_, ?_, ?_, ?_⟩ <;> decide +kernel

end Message

end Coap
