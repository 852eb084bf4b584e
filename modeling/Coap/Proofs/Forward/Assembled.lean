import Coap.Proofs.Forward.Parts
import Coap.Proofs.Url.Recovery

/-!
# What assembled URLs stand for

The URL that is assembled for a request stands for the values of the request if these can be told apart
in the text that they are written into, and only then: reading adds no ASCII to what was written, so
that nothing may be lost if as much is to come out.

* `Url.Denotes` — a URL that stands for the path and the query of a request.
* `Message.Plain` — a request whose values can be told apart where they are written.
* `Message.Names.pathValues_eq_iff`, `Message.Names.queryValues_eq_iff` — when the segments and the
  arguments of the URL are the values of the request.
* `Message.proxyTarget_denotes_iff` — the URL denotes the request exactly if the request is plain.
-/

namespace Coap

open Percent Utf8
open Url (isMargin isBreak visible)

/-! ### URLs and values -/

/-- The segments that the values of Uri-Path stand for; none at all stand for an empty one. -/
def Message.segmentValues (m : Message) : List Bytes :=
  match m.options.valuesOf .uriPath with
  | [] => [[]]
  | values => values

/-- The URL stands for the path and the query of the request, and for nothing else. -/
structure Url.Denotes (u : Url) (m : Message) : Prop where
  /-- Its segments are the values of Uri-Path. -/
  path : u.pathValues = m.segmentValues
  /-- Its arguments are the values of Uri-Query. -/
  query : u.queryValues = m.options.valuesOf .uriQuery
  /-- There is no fragment. -/
  fragment : u.fragment = none

/-- A text that is one segment of a path that it is written into. Special schemes take backslashes for
slashes. -/
structure PlainSegment (special : Bool) (text : List Char) : Prop where
  /-- It encodes no octet. -/
  bare : Bare text
  /-- It is not one dot. -/
  dot : text ≠ ['.']
  /-- It is not two dots. -/
  dots : text ≠ ['.', '.']
  /-- It does not end where it should not, and no character is passed over. -/
  inner : ∀ c ∈ text, Url.isSlash special c = false ∧ c ≠ '#' ∧ c ≠ '?' ∧ isBreak c = false

/-- A text that is one argument of a query that it is written into. -/
structure PlainArgument (text : List Char) : Prop where
  /-- It encodes no octet. -/
  bare : Bare text
  /-- It does not end where it should not, and no character is passed over. -/
  inner : ∀ c ∈ text, c ≠ '&' ∧ c ≠ '#' ∧ isBreak c = false

instance (special : Bool) (text : List Char) : Decidable (PlainSegment special text) :=
  decidable_of_iff (Bare text ∧ text ≠ ['.'] ∧ text ≠ ['.', '.'] ∧
      (text.all fun c => !Url.isSlash special c && c != '#' && c != '?' && !isBreak c) = true)
    ⟨fun h => ⟨h.1, h.2.1, h.2.2.1, by simpa [and_assoc] using h.2.2.2⟩,
      fun h => ⟨h.bare, h.dot, h.dots, by simpa [and_assoc] using h.inner⟩⟩

instance (text : List Char) : Decidable (PlainArgument text) :=
  decidable_of_iff (Bare text ∧ (text.all fun c => c != '&' && c != '#' && !isBreak c) = true)
    ⟨fun h => ⟨h.1, by simpa [and_assoc] using h.2⟩,
      fun h => ⟨h.bare, by simpa [and_assoc] using h.inner⟩⟩

/-- A request whose values can be told apart where they are written. -/
structure Message.Plain (m : Message) (special : Bool) : Prop where
  /-- The values of the path are UTF-8, so nothing in them is replaced. -/
  utf8Path : m.options.valuesOf .uriPath = m.pathTexts.map Text.encode
  /-- The values of the query are UTF-8, so none of them is left out. -/
  utf8Query : m.options.valuesOf .uriQuery = m.queryTexts.map Text.encode
  /-- Every value of the path is a segment. -/
  path : ∀ text ∈ m.pathTexts, PlainSegment special text
  /-- Every value of the query is an argument. -/
  query : ∀ text ∈ m.queryTexts, PlainArgument text
  /-- The last value of all does not end in a blank or a control character. -/
  last : ∀ text ∈ (m.pathTexts ++ m.queryTexts).getLast?, ∀ c ∈ text.getLast?, isMargin c = false

namespace Message

variable {m : Message}

/-! ### Paths -/

/-- The segments as they are written; there is an empty one if there is no other. -/
def segmentTexts (m : Message) : List (List Char) :=
  m.segmentValues.map fun v => (Text.ofBytesLossy v).toList

theorem segmentTexts_ne_nil (m : Message) : m.segmentTexts ≠ [] := by
  unfold segmentTexts segmentValues
  split <;> simp_all

/-- The values of the path are segments, or there is one empty segment. -/
theorem segmentTexts_cases (m : Message) :
    (m.segmentValues = m.options.valuesOf .uriPath ∧ m.segmentTexts = m.pathTexts) ∨
      (m.options.valuesOf .uriPath = [] ∧ m.pathTexts = []) ∧
        m.segmentValues = [[]] ∧ m.segmentTexts = [[]] := by
  unfold segmentTexts segmentValues pathTexts
  split
  · next hnone =>
    rw [hnone]
    exact .inr ⟨⟨rfl, rfl⟩, rfl, congrArg (fun s : String => [s.toList]) (Text.ofBytesLossy_bytes "")⟩
  · exact .inl ⟨rfl, rfl⟩

theorem joinChars_segmentTexts (m : Message) :
    Text.joinChars ['/'] m.segmentTexts = m.writtenPath := by
  obtain ⟨-, htexts⟩ | ⟨⟨-, hpath⟩, -, htexts⟩ := m.segmentTexts_cases
  · rw [htexts, writtenPath]
  · rw [htexts, writtenPath, hpath]
    rfl

theorem segmentValues_eq_iff : m.segmentValues = m.segmentTexts.map Text.encode ↔
    m.options.valuesOf .uriPath = m.pathTexts.map Text.encode := by
  obtain ⟨hvalues, htexts⟩ | ⟨⟨hnone, hpath⟩, hvalues, htexts⟩ := m.segmentTexts_cases
  · rw [hvalues, htexts]
  · rw [hvalues, htexts, hnone, hpath]
    decide

theorem forall_segmentTexts_iff {p : List Char → Prop} (hempty : p []) :
    (∀ text ∈ m.segmentTexts, p text) ↔ ∀ text ∈ m.pathTexts, p text := by
  obtain ⟨-, htexts⟩ | ⟨⟨-, hpath⟩, -, htexts⟩ := m.segmentTexts_cases
  · rw [htexts]
  · simp [htexts, hpath, hempty]

theorem visible_readPath (m : Message) : visible m.readPath = m.readPath := by
  simp [visible, readPath, List.filter_filter]

/-- The values of the path come out of what is read exactly if all of it is read and every value is
a segment that stands for itself. -/
theorem segments_readPath_iff (special : Bool) :
    (Url.segments special m.readPath).map Url.nameValue = m.segmentValues ↔
      m.readPath = m.writtenPath ∧
      m.options.valuesOf .uriPath = m.pathTexts.map Text.encode ∧
      ∀ text ∈ m.pathTexts, Url.Step.ofSegment text = .down ∧ Bare text ∧
        ∀ c ∈ text, Url.isSlash special c = false := by
  have hdown : Url.Step.ofSegment [] = .down := rfl
  rw [← segmentValues_eq_iff, ← forall_segmentTexts_iff ⟨hdown, bare_nil, by simp⟩]
  constructor
  · intro h
    -- what is written has the ASCII of the values, whether they are UTF-8 or not
    have hleft : Text.LeftOf m.readPath (Text.joinChars ['/'] m.segmentTexts) := by
      rw [joinChars_segmentTexts]
      exact m.readPath_leftOf.trans m.keptPath_leftOf
    have hload : Text.load (m.segmentTexts.map Text.encode) = Text.load m.segmentValues := by
      rw [segmentTexts, List.map_map]
      exact Text.load_lossy m.segmentValues
    obtain ⟨hall, hvalues, hplain⟩ := Url.texts_of_segments m.segmentTexts_ne_nil hleft
      m.visible_readPath (by rw [h, segmentTexts, List.length_map]) (by rw [h, hload])
    rw [joinChars_segmentTexts] at hall
    exact ⟨hall, h.symm.trans hvalues, hplain⟩
  · intro h
    obtain ⟨hall, hvalues, hplain⟩ := h
    have hcut : Url.cutSegments special m.readPath = m.segmentTexts := by
      rw [hall, ← joinChars_segmentTexts]
      exact Url.cutSegments_joinChars m.segmentTexts_ne_nil fun text htext => (hplain text htext).2.2
    have hvisible := Url.visible_of_mem_cutSegments special m.visible_readPath
    rw [hcut] at hvisible
    rw [hvalues, ← hcut]
    refine Url.values_of_down ?_ ?_ <;> rw [hcut]
    · exact hvisible
    · exact fun text htext => ⟨(hplain text htext).1, (hplain text htext).2.1⟩

/-! ### Queries -/

/-- The values of the query come out of what is read exactly if all of it is read and every value is
an argument that stands for itself. -/
theorem arguments_readQuery_iff (hne : m.query ≠ []) :
    (Text.splitChars '&' m.readQuery).map Percent.decode = m.options.valuesOf .uriQuery ↔
      m.readQuery = m.writtenQuery ∧
      m.options.valuesOf .uriQuery = m.queryTexts.map Text.encode ∧
      ∀ text ∈ m.queryTexts, Bare text ∧ '&' ∉ text := by
  have hne : m.queryTexts ≠ [] := by simpa [queryTexts] using hne
  constructor
  · intro h
    -- a value that is left out counts for one at least, and reading makes up for nothing
    obtain ⟨-, hsame⟩ := Text.load_filterMap (m.options.valuesOf .uriQuery)
    have htexts : m.queryTexts.map Text.encode =
        ((m.options.valuesOf .uriQuery).filterMap Text.ofBytes?).map Text.bytes := by
      rw [queryTexts, List.map_map]
      rfl
    rw [← htexts, ← h] at hsame
    have hvalues := hsame (Url.load_arguments_le hne m.readQuery_leftOf)
    obtain ⟨hall, -, hplain⟩ := Url.texts_of_arguments hne m.readQuery_leftOf
      (by rw [hvalues, List.length_map]) (by rw [hvalues])
    exact ⟨hall, h.symm.trans hvalues, hplain⟩
  · intro h
    obtain ⟨hall, hvalues, hplain⟩ := h
    rw [hall, writtenQuery, Text.splitChars_joinChars hne fun text htext => (hplain text htext).2,
      hvalues]
    exact List.map_congr_left fun text htext => decode_of_bare (hplain text htext).1

/-! ### Ends -/

theorem rdropWhile_joinChars_eq_self_iff {sep : Char} (hsep : isMargin sep = false)
    (texts : List (List Char)) :
    (Text.joinChars [sep] texts).rdropWhile isMargin = Text.joinChars [sep] texts ↔
      ∀ text ∈ texts.getLast?, ∀ c ∈ text.getLast?, isMargin c = false := by
  induction texts with
  | nil => simp [Text.joinChars]
  | cons text more ih =>
    cases more with
    | nil =>
      show text.rdropWhile isMargin = text ↔ _
      rw [List.rdropWhile_eq_self_iff]
      cases text using List.reverseRecOn <;> simp
    | cons next more =>
      rw [List.getLast?_cons_cons, ← ih]
      show (text ++ [sep] ++ Text.joinChars [sep] (next :: more)).rdropWhile isMargin = _ ++ _ ↔ _
      rw [List.append_assoc, List.singleton_append, Url.rdropWhile_append_cons hsep]
      simp

/-- The last value of all ends well exactly if nothing is cut off at the end of the path, or of the
query if there is one. -/
theorem last_iff :
    (∀ text ∈ (m.pathTexts ++ m.queryTexts).getLast?, ∀ c ∈ text.getLast?, isMargin c = false) ↔
      m.keptPath = m.writtenPath ∧
        (m.query ≠ [] → m.writtenQuery.rdropWhile isMargin = m.writtenQuery) := by
  by_cases hnone : m.query = []
  · have hqueryTexts : m.queryTexts = [] := by rw [queryTexts, hnone, List.map_nil]
    have hkept : m.keptPath = m.writtenPath.rdropWhile isMargin := if_pos (by simp [hnone])
    rw [hqueryTexts, List.append_nil, hkept, writtenPath,
      rdropWhile_joinChars_eq_self_iff (by decide)]
    simp [hnone]
  · have hqueryTexts : m.queryTexts ≠ [] := by simpa [queryTexts] using hnone
    have hkept : m.keptPath = m.writtenPath := if_neg (by simpa using hnone)
    rw [List.getLast?_append, List.getLast?_eq_some_getLast hqueryTexts, Option.some_or,
      ← List.getLast?_eq_some_getLast hqueryTexts, writtenQuery,
      rdropWhile_joinChars_eq_self_iff (by decide)]
    simp [hnone, hkept]

/-! ### Values of the URL -/

namespace Names

variable {scheme host : String} {u : Url} (h : m.Names scheme host)
  (hscheme : scheme ∈ ["http", "https", "coap"]) (htarget : m.proxyTarget = .ok u)
include h hscheme htarget

theorem pathValues_eq_iff : u.pathValues = m.segmentValues ↔
    m.readPath = m.writtenPath ∧
      m.options.valuesOf .uriPath = m.pathTexts.map Text.encode ∧
      ∀ text ∈ m.pathTexts, Url.Step.ofSegment text = .down ∧ Bare text ∧
        ∀ c ∈ text, Url.isSlash (Url.isSpecial scheme) c = false := by
  have hvalues : u.pathValues =
      (Url.segments (Url.isSpecial scheme) m.readPath).map Url.nameValue := by
    rw [Url.pathValues, (h.read hscheme htarget).2.1, Url.pieces_segments, List.map_map]
    rfl
  rw [hvalues, segments_readPath_iff]

/-- Where all of the path is read, the query begins behind it. -/
theorem read_of_readPath (hread : m.readPath = m.writtenPath) :
    u.query = (if m.query.isEmpty then none
      else some (String.ofList (Percent.encode (Url.querySet scheme) m.readQuery))) ∧
    ('#' ∉ m.writtenQuery → u.fragment = none) := by
  obtain ⟨hkept, hchars⟩ := m.readPath_eq_iff.mp hread
  obtain ⟨-, -, hrest⟩ := h.read hscheme htarget
  rw [hkept] at hrest
  exact hrest (fun hmem => (hchars _ hmem).1 rfl) (fun hmem => (hchars _ hmem).2.1 rfl)

theorem queryValues_eq_iff (hread : m.readPath = m.writtenPath) :
    u.queryValues = m.options.valuesOf .uriQuery ↔
      (m.query ≠ [] → m.readQuery = m.writtenQuery) ∧
      m.options.valuesOf .uriQuery = m.queryTexts.map Text.encode ∧
      ∀ text ∈ m.queryTexts, Bare text ∧ '&' ∉ text := by
  have hquery := (h.read_of_readPath hscheme htarget hread).1
  by_cases hnone : m.query = []
  · have hqueryTexts : m.queryTexts = [] := by rw [queryTexts, hnone, List.map_nil]
    have hvalues : u.queryValues = [] := by
      rw [Url.queryValues, Url.arguments, hquery, hnone]
      rfl
    rw [hvalues, hqueryTexts, eq_comm]
    simp [hnone]
  · have hvalues : u.queryValues = (Text.splitChars '&' m.readQuery).map Percent.decode := by
      rw [Url.queryValues, Url.arguments, hquery, if_neg (by simpa using hnone)]
      dsimp only
      rw [String.toList_ofList, splitChars_encode (by decide) (Url.querySet_ampersand scheme)
        (by decide), List.map_map]
      exact List.map_congr_left fun piece _ => decode_encode (Url.faithful_querySet scheme) piece
    rw [hvalues, arguments_readQuery_iff hnone]
    simp [hnone]

end Names

/-! ### Plain requests -/

theorem plainSegment_of_down {special : Bool} {text : List Char}
    (hdown : Url.Step.ofSegment text = .down) (hbare : Bare text)
    (hinner : ∀ c ∈ text, Url.isSlash special c = false ∧ c ≠ '#' ∧ c ≠ '?' ∧ isBreak c = false) :
    PlainSegment special text := by
  refine ⟨hbare, ?_, ?_, hinner⟩
  · intro heq
    rw [heq, show Url.Step.ofSegment ['.'] = .stay from rfl] at hdown
    cases hdown
  · intro heq
    rw [heq, show Url.Step.ofSegment ['.', '.'] = .up from rfl] at hdown
    cases hdown

namespace Plain

variable {special : Bool} (h : m.Plain special)
include h

theorem readPath_eq : m.readPath = m.writtenPath := by
  refine m.readPath_eq_iff.mpr ⟨(last_iff.mp h.last).1, fun c hc => ?_⟩
  obtain rfl | ⟨text, htext, hc⟩ := Text.mem_joinChars hc
  · decide
  · exact ((h.path text htext).inner c hc).2

theorem of_mem_writtenQuery : ∀ c ∈ m.writtenQuery, c ≠ '#' ∧ isBreak c = false := by
  intro c hc
  obtain rfl | ⟨text, htext, hc⟩ := Text.mem_joinChars hc
  · decide
  · exact ((h.query text htext).inner c hc).2

theorem readQuery_eq (hne : m.query ≠ []) : m.readQuery = m.writtenQuery :=
  m.readQuery_eq_iff.mpr ⟨(last_iff.mp h.last).2 hne, h.of_mem_writtenQuery⟩

end Plain

section

variable {scheme host : String} {u : Url}

theorem plain_of_denotes (h : m.Names scheme host) (hscheme : scheme ∈ ["http", "https", "coap"])
    (htarget : m.proxyTarget = .ok u) (hdenotes : u.Denotes m) : m.Plain (Url.isSpecial scheme) := by
  obtain ⟨hread, hutf8, hsegments⟩ := (h.pathValues_eq_iff hscheme htarget).mp hdenotes.path
  obtain ⟨hkept, hchars⟩ := m.readPath_eq_iff.mp hread
  obtain ⟨hreadQuery, hutf8Query, harguments⟩ :=
    (h.queryValues_eq_iff hscheme htarget hread).mp hdenotes.query
  refine ⟨hutf8, hutf8Query, fun text htext => ?_, fun text htext => ?_, ?_⟩
  · obtain ⟨hdown, hbare, hslash⟩ := hsegments text htext
    exact plainSegment_of_down hdown hbare fun c hc =>
      ⟨hslash c hc, hchars c (Text.mem_joinChars_of_mem htext hc)⟩
  · have hne : m.query ≠ [] := fun hnone => by simp [queryTexts, hnone] at htext
    have hcharsQuery := (m.readQuery_eq_iff.mp (hreadQuery hne)).2
    obtain ⟨hbare, hampersand⟩ := harguments text htext
    exact ⟨hbare, fun c hc => ⟨fun heq => hampersand (heq ▸ hc),
      hcharsQuery c (Text.mem_joinChars_of_mem htext hc)⟩⟩
  · exact last_iff.mpr ⟨hkept, fun hne => (m.readQuery_eq_iff.mp (hreadQuery hne)).1⟩

theorem denotes_of_plain (h : m.Names scheme host) (hscheme : scheme ∈ ["http", "https", "coap"])
    (htarget : m.proxyTarget = .ok u) (hplain : m.Plain (Url.isSpecial scheme)) : u.Denotes m := by
  have hread := hplain.readPath_eq
  refine ⟨(h.pathValues_eq_iff hscheme htarget).mpr ⟨hread, hplain.utf8Path, fun text htext => ?_⟩,
    (h.queryValues_eq_iff hscheme htarget hread).mpr
      ⟨hplain.readQuery_eq, hplain.utf8Query, fun text htext => ?_⟩, ?_⟩
  · obtain ⟨hbare, hdot, hdots, hinner⟩ := hplain.path text htext
    exact ⟨Url.Step.ofSegment_of_bare hbare hdot hdots, hbare, fun c hc => (hinner c hc).1⟩
  · obtain ⟨hbare, hinner⟩ := hplain.query text htext
    exact ⟨hbare, fun hmem => (hinner _ hmem).1 rfl⟩
  · exact (h.read_of_readPath hscheme htarget hread).2 fun hmem =>
      (hplain.of_mem_writtenQuery _ hmem).1 rfl

/-- **Assembling a URL.** The URL that is assembled for a request stands for its values of Uri-Path and
Uri-Query, no value moved, dropped, split, merged or changed, exactly if the request is plain. -/
theorem proxyTarget_denotes_iff (h : m.Names scheme host) (hscheme : scheme ∈ ["http", "https", "coap"])
    (htarget : m.proxyTarget = .ok u) :
    u.scheme = scheme ∧ (u.Denotes m ↔ m.Plain (Url.isSpecial scheme)) :=
  ⟨(h.read hscheme htarget).1, plain_of_denotes h hscheme htarget, denotes_of_plain h hscheme htarget⟩

end

/-! ### A blank and a question mark -/

/-- The URL of a page at a numeric host. -/
def pageUrl (names : List String) (query : Option String) : Url :=
  ⟨"http", some ⟨"", none, some (.ip4 0x01020304), none⟩, .segments names, query, none⟩

/-- Blanks within a value, letters of any script and slashes in a query come out of the URL. -/
theorem proxyTarget_denotes_page :
    (inParts "http" ["a b", "é"] ["c=1/2"]).proxyTarget =
      .ok (pageUrl ["a%20b", "%C3%A9"] (some "c=1/2")) ∧
    (pageUrl ["a%20b", "%C3%A9"] (some "c=1/2")).Denotes (inParts "http" ["a b", "é"] ["c=1/2"]) := by
  have hnames := names_inParts "http" ["a b", "é"] ["c=1/2"]
  have htarget : (inParts "http" ["a b", "é"] ["c=1/2"]).proxyTarget =
      .ok (pageUrl ["a%20b", "%C3%A9"] (some "c=1/2")) := by decide +kernel
  have hplain : (inParts "http" ["a b", "é"] ["c=1/2"]).Plain (Url.isSpecial "http") := by
    have hlast : ((inParts "http" ["a b", "é"] ["c=1/2"]).pathTexts ++
        (inParts "http" ["a b", "é"] ["c=1/2"]).queryTexts).getLast? = some "c=1/2".toList := by
      decide +kernel
    refine ⟨?_, ?_, ?_, ?_, by simp [hlast, isMargin]⟩ <;> decide +kernel
  exact ⟨htarget, (proxyTarget_denotes_iff hnames (by decide) htarget).2.mpr hplain⟩

/-- A question mark in a value of the path begins a query. -/
theorem proxyTarget_denotes_question :
    (inParts "http" ["a?b"] []).Names "http" "1.2.3.4" ∧
    (inParts "http" ["a?b"] []).proxyTarget = .ok (pageUrl ["a"] (some "b")) ∧
    (pageUrl ["a"] (some "b")).pathValues = [Text.bytes "a"] ∧
    (pageUrl ["a"] (some "b")).queryValues = [Text.bytes "b"] ∧
    ¬ (pageUrl ["a"] (some "b")).Denotes (inParts "http" ["a?b"] []) := by
  refine ⟨names_inParts .., ?_, ?_, ?_, fun h => absurd h.path ?_⟩ <;> decide +kernel

end Message

end Coap
