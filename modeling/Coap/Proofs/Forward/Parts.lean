import Coap.Proofs.Forward.Origin
import Coap.Proofs.Url.Place

/-!
# Targets in parts

A request that names its target in parts has the values of its path and of its query written into one
text, as they are, with slashes and ampersands between them. The URL is read from that text, so its
parts need not be the ones that were written.

* `Message.Names` — a request that names the scheme and the host of its target, the host plainly.
* `Message.pathTexts`, `Message.queryTexts` — its values as they are written.
* `Message.Names.read` — what the URL has of them.
-/

namespace Coap

open Url (isMargin visible cutOff isPlaceChar)

namespace Message

/-- A request that names the scheme and the host of its target, the host plainly. -/
structure Names (m : Message) (scheme host : String) : Prop where
  /-- It does not name the target as a whole. -/
  absent : m.options.first? .proxyUri = none
  /-- It names the scheme. -/
  given : m.text? .proxyScheme = some scheme
  /-- It names the host. -/
  served : m.text? .uriHost = some host
  /-- The host is not empty. -/
  nonempty : host ≠ ""
  /-- The host is a name in ASCII or an address. -/
  plain : ∀ c ∈ host.toList, isPlaceChar c = true

variable (m : Message)

/-- The values of the path as they are written. -/
def pathTexts : List (List Char) :=
  (m.options.valuesOf .uriPath).map fun v => (Text.ofBytesLossy v).toList

/-- The values of the query as they are written. -/
def queryTexts : List (List Char) := m.query.map String.toList

/-- The path as it is written. -/
def writtenPath : List Char := Text.joinChars ['/'] m.pathTexts

/-- The query as it is written. -/
def writtenQuery : List Char := Text.joinChars ['&'] m.queryTexts

/-- The path and the query as they are written. -/
def writtenTail : List Char :=
  m.writtenPath ++ if m.query.isEmpty then [] else '?' :: m.writtenQuery

/-- The host and the port as they are written. -/
def writtenPlace (host : String) : List Char :=
  host.toList ++
    match m.uint? .uriPort with
    | some p => ':' :: (toString p.toNat).toList
    | none => []

theorem toList_pathText : m.pathText.toList = m.writtenPath := by
  rw [pathText, Text.join, String.toList_ofList, writtenPath, pathTexts, List.map_map]
  rfl

theorem toList_assembledTarget (scheme host : String) :
    (m.assembledTarget scheme host).toList =
      scheme.toList ++ ("://".toList ++ m.writtenPlace host ++ '/' :: m.writtenTail) := by
  have hquery : (if m.query.isEmpty then "" else "?" ++ Text.join "&" m.query).toList =
      if m.query.isEmpty then [] else '?' :: m.writtenQuery := by
    split
    · rfl
    · simp [Text.join, writtenQuery, queryTexts]
  unfold assembledTarget
  dsimp only
  rw [String.toList_append, hquery, String.toList_append, toList_pathText, writtenPlace, writtenTail]
  cases m.uint? .uriPort <;> simp

theorem isPlaceChar_of_isDigit {c : Char} (h : c.isDigit = true) : isPlaceChar c = true := by
  simp [isPlaceChar, Char.isAlphanum, h]

/-! ### What is read -/

/-- The path up to the end of the text: without margins at its end, if no query follows. -/
def keptPath : List Char :=
  if m.query.isEmpty then m.writtenPath.rdropWhile isMargin else m.writtenPath

/-- The path as it is read. -/
def readPath : List Char :=
  visible ((m.keptPath.takeWhile (· != '#')).takeWhile (· != '?'))

/-- The query as it is read. -/
def readQuery : List Char :=
  visible ((m.writtenQuery.rdropWhile isMargin).takeWhile (· != '#'))

theorem leftOf_rdropWhile (cs : List Char) : Text.LeftOf (cs.rdropWhile isMargin) cs := by
  refine .rdropWhile (fun c hc => ?_) cs
  simp only [isMargin, decide_eq_true_eq] at hc
  omega

theorem leftOf_takeWhile {sep : Char} (hsep : sep.toNat < 0x80) (cs : List Char) :
    Text.LeftOf (cs.takeWhile (· != sep)) cs := by
  refine .takeWhile (fun c hc => ?_) cs
  simp only [bne_eq_false_iff_eq] at hc
  exact hc ▸ hsep

theorem leftOf_visible (cs : List Char) : Text.LeftOf (visible cs) cs := by
  refine .filter (fun c hc => ?_) cs
  simp only [Url.isBreak, Bool.not_eq_false', Bool.or_eq_true, beq_iff_eq] at hc
  obtain (rfl | rfl) | rfl := hc <;> decide

theorem keptPath_leftOf : Text.LeftOf m.keptPath m.writtenPath := by
  unfold keptPath
  split
  · exact leftOf_rdropWhile _
  · exact .refl _

theorem readPath_leftOf : Text.LeftOf m.readPath m.keptPath :=
  ((leftOf_visible _).trans (leftOf_takeWhile (by decide) _)).trans (leftOf_takeWhile (by decide) _)

theorem readQuery_leftOf : Text.LeftOf m.readQuery m.writtenQuery :=
  ((leftOf_visible _).trans (leftOf_takeWhile (by decide) _)).trans (leftOf_rdropWhile _)

/-- The path is read as it is written if nothing is cut off at its end and nothing in it ends it or is
left out. -/
theorem readPath_eq_iff : m.readPath = m.writtenPath ↔
    m.keptPath = m.writtenPath ∧
      ∀ c ∈ m.writtenPath, c ≠ '#' ∧ c ≠ '?' ∧ Url.isBreak c = false := by
  constructor
  · intro h
    have hkept : m.keptPath = m.writtenPath :=
      m.keptPath_leftOf.sublist.antisymm (h ▸ m.readPath_leftOf.sublist)
    refine ⟨hkept, fun c hc => ?_⟩
    rw [← h] at hc
    obtain ⟨hc, hbreak⟩ := List.mem_filter.mp hc
    have hquestion := List.mem_takeWhile_imp hc
    have hhash := List.mem_takeWhile_imp ((List.takeWhile_sublist _).subset hc)
    exact ⟨by simpa using hhash, by simpa using hquestion, by simpa using hbreak⟩
  · intro h
    obtain ⟨hkept, hchars⟩ := h
    have hhash : m.writtenPath.takeWhile (· != '#') = m.writtenPath :=
      List.takeWhile_eq_self_iff.mpr fun c hc => by simpa using (hchars c hc).1
    have hquestion : m.writtenPath.takeWhile (· != '?') = m.writtenPath :=
      List.takeWhile_eq_self_iff.mpr fun c hc => by simpa using (hchars c hc).2.1
    rw [readPath, hkept, hhash, hquestion]
    exact List.filter_eq_self.mpr fun c hc => by simpa using (hchars c hc).2.2

/-- The query is read as it is written if nothing is cut off at its end and nothing in it ends it or is
left out. -/
theorem readQuery_eq_iff : m.readQuery = m.writtenQuery ↔
    m.writtenQuery.rdropWhile isMargin = m.writtenQuery ∧
      ∀ c ∈ m.writtenQuery, c ≠ '#' ∧ Url.isBreak c = false := by
  constructor
  · intro h
    have hread : m.readQuery.Sublist (m.writtenQuery.rdropWhile isMargin) :=
      ((leftOf_visible _).trans (leftOf_takeWhile (by decide) _)).sublist
    refine ⟨(leftOf_rdropWhile _).sublist.antisymm (h ▸ hread), fun c hc => ?_⟩
    rw [← h] at hc
    obtain ⟨hc, hbreak⟩ := List.mem_filter.mp hc
    have hhash := List.mem_takeWhile_imp hc
    exact ⟨by simpa using hhash, by simpa using hbreak⟩
  · intro h
    obtain ⟨hkept, hchars⟩ := h
    have hhash : m.writtenQuery.takeWhile (· != '#') = m.writtenQuery :=
      List.takeWhile_eq_self_iff.mpr fun c hc => by simpa using (hchars c hc).1
    rw [readQuery, hkept, hhash]
    exact List.filter_eq_self.mpr fun c hc => by simpa using (hchars c hc).2

theorem rdropWhile_writtenTail : m.writtenTail.rdropWhile isMargin =
    if m.query.isEmpty then m.keptPath
    else m.keptPath ++ '?' :: m.writtenQuery.rdropWhile isMargin := by
  unfold writtenTail keptPath
  split
  · rw [List.append_nil]
  · exact Url.rdropWhile_append_cons (by decide) _ _

theorem cutOff_writtenTail :
    (cutOff '?' (cutOff '#' (m.writtenTail.rdropWhile isMargin)).1).1 =
      (m.keptPath.takeWhile (· != '#')).takeWhile (· != '?') := by
  rw [Url.cutOff_fst, Url.cutOff_fst, rdropWhile_writtenTail]
  split
  · rfl
  · rw [List.takeWhile_takeWhile, List.takeWhile_takeWhile, List.takeWhile_append]
    split
    · next hall =>
      rw [(List.takeWhile_sublist _).eq_of_length hall]
      simp
    · rfl

variable {m} {scheme host : String}

namespace Names

variable (h : m.Names scheme host)
include h

theorem writtenPlace_ne_nil : m.writtenPlace host ≠ [] := by
  have hhost : host.toList ≠ [] := by simpa using h.nonempty
  simp [writtenPlace, hhost]

theorem isPlaceChar_of_mem : ∀ c ∈ m.writtenPlace host, isPlaceChar c = true := by
  intro c hc
  obtain hc | hc := List.mem_append.mp hc
  · exact h.plain c hc
  · split at hc
    · obtain rfl | hc := List.mem_cons.mp hc
      · decide
      · refine isPlaceChar_of_isDigit ?_
        rw [Nat.toString_eq_repr, Nat.toList_repr] at hc
        exact Nat.isDigit_of_mem_toDigits (by decide) (by decide) hc
    · cases hc

theorem ofChars_of_proxyTarget {u : Url} (htarget : m.proxyTarget = .ok u) :
    Url.ofChars
      (scheme.toList ++ ("://".toList ++ m.writtenPlace host ++ '/' :: m.writtenTail)) = .ok u := by
  cases proxyTarget_eq_ok_iff.mp htarget with
  | whole given => simp [h.absent] at given
  | parts absent given utf8 served url =>
    have hscheme := h.given
    have hhost := h.served
    rw [text?, given, Option.bind_some, utf8] at hscheme
    rw [served] at hhost
    cases hscheme
    cases hhost
    rwa [Url.ofText, toList_assembledTarget] at url

/-- **Reading.** The path of the URL is made of what is read of the path. If there is no hash and no
question mark in the path, the query is what is read of the query. -/
theorem read (hscheme : scheme ∈ ["http", "https", "coap"]) {u : Url}
    (htarget : m.proxyTarget = .ok u) :
    u.scheme = scheme ∧
      u.path = .segments (Url.segments (Url.isSpecial scheme) m.readPath) ∧
      ('#' ∉ m.keptPath → '?' ∉ m.keptPath →
        u.query = (if m.query.isEmpty then none
          else some (String.ofList (Percent.encode (Url.querySet scheme) m.readQuery))) ∧
        ('#' ∉ m.writtenQuery → u.fragment = none)) := by
  obtain ⟨hsame, hpath, hquery, hfragment⟩ := Url.ofChars_tail hscheme h.writtenPlace_ne_nil
    h.isPlaceChar_of_mem (h.ofChars_of_proxyTarget htarget)
  rw [m.cutOff_writtenTail] at hpath
  refine ⟨hsame, hpath, fun hhash hquestion => ?_⟩
  rw [rdropWhile_writtenTail] at hquery hfragment
  -- without a query the text ends with the path; else its question mark is the first one
  by_cases hnone : m.query.isEmpty = true
  · rw [if_pos hnone, Url.cutOff_of_notMem hhash] at hquery hfragment
    rw [Url.cutOff_of_notMem hquestion] at hquery
    rw [if_pos hnone]
    exact ⟨hquery, fun _ => hfragment⟩
  · have hhash' : '#' ∉ m.keptPath ++ ['?'] := by simpa using hhash
    rw [if_neg hnone, List.append_cons, Url.cutOff_append hhash'] at hquery hfragment
    dsimp only at hquery
    rw [List.append_assoc, Url.cutOff_append hquestion, List.singleton_append,
      Url.cutOff_cons_self, Url.cutOff_fst] at hquery
    rw [if_neg hnone]
    refine ⟨hquery, fun hnoHash => ?_⟩
    have hkept : '#' ∉ m.writtenQuery.rdropWhile isMargin :=
      fun hmem => hnoHash ((leftOf_rdropWhile _).sublist.subset hmem)
    rw [hfragment, Url.cutOff_of_notMem hkept]
    rfl

end Names

/-! ### A request over a proxy -/

/-- A request that names its target in parts, with a numeric host. -/
def inParts (scheme : String) (path query : List String) : Message :=
  let host := (OrderedMap.empty.insert .proxyScheme [Text.bytes scheme]).insert .uriHost
    [Text.bytes "1.2.3.4"]
  { Message.new .con .get 7 .empty with
    options := Options.setSegments (Options.setSegments host .uriPath path) .uriQuery query }

theorem names_inParts (scheme : String) (path query : List String) :
    (inParts scheme path query).Names scheme "1.2.3.4" := by
  have hread (s : String) : Text.ofBytes? (Text.bytes s) = some s :=
    Text.ofBytes?_eq_some_iff.mpr rfl
  refine ⟨?_, ?_, ?_, by decide, List.all_eq_true.mp (by decide)⟩ <;>
    simp only [inParts, text?, Options.first?, Options.valuesOf, Options.get?_setSegments,
      OrderedMap.get?_insert]
  · rfl
  · exact hread scheme
  · exact hread "1.2.3.4"

end Message

end Coap
