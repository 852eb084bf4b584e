import Coap.Proofs.Url.Path

/-!
# Texts that come back from a URL

Texts are joined to a path or to a query, and what is left of it is read. The values that the texts were
to stand for come out of it only if all of it is left, and it is cut where the texts were joined, and
every text stands for itself.

* `Url.load_segments` — the values that come out of a path have no more ASCII than the path.
* `Url.texts_of_segments`, `Url.texts_of_arguments` — what follows if the values come out.
-/

namespace Coap.Url

open Percent Utf8

variable {backslash : Bool} {cs : List Char}

/-! ### Paths -/

theorem load_cutSegments (backslash : Bool) (cs : List Char) :
    Text.load ((cutSegments backslash cs).map Text.encode) = asciiChars cs + 1 := by
  rw [cutSegments_eq, Text.load_splitChars (by decide), asciiChars_straighten]

theorem visible_of_mem_cutSegments (backslash : Bool) (h : visible cs = cs) :
    ∀ piece ∈ cutSegments backslash cs, visible piece = piece := by
  intro piece hpiece
  rw [cutSegments_eq] at hpiece
  refine List.filter_eq_self.mpr fun c hc => ?_
  obtain ⟨d, hd, rfl⟩ := List.mem_map.mp (Text.mem_of_mem_splitChars hpiece hc)
  have hbreak := List.filter_eq_self.mp h d hd
  unfold straighten
  split
  · rfl
  · exact hbreak

/-- The values that come out of a path have no more ASCII than the path, and as much only where all
segments lead down and none encodes an octet. -/
theorem load_segments (backslash : Bool) (h : visible cs = cs) :
    Text.load ((segments backslash cs).map nameValue) ≤ asciiChars cs + 1 ∧
      (asciiChars cs + 1 ≤ Text.load ((segments backslash cs).map nameValue) →
        ∀ piece ∈ cutSegments backslash cs, Step.ofSegment piece = .down ∧ Bare piece) := by
  have hfollow := Trail.load_follow (visible_of_mem_cutSegments backslash h) .start
  have hstart : Text.load (Trail.start.names.map nameValue) = 0 := rfl
  rwa [hstart, Nat.zero_add, load_cutSegments] at hfollow

/-- Segments that lead down and encode no octet come out as they are. -/
theorem values_of_down (hvisible : ∀ piece ∈ cutSegments backslash cs, visible piece = piece)
    (h : ∀ piece ∈ cutSegments backslash cs, Step.ofSegment piece = .down ∧ Bare piece) :
    (segments backslash cs).map nameValue = (cutSegments backslash cs).map Text.encode := by
  have hdown : ∀ piece ∈ cutSegments backslash cs, Step.ofSegment (visible piece) = .down := by
    intro piece hpiece
    rw [hvisible piece hpiece]
    exact (h piece hpiece).1
  rw [segments, Trail.follow_of_down hdown, List.map_append, List.map_map]
  refine List.map_congr_left fun piece hpiece => ?_
  rw [Function.comp_apply, nameValue_encodeSegment, hvisible piece hpiece,
    decode_of_bare (h piece hpiece).2]

/-- **Paths.** If as many values come out of what is left of a path as texts were joined to it, with as
much ASCII at least, then all of the path is left, and it is made of these texts. -/
theorem texts_of_segments {texts : List (List Char)} (hne : texts ≠ [])
    (hleft : Text.LeftOf cs (Text.joinChars ['/'] texts)) (hvisible : visible cs = cs)
    (hlength : ((segments backslash cs).map nameValue).length = texts.length)
    (hload : Text.load (texts.map Text.encode) ≤
      Text.load ((segments backslash cs).map nameValue)) :
    cs = Text.joinChars ['/'] texts ∧
      (segments backslash cs).map nameValue = texts.map Text.encode ∧
      ∀ text ∈ texts, Step.ofSegment text = .down ∧ Bare text ∧
        ∀ c ∈ text, isSlash backslash c = false := by
  obtain ⟨hle, hpieces⟩ := load_segments backslash hvisible
  have hslash : '/'.toNat < 0x80 := by decide
  rw [Text.load_joinChars hslash hne] at hload
  -- the joined text has as much ASCII as its values, so neither cutting off nor reading lost any
  have hall : cs = Text.joinChars ['/'] texts := hleft.eq_of_le (by omega)
  have hasMany := hleft.asciiChars_le
  have hplain := hpieces (by omega)
  have hvalues := values_of_down (visible_of_mem_cutSegments backslash hvisible) hplain
  -- a slash within a text would have made one segment more
  rw [hvalues, List.length_map, hall] at hlength
  obtain ⟨hcut, hnone⟩ := cutSegments_of_length hne hlength
  rw [hall, hcut] at hplain hvalues
  rw [hall]
  exact ⟨rfl, hvalues, fun text htext =>
    ⟨(hplain text htext).1, (hplain text htext).2, hnone text htext⟩⟩

/-! ### Queries -/

/-- The values that come out of a query have no more ASCII than the query, and as much only where no
argument encodes an octet. -/
theorem load_arguments (pieces : List (List Char)) :
    Text.load (pieces.map decode) ≤ Text.load (pieces.map Text.encode) ∧
      (Text.load (pieces.map Text.encode) ≤ Text.load (pieces.map decode) →
        ∀ piece ∈ pieces, Bare piece) := by
  induction pieces with
  | nil => simp
  | cons piece more ih =>
    obtain ⟨hle, hbare⟩ := asciiOctets_decode piece
    rw [List.map_cons, List.map_cons, Text.load_cons, Text.load_cons, Text.asciiOctets_encode]
    exact ⟨by omega, fun h => List.forall_mem_cons.mpr ⟨hbare (by omega), ih.2 (by omega)⟩⟩

/-- No more ASCII comes out of what is left of a query than was joined to it. -/
theorem load_arguments_le {texts : List (List Char)} (hne : texts ≠ [])
    (hleft : Text.LeftOf cs (Text.joinChars ['&'] texts)) :
    Text.load ((Text.splitChars '&' cs).map decode) ≤ Text.load (texts.map Text.encode) := by
  have hampersand : '&'.toNat < 0x80 := by decide
  calc Text.load ((Text.splitChars '&' cs).map decode)
      ≤ Text.load ((Text.splitChars '&' cs).map Text.encode) := (load_arguments _).1
    _ = asciiChars cs + 1 := Text.load_splitChars hampersand cs
    _ ≤ asciiChars (Text.joinChars ['&'] texts) + 1 := Nat.succ_le_succ hleft.asciiChars_le
    _ = Text.load (texts.map Text.encode) := (Text.load_joinChars hampersand hne).symm

/-- **Queries.** If as many values come out of what is left of a query as texts were joined to it, with
as much ASCII at least, then all of the query is left, and it is made of these texts. -/
theorem texts_of_arguments {texts : List (List Char)} (hne : texts ≠ [])
    (hleft : Text.LeftOf cs (Text.joinChars ['&'] texts))
    (hlength : ((Text.splitChars '&' cs).map decode).length = texts.length)
    (hload : Text.load (texts.map Text.encode) ≤ Text.load ((Text.splitChars '&' cs).map decode)) :
    cs = Text.joinChars ['&'] texts ∧
      (Text.splitChars '&' cs).map decode = texts.map Text.encode ∧
      ∀ text ∈ texts, Bare text ∧ '&' ∉ text := by
  obtain ⟨hle, hpieces⟩ := load_arguments (Text.splitChars '&' cs)
  have hampersand : '&'.toNat < 0x80 := by decide
  have hcount := Text.load_splitChars hampersand cs
  rw [Text.load_joinChars hampersand hne] at hload
  have hall : cs = Text.joinChars ['&'] texts := hleft.eq_of_le (by omega)
  have hasMany := hleft.asciiChars_le
  have hbare := hpieces (by omega)
  have hvalues : (Text.splitChars '&' cs).map decode = (Text.splitChars '&' cs).map Text.encode :=
    List.map_congr_left fun piece hpiece => decode_of_bare (hbare piece hpiece)
  rw [List.length_map, hall] at hlength
  have hcut := Text.splitChars_of_length hne hlength
  have hnone := Text.notMem_of_length_splitChars hlength
  rw [hall, hcut] at hbare hvalues
  rw [hall, hcut]
  exact ⟨rfl, hvalues, fun text htext => ⟨hbare text htext, hnone text htext⟩⟩

end Coap.Url
