import Coap.Proofs.Text.Load
import Coap.Proofs.Url.Percent
import Coap.Url.Parser

/-!
# What the parts of a URL stand for

A path is made of segments and a query of arguments; each stands for the octets that it has once it is
decoded. The path of a URL that is read is made of the segments of its text, except that segments of one
and two dots are worked in.

* `UrlPath.pieces`, `Url.arguments` — the segments and the arguments as they are written.
* `Url.pathValues`, `Url.queryValues` — what they stand for.
* `Trail.follow_of_down` — segments that all lead down are left as they are.
* `Trail.load_follow` — a path that is read has no more ASCII than its text, and as much only if all of
  its segments lead down and none of them encodes an octet.
-/

namespace Coap

open Percent Utf8

/-! ### Segments and arguments -/

/-- The segments of a path, as they are written. A first slash belongs to none of them. -/
def UrlPath.pieces (p : UrlPath) : List (List Char) :=
  match p.text.toList with
  | '/' :: cs => Text.splitChars '/' cs
  | cs => Text.splitChars '/' cs

/-- What the segments of the path stand for. -/
def Url.pathValues (u : Url) : List Bytes := u.path.pieces.map decode

/-- The arguments of the query, as they are written. -/
def Url.arguments (u : Url) : List (List Char) :=
  match u.query with
  | some query => Text.splitChars '&' query.toList
  | none => []

/-- What the arguments of the query stand for. -/
def Url.queryValues (u : Url) : List Bytes := u.arguments.map decode

theorem UrlPath.text_segments {names : List String} (hne : names ≠ []) :
    (UrlPath.segments names).text.toList =
      '/' :: Text.joinChars ['/'] (names.map String.toList) := by
  have htext (names : List String) : (UrlPath.segments names).text.toList =
      (names.map fun name => '/' :: name.toList).flatten := by
    rw [text, String.toList_join, List.flatMap_map, List.flatMap_def]
    simp
  rw [htext]
  induction names with
  | nil => exact absurd rfl hne
  | cons name more ih =>
    cases more with
    | nil => simp [Text.joinChars]
    | cons next more =>
      rw [List.map_cons, List.flatten_cons, ih (List.cons_ne_nil next more)]
      simp [Text.joinChars]

/-- Names without slashes are the segments of the path that they make. -/
theorem UrlPath.pieces_segments {names : List String} (hne : names ≠ [])
    (hslash : ∀ name ∈ names, '/' ∉ name.toList) :
    (UrlPath.segments names).pieces = names.map String.toList := by
  rw [pieces, text_segments hne]
  exact Text.splitChars_joinChars (by simpa using hne) (by simpa using hslash)

namespace Url

/-! ### Dots -/

/-- A segment that is bare leads down, unless it is made of one or two dots. -/
theorem Step.ofSegment_of_bare {segment : List Char} (hbare : Bare segment)
    (hone : segment ≠ ['.']) (htwo : segment ≠ ['.', '.']) : Step.ofSegment segment = .down := by
  have hlower {s : String} (h : String.ofList (segment.map Char.toLower) = s) :
      segment.map Char.toLower = s.toList ∧ Bare s.toList := by
    subst h
    rw [String.toList_ofList]
    exact ⟨rfl, hbare.map_toLower⟩
  unfold ofSegment
  rw [if_neg, if_neg]
  · intro h
    simp only [List.mem_cons, List.not_mem_nil, or_false] at h
    -- all spellings but the first one encode a dot
    obtain h | h | h | h := h
    · obtain ⟨c, more, rfl, hc, hmore⟩ := List.map_eq_cons_iff.mp (hlower h).1
      obtain ⟨d, rfl, hd⟩ := List.map_eq_singleton_iff.mp hmore
      rw [eq_of_toLower_eq hc (by decide), eq_of_toLower_eq hd (by decide)] at htwo
      exact htwo rfl
    · exact absurd ((hlower h).2 _ (List.suffix_cons '.' _)) (by decide)
    · exact absurd ((hlower h).2 _ (List.suffix_refl _)) (by decide)
    · exact absurd ((hlower h).2 _ (List.suffix_refl _)) (by decide)
  · intro h
    simp only [List.mem_cons, List.not_mem_nil, or_false] at h
    obtain h | h := h
    · obtain ⟨c, rfl, hc⟩ := List.map_eq_singleton_iff.mp (hlower h).1
      rw [eq_of_toLower_eq hc (by decide)] at hone
      exact hone rfl
    · exact absurd ((hlower h).2 _ (List.suffix_refl _)) (by decide)

theorem asciiChars_map_toLower (cs : List Char) :
    asciiChars (cs.map Char.toLower) = asciiChars cs := by
  rw [asciiChars, List.countP_map]
  refine List.countP_congr fun c _ => ?_
  simp only [Function.comp_apply, decide_eq_true_eq, toNat_toLower]
  split <;> omega

/-- A segment that does not lead down has ASCII in it. -/
theorem Step.asciiChars_pos {segment : List Char} (h : Step.ofSegment segment ≠ .down) :
    0 < asciiChars segment := by
  by_contra hnone
  have hnotMem {texts : List String} (htexts : ∀ s ∈ texts, 0 < asciiChars s.toList) :
      String.ofList (segment.map Char.toLower) ∉ texts := by
    intro hmem
    have hpos := htexts _ hmem
    rw [String.toList_ofList, asciiChars_map_toLower] at hpos
    exact hnone hpos
  refine h ?_
  unfold ofSegment
  rw [if_neg (hnotMem (by decide)), if_neg (hnotMem (by decide))]

/-! ### Characters that stay -/

/-- Does the character stand in paths as it is? -/
structure StaysInPath (c : Char) : Prop where
  /-- It is in ASCII. -/
  ascii : c.toNat < 0x80
  /-- It is not encoded. -/
  plain : Percent.path c = false

instance (c : Char) : Decidable (StaysInPath c) :=
  decidable_of_iff (c.toNat < 0x80 ∧ Percent.path c = false)
    ⟨fun h => ⟨h.1, h.2⟩, fun h => ⟨h.ascii, h.plain⟩⟩

namespace StaysInPath

variable {c : Char} (h : StaysInPath c)
include h

theorem isMargin_eq_false : isMargin c = false := by
  have hplain := h.plain
  simp only [Percent.path, Percent.fragment, Percent.controls, Bool.or_eq_false_iff,
    decide_eq_false_iff_not, Nat.not_lt] at hplain
  obtain ⟨⟨⟨hcontrol, -⟩, hmarks⟩, -⟩ := hplain
  have hblank : c.toNat ≠ 0x20 := by
    intro heq
    obtain rfl : c = ' ' := Char.toNat_inj.mp heq
    simp at hmarks
  simp only [isMargin, decide_eq_false_iff_not]
  omega

theorem isBreak_eq_false : isBreak c = false := by
  have hmargin := h.isMargin_eq_false
  rw [Bool.eq_false_iff] at hmargin ⊢
  intro hbreak
  refine hmargin ?_
  simp only [isBreak, Bool.or_eq_true, beq_iff_eq] at hbreak
  obtain (rfl | rfl) | rfl := hbreak <;> decide

theorem ne {d : Char} (hd : Percent.path d = true) : c ≠ d := by
  intro heq
  have hplain := h.plain
  rw [heq, hd] at hplain
  cases hplain

end StaysInPath

theorem encodeSegment_eq_self {segment : List Char} (h : ∀ c ∈ segment, StaysInPath c) :
    encodeSegment segment = String.ofList segment := by
  have hvisible : visible segment = segment :=
    List.filter_eq_self.mpr fun c hc => by simp [(h c hc).isBreak_eq_false]
  rw [encodeSegment, hvisible, encode_eq_self fun c hc => ⟨(h c hc).ascii, (h c hc).plain⟩]

/-! ### Trails -/

/-- What a name stands for. -/
def nameValue (name : String) : Bytes := decode name.toList

theorem nameValue_encodeSegment (segment : List Char) :
    nameValue (encodeSegment segment) = decode (visible segment) := by
  rw [nameValue, encodeSegment, String.toList_ofList, decode_encode faithful_path]

namespace Trail

variable {t : Trail} {pieces : List (List Char)}

@[simp] theorem names_down (t : Trail) (name : String) :
    (t.down name).names = t.names ++ [name] := by
  simp [down, names]

theorem names_up (t : Trail) : t.up.names = t.names ∨ ∃ name, t.names = t.up.names ++ [name] := by
  unfold up
  split
  · next name outer hinward =>
    split
    · exact .inl rfl
    · exact .inr ⟨name, by simp [names, hinward]⟩
  · exact .inl rfl

theorem mem_of_mem_names_up {name : String} (h : name ∈ t.up.names) : name ∈ t.names := by
  obtain heq | ⟨last, heq⟩ := t.names_up
  · exact heq ▸ h
  · exact heq ▸ List.mem_append_left [last] h

theorem enter_plain (t : Trail) (segment : List Char) :
    t.enter false segment = t.down (encodeSegment segment) := rfl

/-- Segments that lead down are the names that follow. -/
theorem follow_of_down (h : ∀ piece ∈ pieces, Step.ofSegment (visible piece) = .down) (t : Trail) :
    (t.follow false pieces).names = t.names ++ pieces.map encodeSegment := by
  induction pieces generalizing t with
  | nil => exact (List.append_nil _).symm
  | cons piece more ih =>
    rw [follow, h piece List.mem_cons_self]
    show ((t.enter false piece).follow false more).names = _
    rw [ih fun p hp => h p (List.mem_cons_of_mem piece hp), enter_plain, names_down]
    simp

/-- What holds of names that there are, of the empty one and of every segment, holds of all names that
a path leads through. -/
theorem forall_mem_follow {p : String → Prop} (hempty : p "")
    (hpieces : ∀ piece ∈ pieces, p (encodeSegment piece)) (ht : ∀ name ∈ t.names, p name) :
    ∀ name ∈ (t.follow false pieces).names, p name := by
  induction pieces generalizing t with
  | nil => exact ht
  | cons piece more ih =>
    have harrive {t : Trail} (ht : ∀ name ∈ t.names, p name) :
        ∀ name ∈ (if more.isEmpty then t.down "" else t).names, p name := by
      split
      · simpa [or_imp, forall_and, hempty] using ht
      · exact ht
    have hmore := fun q hq => hpieces q (List.mem_cons_of_mem piece hq)
    rw [follow]
    cases Step.ofSegment (visible piece) with
    | stay => exact ih hmore (harrive ht)
    | up => exact ih hmore (harrive fun name hname => ht name (mem_of_mem_names_up hname))
    | down =>
      refine ih hmore ?_
      rw [enter_plain, names_down]
      simpa [or_imp, forall_and, hpieces piece List.mem_cons_self] using ht

/-- A path leads somewhere. -/
theorem names_follow_ne_nil (h : pieces ≠ []) : (t.follow false pieces).names ≠ [] := by
  induction pieces generalizing t with
  | nil => exact absurd rfl h
  | cons piece more ih =>
    by_cases hmore : more = []
    · subst hmore
      rw [follow]
      cases Step.ofSegment (visible piece) <;> simp [follow, enter_plain]
    · rw [follow]
      cases Step.ofSegment (visible piece) <;> exact ih hmore

theorem load_down (t : Trail) (name : String) :
    Text.load ((t.down name).names.map nameValue) =
      Text.load (t.names.map nameValue) + (asciiOctets (nameValue name) + 1) := by
  simp

theorem load_up_le (t : Trail) :
    Text.load (t.up.names.map nameValue) ≤ Text.load (t.names.map nameValue) := by
  obtain heq | ⟨last, heq⟩ := t.names_up
  · rw [heq]
  · simp [heq]

/-- **Loss.** What a path stands for has no more ASCII than the path, and as much only where all
segments lead down and none encodes an octet. -/
theorem load_follow (hvisible : ∀ piece ∈ pieces, visible piece = piece) (t : Trail) :
    Text.load ((t.follow false pieces).names.map nameValue) ≤
        Text.load (t.names.map nameValue) + Text.load (pieces.map Text.encode) ∧
      (Text.load (t.names.map nameValue) + Text.load (pieces.map Text.encode) ≤
          Text.load ((t.follow false pieces).names.map nameValue) →
        ∀ piece ∈ pieces, Step.ofSegment piece = .down ∧ Bare piece) := by
  induction pieces generalizing t with
  | nil => simp [follow]
  | cons piece more ih =>
    have harrive (t : Trail) : Text.load ((if more.isEmpty then t.down "" else t).names.map nameValue) ≤
        Text.load (t.names.map nameValue) + 1 := by
      split
      · rw [load_down]
        exact Nat.le_refl _
      · exact Nat.le_add_right _ 1
    have ih := fun t => ih (fun p hp => hvisible p (List.mem_cons_of_mem piece hp)) t
    rw [follow, List.map_cons, Text.load_cons, Text.asciiOctets_encode,
      hvisible piece List.mem_cons_self]
    cases hstep : Step.ofSegment piece with
    | stay =>
      -- its own dots are lost, and the empty name that may take its place has none
      have hpos : 0 < asciiChars piece := Step.asciiChars_pos (by simp [hstep])
      have := (ih (if more.isEmpty then t.down "" else t)).1
      have := harrive t
      dsimp only
      omega
    | up =>
      have hpos : 0 < asciiChars piece := Step.asciiChars_pos (by simp [hstep])
      have := (ih (if more.isEmpty then t.up.down "" else t.up)).1
      have := harrive t.up
      have := t.load_up_le
      dsimp only
      omega
    | down =>
      obtain ⟨hle, hbare⟩ := asciiOctets_decode piece
      obtain ⟨hmore, hall⟩ := ih (t.down (encodeSegment piece))
      dsimp only
      rw [enter_plain]
      rw [load_down, nameValue_encodeSegment, hvisible piece List.mem_cons_self] at hmore hall
      refine ⟨by omega, fun heq => List.forall_mem_cons.mpr ⟨⟨hstep, hbare ?_⟩, hall ?_⟩⟩ <;> omega

end Trail

/-! ### Slashes -/

/-- A character as it counts: a backslash for a slash, if the scheme takes it for one. -/
def straighten (backslash : Bool) (c : Char) : Char := if backslash && c == '\\' then '/' else c

theorem cutSegments_eq (backslash : Bool) (cs : List Char) :
    cutSegments backslash cs = Text.splitChars '/' (cs.map (straighten backslash)) := by
  have hfalse : straighten false = id := rfl
  cases backslash with
  | true => rfl
  | false => rw [hfalse, List.map_id, cutSegments, if_neg Bool.false_ne_true]

theorem asciiChars_straighten (backslash : Bool) (cs : List Char) :
    asciiChars (cs.map (straighten backslash)) = asciiChars cs := by
  rw [asciiChars, List.countP_map]
  refine List.countP_congr fun c _ => ?_
  simp only [Function.comp_apply, straighten]
  split
  · next h =>
    simp only [Bool.and_eq_true, beq_iff_eq] at h
    rw [h.2]
    decide
  · rfl

theorem straighten_eq_slash_iff {backslash : Bool} {c : Char} :
    straighten backslash c = '/' ↔ isSlash backslash c = true := by
  unfold straighten isSlash
  split
  · next h => simp [h]
  · next h => simp [h]

/-- What has no slash is straight. -/
theorem map_straighten {backslash : Bool} {text : List Char}
    (h : ∀ c ∈ text, isSlash backslash c = false) : text.map (straighten backslash) = text := by
  refine (List.map_congr_left fun c hc => ?_).trans (List.map_id text)
  have hback : (backslash && c == '\\') = false := (Bool.or_eq_false_iff.mp (h c hc)).2
  rw [straighten, hback]
  rfl

/-- A path that joins texts is cut into as many segments only where no text has a slash. The segments
are then the texts. -/
theorem cutSegments_of_length {backslash : Bool} {texts : List (List Char)} (hne : texts ≠ [])
    (h : (cutSegments backslash (Text.joinChars ['/'] texts)).length = texts.length) :
    cutSegments backslash (Text.joinChars ['/'] texts) = texts ∧
      ∀ text ∈ texts, ∀ c ∈ text, isSlash backslash c = false := by
  have hslash : ['/'].map (straighten backslash) = ['/'] := by cases backslash <;> rfl
  rw [cutSegments_eq, Text.map_joinChars, hslash] at h ⊢
  have hlength := h.trans (List.length_map (List.map (straighten backslash))).symm
  have hnone : ∀ text ∈ texts, ∀ c ∈ text, isSlash backslash c = false := by
    intro text htext c hc
    have hstraight := Text.notMem_of_length_splitChars hlength _ (List.mem_map_of_mem htext)
    rw [Bool.eq_false_iff]
    intro hc'
    exact hstraight (List.mem_map.mpr ⟨c, hc, straighten_eq_slash_iff.mpr hc'⟩)
  refine ⟨?_, hnone⟩
  rw [Text.splitChars_of_length (by simpa using hne) hlength]
  exact (List.map_congr_left fun text htext => map_straighten (hnone text htext)).trans
    (List.map_id texts)

/-- Texts without slashes are the segments of a path that joins them. -/
theorem cutSegments_joinChars {backslash : Bool} {texts : List (List Char)} (hne : texts ≠ [])
    (hnone : ∀ text ∈ texts, ∀ c ∈ text, isSlash backslash c = false) :
    cutSegments backslash (Text.joinChars ['/'] texts) = texts := by
  have hslash : ['/'].map (straighten backslash) = ['/'] := by cases backslash <;> rfl
  have hstraight : texts.map (List.map (straighten backslash)) = texts :=
    (List.map_congr_left fun text htext => map_straighten (hnone text htext)).trans
      (List.map_id texts)
  rw [cutSegments_eq, Text.map_joinChars, hslash, hstraight]
  refine Text.splitChars_joinChars hne fun text htext hmem => ?_
  simpa [isSlash] using hnone text htext '/' hmem

/-! ### Paths that are read -/

section

variable (backslash : Bool) (cs : List Char)

theorem cutSegments_ne_nil : cutSegments backslash cs ≠ [] :=
  Text.splitChars_ne_nil _ _

theorem segments_ne_nil : segments backslash cs ≠ [] :=
  Trail.names_follow_ne_nil (cutSegments_ne_nil backslash cs)

/-- What holds of the empty name and of every segment holds of all names of a path. -/
theorem forall_mem_segments {p : String → Prop} (hempty : p "")
    (hpieces : ∀ piece ∈ cutSegments backslash cs, p (encodeSegment piece)) :
    ∀ name ∈ segments backslash cs, p name :=
  Trail.forall_mem_follow hempty hpieces (fun _ hname => absurd hname (by simp [Trail.start, Trail.names]))

theorem staysInPath_of_mem_segments :
    ∀ name ∈ segments backslash cs, ∀ c ∈ name.toList, StaysInPath c := by
  refine forall_mem_segments backslash cs (by simp) fun piece _ c hc => ?_
  rw [encodeSegment, String.toList_ofList] at hc
  obtain ⟨hascii, hplain⟩ := not_set_of_mem_encode faithful_path hc
  exact ⟨hascii, hplain⟩

theorem notMem_of_mem_segments : ∀ name ∈ segments backslash cs, '/' ∉ name.toList := by
  refine forall_mem_segments backslash cs (by simp) fun piece hpiece hmem => ?_
  rw [encodeSegment, String.toList_ofList] at hmem
  have hslash : '/' ∈ piece :=
    (List.mem_filter.mp (mem_of_mem_encode hmem (by decide) (by decide))).1
  exact Text.notMem_of_mem_splitChars hpiece hslash

/-- The segments of a path that is read are its names. -/
theorem pieces_segments :
    (UrlPath.segments (segments backslash cs)).pieces =
      (segments backslash cs).map String.toList :=
  UrlPath.pieces_segments (segments_ne_nil backslash cs) (notMem_of_mem_segments backslash cs)

end

end Url

end Coap
