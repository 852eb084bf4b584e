import Coap.Forward.Http
import Coap.Proofs.Text.Trim
import Coap.Proofs.Url.Percent

/-!
# Media types in header fields

A header field names a media type between blanks, in capital or small letters, and perhaps with parameters
behind a semicolon. Here this is said without reading the field: it is put together from these parts. The
media types that have a format are listed with the numbers of their formats, and the format that is read
from a field is then shown to be that of the media type which the field names.

* `Http.TypeField` — the parts of a header field. Every text has them, by `Http.exists_typeField`.
* `Http.Names` — a field that names a media type, and `Http.names_iff` for how this is read.
* `ContentFormat.OfType` — the media types that have a format.
* `Http.Named`, `Http.Textual` — fields with the media type of a format, and with one of text.
* `Http.hasFormat_iff`, `Http.formatOf?_eq_none_iff` — the format for a body, and the bodies for
  which there is none.
-/

namespace Coap

/-- The media types that have a format, in small letters and without parameters, and its number. -/
inductive ContentFormat.OfType : String → Nat → Prop where
  | text : OfType "text/plain" 0
  | linkFormat : OfType "application/link-format" 40
  | xml : OfType "application/xml" 41
  | textXml : OfType "text/xml" 41
  | octetStream : OfType "application/octet-stream" 42
  | exi : OfType "application/exi" 47
  | json : OfType "application/json" 50
  | cbor : OfType "application/cbor" 60

namespace Http

/-! ### Fields -/

/-- A name with blanks around it, and parameters. -/
structure TypeField where
  before : List Char
  name : List Char
  after : List Char
  parameters : List Char
  blank_before : ∀ c ∈ before, Text.isBlank c = true
  blank_after : ∀ c ∈ after, Text.isBlank c = true
  tight : Text.Tight Text.isBlank name
  plain : ';' ∉ name
  opened : ∀ c, parameters.head? = some c → c = ';'

namespace TypeField

variable (f : TypeField)

/-- The field as it is written. -/
def chars : List Char := f.before ++ f.name ++ f.after ++ f.parameters

/-- The name in small letters. -/
def type : List Char := f.name.map Char.toLower

theorem isBlank_semicolon : Text.isBlank ';' = false := by decide

theorem ne_semicolon_of_isBlank {c : Char} (h : Text.isBlank c = true) : c ≠ ';' := by
  intro heq
  rw [heq, isBlank_semicolon] at h
  cases h

/-- The parameters begin with the first semicolon. -/
theorem takeWhile_chars : f.chars.takeWhile (· ≠ ';') = f.before ++ f.name ++ f.after := by
  have hnone : ∀ c ∈ f.before ++ f.name ++ f.after, decide (c ≠ ';') = true := by
    intro c hc
    simp only [List.mem_append] at hc
    rcases hc with (hc | hc) | hc
    · exact decide_eq_true (ne_semicolon_of_isBlank (f.blank_before c hc))
    · exact decide_eq_true fun heq => f.plain (heq ▸ hc)
    · exact decide_eq_true (ne_semicolon_of_isBlank (f.blank_after c hc))
  rw [chars, List.takeWhile_append_of_pos hnone]
  cases hparameters : f.parameters with
  | nil => simp
  | cons c rest =>
    have hc := f.opened c (by rw [hparameters, List.head?_cons])
    simp [hc]

theorem essence_chars : ContentFormat.essence (String.ofList f.chars) = String.ofList f.type := by
  rw [ContentFormat.essence, String.toList_ofList, takeWhile_chars,
    Text.trimChars_append f.tight f.blank_before f.blank_after, type]

end TypeField

/-- Every text is some name with blanks around it, and parameters. -/
theorem exists_typeField (cs : List Char) : ∃ f : TypeField, f.chars = cs := by
  let front := cs.takeWhile (· ≠ ';')
  obtain ⟨htight, before, after, hfront, hbefore, hafter⟩ :=
    Text.trimChars_eq_iff.mp (rfl : Text.trimChars Text.isBlank front = _)
  have hplain : ';' ∉ Text.trimChars Text.isBlank front := by
    intro hmem
    have hin : ';' ∈ front := by
      rw [hfront]
      exact List.mem_append_left _ (List.mem_append_right _ hmem)
    simpa using List.mem_takeWhile_imp hin
  have hopened : ∀ c, (cs.dropWhile (· ≠ ';')).head? = some c → c = ';' := by
    intro c hc
    simpa using Text.head?_dropWhile hc
  refine ⟨⟨before, _, after, cs.dropWhile (· ≠ ';'), hbefore, hafter, htight, hplain, hopened⟩, ?_⟩
  rw [TypeField.chars]
  dsimp only
  rw [← hfront]
  exact List.takeWhile_append_dropWhile

/-- A header field names a media type, which is given in small letters. -/
def Names (field type : String) : Prop :=
  ∃ f : TypeField, f.chars = field.toList ∧ f.type = type.toList

/-- A field names exactly one media type, its essence. -/
theorem names_iff {field type : String} : Names field type ↔ ContentFormat.essence field = type := by
  constructor
  · rintro ⟨f, hchars, htype⟩
    have hessence := f.essence_chars
    rwa [hchars, htype, String.ofList_toList, String.ofList_toList] at hessence
  · intro hessence
    obtain ⟨f, hchars⟩ := exists_typeField field.toList
    refine ⟨f, hchars, ?_⟩
    rw [← hessence, ← String.ofList_toList (s := field), ← hchars, f.essence_chars, String.toList_ofList]

/-! ### Text -/

/-- What cannot be continued into a word is no part of it. -/
theorem prefix_append_iff {w x y : List Char} (h : ∀ c, y.head? = some c → c ∉ w) :
    w <+: x ++ y ↔ w <+: x := by
  refine ⟨fun hprefix => ?_, fun hprefix => hprefix.trans (List.prefix_append x y)⟩
  rcases List.prefix_or_prefix_of_prefix hprefix (List.prefix_append x y) with hw | ⟨z, rfl⟩
  · exact hw
  · rw [List.prefix_append_right_inj] at hprefix
    cases z with
    | nil => simp
    | cons c z =>
      obtain ⟨rest, rfl⟩ := hprefix
      exact absurd (List.mem_append_right x List.mem_cons_self) (h c rfl)

/-- Blanks and semicolons are no letters of the word with which media types of text begin. -/
theorem toLower_notMem_text {c : Char} (h : Text.isBlank c = true ∨ c = ';') :
    c.toLower ∉ "text/".toList := by
  have hword : "text/".toList.all (fun d => d.toNat == 0x2F || 0x61 ≤ d.toNat && d.toNat ≤ 0x7A) = true :=
    rfl
  have hc : c.toNat ≤ 0x20 ∨ c.toNat = 0x3B ∨ 0x85 ≤ c.toNat := by
    rcases h with hblank | rfl
    · simp only [Text.isBlank, Bool.or_eq_true, Bool.and_eq_true, decide_eq_true_eq, beq_iff_eq] at hblank
      omega
    · exact .inr (.inl rfl)
  intro hmem
  have hletter := List.all_eq_true.mp hword _ hmem
  simp only [Bool.or_eq_true, beq_iff_eq, Bool.and_eq_true, decide_eq_true_eq] at hletter
  rw [Percent.toNat_toLower, if_neg (by omega)] at hletter
  omega

namespace TypeField

variable (f : TypeField)

/-- Behind the name there is a blank, a semicolon or nothing. -/
theorem dropWhile_chars :
    ∃ rest, f.chars.dropWhile Text.isBlank = f.name ++ rest ∧
      ∀ c, rest.head? = some c → Text.isBlank c = true ∨ c = ';' := by
  rw [chars, List.append_assoc, List.append_assoc, List.dropWhile_append_of_pos f.blank_before]
  cases hname : f.name with
  | nil =>
    have hparameters : f.parameters.dropWhile Text.isBlank = f.parameters := by
      refine Text.dropWhile_eq_self fun c hc => ?_
      rw [f.opened c hc, isBlank_semicolon]
    refine ⟨f.parameters, ?_, fun c hc => .inr (f.opened c hc)⟩
    rw [List.nil_append, List.dropWhile_append_of_pos f.blank_after, hparameters, List.nil_append]
  | cons c name =>
    refine ⟨f.after ++ f.parameters, ?_, ?_⟩
    · refine Text.dropWhile_eq_self fun d hd => f.tight.front d ?_
      rwa [hname]
    · intro d hd
      cases hafter : f.after with
      | nil =>
        rw [hafter] at hd
        exact .inr (f.opened d hd)
      | cons e after =>
        rw [hafter] at hd
        obtain rfl := Option.some.inj hd
        exact .inl (f.blank_after e (hafter ▸ List.mem_cons_self))

theorem isText_chars :
    isText (String.ofList f.chars) = true ↔ "text/".toList <+: f.type := by
  obtain ⟨rest, hrest, hhead⟩ := f.dropWhile_chars
  have hchars : (String.ofList f.chars).toList = f.chars := String.toList_ofList
  let trimmed := Text.trimChars Text.isBlank f.chars
  -- all that trimming takes off behind the name are blanks
  have htrimmed : trimmed ++ (f.name ++ rest).rtakeWhile Text.isBlank = f.name ++ rest := by
    rw [← hrest]
    exact List.rdropWhile_append_rtakeWhile ..
  have hblank : ∀ c, (((f.name ++ rest).rtakeWhile Text.isBlank).map Char.toLower).head? = some c →
      c ∉ "text/".toList := by
    intro c hc
    obtain ⟨d, hd, rfl⟩ := List.mem_map.mp (List.mem_of_head? hc)
    exact toLower_notMem_text (.inl (List.mem_rtakeWhile_imp hd))
  have hbehind : ∀ c, (rest.map Char.toLower).head? = some c → c ∉ "text/".toList := by
    intro c hc
    rw [List.head?_map] at hc
    obtain ⟨d, hd, rfl⟩ := Option.map_eq_some_iff.mp hc
    exact toLower_notMem_text (hhead d hd)
  calc isText (String.ofList f.chars) = true
      ↔ "text/".toList <+: trimmed.map Char.toLower := by
        rw [isText, List.isPrefixOf_iff_prefix, hchars]
    _ ↔ "text/".toList <+: (f.name ++ rest).map Char.toLower := by
        rw [← htrimmed, List.map_append, prefix_append_iff hblank]
    _ ↔ "text/".toList <+: f.type := by
        rw [List.map_append, prefix_append_iff hbehind, type]

end TypeField

/-- A field names the media type of the format with a number. -/
def Named (field : String) (number : Nat) : Prop :=
  ∃ type, ContentFormat.OfType type number ∧ Names field type

/-- A field names the media type of a kind of text. -/
def Textual (field : String) : Prop := ∃ kind, Names field ("text/" ++ kind)

theorem isText_iff {field : String} : isText field = true ↔ Textual field := by
  obtain ⟨f, hchars⟩ := exists_typeField field.toList
  have hfield : field = String.ofList f.chars := by rw [hchars, String.ofList_toList]
  rw [hfield, f.isText_chars]
  constructor
  · rintro ⟨kind, hkind⟩
    refine ⟨String.ofList kind, names_iff.mpr ?_⟩
    rw [f.essence_chars, ← hkind, String.ofList_append, String.ofList_toList]
  · rintro ⟨kind, hkind⟩
    have hessence := names_iff.mp hkind
    rw [f.essence_chars] at hessence
    refine ⟨kind.toList, ?_⟩
    rw [← String.toList_append, ← hessence, String.toList_ofList]

/-! ### Formats -/

/-- The media types are registered once each, -/
theorem find?_registered : ∀ entry ∈ ContentFormat.registered,
    ContentFormat.registered.find? (fun other => other.1 = entry.1) = some entry := by
  decide

/-- and they are those that have a format. -/
theorem ofType_iff {type : String} {number : Nat} :
    ContentFormat.OfType type number ↔
      ∃ f, (type, f) ∈ ContentFormat.registered ∧ f.number.toNat = number := by
  constructor
  · intro h
    cases h with
    | text => exact ⟨.text, by decide, rfl⟩
    | linkFormat => exact ⟨.linkFormat, by decide, rfl⟩
    | xml => exact ⟨.xml, by decide, rfl⟩
    | textXml => exact ⟨.xml, by decide, rfl⟩
    | octetStream => exact ⟨.octetStream, by decide, rfl⟩
    | exi => exact ⟨.exi, by decide, rfl⟩
    | json => exact ⟨.json, by decide, rfl⟩
    | cbor => exact ⟨.cbor, by decide, rfl⟩
  · rintro ⟨f, hmem, rfl⟩
    simp only [ContentFormat.registered, List.mem_cons, Prod.mk.injEq, List.not_mem_nil, or_false] at hmem
    obtain ⟨rfl, rfl⟩ | ⟨rfl, rfl⟩ | ⟨rfl, rfl⟩ | ⟨rfl, rfl⟩ | ⟨rfl, rfl⟩ | ⟨rfl, rfl⟩ | ⟨rfl, rfl⟩ |
      ⟨rfl, rfl⟩ := hmem
    · exact .text
    · exact .linkFormat
    · exact .xml
    · exact .textXml
    · exact .octetStream
    · exact .exi
    · exact .json
    · exact .cbor

theorem named_iff {field : String} {number : Nat} :
    Named field number ↔ ∃ f, ContentFormat.ofMediaType? field = some f ∧ f.number.toNat = number := by
  constructor
  · rintro ⟨type, htype, hnames⟩
    obtain ⟨f, hmem, hnumber⟩ := ofType_iff.mp htype
    refine ⟨f, ?_, hnumber⟩
    rw [ContentFormat.ofMediaType?, names_iff.mp hnames, find?_registered _ hmem]
    rfl
  · rintro ⟨f, hread, hnumber⟩
    obtain ⟨⟨type, f⟩, hfind, rfl⟩ := Option.map_eq_some_iff.mp hread
    have htype := List.find?_some hfind
    exact ⟨type, ofType_iff.mpr ⟨f, List.mem_of_find?_eq_some hfind, hnumber⟩,
      names_iff.mpr (of_decide_eq_true htype).symm⟩

theorem not_named_iff {field : String} :
    (∀ number, ¬ Named field number) ↔ ContentFormat.ofMediaType? field = none := by
  simp only [named_iff]
  cases ContentFormat.ofMediaType? field with
  | none => simp
  | some f => exact iff_of_false (fun h => h _ ⟨f, rfl, rfl⟩) nofun

/-- A body has the format whose media type the field names, and is text, whose number is 0, if that is
another kind of text. -/
def HasFormat (field : String) (number : Nat) : Prop :=
  Named field number ∨ (∀ other, ¬ Named field other) ∧ Textual field ∧ number = 0

theorem hasFormat_iff {field : String} {number : Nat} :
    HasFormat field number ↔ ∃ f, formatOf? field = some f ∧ f.number.toNat = number := by
  rw [formatOf?, HasFormat, named_iff, not_named_iff, ← isText_iff]
  cases ContentFormat.ofMediaType? field with
  | none => cases isText field <;> simp [ContentFormat.number, eq_comm]
  | some g => simp

theorem formatOf?_eq_none_iff {field : String} :
    formatOf? field = none ↔ (∀ number, ¬ Named field number) ∧ ¬ Textual field := by
  rw [formatOf?, not_named_iff, ← isText_iff]
  cases ContentFormat.ofMediaType? field with
  | none => simp
  | some g => simp

end Http

end Coap
