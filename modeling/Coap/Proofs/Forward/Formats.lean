import Coap.Proofs.Forward.Tags
import Coap.Proofs.Wire.Values

/-!
# The media type under which a payload is relayed

A request states the format of its payload with a number, for which the request to HTTP has the registered
media type. The number is cut to 16 bits on the way, and an option of more than four octets is not seen at
all. So a payload can be relayed under the media type of another number, or under none.

* `ContentFormat.mediaTypeOf?` — the registered media types, by number.
* `ContentFormat.taken?` — the number that an option is taken for.
* `Http.Request.AsStated` — a payload that is relayed under the media type which was stated for it.
* `Message.format_relayed` — when a payload is relayed, under which media type, and when that is the
  stated one.
-/

namespace Coap

/-! ### Numbers of formats -/

namespace ContentFormat

/-- The media type that is registered for a number. -/
def mediaTypeOf? : Nat → Option String
  | 0 => some "text/plain; charset=utf-8"
  | 40 => some "application/link-format"
  | 41 => some "application/xml"
  | 42 => some "application/octet-stream"
  | 47 => some "application/exi"
  | 50 => some "application/json"
  | 60 => some "application/cbor"
  | _ => none

theorem mediaType?_ofNumber (n : UInt16) : (ofNumber n).mediaType? = mediaTypeOf? n.toNat := by
  simp only [ofNumber, ← UInt16.toNat_inj, UInt16.reduceToNat]
  split_ifs <;> simp [mediaType?, mediaTypeOf?, *]

/-- Only numbers of 16 bits have a media type. -/
theorem mediaTypeOf?_of_le {number : Nat} (h : 65536 ≤ number) : mediaTypeOf? number = none := by
  unfold mediaTypeOf?
  split <;> first | omega | rfl

/-- The number that a Content-Format option is taken for. -/
def taken? (value : Bytes) : Option Nat :=
  if 4 < value.length then none else some (OptionValue.toNat value % 65536)

theorem lt_of_taken? {value : Bytes} {n : Nat} (h : taken? value = some n) : n < 65536 := by
  unfold taken? at h
  split at h
  · cases h
  · obtain rfl := Option.some.inj h
    exact Nat.mod_lt _ (by decide)

/-- The media type that a Content-Format option states: it has up to four octets, and a number that has
one. -/
def statedType? (value : Bytes) : Option String :=
  if 4 < value.length then none else mediaTypeOf? (OptionValue.toNat value)

/-- Is the option taken for what it is, a number of 16 bits? -/
structure IsNumber (value : Bytes) : Prop where
  short : value.length ≤ 4
  small : OptionValue.toNat value < 65536

theorem isNumber_of_statedType? {value : Bytes} {mediaType : String}
    (h : statedType? value = some mediaType) : IsNumber value := by
  unfold statedType? at h
  split at h
  · cases h
  · next hshort =>
    refine ⟨Nat.not_lt.mp hshort, ?_⟩
    by_contra hbig
    cases h.symm.trans (mediaTypeOf?_of_le (Nat.not_lt.mp hbig))

theorem IsNumber.taken?_eq {value : Bytes} (h : IsNumber value) :
    taken? value = some (OptionValue.toNat value) := by
  rw [taken?, if_neg (Nat.not_lt.mpr h.short), Nat.mod_eq_of_lt h.small]

theorem IsNumber.statedType?_eq {value : Bytes} (h : IsNumber value) :
    statedType? value = mediaTypeOf? (OptionValue.toNat value) := if_neg (Nat.not_lt.mpr h.short)

end ContentFormat

/-! ### Requests to HTTP -/

theorem Method.toHttp_eq_error {code : Code} {e : MappingError} (h : Method.toHttp code = .error e) :
    e = .unsupportedMethod code := by
  unfold Method.toHttp at h
  split at h
  · cases h
  · exact (Except.error.inj h).symm

/-- The values of the header fields that name the media type of the body. -/
def Http.Request.contentTypes (q : Http.Request) : List String :=
  (q.headers.filter fun h => h.1 = "content-type").map (·.2)

/-- A request has the media type that is stated by a Content-Format option, and has none exactly if there
is no such option. -/
def Http.Request.AsStated (q : Http.Request) : Option Bytes → Prop
  | none => q.contentTypes = []
  | some value =>
    ∃ mediaType, ContentFormat.statedType? value = some mediaType ∧ q.contentTypes = [mediaType]

namespace Message

open ContentFormat

variable {m : Message} {target : Url} {q : Http.Request}

/-! ### The field for the media type -/

/-- The number that is taken for the format of the payload. -/
def formatNumber? (m : Message) : Option Nat := (m.options.first? .contentFormat).bind taken?

theorem lt_of_formatNumber? {n : Nat} (h : m.formatNumber? = some n) : n < 65536 := by
  obtain ⟨value, -, htaken⟩ := Option.bind_eq_some_iff.mp h
  exact lt_of_taken? htaken

theorem contentFormat?_eq (m : Message) :
    m.contentFormat? = m.formatNumber?.map fun n => .ofNumber n.toUInt16 := by
  rw [contentFormat?, uint?, formatNumber?]
  cases m.options.first? .contentFormat with
  | none => rfl
  | some value =>
    show (OptionValue.toUInt? value).map (ofNumber ∘ UInt32.toUInt16) = (taken? value).map _
    rw [← Option.map_map, OptionValue.map_toUInt16_toUInt?, taken?]
    split
    · rfl
    · have hcut : (OptionValue.toNat value % 65536).toUInt16 = (OptionValue.toNat value).toUInt16 := by
        apply UInt16.toNat_inj.mp
        simp
      rw [Option.map_some, Option.map_some, hcut]

/-- The field has the media type of the number. -/
theorem formatHeaders_eq (m : Message) :
    m.formatHeaders =
      match m.formatNumber? with
      | none => .ok []
      | some n =>
        match mediaTypeOf? n with
        | some mediaType => .ok [("content-type", mediaType)]
        | none => .error (.unsupportedContentFormat n.toUInt16) := by
  rw [formatHeaders, contentFormat?_eq]
  cases hnumber : m.formatNumber? with
  | none => rfl
  | some n =>
    have hread : n.toUInt16.toNat = n := by simp [Nat.mod_eq_of_lt (lt_of_formatNumber? hnumber)]
    cases htype : mediaTypeOf? n <;>
      simp only [Option.map_some, mediaType?_ofNumber, hread, htype, number_ofNumber]

theorem formatHeaders_eq_ok_iff {format : List (String × String)} :
    m.formatHeaders = .ok format ↔
      (∀ n, m.formatNumber? = some n → mediaTypeOf? n ≠ none) ∧
        format = (m.formatNumber?.bind mediaTypeOf?).toList.map fun mediaType =>
          ("content-type", mediaType) := by
  rw [formatHeaders_eq]
  cases m.formatNumber? with
  | none => simp [eq_comm]
  | some n => cases htype : mediaTypeOf? n <;> simp [htype, eq_comm]

theorem formatHeaders_eq_error_iff {n : UInt16} :
    m.formatHeaders = .error (.unsupportedContentFormat n) ↔
      m.formatNumber? = some n.toNat ∧ mediaTypeOf? n.toNat = none := by
  rw [formatHeaders_eq]
  cases hnumber : m.formatNumber? with
  | none => simp
  | some k =>
    have hk : k.toUInt16 = n ↔ k = n.toNat := by
      simp [← UInt16.toNat_inj, Nat.mod_eq_of_lt (lt_of_formatNumber? hnumber)]
    constructor
    · intro herror
      cases htype : mediaTypeOf? k with
      | none =>
        simp only [htype, Except.error.injEq, MappingError.unsupportedContentFormat.injEq, hk] at herror
        exact ⟨congrArg some herror, herror ▸ htype⟩
      | some mediaType =>
        simp only [htype] at herror
        cases herror
    · rintro ⟨heq, hnone⟩
      obtain rfl := Option.some.inj heq
      simp [hnone]

/-! ### What is relayed -/

/-- Are method and target of a request such that it can become one of HTTP? -/
def HasHttpLine (m : Message) (target : Url) : Prop :=
  (∃ method, Method.toHttp m.code = .ok method) ∧ ∃ uri, Http.Uri.ofText target.text = .ok uri

theorem toHttp_eq_ok_iff :
    m.toHttp target = .ok q ↔
      ∃ method format uri, Method.toHttp m.code = .ok method ∧ m.formatHeaders = .ok format ∧
        Http.Uri.ofText target.text = .ok uri ∧
        q = { method, uri, headers := m.acceptHeaders ++ format ++ m.conditionHeaders,
              body := m.payload } := by
  rw [toHttp_eq]
  cases Method.toHttp m.code with
  | error e => simp [Except.bind]
  | ok method =>
    cases m.formatHeaders with
    | error e => simp [Except.bind]
    | ok format =>
      cases Http.Uri.ofText target.text with
      | error e => simp [Except.bind, Except.mapError]
      | ok uri => simp [Except.bind, Except.mapError, eq_comm]

theorem exists_toHttp_iff :
    (∃ q, m.toHttp target = .ok q) ↔
      m.HasHttpLine target ∧ ∀ n, m.formatNumber? = some n → mediaTypeOf? n ≠ none := by
  constructor
  · rintro ⟨q, hq⟩
    obtain ⟨method, format, uri, hmethod, hformat, huri, -⟩ := toHttp_eq_ok_iff.mp hq
    exact ⟨⟨⟨method, hmethod⟩, uri, huri⟩, (formatHeaders_eq_ok_iff.mp hformat).1⟩
  · rintro ⟨⟨⟨method, hmethod⟩, uri, huri⟩, hnumber⟩
    have hformat := formatHeaders_eq_ok_iff.mpr ⟨hnumber, rfl⟩
    exact ⟨_, toHttp_eq_ok_iff.mpr ⟨method, _, uri, hmethod, hformat, huri, rfl⟩⟩

/-- The format is what is wrong with a request exactly if its method is right and its format has no
media type. -/
theorem toHttp_eq_error_iff_format {n : UInt16} :
    m.toHttp target = .error (.unsupportedContentFormat n) ↔
      (∃ method, Method.toHttp m.code = .ok method) ∧
        m.formatNumber? = some n.toNat ∧ mediaTypeOf? n.toNat = none := by
  rw [← formatHeaders_eq_error_iff, toHttp_eq]
  cases hmethod : Method.toHttp m.code with
  | error e =>
    obtain rfl := Method.toHttp_eq_error hmethod
    simp [Except.bind]
  | ok method =>
    cases m.formatHeaders with
    | error e => simp [Except.bind]
    | ok format => cases Http.Uri.ofText target.text <;> simp [Except.bind, Except.mapError]

theorem contentTypes_toHttp (h : m.toHttp target = .ok q) :
    q.contentTypes = (m.formatNumber?.bind mediaTypeOf?).toList := by
  obtain ⟨method, format, uri, -, hformat, -, rfl⟩ := toHttp_eq_ok_iff.mp h
  have haccept : m.acceptHeaders.filter (fun h => h.1 = "content-type") = [] := by
    simp [acceptHeaders]
  have hconditions : m.conditionHeaders.filter (fun h => h.1 = "content-type") = [] := by
    simp [conditionHeaders]
  rw [(formatHeaders_eq_ok_iff.mp hformat).2, Http.Request.contentTypes]
  simp [haccept, hconditions, List.filter_map, Function.comp_def]

/-- The media type is the stated one exactly if there is no option, or it is taken for what it is. -/
theorem asStated_iff (h : m.toHttp target = .ok q) :
    q.AsStated (m.options.first? .contentFormat) ↔
      ∀ value, m.options.first? .contentFormat = some value → IsNumber value := by
  have htypes := contentTypes_toHttp h
  have hknown := (exists_toHttp_iff.mp ⟨q, h⟩).2
  rw [formatNumber?] at htypes hknown
  cases hvalue : m.options.first? .contentFormat with
  | none =>
    rw [hvalue] at htypes
    simpa [Http.Request.AsStated] using htypes
  | some value =>
    rw [hvalue, Option.bind_some] at htypes hknown
    constructor
    · intro hstated other hother
      obtain rfl := Option.some.inj hother
      obtain ⟨mediaType, hstated, -⟩ := hstated
      exact isNumber_of_statedType? hstated
    · intro hnumber
      have hnumber := hnumber value rfl
      rw [hnumber.taken?_eq] at htypes hknown
      obtain ⟨mediaType, htype⟩ := Option.ne_none_iff_exists'.mp (hknown _ rfl)
      refine ⟨mediaType, hnumber.statedType?_eq.trans htype, ?_⟩
      rw [htypes, Option.bind_some, htype, Option.toList_some]

/-- **Formats.** A request becomes one of HTTP exactly if its method and its target allow for it and the
number that is taken for its format has a media type. Its payload is then relayed under that media type,
and that is the stated one exactly if the option has up to four octets and a number of 16 bits. -/
theorem format_relayed (m : Message) (target : Url) :
    ((∃ q, m.toHttp target = .ok q) ↔
      m.HasHttpLine target ∧ ∀ n, m.formatNumber? = some n → mediaTypeOf? n ≠ none) ∧
    (∀ n, m.toHttp target = .error (.unsupportedContentFormat n) ↔
      (∃ method, Method.toHttp m.code = .ok method) ∧
        m.formatNumber? = some n.toNat ∧ mediaTypeOf? n.toNat = none) ∧
    ∀ q, m.toHttp target = .ok q →
      q.body = m.payload ∧ q.contentTypes = (m.formatNumber?.bind mediaTypeOf?).toList ∧
      (q.AsStated (m.options.first? .contentFormat) ↔
        ∀ value, m.options.first? .contentFormat = some value → IsNumber value) := by
  refine ⟨exists_toHttp_iff, fun n => toHttp_eq_error_iff_format, fun q hq => ?_⟩
  refine ⟨?_, contentTypes_toHttp hq, asStated_iff hq⟩
  obtain ⟨-, -, -, -, -, -, rfl⟩ := toHttp_eq_ok_iff.mp hq
  rfl

end Message

/-! ### Deposits in a format -/

/-- A request to put two octets into a thing, with a given Content-Format option. -/
def deposition (format : Bytes) : Message :=
  { (Message.new .con Method.post.code 8 .empty).set .contentFormat format with
    payload := Text.bytes "\x7b\x7d" }

/-- What becomes of a deposition in JSON. -/
def depositionInJson : Http.Request :=
  ⟨"POST", ⟨some "http", "1.2.3.4", "/t", none⟩, [("content-type", "application/json")],
    Text.bytes "\x7b\x7d"⟩

namespace Message

theorem first?_deposition (format : Bytes) :
    (deposition format).options.first? .contentFormat = some format := by
  simp [deposition, set, Options.first?, Options.valuesOf, Options.set, OrderedMap.get?_insert]

theorem toHttp_deposition :
    (deposition [50]).toHttp Forwarder.httpThing = .ok depositionInJson ∧
      (deposition [1, 0, 50]).toHttp Forwarder.httpThing = .ok depositionInJson ∧
      (deposition [0, 0, 0, 0, 50]).toHttp Forwarder.httpThing =
        .ok { depositionInJson with headers := [] } := by
  decide

/-- The number 50 is relayed as it is stated, and the number 11 not at all. -/
theorem format_relayed_json :
    depositionInJson.AsStated (some [50]) ∧
      (deposition [11]).toHttp Forwarder.httpThing = .error (.unsupportedContentFormat 11) := by
  obtain ⟨-, -, hrelayed⟩ := format_relayed (deposition [50]) Forwarder.httpThing
  obtain ⟨-, hrefused, -⟩ := format_relayed (deposition [11]) Forwarder.httpThing
  have hstated := (hrelayed _ toHttp_deposition.1).2.2
  rw [first?_deposition] at hstated
  refine ⟨hstated.mpr fun value hvalue => ?_, (hrefused 11).mpr ⟨⟨"POST", rfl⟩, ?_, rfl⟩⟩
  · obtain rfl := Option.some.inj hvalue
    exact ⟨by decide, by decide⟩
  · rw [formatNumber?, first?_deposition]
    rfl

/-- Not every payload is relayed under the media type that is stated for it. The number 65586 is taken for
that of JSON, and five octets are taken for no option, whatever their number is. -/
theorem format_not_as_stated :
    (¬ ∀ (m : Message) (target : Url) q value mediaType, m.toHttp target = .ok q →
      m.options.first? .contentFormat = some value → q.contentTypes = [mediaType] →
      ContentFormat.statedType? value = some mediaType) ∧
    ¬ ∀ (m : Message) (target : Url) q, m.toHttp target = .ok q → q.contentTypes = [] →
      m.options.first? .contentFormat = none := by
  obtain ⟨-, hcut, hlong⟩ := toHttp_deposition
  constructor
  · intro hall
    have hstated := hall _ _ _ _ _ hcut (first?_deposition _) (rfl : _ = ["application/json"])
    revert hstated
    decide
  · intro hall
    cases (first?_deposition _).symm.trans (hall _ _ _ hlong rfl)

end Message

end Coap
