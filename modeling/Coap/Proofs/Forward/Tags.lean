import Coap.Proofs.Forward.Hop
import Coap.Proofs.Text.Trim
import Coap.Proofs.Url.Percent
import Coap.Forward.Http

/-!
# Entity-tags on their way there and back

An option for an entity-tag has eight octets at most, and a tag of HTTP any number of characters. Tags
that write up to eight octets in small hexadecimal digits are carried as these octets, so that they come
back as they were and do not get mixed up. Other tags have to make do with their first eight octets.

* `Http.strong`, `Http.IsTag`, `Http.WritesOctets` — entity-tags, and those that are carried in full.
* `Http.unhex?_toHex`, `Http.WritesOctets.exists_octets` — these are the tags that are written for
  octets, and they are read back.
* `Message.toHttp_eq` — what a request makes of its entity-tags, and that nothing else depends on them.
* `Http.tags_carried` — entity-tags from a response to the next request.
-/

namespace Coap

namespace Http

open Utf8

/-! ### Entity-tags -/

/-- The strong entity-tag with some characters. -/
def strong (t : String) : String := "\"" ++ t ++ "\""

/-- Can the character stand in an entity-tag? It is a visible one of ASCII, and not the quote. -/
def isTagChar (c : Char) : Bool := 0x21 ≤ c.toNat && c.toNat ≤ 0x7E && c != '"'

/-- Is it a digit or a small letter up to f? -/
def isSmallDigit (c : Char) : Bool :=
  (0x30 ≤ c.toNat && c.toNat ≤ 0x39) || (0x61 ≤ c.toNat && c.toNat ≤ 0x66)

theorem isTagChar_iff {c : Char} :
    isTagChar c = true ↔ 0x21 ≤ c.toNat ∧ c.toNat ≤ 0x7E ∧ c ≠ '"' := by
  simp [isTagChar, and_assoc]

theorem isSmallDigit_iff {c : Char} :
    isSmallDigit c = true ↔
      0x30 ≤ c.toNat ∧ c.toNat ≤ 0x39 ∨ 0x61 ≤ c.toNat ∧ c.toNat ≤ 0x66 := by
  simp [isSmallDigit]

/-- Are these characters that can stand in an entity-tag? -/
def IsTag (t : String) : Prop := ∀ c ∈ t.toList, isTagChar c = true

/-- A tag of eight octets at most, in small hexadecimal digits. -/
structure WritesOctets (t : String) : Prop where
  digits : ∀ c ∈ t.toList, isSmallDigit c = true
  even : t.toList.length % 2 = 0
  short : t.toList.length ≤ 16

/-! ### Octets in small digits -/

theorem hexValue?_hexDigit : ∀ n : Fin 16, Bytes.hexValue? (Bytes.hexDigit n) = some n.val := by decide

theorem hexDigit_lt : ∀ n : Fin 16, (Bytes.hexDigit n).toNat < 0x80 := by decide

theorem exists_hexDigit {c : Char} (h : isSmallDigit c = true) :
    ∃ n, n < 16 ∧ Bytes.hexDigit n = c := by
  rcases isSmallDigit_iff.mp h with ⟨hlow, hhigh⟩ | ⟨hlow, hhigh⟩
  · refine ⟨c.toNat - 0x30, by omega, ?_⟩
    rw [Bytes.hexDigit, if_pos (by omega)]
    exact ofNat_eq (by omega)
  · refine ⟨c.toNat - 0x61 + 10, by omega, ?_⟩
    rw [Bytes.hexDigit, if_neg (by omega)]
    exact ofNat_eq (by omega)

theorem toHexChars_cons (b : UInt8) (v : Bytes) :
    Bytes.toHexChars (b :: v) =
      Bytes.hexDigit (b.toNat / 16) :: Bytes.hexDigit (b.toNat % 16) :: Bytes.toHexChars v := rfl

theorem length_toHexChars (v : Bytes) : (Bytes.toHexChars v).length = 2 * v.length := by
  induction v with
  | nil => rfl
  | cons b v ih =>
    rw [toHexChars_cons, List.length_cons, List.length_cons, ih, List.length_cons]
    omega

/-- Small digits in pairs are what some octets are written in. -/
theorem exists_toHexChars : ∀ cs : List Char, (∀ c ∈ cs, isSmallDigit c = true) →
    cs.length % 2 = 0 → ∃ v, Bytes.toHexChars v = cs
  | [], _, _ => ⟨[], rfl⟩
  | [_], _, heven => by simp at heven
  | hi :: lo :: rest, hdigits, heven => by
    obtain ⟨v, hv⟩ := exists_toHexChars rest
      (fun c hc => hdigits c (List.mem_cons_of_mem _ (List.mem_cons_of_mem _ hc)))
      (by simp only [List.length_cons] at heven; omega)
    obtain ⟨x, hx, hhi⟩ := exists_hexDigit (hdigits hi List.mem_cons_self)
    obtain ⟨y, hy, hlo⟩ := exists_hexDigit (hdigits lo (List.mem_cons_of_mem _ List.mem_cons_self))
    have hvalue : (x * 16 + y).toUInt8.toNat = x * 16 + y := by simp; omega
    refine ⟨(x * 16 + y).toUInt8 :: v, ?_⟩
    rw [toHexChars_cons, hvalue, show (x * 16 + y) / 16 = x by omega,
      show (x * 16 + y) % 16 = y by omega, hhi, hlo, hv]

theorem WritesOctets.exists_octets {t : String} (h : WritesOctets t) :
    ∃ v, v.length ≤ 8 ∧ Bytes.toHex v = t := by
  obtain ⟨v, hv⟩ := exists_toHexChars t.toList h.digits h.even
  refine ⟨v, ?_, by rw [Bytes.toHex, hv, String.ofList_toList]⟩
  have hlength := h.short
  rw [← hv, length_toHexChars] at hlength
  omega

/-- Two digits are read as the octet that they write. -/
theorem pair?_of_digits {hi lo : Char} {x y : Nat} (hx : Bytes.hexValue? hi = some x)
    (hy : Bytes.hexValue? lo = some y) :
    pair? hi.toNat.toUInt8 lo.toNat.toUInt8 = some (x * 16 + y).toUInt8 := by
  have hplus : hi.toNat.toUInt8 ≠ 0x2B := by
    have hbounds := (Percent.hexValue?_bounds hx).2
    intro heq
    have htoNat : hi.toNat.toUInt8.toNat = 0x2B := by rw [heq]; rfl
    simp at htoNat
    omega
  rw [pair?]
  simp only [Percent.ofNat_toUInt8 (Percent.lt_of_hexValue? hx),
    Percent.ofNat_toUInt8 (Percent.lt_of_hexValue? hy), hx, hy, if_neg hplus, Option.map_some]

/-- The digits are ASCII. -/
theorem encode_toHexChars (v : Bytes) :
    Text.encode (Bytes.toHexChars v) = (Bytes.toHexChars v).map fun c => c.toNat.toUInt8 := by
  refine Percent.encode_of_lt fun c hc => ?_
  obtain ⟨b, -, hc⟩ := List.mem_flatMap.mp hc
  have hb := b.toNat_lt
  rcases List.mem_pair.mp hc with rfl | rfl
  · exact hexDigit_lt ⟨b.toNat / 16, by omega⟩
  · exact hexDigit_lt ⟨b.toNat % 16, by omega⟩

theorem pairs?_toHexChars (v : Bytes) :
    pairs? ((Bytes.toHexChars v).map fun c => c.toNat.toUInt8) = some v := by
  induction v with
  | nil => rfl
  | cons b v ih =>
    have hb := b.toNat_lt
    have hpair := pair?_of_digits (hexValue?_hexDigit ⟨b.toNat / 16, by omega⟩)
      (hexValue?_hexDigit ⟨b.toNat % 16, by omega⟩)
    have hvalue : (b.toNat / 16 * 16 + b.toNat % 16).toUInt8 = b := by
      rw [show b.toNat / 16 * 16 + b.toNat % 16 = b.toNat by omega]
      exact UInt8.ofNat_toNat
    rw [toHexChars_cons, List.map_cons, List.map_cons, pairs?, hpair, hvalue, ih]
    rfl

/-- Eight octets at most are read back from the digits that they are written in. -/
theorem unhex?_toHex {v : Bytes} (h : v.length ≤ 8) : unhex? (Bytes.toHex v) = some v := by
  have hoctets : Text.bytes (Bytes.toHex v) = (Bytes.toHexChars v).map fun c => c.toNat.toUInt8 := by
    rw [Text.bytes, Bytes.toHex, String.toList_ofList, encode_toHexChars]
  rw [unhex?]
  simp only [hoctets]
  rw [List.length_map, length_toHexChars, if_neg (by omega), pairs?_toHexChars]

theorem length_of_pairs? : ∀ {octets v : Bytes}, pairs? octets = some v → octets.length = 2 * v.length
  | [], v, h => by
    obtain rfl := Option.some.inj h
    rfl
  | [_], _, h => nomatch h
  | hi :: lo :: rest, v, h => by
    obtain ⟨b, -, hrest⟩ := Option.bind_eq_some_iff.mp h
    obtain ⟨w, hw, heq⟩ := Option.bind_eq_some_iff.mp hrest
    obtain rfl := Option.some.inj heq
    have hlength := length_of_pairs? hw
    simp only [List.length_cons]
    omega

theorem length_of_unhex? {s : String} {v : Bytes} (h : unhex? s = some v) : v.length ≤ 8 := by
  unfold unhex? at h
  dsimp only at h
  split at h
  · cases h
  · next hshort =>
    have hlength := length_of_pairs? h
    omega

theorem length_etag (tag : String) : (etag tag).length ≤ 8 := by
  unfold etag
  dsimp only
  generalize String.ofList _ = inner
  cases hread : unhex? inner with
  | none =>
    rw [Option.getD_none, List.length_take]
    exact Nat.min_le_left ..
  | some v => exact length_of_unhex? hread

/-! ### From a response -/

theorem toList_strong (t : String) : (strong t).toList = '"' :: (t.toList ++ ['"']) := by
  simp [strong]

/-- The quotes around a tag are trimmed off, and nothing else. -/
theorem trimChars_strong {cs : List Char} (h : ∀ c ∈ cs, c ≠ '"') :
    Text.trimChars (· == '"') ('"' :: (cs ++ ['"'])) = cs := by
  have htight : Text.Tight (· == '"') cs := by
    constructor
    · intro c hc
      simpa using h c (List.mem_of_head? hc)
    · intro c hc
      simpa using h c (List.mem_of_getLast? hc)
  have hquote : ∀ c ∈ ['"'], (c == '"') = true := by simp
  show Text.trimChars _ (['"'] ++ cs ++ ['"']) = cs
  exact Text.trimChars_append htight hquote hquote

/-- The option for a strong entity-tag. -/
theorem etag_strong {t : String} (ht : IsTag t) :
    etag (strong t) = (unhex? t).getD ((Text.bytes t).take 8) := by
  have hinner : String.ofList (Text.trimChars (· == '"') (dropWeak (strong t).toList)) = t := by
    rw [toList_strong]
    show String.ofList (Text.trimChars _ ('"' :: (t.toList ++ ['"']))) = t
    rw [trimChars_strong fun c hc => (isTagChar_iff.mp (ht c hc)).2.2, String.ofList_toList]
  rw [etag]
  simp only [hinner]

theorem isVisible_of_toNat {c : Char} (h : 0x20 ≤ c.toNat ∧ c.toNat < 0x7F) :
    isVisible c.toNat.toUInt8 = true := by
  have htoNat : c.toNat.toUInt8.toNat = c.toNat := by simp; omega
  rw [isVisible, Bool.or_eq_true, Bool.and_eq_true, decide_eq_true_iff, decide_eq_true_iff,
    UInt8.le_iff_toNat_le, UInt8.lt_iff_toNat_lt, htoNat]
  exact .inl h

/-- Visible characters of ASCII can be read as text. -/
theorem all_isVisible_bytes {s : String} (h : ∀ c ∈ s.toList, 0x20 ≤ c.toNat ∧ c.toNat < 0x7F) :
    (Text.bytes s).all isVisible = true := by
  rw [Text.bytes, Percent.encode_of_lt fun c hc => by have := h c hc; omega, List.all_map,
    List.all_eq_true]
  exact fun c hc => isVisible_of_toNat (h c hc)

theorem visible_of_mem_strong {t : String} (ht : IsTag t) {c : Char} (hc : c ∈ (strong t).toList) :
    0x20 ≤ c.toNat ∧ c.toNat < 0x7F := by
  rw [toList_strong] at hc
  rcases List.mem_cons.mp hc with rfl | hc
  · decide
  · rcases List.mem_append.mp hc with hc | hc
    · have := isTagChar_iff.mp (ht c hc)
      omega
    · rw [List.mem_singleton.mp hc]
      decide

/-- A strong entity-tag can be read as text. -/
theorem all_isVisible_strong {t : String} (ht : IsTag t) :
    (Text.bytes (strong t)).all isVisible = true :=
  all_isVisible_bytes fun _ hc => visible_of_mem_strong ht hc

/-- Has a response a strong entity-tag with some characters? -/
def Response.HasTag (r : Response) (t : String) : Prop :=
  r.headers.find? (fun h => h.1 = "etag") = some ("etag", Text.bytes (strong t))

theorem Response.HasTag.text? {r : Response} {t : String} (h : r.HasTag t) (ht : IsTag t) :
    r.text? "etag" = some (strong t) := by
  rw [Response.text?, h]
  simp only [all_isVisible_strong ht, if_true]
  exact Text.ofBytes?_eq_some_iff.mpr rfl

end Http

/-- The ETag option of the response that is given in place of one from HTTP. -/
theorem Response.get?_etag_ofHttp {r : Http.Response} {method : Method} {resp : Response} {tag : String}
    (htag : r.text? "etag" = some tag) (h : ofHttp r method = .ok resp) :
    resp.message.options.get? .etag = some [Http.etag tag] := by
  unfold ofHttp at h
  cases hcode : method.codeOfStatus r.status with
  | error e =>
    rw [hcode] at h
    cases h
  | ok code =>
    simp only [hcode, htag] at h
    obtain rfl := Except.ok.inj h
    exact Message.get?_set_self _ .etag _

/-! ### To the next request -/

/-- The values of the header fields that name the entity-tags which a client has. -/
def Http.Request.conditions (q : Http.Request) : List String :=
  (q.headers.filter fun h => h.1 = "if-none-match").map (·.2)

namespace Message

variable (m : Message)

/-- The header field for the format that a request accepts. -/
def acceptHeaders : List (String × String) :=
  (m.accept?.bind ContentFormat.mediaType?).toList.map fun mediaType => ("accept", mediaType)

/-- The header field for the format of its payload. -/
def formatHeaders : Except MappingError (List (String × String)) :=
  match m.contentFormat? with
  | none => .ok []
  | some format =>
    match format.mediaType? with
    | some mediaType => .ok [("content-type", mediaType)]
    | none => .error (.unsupportedContentFormat format.number)

/-- The header fields for its entity-tags. -/
def conditionHeaders : List (String × String) :=
  (m.options.valuesOf .etag).map fun tag => ("if-none-match", Http.strong (Bytes.toHex tag))

theorem toHttp_eq (target : Url) :
    m.toHttp target =
      (Method.toHttp m.code).bind fun method => m.formatHeaders.bind fun format =>
        ((Http.Uri.ofText target.text).mapError MappingError.uri).bind fun uri =>
          .ok
            { method, uri, headers := m.acceptHeaders ++ format ++ m.conditionHeaders,
              body := m.payload } := by
  unfold toHttp formatHeaders
  cases Method.toHttp m.code with
  | error e => rfl
  | ok method =>
    cases m.contentFormat? with
    | none => rfl
    | some format => cases hmediaType : format.mediaType? <;> simp only [hmediaType] <;> rfl

theorem ne_condition_of_mem_acceptHeaders {h : String × String} (hh : h ∈ m.acceptHeaders) :
    h.1 ≠ "if-none-match" := by
  obtain ⟨mediaType, -, rfl⟩ := List.mem_map.mp hh
  exact show "accept" ≠ "if-none-match" by decide

theorem ne_condition_of_mem_formatHeaders {format : List (String × String)}
    (hformat : m.formatHeaders = .ok format) {h : String × String} (hh : h ∈ format) :
    h.1 ≠ "if-none-match" := by
  unfold formatHeaders at hformat
  split at hformat
  · obtain rfl := Except.ok.inj hformat
    cases hh
  · split at hformat
    · obtain rfl := Except.ok.inj hformat
      rw [List.mem_singleton.mp hh]
      exact show "content-type" ≠ "if-none-match" by decide
    · cases hformat

/-- A request becomes what it would become without its entity-tags, with a header field for each of
them. -/
theorem toHttp_cases (target : Url) :
    (∃ e, m.toHttp target = .error e ∧ (m.remove .etag).toHttp target = .error e) ∨
      ∃ (q : Http.Request) (others : List (String × String)), (∀ h ∈ others, h.1 ≠ "if-none-match") ∧
        (m.remove .etag).toHttp target = .ok { q with headers := others } ∧
        m.toHttp target = .ok { q with headers := others ++ m.conditionHeaders } := by
  have hsame := m.sameBut_remove .etag
  have haccept : (m.remove .etag).acceptHeaders = m.acceptHeaders := by
    rw [acceptHeaders, hsame.accept?_eq (by decide)]
    rfl
  have hformat : (m.remove .etag).formatHeaders = m.formatHeaders := by
    rw [formatHeaders, hsame.contentFormat?_eq (by decide)]
    rfl
  have htags : (m.remove .etag).conditionHeaders = [] := by
    rw [conditionHeaders, Options.valuesOf, m.get?_remove_self]
    rfl
  have hcode : (m.remove .etag).code = m.code := rfl
  rw [toHttp_eq, toHttp_eq, haccept, hformat, htags, hcode]
  cases Method.toHttp m.code with
  | error e => exact .inl ⟨e, rfl, rfl⟩
  | ok method =>
    cases hfields : m.formatHeaders with
    | error e => exact .inl ⟨e, rfl, rfl⟩
    | ok format =>
      cases (Http.Uri.ofText target.text).mapError MappingError.uri with
      | error e => exact .inl ⟨e, rfl, rfl⟩
      | ok uri =>
        refine .inr ⟨⟨method, uri, [], m.payload⟩, m.acceptHeaders ++ format, fun h hh => ?_, ?_, rfl⟩
        · rcases List.mem_append.mp hh with hh | hh
          · exact m.ne_condition_of_mem_acceptHeaders hh
          · exact m.ne_condition_of_mem_formatHeaders hfields hh
        · simp only [Except.bind, List.append_nil]
          rfl

variable {m} {target : Url}

theorem conditions_toHttp {q : Http.Request} (h : m.toHttp target = .ok q) :
    q.conditions = (m.options.valuesOf .etag).map fun tag => Http.strong (Bytes.toHex tag) := by
  rcases m.toHttp_cases target with ⟨e, herror, -⟩ | ⟨q, others, hothers, -, hok⟩
  · cases herror.symm.trans h
  · obtain rfl := Except.ok.inj (hok.symm.trans h)
    have hnone : others.filter (fun h => h.1 = "if-none-match") = [] :=
      List.filter_eq_nil_iff.mpr fun h hh => by simpa using hothers h hh
    have hall : m.conditionHeaders.filter (fun h => h.1 = "if-none-match") = m.conditionHeaders := by
      refine List.filter_eq_self.mpr fun h hh => ?_
      obtain ⟨tag, -, rfl⟩ := List.mem_map.mp hh
      exact decide_eq_true rfl
    simp only [Http.Request.conditions]
    rw [List.filter_append, hnone, List.nil_append, hall, conditionHeaders, List.map_map]
    rfl

/-- What is wrong with a request is not wrong with its entity-tags. -/
theorem toHttp_eq_error_iff {e : MappingError} :
    m.toHttp target = .error e ↔ (m.remove .etag).toHttp target = .error e := by
  rcases m.toHttp_cases target with ⟨e', herror, hbare⟩ | ⟨q, others, -, hbare, hok⟩
  · rw [herror, hbare]
  · rw [hok, hbare]
    exact ⟨fun h => (nomatch h), fun h => (nomatch h)⟩

end Message

/-! ### There and back -/

namespace Http

variable {t t' : String} {r r' : Http.Response} {method method' : Method}
  {resp resp' : Coap.Response} {v : Bytes}

theorem WritesOctets.isTag (h : WritesOctets t) : IsTag t := by
  intro c hc
  have hdigit := isSmallDigit_iff.mp (h.digits c hc)
  refine isTagChar_iff.mpr ⟨by omega, by omega, ?_⟩
  rintro rfl
  revert hdigit
  decide

theorem get?_etag_of_hasTag (ht : IsTag t) (htag : r.HasTag t)
    (hresp : Coap.Response.ofHttp r method = .ok resp) :
    resp.message.options.get? .etag = some [(unhex? t).getD ((Text.bytes t).take 8)] := by
  rw [Response.get?_etag_ofHttp (htag.text? ht) hresp, etag_strong ht]

/-- Octets that are written in a tag are the option for it. -/
theorem WritesOctets.toHex_eq (h : WritesOctets t) (htag : r.HasTag t)
    (hresp : Coap.Response.ofHttp r method = .ok resp)
    (hv : resp.message.options.get? .etag = some [v]) : Bytes.toHex v = t := by
  obtain ⟨octets, hlength, rfl⟩ := h.exists_octets
  have hoption := get?_etag_of_hasTag h.isTag htag hresp
  rw [unhex?_toHex hlength, Option.getD_some, hv] at hoption
  rw [(List.singleton_inj.mp (Option.some.inj hoption))]

/-- **Entity-tags.** The response for one with a strong entity-tag has one ETag option. If the tag
writes eight octets at most in small hexadecimal digits, then the next request that has this option among
its own has the same tag among its conditions, in the same place, and no other such tag comes to the same
option. A tag that cannot be read as hexadecimal digits makes do with its first eight octets. -/
theorem tags_carried (ht : IsTag t) (htag : r.HasTag t)
    (hresp : Coap.Response.ofHttp r method = .ok resp) :
    ∃ v, resp.message.options.get? .etag = some [v] ∧
      (WritesOctets t →
        (∀ (m : Message) (target : Url) (i : Nat), (m.options.valuesOf .etag)[i]? = some v →
          (∀ e, m.toHttp target = .error e ↔ (m.remove .etag).toHttp target = .error e) ∧
          ∀ q, m.toHttp target = .ok q → q.conditions[i]? = some (strong t)) ∧
        ∀ t' (r' : Http.Response) method' resp', WritesOctets t' → r'.HasTag t' →
          Coap.Response.ofHttp r' method' = .ok resp' →
          resp'.message.options.get? .etag = some [v] → t' = t) ∧
      (unhex? t = none → v = (Text.bytes t).take 8) := by
  have hoption := get?_etag_of_hasTag ht htag hresp
  refine ⟨_, hoption, fun hwrites => ?_, fun hnone => by rw [hnone, Option.getD_none]⟩
  have hback := hwrites.toHex_eq htag hresp hoption
  refine ⟨fun m target i hi => ⟨fun e => Message.toHttp_eq_error_iff, fun q hq => ?_⟩,
    fun t' r' method' resp' hwrites' htag' hresp' hoption' => ?_⟩
  · rw [Message.conditions_toHttp hq, List.getElem?_map, hi, Option.map_some, hback]
  · rw [← hback, hwrites'.toHex_eq htag' hresp' hoption']

/-- A response with a strong entity-tag and nothing else. -/
def tagged (t : String) : Http.Response := ⟨200, [("etag", Text.bytes (strong t))], []⟩

theorem hasTag_tagged (t : String) : (tagged t).HasTag t := rfl

theorem ofHttp_tagged (t : String) : ∃ resp, Coap.Response.ofHttp (tagged t) .get = .ok resp :=
  ⟨_, rfl⟩

/-- A request for a thing that has an entity-tag. -/
def revalidation (tag : Bytes) : Message := (Message.new .con .get 8 .empty).set .etag tag

/-- The tag of two octets is asked for as it was given. -/
theorem tags_carried_octets :
    let tag : Bytes := [0xAB, 0x01]
    IsTag "ab01" ∧ (tagged "ab01").HasTag "ab01" ∧ WritesOctets "ab01" ∧
      ∃ resp q, Coap.Response.ofHttp (tagged "ab01") .get = .ok resp ∧
        resp.message.options.get? .etag = some [tag] ∧
        (revalidation tag).toHttp Forwarder.httpThing = .ok q ∧
        q.conditions[0]? = some "\"ab01\"" := by
  intro tag
  have ht : IsTag "ab01" := List.all_eq_true.mp rfl
  have hwrites : WritesOctets "ab01" := ⟨List.all_eq_true.mp rfl, by decide, by decide⟩
  obtain ⟨resp, hresp⟩ := ofHttp_tagged "ab01"
  have htag := hasTag_tagged "ab01"
  obtain ⟨v, hoption, hcarried, -⟩ := tags_carried ht htag hresp
  obtain rfl : v = tag := by
    have hread := get?_etag_of_hasTag ht htag hresp
    rw [hoption] at hread
    exact (List.singleton_inj.mp (Option.some.inj hread)).trans (by decide)
  have hrequest : (revalidation tag).toHttp Forwarder.httpThing =
      .ok ⟨"GET", ⟨some "http", "1.2.3.4", "/t", none⟩, [("if-none-match", "\"ab01\"")], []⟩ := by
    decide
  exact ⟨ht, htag, hwrites, resp, _, hresp, hoption, hrequest,
    ((hcarried hwrites).1 (revalidation tag) Forwarder.httpThing 0 rfl).2 _ hrequest⟩

/-- Not all tags are carried so. Of a release only the first eight octets are left, which the next
request has in hexadecimal digits, and the next release has the same. -/
theorem tags_cut :
    (¬ ∀ (t : String) (r : Http.Response) method resp v (m : Message) (target : Url) q,
      IsTag t → r.HasTag t → Coap.Response.ofHttp r method = .ok resp →
      resp.message.options.get? .etag = some [v] → m.options.get? .etag = some [v] →
      m.toHttp target = .ok q → q.conditions = [strong t]) ∧
    ¬ ∀ (t t' : String) (r r' : Http.Response) method method' resp resp', IsTag t → IsTag t' →
      r.HasTag t → r'.HasTag t' → Coap.Response.ofHttp r method = .ok resp →
      Coap.Response.ofHttp r' method' = .ok resp' →
      resp.message.options.get? .etag = resp'.message.options.get? .etag → t = t' := by
  let tag : Bytes := Text.bytes "release-"
  have ht : IsTag "release-2024" := List.all_eq_true.mp rfl
  have ht' : IsTag "release-2025" := List.all_eq_true.mp rfl
  obtain ⟨resp, hresp⟩ := ofHttp_tagged "release-2024"
  obtain ⟨resp', hresp'⟩ := ofHttp_tagged "release-2025"
  have hoption : resp.message.options.get? .etag = some [tag] :=
    (get?_etag_of_hasTag ht (hasTag_tagged _) hresp).trans (by decide)
  have hoption' : resp'.message.options.get? .etag = some [tag] :=
    (get?_etag_of_hasTag ht' (hasTag_tagged _) hresp').trans (by decide)
  constructor
  · intro hall
    have hrequest : (revalidation tag).toHttp Forwarder.httpThing =
        .ok ⟨"GET", ⟨some "http", "1.2.3.4", "/t", none⟩,
          [("if-none-match", "\"72656c656173652d\"")], []⟩ := by
      decide
    have hsame := hall "release-2024" (tagged "release-2024") .get resp tag (revalidation tag)
      Forwarder.httpThing _ ht (hasTag_tagged _) hresp hoption rfl hrequest
    revert hsame
    decide
  · intro hall
    have hsame := hall "release-2024" "release-2025" (tagged "release-2024") (tagged "release-2025")
      .get .get resp resp' ht ht' (hasTag_tagged _) (hasTag_tagged _) hresp hresp'
      (hoption.trans hoption'.symm)
    revert hsame
    decide

end Http

end Coap
