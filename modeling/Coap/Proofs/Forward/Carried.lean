import Coap.Proofs.Forward.MediaTypes
import Coap.Proofs.Forward.Tags
import Coap.Proofs.Handling.Deposits
import Coap.Proofs.Wire.Refusals
import Coap.Proofs.Wire.RoundTrip
import Coap.Proofs.Wire.Values

/-!
# Responses from HTTP

Every response from HTTP whose status has a response code becomes a message that can be given as an answer
and written as a datagram. The message carries the body, in the format of the media type that the response
names. A media type without a format makes it an error without a payload, whatever the status was.

* `Http.HasCode`, `Http.classOf` — the statuses that have a response code, and its class.
* `Http.Response.Unheard` — a body in a media type that has no format.
* `Http.Carried` — what becomes of a response, shown of all of them in `Http.response_carried`.
-/

namespace Coap

/-! ### Statuses -/

namespace Http

/-- Is there a response code for a status? -/
def HasCode (status : Nat) : Prop :=
  status = 304 ∨ 200 ≤ status ∧ status ≤ 299 ∨ 400 ≤ status ∧ status ≤ 599

instance (status : Nat) : Decidable (HasCode status) := inferInstanceAs (Decidable (_ ∨ _))

/-- The class of the response code for a status. -/
def classOf (status : Nat) : Nat := if status = 304 then 2 else status / 100

end Http

namespace Method

open Http

/-- A status has a response code of its class, or it is reported. -/
theorem codeOfStatus_cases (method : Method) (status : Nat) :
    (HasCode status ∧ ∃ code, method.codeOfStatus status = .ok code ∧
      code.cls.toNat = classOf status ∧ code.detail < 32) ∨
    (¬ HasCode status ∧ method.codeOfStatus status = .error (.unsupportedStatus status)) := by
  unfold codeOfStatus
  split
  case h_1 => exact .inl ⟨by decide, _, rfl, by split <;> decide⟩
  case h_3 => exact .inl ⟨by decide, _, rfl, by split <;> decide⟩
  case h_18 =>
    -- the statuses without an entry, of which 304 is none
    have hother : status ≠ 304 := by assumption
    rw [classOf, if_neg hother]
    split
    · next hclass =>
      refine .inl ⟨.inr (.inl (by omega)), .content, rfl, ?_, by decide⟩
      rw [hclass]
      rfl
    · next hclass =>
      refine .inl ⟨.inr (.inr (by omega)), .badRequest, rfl, ?_, by decide⟩
      rw [hclass]
      rfl
    · next hclass =>
      refine .inl ⟨.inr (.inr (by omega)), .internalServerError, rfl, ?_, by decide⟩
      rw [hclass]
      rfl
    · next htwo hfour hfive =>
      have hclass : status / 100 ≠ 2 ∧ status / 100 ≠ 4 ∧ status / 100 ≠ 5 := ⟨htwo, hfour, hfive⟩
      refine .inr ⟨?_, rfl⟩
      unfold HasCode
      omega
  all_goals exact .inl ⟨by decide, _, rfl, by decide⟩

end Method

/-- The codes of the classes 2 to 5 are those of responses. -/
theorem Code.kind_eq_response {c : Code} (h : 2 ≤ c.cls.toNat ∧ c.cls.toNat ≤ 5) : c.kind = .response := by
  have hclass : 2 ≤ c.cls ∧ c.cls ≤ 5 := h
  have hzero : c.cls ≠ 0 := by
    intro hzero
    rw [hzero] at h
    exact absurd h (by decide)
  rw [kind, if_neg hzero, if_pos hclass]

/-- A message of version 1 with a few short options can be written and read back. -/
theorem Message.exists_encode_of_single {m : Message} (hversion : m.version = 1) (hcode : m.code.Fits)
    (hoptions : m.options.Single) : ∃ bytes, m.encode = .ok bytes ∧ decode bytes = .ok m := by
  obtain ⟨bytes, hbytes⟩ := exists_encode_of_writable hoptions.writable
  refine ⟨bytes, hbytes, decode_of_fits ⟨?_, hcode, hoptions.hasValues⟩ hbytes⟩
  rw [hversion]
  decide

/-! ### What a response carries -/

namespace Http

variable {r : Response} {m : Message} {code : Code} {field : String}

/-- Is there a body in a media type that has no format? -/
def Response.Unheard (r : Response) : Prop :=
  r.body ≠ [] ∧ ∃ field, r.text? "content-type" = some field ∧
    (∀ number, ¬ Named field number) ∧ ¬ Textual field

/-- What becomes of a response from HTTP. -/
structure Carried (r : Response) (resp : Coap.Response) : Prop where
  /-- Its code is that of a response. -/
  response : resp.message.code.kind = .response
  /-- It can be given as an answer. -/
  answers : ∀ {ν : Type} (h : Handling ν), (h.respondWith resp).2 =
    if h.exchange.isComplete then .error .alreadyResponded else .ok ()
  /-- It can be written and read back, with any type, id and token. -/
  written : ∀ type id token, ∃ bytes, { resp.message with type, id, token }.encode = .ok bytes ∧
    Message.decode bytes = .ok { resp.message with type, id, token }
  /-- What has no format is an error without a payload. -/
  unheard : r.Unheard → resp.message.code = .unsupportedContentFormat ∧ resp.message.payload = [] ∧
    resp.message.options.get? .contentFormat = none
  /-- Otherwise the code is of the class of the status. -/
  cls : ¬ r.Unheard → resp.message.code.cls.toNat = classOf r.status
  /-- Otherwise the payload is the body. -/
  payload : ¬ r.Unheard → resp.message.payload = r.body
  /-- A body has the format of its media type, whose number is written without zeros in front. -/
  format : ¬ r.Unheard → r.body ≠ [] → ∀ field, r.text? "content-type" = some field →
    (∃ number, HasFormat field number) ∧ ∀ number, HasFormat field number →
      ∃ value, resp.message.options.get? .contentFormat = some [value] ∧
        OptionValue.toNat value = number ∧ value.head? ≠ some 0
  /-- There is no format if there is no body, or no media type. -/
  unstated : r.body = [] ∨ r.text? "content-type" = none →
    resp.message.options.get? .contentFormat = none
  /-- There is an entity-tag exactly if the response has one that can be read. -/
  tagged : resp.message.options.get? .etag = none ↔ r.text? "etag" = none
  /-- It is one of eight octets at most. -/
  tag : ∀ values, resp.message.options.get? .etag = some values →
    ∃ tag : Bytes, values = [tag] ∧ tag.length ≤ 8

/-! ### The body -/

theorem withBody_of_unheard (m : Message) (h : r.Unheard) :
    withBody m r = { m with code := .unsupportedContentFormat } := by
  obtain ⟨hbody, field, hfield, hnone⟩ := h
  have hempty : r.body.isEmpty = false := by simpa using hbody
  simp [withBody, hfield, hempty, formatOf?_eq_none_iff.mpr hnone]

theorem withBody_of_hasFormat (m : Message) (hbody : r.body ≠ [])
    (hfield : r.text? "content-type" = some field) {number : Nat} (hformat : HasFormat field number) :
    ∃ f : ContentFormat, f.number.toNat = number ∧
      withBody m r = { m.setContentFormat f with payload := r.body } := by
  have hempty : r.body.isEmpty = false := by simpa using hbody
  obtain ⟨f, hread, hnumber⟩ := hasFormat_iff.mp hformat
  exact ⟨f, hnumber, by simp [withBody, hfield, hempty, hread]⟩

theorem withBody_of_unstated (hpayload : m.payload = [])
    (h : r.body = [] ∨ r.text? "content-type" = none) : withBody m r = { m with payload := r.body } := by
  unfold withBody
  cases hfield : r.text? "content-type" with
  | none => rfl
  | some field =>
    have hbody := h.resolve_right (by simp [hfield])
    simp [hbody, ← hpayload]

/-- The body of a response is stated to be of a format, or is in a media type without one, or there is no
body or no media type. -/
theorem body_cases (r : Response) :
    r.Unheard ∨
      (∃ field number, r.body ≠ [] ∧ r.text? "content-type" = some field ∧ HasFormat field number) ∨
      (r.body = [] ∨ r.text? "content-type" = none) := by
  by_cases hbody : r.body = []
  · exact .inr (.inr (.inl hbody))
  · cases hfield : r.text? "content-type" with
    | none => exact .inr (.inr (.inr rfl))
    | some field =>
      cases hformat : formatOf? field with
      | none => exact .inl ⟨hbody, field, hfield, formatOf?_eq_none_iff.mp hformat⟩
      | some f => exact .inr (.inl ⟨field, _, hbody, rfl, hasFormat_iff.mpr ⟨f, hformat, rfl⟩⟩)

/-- A body that is not of an unknown media type is carried, and the code is left as it is. -/
theorem withBody_of_heard (m : Message) (hpayload : m.payload = []) (h : ¬ r.Unheard) :
    (withBody m r).code = m.code ∧ (withBody m r).payload = r.body := by
  rcases body_cases r with hunheard | ⟨field, number, hbody, hfield, hformat⟩ | hunstated
  · exact absurd hunheard h
  · obtain ⟨f, -, heq⟩ := withBody_of_hasFormat m hbody hfield hformat
    rw [heq]
    exact ⟨rfl, rfl⟩
  · rw [withBody_of_unstated hpayload hunstated]
    exact ⟨rfl, rfl⟩

theorem get?_withBody_of_ne (m : Message) (r : Response) {n : OptionNumber} (hn : n ≠ .contentFormat) :
    (withBody m r).options.get? n = m.options.get? n := by
  have hformat (f : ContentFormat) : (m.setContentFormat f).options.get? n = m.options.get? n :=
    (m.sameBut_set .contentFormat _).2 n hn
  unfold withBody
  repeat' split
  · rfl
  · exact hformat _
  · rfl
  · rfl

theorem single_withBody (h : m.options.Single) (r : Response) : (withBody m r).options.Single := by
  have hformat (f : ContentFormat) : (m.setContentFormat f).options.Single :=
    h.set (by decide) (Nat.le_trans (OptionValue.length_ofUInt _) (by decide))
  unfold withBody
  repeat' split
  · exact h
  · exact hformat _
  · exact h
  · exact h

/-! ### Age and entity-tag -/

/-- A message with the age that a response may be kept. -/
def withAge (m : Message) (r : Response) : Message :=
  match (r.text? "cache-control").bind maxAge? with
  | some age => m.setUInt .maxAge age
  | none => m

/-- A message with the entity-tag of a response. -/
def withTag (m : Message) (r : Response) : Message :=
  match r.text? "etag" with
  | some tag => m.set .etag (etag tag)
  | none => m

theorem sameBut_withAge (m : Message) (r : Response) : m.SameBut (withAge m r) .maxAge := by
  unfold withAge
  split
  · exact m.sameBut_set .maxAge _
  · exact ⟨rfl, fun _ _ => rfl⟩

theorem sameBut_withTag (m : Message) (r : Response) : m.SameBut (withTag m r) .etag := by
  unfold withTag
  split
  · exact m.sameBut_set .etag _
  · exact ⟨rfl, fun _ _ => rfl⟩

theorem single_withAge (h : m.options.Single) (r : Response) : (withAge m r).options.Single := by
  unfold withAge
  split
  · exact h.set (by decide) (Nat.le_trans (OptionValue.length_ofUInt _) (by decide))
  · exact h

theorem single_withTag (h : m.options.Single) (r : Response) : (withTag m r).options.Single := by
  unfold withTag
  split
  · exact h.set (by decide) (Nat.le_trans (length_etag _) (by decide))
  · exact h

/-! ### The message -/

/-- The message for a response. -/
def Response.toMessage (r : Response) (code : Code) : Message :=
  withTag (withAge (withBody (.new .ack code 0 .empty) r) r) r

theorem ofHttp_eq (r : Response) (method : Method) :
    Coap.Response.ofHttp r method =
      (method.codeOfStatus r.status).map fun code => .ofMessage (r.toMessage code) := by
  unfold Coap.Response.ofHttp
  cases method.codeOfStatus r.status <;> rfl

theorem single_toMessage (r : Response) (code : Code) : (r.toMessage code).options.Single :=
  single_withTag (single_withAge (single_withBody Options.single_empty r) r) r

/-- Age and entity-tag are options of their own. -/
theorem toMessage_eq (r : Response) (code : Code) :
    r.toMessage code =
      { withBody (.new .ack code 0 .empty) r with options := (r.toMessage code).options } := by
  have hage := (sameBut_withAge (withBody (.new .ack code 0 .empty) r) r).1
  have htag := (sameBut_withTag (withAge (withBody (.new .ack code 0 .empty) r) r) r).1
  rw [Response.toMessage, htag, hage]

theorem get?_contentFormat_toMessage (r : Response) (code : Code) :
    (r.toMessage code).options.get? .contentFormat =
      (withBody (.new .ack code 0 .empty) r).options.get? .contentFormat := by
  rw [Response.toMessage, (sameBut_withTag _ r).2 _ (by decide), (sameBut_withAge _ r).2 _ (by decide)]

theorem get?_etag_toMessage (r : Response) (code : Code) :
    (r.toMessage code).options.get? .etag = (r.text? "etag").map fun tag => [etag tag] := by
  rw [Response.toMessage, withTag]
  cases r.text? "etag" with
  | some tag => exact Message.get?_set_self _ .etag _
  | none =>
    rw [(sameBut_withAge _ r).2 _ (by decide), get?_withBody_of_ne _ r (by decide)]
    rfl

theorem toMessage_of_heard (code : Code) (h : ¬ r.Unheard) :
    (r.toMessage code).code = code ∧ (r.toMessage code).payload = r.body := by
  rw [toMessage_eq]
  exact withBody_of_heard (.new .ack code 0 .empty) rfl h

theorem toMessage_of_unheard (code : Code) (h : r.Unheard) :
    (r.toMessage code).code = .unsupportedContentFormat ∧ (r.toMessage code).payload = [] := by
  rw [toMessage_eq, withBody_of_unheard _ h]
  exact ⟨rfl, rfl⟩

/-- The code of the message is that of the status, or says that the format is not supported. -/
theorem code_toMessage (r : Response) (code : Code) :
    (r.toMessage code).code = code ∨ (r.toMessage code).code = .unsupportedContentFormat := by
  by_cases h : r.Unheard
  · exact .inr (toMessage_of_unheard code h).1
  · exact .inl (toMessage_of_heard code h).1

theorem kind_toMessage (r : Response) (hcls : 2 ≤ code.cls.toNat ∧ code.cls.toNat ≤ 5) :
    (r.toMessage code).code.kind = .response := by
  rcases code_toMessage r code with hcode | hcode <;> rw [hcode]
  · exact Code.kind_eq_response hcls
  · rfl

theorem fits_toMessage (r : Response) (hcls : code.cls.toNat ≤ 5) (hdetail : code.detail < 32) :
    (r.toMessage code).code.Fits := by
  rcases code_toMessage r code with hcode | hcode <;> rw [hcode]
  · exact ⟨UInt8.lt_iff_toNat_lt.mpr (Nat.lt_of_le_of_lt hcls (by decide)), hdetail⟩
  · decide

theorem version_toMessage (r : Response) (code : Code) : (r.toMessage code).version = 1 := by
  rw [toMessage_eq]
  dsimp only
  unfold withBody
  repeat' split
  all_goals rfl

/-- What a message for a response carries, if its code was that of the status. -/
theorem carried_toMessage (hcls : 2 ≤ code.cls.toNat ∧ code.cls.toNat ≤ 5)
    (hclass : code.cls.toNat = classOf r.status) (hdetail : code.detail < 32) :
    Carried r (.ofMessage (r.toMessage code)) where
  response := kind_toMessage r hcls
  answers h := by
    have hkind : (Response.ofMessage (r.toMessage code)).message.code.kind = .response :=
      kind_toMessage r hcls
    cases hcomplete : h.exchange.isComplete with
    | true =>
      obtain ⟨text, heq⟩ := h.respondWith_of_isComplete hkind hcomplete
      rw [heq]
      rfl
    | false =>
      obtain ⟨marker, heq⟩ := h.respondWith_of_open hkind hcomplete
      rw [heq]
      rfl
  written _ _ _ := Message.exists_encode_of_single (version_toMessage r code)
    (fits_toMessage r hcls.2 hdetail) (single_toMessage r code)
  unheard h := by
    obtain ⟨hcode, hpayload⟩ := toMessage_of_unheard code h
    refine ⟨hcode, hpayload, ?_⟩
    show (r.toMessage code).options.get? _ = _
    rw [get?_contentFormat_toMessage, withBody_of_unheard _ h]
    rfl
  cls h := by
    rw [← hclass]
    exact congrArg (·.cls.toNat) (toMessage_of_heard code h).1
  payload h := (toMessage_of_heard code h).2
  format h hbody field hfield := by
    rcases body_cases r with hunheard | ⟨_, number, -, hfield', hformat⟩ | hunstated
    · exact absurd hunheard h
    · obtain rfl := Option.some.inj (hfield.symm.trans hfield')
      refine ⟨⟨number, hformat⟩, fun other hother => ?_⟩
      obtain ⟨f, hnumber, heq⟩ :=
        withBody_of_hasFormat (.new .ack code 0 .empty) hbody hfield hother
      refine ⟨OptionValue.ofUInt f.number.toUInt32, ?_, ?_, OptionValue.head?_dropWhile_ne _⟩
      · show (r.toMessage code).options.get? _ = _
        rw [get?_contentFormat_toMessage, heq]
        exact Message.get?_set_self _ .contentFormat _
      · rw [OptionValue.toNat_ofUInt, ← hnumber]
        rfl
    · rcases hunstated with hunstated | hunstated
      · exact absurd hunstated hbody
      · cases hfield.symm.trans hunstated
  unstated h := by
    show (r.toMessage code).options.get? _ = _
    rw [get?_contentFormat_toMessage, withBody_of_unstated rfl h]
    rfl
  tagged := by
    show (r.toMessage code).options.get? _ = _ ↔ _
    rw [get?_etag_toMessage, Option.map_eq_none_iff]
  tag values hvalues := by
    obtain ⟨tag, -, rfl⟩ := Option.map_eq_some_iff.mp ((get?_etag_toMessage r code).symm.trans hvalues)
    exact ⟨_, rfl, length_etag tag⟩

/-- **Responses.** A response from HTTP is refused exactly if its status has no response code, for that
reason, and carried otherwise. -/
theorem response_carried (r : Response) (method : Method) :
    (∀ e, Coap.Response.ofHttp r method = .error e ↔
      ¬ HasCode r.status ∧ e = .unsupportedStatus r.status) ∧
    (HasCode r.status → ∃ resp, Coap.Response.ofHttp r method = .ok resp ∧ Carried r resp) := by
  rw [ofHttp_eq]
  rcases method.codeOfStatus_cases r.status with ⟨hcode, code, heq, hclass, hdetail⟩ | ⟨hnone, heq⟩
  · have hcls : 2 ≤ code.cls.toNat ∧ code.cls.toNat ≤ 5 := by
      rw [hclass, classOf]
      unfold HasCode at hcode
      split <;> omega
    rw [heq]
    exact ⟨fun e => ⟨nofun, fun h => absurd hcode h.1⟩,
      fun _ => ⟨_, rfl, carried_toMessage hcls hclass hdetail⟩⟩
  · rw [heq]
    refine ⟨fun e => ?_, fun hcode => absurd hcode hnone⟩
    simp [Except.map, hnone, eq_comm]

/-! ### Pages, pictures and numbers -/

/-- A field of visible octets is read as the text that they are. -/
theorem text?_of_find? {name key text : String}
    (hfield : (r.headers.find? fun h => h.1 = name) = some (key, Text.bytes text))
    (hvisible : (Text.bytes text).all isVisible = true) : r.text? name = some text := by
  rw [Response.text?, hfield]
  dsimp only
  rw [if_pos hvisible, Text.ofBytes?_eq_some_iff]

/-- A page that says what was not found. -/
def missingPage : Response :=
  ⟨404, [("content-type", Text.bytes "Text/HTML; charset=utf-8")], Text.bytes "no"⟩

/-- A picture. -/
def picture : Response := ⟨200, [("content-type", Text.bytes "IMAGE/PNG")], [0x89, 0x50]⟩

/-- A list of numbers. -/
def numbers : Response :=
  ⟨200, [("content-type", Text.bytes " Application/JSON ;v=1")], Text.bytes "[1,2]"⟩

theorem text?_missingPage : missingPage.text? "content-type" = some "Text/HTML; charset=utf-8" :=
  text?_of_find? rfl (by decide)

theorem text?_numbers : numbers.text? "content-type" = some " Application/JSON ;v=1" :=
  text?_of_find? rfl (by decide)

/-- HTML is a kind of text that has no format of its own. -/
theorem hasFormat_missingPage : HasFormat "Text/HTML; charset=utf-8" 0 :=
  hasFormat_iff.mpr ⟨.text, by decide, rfl⟩

theorem hasFormat_numbers : HasFormat " Application/JSON ;v=1" 50 :=
  .inl ⟨"application/json", .json, names_iff.mpr (by decide)⟩

theorem unheard_picture : picture.Unheard :=
  ⟨by decide, "IMAGE/PNG", text?_of_find? rfl (by decide),
    formatOf?_eq_none_iff.mp (by decide)⟩

/-- A body whose media type has a format is not in one that has none. -/
theorem not_unheard_of_hasFormat {number : Nat} (hfield : r.text? "content-type" = some field)
    (hformat : HasFormat field number) : ¬ r.Unheard := by
  rintro ⟨-, other, hother, hnone⟩
  obtain rfl := Option.some.inj (hfield.symm.trans hother)
  obtain ⟨f, hread, -⟩ := hasFormat_iff.mp hformat
  cases (formatOf?_eq_none_iff.mpr hnone).symm.trans hread

/-- The page stays an error with its text, the picture becomes one, and the numbers are carried in their
format. -/
theorem response_carried_page :
    (∃ resp, Coap.Response.ofHttp missingPage .get = .ok resp ∧ resp.message.code.cls = 4 ∧
      resp.message.payload = Text.bytes "no" ∧
      resp.message.options.get? .contentFormat = some [[]]) ∧
    (∃ resp, Coap.Response.ofHttp picture .get = .ok resp ∧
      resp.message.code = .unsupportedContentFormat ∧ resp.message.payload = []) ∧
    (∃ resp, Coap.Response.ofHttp numbers .get = .ok resp ∧ resp.message.code.cls = 2 ∧
      resp.message.payload = Text.bytes "[1,2]" ∧
      resp.message.options.get? .contentFormat = some [[50]]) ∧
    Coap.Response.ofHttp ⟨301, [], []⟩ .get = .error (.unsupportedStatus 301) := by
  have hpage := not_unheard_of_hasFormat text?_missingPage hasFormat_missingPage
  have hnumbers := not_unheard_of_hasFormat text?_numbers hasFormat_numbers
  refine ⟨?_, ?_, ?_, ?_⟩
  · obtain ⟨page, hread, hcarried⟩ := (response_carried missingPage .get).2 (by decide)
    obtain ⟨-, hformat⟩ := hcarried.format hpage (by decide) _ text?_missingPage
    obtain ⟨value, hvalue, hzero, hshort⟩ := hformat 0 hasFormat_missingPage
    obtain rfl : value = [] := OptionValue.eq_of_toNat_eq hshort (by decide) (hzero.trans rfl)
    exact ⟨page, hread, UInt8.toNat_inj.mp (hcarried.cls hpage), hcarried.payload hpage, hvalue⟩
  · obtain ⟨image, hread, hcarried⟩ := (response_carried picture .get).2 (by decide)
    obtain ⟨hcode, hpayload, -⟩ := hcarried.unheard unheard_picture
    exact ⟨image, hread, hcode, hpayload⟩
  · obtain ⟨list, hread, hcarried⟩ := (response_carried numbers .get).2 (by decide)
    obtain ⟨-, hformat⟩ := hcarried.format hnumbers (by decide) _ text?_numbers
    obtain ⟨value, hvalue, hfifty, hshort⟩ := hformat 50 hasFormat_numbers
    obtain rfl : value = [50] := OptionValue.eq_of_toNat_eq hshort (by decide) (hfifty.trans rfl)
    exact ⟨list, hread, UInt8.toNat_inj.mp (hcarried.cls hnumbers), hcarried.payload hnumbers, hvalue⟩
  · exact ((response_carried ⟨301, [], []⟩ .get).1 _).mpr ⟨by decide, rfl⟩

end Http

end Coap
