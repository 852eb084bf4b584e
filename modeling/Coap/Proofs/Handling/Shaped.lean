import Coap.Proofs.Handling.Endings
import Coap.Proofs.Handling.Finals

/-!
# What an answer is made of

An answer that is deposited has the code, the version and the payload that it was given, and the options
that it was given, to which those are added that were stated apart from it and that it does not have.
Only its Observe option is not up to the handler.

* `Shaping.stated?` — what is stated about an option; `Shaping.get?_apply` — it is added where the
  option is not there.
* `Handling.observation?` — the Observe option of an answer.
* `Handling.respondWith_made` — all of an answer that is deposited, and that each way to answer deposits
  what the response built for it would.
-/

namespace Coap

variable {ν : Type}

/-! ### Options that are stated apart -/

namespace Shaping

/-- The values of an option that is made of the non-empty pieces of a text; without any, the option is
not there. -/
def pieceValues? (sep : Char) (text : String) : Option (List Bytes) :=
  match Text.pieces sep text with
  | [] => none
  | pieces => some (pieces.map Text.bytes)

/-- What is stated about an option. Nothing is stated by the time for which a response may be kept
anyway. -/
def stated? (s : Shaping) (n : OptionNumber) : Option (List Bytes) :=
  if n = .locationPath then s.locationPath.bind (pieceValues? '/')
  else if n = .locationQuery then s.locationQuery.bind (pieceValues? '&')
  else if n = .maxAge then if s.maxAge = 60 then none else some [OptionValue.ofUInt s.maxAge]
  else if n = .etag then s.etag.map fun tag => [tag]
  else none

/-- A message has the options of another, and if that does not have a certain one, the values given for
it. -/
def Fills (m m' : Message) (n : OptionNumber) (values? : Option (List Bytes)) : Prop :=
  ∀ k, m'.options.get? k = (m.options.get? k).or (if k = n then values? else none)

variable {m : Message} {n : OptionNumber}

theorem Fills.none (m : Message) (n : OptionNumber) : Fills m m n none := by
  intro k
  rw [ite_self, Option.or_none]

theorem Fills.of_has (h : m.has n = true) (values? : Option (List Bytes)) : Fills m m n values? := by
  obtain ⟨values, hvalues⟩ := Option.isSome_iff_exists.mp h
  intro k
  by_cases hk : k = n
  · rw [hk, hvalues, Option.some_or]
  · rw [if_neg hk, Option.or_none]

theorem get?_of_not_has (h : ¬ m.has n = true) : m.options.get? n = Option.none :=
  Option.not_isSome_iff_eq_none.mp h

theorem Fills.of_insert (h : ¬ m.has n = true) (values : List Bytes) :
    Fills m { m with options := m.options.insert n values } n (some values) := by
  intro k
  rw [OrderedMap.get?_insert]
  by_cases hk : k = n
  · rw [if_pos hk, if_pos hk, hk, get?_of_not_has h, Option.none_or]
  · rw [if_neg hk, if_neg hk, Option.or_none]

/-- To drop an option that is not there changes nothing. -/
theorem Fills.of_erase (h : ¬ m.has n = true) :
    Fills m { m with options := m.options.erase n } n Option.none := by
  intro k
  rw [OrderedMap.get?_erase, ite_self, Option.or_none]
  split
  · next hk => rw [hk, get?_of_not_has h]
  · rfl

theorem fills_addPieces (n : OptionNumber) (sep : Char) (text : Option String) (m : Message) :
    Fills m (addPieces n sep text m) n (text.bind (pieceValues? sep)) := by
  cases text with
  | none => exact .none m n
  | some text =>
    rw [addPieces]
    by_cases hhas : m.has n = true
    · rw [if_pos hhas]
      exact .of_has hhas _
    · rw [if_neg hhas, Option.bind_some, pieceValues?, Options.setSegments]
      cases Text.pieces sep text with
      | nil => exact .of_erase hhas
      | cons piece more => exact .of_insert hhas _

theorem fills_age (age : UInt32) (m : Message) :
    Fills m (if age = standardAge || m.has .maxAge then m else m.setUInt .maxAge age) .maxAge
      (if age = 60 then none else some [OptionValue.ofUInt age]) := by
  by_cases hstandard : age = 60
  · have hsame : (age = standardAge || m.has .maxAge) = true := by simp [hstandard, standardAge]
    rw [if_pos hsame, if_pos hstandard]
    exact .none m _
  · rw [if_neg hstandard]
    by_cases hhas : m.has .maxAge = true
    · rw [if_pos (by rw [hhas, Bool.or_true])]
      exact .of_has hhas _
    · rw [if_neg (by simp [hhas, standardAge, hstandard])]
      exact .of_insert hhas _

theorem fills_tag (tag : Option Bytes) (m : Message) :
    Fills m (match tag with | some tag => if m.has .etag then m else m.set .etag tag | none => m) .etag
      (tag.map fun tag => [tag]) := by
  cases tag with
  | none => exact .none m _
  | some tag =>
    by_cases hhas : m.has .etag = true
    · simp only [hhas, if_true]
      exact .of_has hhas _
    · simp only [hhas]
      exact .of_insert hhas _

/-- **Shaping.** A response keeps its options and gets those that are stated and that it does not have. -/
theorem get?_apply (s : Shaping) (m : Message) (n : OptionNumber) :
    (s.apply m).options.get? n = (m.options.get? n).or (s.stated? n) := by
  let pathed := addPieces .locationPath '/' s.locationPath m
  let queried := addPieces .locationQuery '&' s.locationQuery pathed
  have hpath := fills_addPieces .locationPath '/' s.locationPath m n
  have hquery := fills_addPieces .locationQuery '&' s.locationQuery pathed n
  have hage := fills_age s.maxAge queried n
  have htag := fills_tag s.etag (if s.maxAge = standardAge || queried.has .maxAge then queried
    else queried.setUInt .maxAge s.maxAge) n
  -- the four are about different options, so at most one of them applies
  have hstated : s.stated? n =
      (((if n = .locationPath then s.locationPath.bind (pieceValues? '/') else none).or
        (if n = .locationQuery then s.locationQuery.bind (pieceValues? '&') else none)).or
        (if n = .maxAge then if s.maxAge = 60 then none else some [OptionValue.ofUInt s.maxAge]
          else none)).or
        (if n = .etag then s.etag.map fun tag => [tag] else none) := by
    unfold stated?
    split
    · next hpath => simp +decide [hpath]
    · split
      · next hquery => simp +decide [hquery]
      · split
        · next hage => simp +decide [hage]
        · simp only [Option.none_or]
  calc (s.apply m).options.get? n
      _ = _ := htag
      _ = _ := by rw [hage, hquery, hpath, hstated]; simp only [Option.or_assoc]

end Shaping

/-! ### Answers -/

namespace Handling

variable (h : Handling ν)

/-- The Observe option of an answer. A success has the number of the last notification, if the request
asks to observe a resource that can be observed. -/
def observation? (code : Code) : Option (List Bytes) :=
  h.exchange.resource.bind fun id =>
    if h.request.observeValue? = some 0 ∧ code.cls = 2 ∧ h.site.tree.isObservable id = true then
      some [OptionValue.ofUInt (h.site.observers.sequence id)]
    else none

theorem get?_observe_settle (m : Message) :
    (h.site.observers.settle h.site.tree h.exchange h.site.now m).2.2.options.get? .observe =
      h.observation? m.code := by
  cases hresource : h.exchange.resource with
  | none =>
    rw [Observers.settle_of_resource_none hresource, observation?, hresource, Option.bind_none]
    exact m.get?_remove_self .observe
  | some id =>
    rw [observation?, hresource, Option.bind_some]
    by_cases hgrants : Observers.Grants h.site.tree h.exchange id m
    · rw [Observers.settle_of_grants hresource hgrants,
        if_pos ⟨hgrants.asked, hgrants.success, hgrants.observable⟩]
      exact m.get?_setObserve _
    · rw [if_neg fun ⟨hasked, hsuccess, hobservable⟩ => hgrants ⟨hasked, hsuccess,
        Observers.contains_of_isObservable hobservable, hobservable⟩]
      rcases Observers.settle_cases h.site.observers h.site.tree h.site.now m hresource with
        ⟨hgranted, -⟩ | ⟨e, heq⟩ | heq
      · exact absurd hgranted hgrants
      · rw [heq]
        exact m.get?_remove_self .observe
      · rw [heq]
        exact m.get?_remove_self .observe

/-- The options of an answer. -/
theorem get?_answer (r : Response) (n : OptionNumber) :
    (h.answer r).data.message.options.get? n =
      if n = .observe then h.observation? r.message.code
      else (r.message.options.get? n).or (h.shaping.stated? n) := by
  let shaped := h.shaping.apply (h.fitted r.message)
  have hfitted : (h.fitted r.message).code = r.message.code ∧
      (h.fitted r.message).options = r.message.options := by
    rw [fitted_eq]
    exact ⟨rfl, rfl⟩
  have hcode : shaped.code = r.message.code := by
    obtain ⟨options, happly⟩ := h.shaping.apply_eq (h.fitted r.message)
    show (h.shaping.apply _).code = _
    rw [happly, ← hfitted.1]
  show (h.settled r).2.options.get? n = _
  by_cases hn : n = .observe
  · rw [if_pos hn, hn, ← hcode]
    exact h.get?_observe_settle shaped
  · rw [if_neg hn, ← hfitted.2, ← Shaping.get?_apply]
    exact (Observers.sameBut_message_settle h.site.observers h.site.tree h.exchange h.site.now
      shaped).2 n hn

/-- An answer to the request that is made of a given response and of what was stated apart from it. -/
structure Made (r : Response) (d : Addressed Response) : Prop where
  code : d.data.message.code = r.message.code
  version : d.data.message.version = r.message.version
  payload : d.data.message.payload = r.message.payload
  options : ∀ n, d.data.message.options.get? n =
    if n = .observe then h.observation? r.message.code
    else (r.message.options.get? n).or (h.shaping.stated? n)
  completed : d.data.completed = r.completed
  fits : IsAnswer h.exchange.request h.exchange.session (decide (h.exchange.state = .accepted)) d

theorem made_answer {r : Response} (hcode : r.message.code.kind = .response) :
    h.Made r (h.answer r) where
  code := h.code_answer r
  version := by
    obtain ⟨options, heq⟩ := h.answer_eq r
    rw [heq, fitted_eq]
    rfl
  payload := h.payload_answer r
  options := h.get?_answer r
  completed := rfl
  fits := h.isAnswer_settled hcode

variable {h} in
/-- Each way to answer comes to the same as the response that is built for it, but for what is
reported. -/
theorem run_program_of_response (hopen : h.exchange.isComplete = false) {a : Ending} {r : Response}
    (hresponse : a.response? h.request = some r) (next : Except RespondError Unit → Program ν) :
    (a.program next).run h =
      (next (h.respondWith r).2).run ((h.respondWith r).1.reported a.reports) := by
  rw [a.run_program]
  rcases Ending.reports_eq_nil_or hresponse with hreports | hcode
  · rw [Ending.perform_of_response hreports hresponse, hreports, reported_nil]
  · have hperform : a.perform h = (h.reported a.reports).respondWith r := by
      rw [Ending.perform, hresponse]
    rw [hperform, h.respondWith_reported (hcode ▸ rfl) hopen]

/-- **Answers in full.** In an exchange that is not complete, an answer with the code of a response is
taken, and what is deposited is made of it and of what was stated apart. To answer with a code, with a
payload, with one in a given format or with a JSON value is to answer with the response that is built
from these. -/
theorem respondWith_made (h : Handling ν) (hopen : h.exchange.isComplete = false) :
    (∀ r : Response, r.message.code.kind = .response →
      (h.respondWith r).2 = .ok () ∧
      ∃ d, (h.respondWith r).1.exchange.responses = h.exchange.responses ++ [d] ∧ h.Made r d) ∧
    ∀ (a : Ending) (r : Response), a.response? h.request = some r →
      ∀ next : Except RespondError Unit → Program ν,
        (a.program next).run h =
          (next (h.respondWith r).2).run ((h.respondWith r).1.reported a.reports) := by
  refine ⟨fun r hcode => ⟨?_, h.answer r, ?_, h.made_answer hcode⟩,
    fun a r hresponse next => run_program_of_response hopen hresponse next⟩
  · obtain ⟨marker, heq⟩ := h.respondWith_of_open hcode hopen
    rw [heq]
  · exact (h.respondWith_exchange_of_open hcode hopen).1

/-- A lamp that is about to answer a request to observe it. It was stated where a new lamp stands, how
long the answer may be kept, and its entity-tag. -/
def glowing : Handling Unit where
  site :=
    { tree := .rooted ⟨{ (default : Profile) with observable := true }, fun _ => .done⟩
      observers := .none, now := 0, nonces := fun _ => default, events := [] }
  exchange :=
    { Exchange.new ⟨(Message.new .con Method.get.code 7 .empty).setObserve 0, ⟨.v4 0, 5683⟩⟩ none 0 with
      resource := some ⟨0, 0⟩ }
  shaping := ⟨some "/lamps//2", none, 10, some [1]⟩
  redelivery := .answered fun _ => none

/-- The answer of the lamp has its own Max-Age. It gets the path without its empty segments, the
entity-tag and the number of the last notification. -/
theorem respondWith_made_glowing :
    let r : Response := .ofMessage ((Message.new .non .content 0 .empty).setUInt .maxAge 99)
    glowing.exchange.isComplete = false ∧ r.message.code.kind = .response ∧
      (glowing.respondWith r).2 = .ok () ∧
      ∃ d, (glowing.respondWith r).1.exchange.responses = [d] ∧
        d.data.message.options.get? .locationPath = some [Text.bytes "lamps", Text.bytes "2"] ∧
        d.data.message.options.get? .locationQuery = none ∧
        d.data.message.options.get? .maxAge = some [[99]] ∧
        d.data.message.options.get? .etag = some [[1]] ∧
        d.data.message.options.get? .observe = some [[]] := by
  intro r
  obtain ⟨hok, d, hresponses, hmade⟩ := (respondWith_made glowing rfl).1 r rfl
  refine ⟨rfl, rfl, hok, d, hresponses, ?_⟩
  simp only [hmade.options]
  decide

end Handling

end Coap
