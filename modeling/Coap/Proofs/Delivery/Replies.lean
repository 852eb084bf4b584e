import Coap.Proofs.Delivery.Once
import Coap.Proofs.Handling.Finals
import Coap.Proofs.Tree.Paths

/-!
# Replies

A server replies to each new request, with one final message that stays in the exchange of the request.
Of other messages it rejects those that are confirmable, and it ignores the rest.

* `Server.finalDelivery` — which message a new request gets.
* `Server.replies` — which messages get a reply, and which one.
-/

namespace Coap

variable {ν : Type}

/-! ### Paths -/

theorem mapM_eq_none {α β : Type} {f : α → Option β} {values : List α} {a : α} (ha : a ∈ values)
    (hf : f a = none) : values.mapM f = none := by
  induction values with
  | nil => cases ha
  | cons first rest ih =>
    rw [List.mapM_cons]
    rcases List.mem_cons.mp ha with rfl | hrest
    · rw [hf]
      rfl
    · rw [ih hrest]
      cases f first <;> rfl

/-- A path with a segment that is no text is not looked up. -/
theorem Message.path?_eq_none {m : Message} {value : Bytes}
    (hvalue : value ∈ m.options.valuesOf .uriPath) (hutf8 : Text.ofBytes? value = none) :
    m.path? = none := mapM_eq_none hvalue hutf8

/-- What is found at a path has a handler. -/
theorem Tree.exists_handler_of_findSegments {η : Type u} {t : Tree η} {segments : List String}
    {id : ResourceId} (h : t.findSegments segments = some id) :
    ∃ handler, t.handler? id = some handler := by
  obtain ⟨-, hcontains⟩ := Option.filter_eq_some_iff.mp h
  obtain ⟨node, hnode⟩ := Tree.contains_iff.mp hcontains
  exact ⟨node.handler, by rw [handler?, hnode]; rfl⟩

/-- A final message is for the sender of its request. -/
theorem IsFinal.addr {m : Addressed Message} {session : Option Session} {announced rejected : Bool}
    {r : Addressed Response} (final : IsFinal m session announced rejected r) : r.addr = m.addr := by
  cases rejected with
  | true =>
    obtain rfl : r = refusal m session := final
    rfl
  | false => exact IsAnswer.addr final

namespace Server

variable (s : Server ν) (m : Addressed Message) (session : Option Session)

/-! ### New requests -/

/-- The final message of a new request is the one that its resource gave. If the resource gave none, it
is 5.00, and if there is no resource it is 4.04. -/
theorem finalDelivery (hnew : s.dedup.find? (.ofId m) = none) (hrequest : m.data.isRequest = true) :
    ∃ e final, s.FirstDelivery m session (s.deliver m session).1 (s.deliver m session).2 e final ∧
      IsFinal m session (s.announces m session) (decide (e.state = .rejected)) final ∧
      match (s.handling m session).assigned? with
      | none => e.state = .responded ∧ final.data.message.code = .notFound
      | some (id, resource) =>
        match (resource.handler m).final? ((s.handling m session).entered id) with
        | some first => final = first
        | none => e.state = .responded ∧ final.data.message.code = .internalServerError := by
  obtain ⟨-, final, first⟩ := s.deliver_of_new m session hnew hrequest
  obtain ⟨given, hresponses, hfinal, hgiven⟩ := (s.sound_handling m session).final_dispatch rfl
  obtain rfl := first.eq_final hresponses
  rw [first.request, first.inSession] at hfinal
  exact ⟨_, given, first, hfinal, hgiven⟩

/-- The resource for a request is found at the path of the request. -/
theorem assigned?_handling {segments : List String} {id : ResourceId} {resource : Resource ν}
    (hpath : m.data.path? = some segments) (hfound : s.site.tree.findSegments segments = some id)
    (hhandler : s.site.tree.handler? id = some resource) :
    (s.handling m session).assigned? = some (id, resource) := by
  have htarget : (s.handling m session).target? = some id := by
    show m.data.path?.bind s.site.tree.findSegments = _
    rw [hpath]
    exact hfound
  rw [Handling.assigned?, htarget]
  show (s.site.tree.handler? id).map _ = _
  rw [hhandler]
  rfl

theorem assigned?_handling_eq_none
    (hpath : ∀ segments, m.data.path? = some segments → s.site.tree.findSegments segments = none) :
    (s.handling m session).assigned? = none := by
  have htarget : (s.handling m session).target? = none := Option.bind_eq_none_iff.mpr hpath
  rw [Handling.assigned?, htarget]
  rfl

/-! ### All messages -/

/-- **Replies.** Acknowledgements and resets are ignored, and so are non-confirmable messages that are
no requests. Confirmable messages that are no requests are rejected. None of them leaves a trace. A new
request is retained with its exchange, and the final message of the exchange is the reply. If there is
no resource at its path, it is 4.04. Otherwise it is the first final message that the handler of the
resource gives, and if there is none it is 5.00. -/
theorem replies :
    (m.data.type = .ack ∨ m.data.type = .rst → s.deliver m session = (s, none)) ∧
    (m.data.code.kind ≠ .request →
      (m.data.type = .con → s.deliver m session =
        (s, some ⟨⟨.new .rst .empty m.data.id .empty, session, none⟩, m.addr⟩)) ∧
      (m.data.type = .non → s.deliver m session = (s, none))) ∧
    (m.data.code.kind = .request → m.data.type = .con ∨ m.data.type = .non →
      s.dedup.find? (.ofId m) = none →
      ∃ e final, s.FirstDelivery m session (s.deliver m session).1 (s.deliver m session).2 e final ∧
        final.addr = m.addr ∧
        ((∃ value ∈ m.data.options.valuesOf .uriPath, Text.ofBytes? value = none) ∨
            (∃ segments, m.data.path? = some segments ∧ s.site.tree.findSegments segments = none) →
          IsAnswer m session false final ∧ final.data.message.code = .notFound) ∧
        ∀ segments id, m.data.path? = some segments → s.site.tree.findSegments segments = some id →
          ∃ resource, s.site.tree.handler? id = some resource ∧
            match (resource.handler m).final? ((s.handling m session).entered id) with
            | some first => final = first
            | none =>
              IsAnswer m session (s.announces m session) final ∧
                final.data.message.code = .internalServerError) := by
  refine ⟨fun htype => ?_, fun hkind => ⟨fun htype => ?_, fun htype => ?_⟩, fun hkind htype hnew => ?_⟩
  · rcases htype with htype | htype <;> simp only [deliver, htype]
  · cases hcode : m.data.code.kind with
    | request => exact absurd hcode hkind
    | _ =>
      simp only [deliver, htype, hcode]
      rfl
  · cases hcode : m.data.code.kind with
    | request => exact absurd hcode hkind
    | _ => simp only [deliver, htype, hcode]
  · have hrequest : m.data.isRequest = true := by
      rcases htype with htype | htype <;>
        simp [Message.isRequest, htype, hkind, MessageType.isReply]
    obtain ⟨e, final, first, hfinal, hgiven⟩ := s.finalDelivery m session hnew hrequest
    have hanswer (hresponded : e.state = .responded) :
        IsAnswer m session (s.announces m session) final := by
      rw [hresponded] at hfinal
      exact hfinal
    refine ⟨e, final, first, hfinal.addr, fun hmissing => ?_, fun segments id hpath hfound => ?_⟩
    · have hnone : (s.handling m session).assigned? = none := by
        apply s.assigned?_handling_eq_none m session
        intro segments hpath
        rcases hmissing with ⟨value, hvalue, hutf8⟩ | ⟨segments', hpath', hfound⟩
        · rw [Message.path?_eq_none hvalue hutf8] at hpath
          cases hpath
        · rw [hpath] at hpath'
          rw [Option.some.inj hpath']
          exact hfound
      rw [hnone] at hgiven
      have hannounces : s.announces m session = false := by
        rw [announces, Handling.announces, hnone]
      rw [hannounces] at hanswer
      exact ⟨hanswer hgiven.1, hgiven.2⟩
    · obtain ⟨resource, hhandler⟩ := Tree.exists_handler_of_findSegments hfound
      refine ⟨resource, hhandler, ?_⟩
      rw [s.assigned?_handling m session hpath hfound hhandler] at hgiven
      dsimp only at hgiven
      cases hprogram : (resource.handler m).final? ((s.handling m session).entered id) with
      | some given =>
        rw [hprogram] at hgiven
        exact hgiven
      | none =>
        rw [hprogram] at hgiven
        exact ⟨hanswer hgiven.1, hgiven.2⟩

/-! ### Replies of the patient server -/

/-- The question is answered by the handler of the root, and the repetition asks for a resource that is
not there. An empty confirmable message is rejected, and responses are ignored. -/
theorem replies_patient :
    (∃ final, (patient.deliver question none).2 = some final ∧
      final.data.message.code = .content) ∧
    (∃ final, (patient.deliver repetition none).2 = some final ∧
      final.data.message.code = .notFound) ∧
    patient.deliver ⟨.new .con .empty 7 .empty, ⟨.v4 0, 5683⟩⟩ none =
      (patient, some ⟨⟨.new .rst .empty 7 .empty, none, none⟩, ⟨.v4 0, 5683⟩⟩) ∧
    patient.deliver ⟨.new .non .content 7 .empty, ⟨.v4 0, 5683⟩⟩ none = (patient, none) ∧
    patient.deliver ⟨.new .ack .content 7 .empty, ⟨.v4 0, 5683⟩⟩ none = (patient, none) := by
  refine ⟨?_, ?_, ?_, ?_, ?_⟩
  · obtain ⟨-, -, hnew⟩ := replies patient question none
    obtain ⟨e, final, first, -, -, hfound⟩ := hnew rfl (.inl rfl) rfl
    obtain ⟨resource, hhandler, hfinal⟩ := hfound [] ⟨0, 0⟩ rfl (by decide)
    obtain rfl := Option.some.inj hhandler
    refine ⟨final, first.reply, ?_⟩
    rw [show final = _ from hfinal]
    exact Handling.code_answer _ _
  · obtain ⟨-, -, hnew⟩ := replies patient repetition none
    obtain ⟨e, final, first, -, hmissing, -⟩ := hnew rfl (.inr rfl) rfl
    exact ⟨final, first.reply, (hmissing (.inr ⟨["lamp"], by decide +kernel, by decide +kernel⟩)).2⟩
  · exact ((replies patient _ none).2.1 (by decide)).1 rfl
  · exact ((replies patient _ none).2.1 (by decide)).2 rfl
  · exact (replies patient _ none).1 (.inl rfl)

end Server

end Coap
