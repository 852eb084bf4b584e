import Coap.Proofs.Delivery.Once
import Coap.Proofs.Handling.Answers
import Coap.Server.Receive

/-!
# Acknowledgements

A confirmable request asks for one message that settles it: an acknowledgement or a reset with its id.
It gets exactly one, unless its handler accepts it and then rejects it.

* `Site.sent` — the messages sent so far; `Handling.invariant_sent` — they are those that announce a
  separate response.
* `Server.leaving` — all the messages that leave a server for one that arrives.
* `Server.leaving_of_new` — for a request under a new key these are its announcement, if its handler
  makes one, and its final message.
* `Server.settled_once` — how many of them settle the request.
-/

namespace Coap

variable {ν : Type}

/-! ### Messages sent -/

namespace Site

/-- The messages sent so far, oldest first. -/
def sent (s : Site ν) : List (Addressed Message) := s.events.filterMap Event.sent?

theorem sent_record (s : Site ν) (e : Event ν) : (s.record e).sent = s.sent ++ e.sent?.toList := by
  rw [sent, record, List.filterMap_append]
  cases h : e.sent? <;> simp [h, sent]

theorem sent_record_of_none (s : Site ν) {e : Event ν} (h : e.sent? = none) :
    (s.record e).sent = s.sent := by
  rw [sent_record, h, Option.toList_none, List.append_nil]

/-- Requests to origins are no messages to clients. -/
theorem sent_hops (hops : List Hop) :
    (hops.map (Event.hop (ν := ν))).filterMap Event.sent? = [] := by
  rw [List.filterMap_eq_nil_iff]
  intro e he
  obtain ⟨hop, -, rfl⟩ := List.mem_map.mp he
  rfl

theorem sent_replay (s : Site ν) (e : Exchange) (wait : Duration) :
    (s.replay e wait).1.sent = s.sent := by
  unfold replay
  cases e.first? with
  | some first => rfl
  | none => exact sent_record_of_none _ rfl

/-- What was sent since is what was sent in addition. -/
theorem sent_since {s s' : Site ν} {more : List (Event ν)} (hevents : s'.events = s.events ++ more)
    {messages : List (Addressed Message)} (hsent : s'.sent = s.sent ++ messages) :
    (s'.events.drop s.events.length).filterMap Event.sent? = messages := by
  rw [hevents, List.drop_left]
  rw [sent, hevents, List.filterMap_append] at hsent
  exact List.append_cancel_left hsent

end Site

namespace Handling

variable (h : Handling ν)

/-- Only the call that announces a separate response sends something. -/
theorem sent_perform {c : Call ν} (hc : c ≠ .accept) :
    (h.perform c).1.site.sent = h.site.sent := by
  cases c with
  | accept => exact absurd rfl hc
  | reject =>
    show h.reject.1.site.sent = _
    simp only [reject]
    split
    · rfl
    · exact Site.sent_record_of_none _ rfl
  | respond r =>
    show (h.respondWith r).1.site.sent = _
    simp only [respondWith]
    split
    · exact Site.sent_record_of_none _ rfl
    · split
      · exact Site.sent_record_of_none _ rfl
      · rfl
  | redeliver =>
    show h.redeliver.1.site.sent = _
    unfold redeliver
    split
    · rfl
    · exact h.site.sent_replay h.exchange _
  | forward f request =>
    show (h.site.events ++ _).filterMap Event.sent? = _
    rw [List.filterMap_append, Site.sent_hops, List.append_nil]
    rfl
  | report severity text => exact Site.sent_record_of_none _ rfl
  | note n => exact Site.sent_record_of_none _ rfl
  | _ => rfl

/-- The call to accept sends what it deposits. -/
theorem sent_accept :
    h.accept.site.sent = h.site.sent ++
      if h.exchange.state = .received then h.exchange.interim?.toList.map (·.map (·.message))
      else [] := by
  show _ = h.site.sent ++ if _ then h.interim?.toList.map _ else []
  simp only [accept, Exchange.accept]
  cases hstate : h.exchange.state with
  | received =>
    cases h.interim? with
    | none => simp
    | some ack => exact Site.sent_record _ _
  | _ => simp

/-- A call does not touch what the announcement depends on. -/
theorem announcement_perform (c : Call ν) (announced : Bool) :
    (h.perform c).1.exchange.announcement announced = h.exchange.announcement announced := by
  obtain ⟨hrequest, hsession⟩ := h.request_perform c
  rw [Exchange.announcement_eq, Exchange.announcement_eq, hrequest, hsession]

/-- What was sent is what was sent before, and the announcement if one was made. -/
theorem invariant_sent (before : List (Addressed Message)) :
    Invariant fun announced (h : Handling ν) => h.Sound announced ∧
      h.site.sent = before ++ (h.exchange.announcement announced).map (·.map (·.message)) where
  accept := by
    rintro h announced ⟨sound, hsent⟩ hopen
    refine ⟨sound.accept hopen, ?_⟩
    obtain ⟨-, hstate⟩ := sound.life.responses_of_open hopen
    have hannouncement : h.accept.exchange.announcement true = h.exchange.interim?.toList :=
      h.announcement_perform .accept true
    rw [h.sent_accept, hannouncement, hsent, hstate]
    -- a second call to accept finds the exchange accepted, and sends nothing
    cases announced with
    | false => simp [Exchange.announcement]
    | true => simp [Exchange.announcement]
  perform := by
    rintro h announced ⟨sound, hsent⟩ c hc
    refine ⟨sound.perform hc, ?_⟩
    rw [h.sent_perform hc, hsent, h.announcement_perform]
  add := fun ⟨sound, hsent⟩ parent profile handler =>
    ⟨invariant_sound.add sound parent profile handler, hsent⟩

variable {h} in
/-- During a dispatch the announcement is sent, and nothing else. -/
theorem Sound.sent_dispatch (sound : h.Sound false) :
    (h.dispatch.site.events.drop h.site.events.length).filterMap Event.sent? =
      (h.dispatch.exchange.announcement h.announces).map (·.map (·.message)) := by
  obtain ⟨-, -, -, -, -, more, hevents, -⟩ := sound.dispatch
  let target := Event.dispatched (ν := ν) h.exchange.request h.target?
  have hsince : h.dispatch.site.events = h.site.events ++ ([target] ++ more) := by
    rw [hevents, ← List.append_assoc]
    rfl
  have hnothing : (h.site.record target).sent = h.site.sent ++ [] := by
    rw [List.append_nil]
    exact h.site.sent_record_of_none rfl
  exact Site.sent_since hsince ((invariant_sent h.site.sent).dispatch
    ⟨⟨sound.life, sound.inTime⟩, hnothing⟩ fun _ => ⟨⟨sound.life, sound.inTime⟩, hnothing⟩).2

end Handling

/-! ### Messages that leave -/

/-- Does a message settle one with a given id on the message layer? -/
def Message.settles (m : Message) (id : UInt16) : Bool := m.type.isReply && m.id == id

/-- A final message settles a confirmable request, unless it is a separate response. -/
theorem IsFinal.settles {m : Addressed Message} {session : Option Session}
    {announced rejected : Bool} {r : Addressed Response}
    (final : IsFinal m session announced rejected r) (hcon : m.data.type = .con) :
    r.data.message.settles m.data.id = (!announced || rejected) := by
  cases rejected with
  | true =>
    obtain rfl : r = refusal m session := final
    simp [refusal, Message.settles, MessageType.isReply]
  | false =>
    have hrole := IsAnswer.role final
    cases announced <;> simp only [Message.answerRole, hcon, Prod.mk.injEq] at hrole <;>
      simp [Message.settles, hrole, MessageType.isReply]

namespace Server

variable (s : Server ν) (m : Addressed Message) (session : Option Session)

/-- The messages that leave a server for a message that arrives: those sent while it is handled, and
then the reply. -/
def leaving : List (Addressed Message) :=
  let after := s.deliver m session
  (after.1.site.events.drop s.site.events.length).filterMap Event.sent? ++
    (after.2.map (·.map (·.message))).toList

/-- **Messages that leave.** For a request under a new key these are the empty acknowledgement, if it
is confirmable and its handler announces a separate response, and the final message of the exchange
that is retained. -/
theorem leaving_of_new (hnew : s.dedup.find? (.ofId m) = none) (hrequest : m.data.isRequest = true) :
    ∃ e final, (s.deliver m session).1.dedup.current? (.ofId m) = some e ∧
      e.isComplete = true ∧
      IsFinal m session (s.announces m session) (decide (e.state = .rejected)) final ∧
      s.leaving m session =
        ((if m.data.type = .con ∧ s.announces m session = true then [emptyAck m session] else []) ++
          [final]).map (·.map (·.message)) := by
  let h := s.handling m session
  have sound : h.Sound false := s.sound_handling m session
  obtain ⟨hsound, hcomplete, hsame, hsession, -⟩ := sound.dispatch
  obtain ⟨final, hresponses, hfinal⟩ := sound.concluded_dispatch rfl hcomplete
  obtain ⟨dedup, heq, hcurrent⟩ := s.handleRequest_of_find?_eq_none m session hnew
  rw [← s.deliver_of_isRequest m session hrequest] at heq
  refine ⟨h.dispatch.exchange, final, ?_, hcomplete, ?_, ?_⟩
  · rw [heq]
    exact hcurrent
  · rw [hsame, hsession] at hfinal
    exact hfinal
  · -- during the dispatch the announcement is sent, and the reply is what was deposited last
    have hlatest : h.dispatch.exchange.latest? = some final := by
      rw [Exchange.latest?_eq hsound.inTime, hresponses, List.getLast?_concat]
    have hannouncement := h.dispatch.exchange.announcement_eq h.announces
    rw [hsame, hsession] at hannouncement
    have hsent := sound.sent_dispatch
    rw [hannouncement] at hsent
    rw [leaving, heq, List.map_append]
    show (h.dispatch.site.events.drop h.site.events.length).filterMap _ ++
      (h.dispatch.exchange.latest?.map _).toList = _
    rw [hsent, hlatest]
    rfl

/-! ### One message that settles the request -/

/-- **Settled once.** Of the messages that leave for a confirmable request under a new key, exactly one
settles it, unless its handler announces a separate response and then rejects the request: then two
do, the acknowledgement and the reset. -/
theorem settled_once (hnew : s.dedup.find? (.ofId m) = none) (hcon : m.data.type = .con)
    (hkind : m.data.code.kind = .request) :
    ∃ e, (s.deliver m session).1.dedup.current? (.ofId m) = some e ∧ e.isComplete = true ∧
      (s.leaving m session).countP (·.data.settles m.data.id) =
        if s.announces m session = true ∧ e.state = .rejected then 2 else 1 := by
  have hrequest : m.data.isRequest = true := by
    simp [Message.isRequest, hcon, hkind, MessageType.isReply]
  obtain ⟨e, final, hcurrent, hcomplete, hfinal, hleaving⟩ :=
    s.leaving_of_new m session hnew hrequest
  refine ⟨e, hcurrent, hcomplete, ?_⟩
  have hfirst : (emptyAck m session).data.message.settles m.data.id = true := by
    simp [emptyAck, Message.settles, MessageType.isReply]
  -- the announcement settles the request, and so does a final message that is no separate response
  have hcount : (s.leaving m session).countP (·.data.settles m.data.id) =
      (if s.announces m session = true then 1 else 0) +
        if (!s.announces m session || decide (e.state = .rejected)) = true then 1 else 0 := by
    rw [hleaving, List.countP_map]
    show List.countP (fun r : Addressed Response => r.data.message.settles m.data.id) _ = _
    rw [List.countP_append, List.countP_singleton, hfinal.settles hcon]
    cases s.announces m session <;> simp [hcon, hfirst]
  rw [hcount]
  cases s.announces m session <;> by_cases hrejected : e.state = .rejected <;> simp [hrejected]

/-- A handler that accepts the question and answers it has it settled once. -/
theorem settled_once_patient :
    patient.announces question none = true ∧
      ∃ e, (patient.deliver question none).1.dedup.current? (.ofId question) = some e ∧
        e.state = .responded ∧
        (patient.leaving question none).countP (·.data.settles question.data.id) = 1 := by
  have hannounced : patient.announces question none = true := by decide
  have hone : (patient.leaving question none).countP (·.data.settles question.data.id) = 1 := by
    decide
  obtain ⟨e, hcurrent, hcomplete, hcount⟩ := settled_once patient question none rfl rfl rfl
  refine ⟨hannounced, e, hcurrent, (Exchange.isComplete_iff.mp hcomplete).resolve_right ?_, hone⟩
  intro hrejected
  rw [hone, if_pos ⟨hannounced, hrejected⟩] at hcount
  cases hcount

/-- A server whose root accepts each request, only to reject it. -/
def fickle : Server Unit :=
  { patient with
    site.tree := .rooted ⟨default, fun _ => .call .accept fun _ => .call .reject fun _ => .done⟩ }

/-- Its handler has the question acknowledged, and then reset. -/
theorem settled_twice_fickle :
    ¬ ∀ (s : Server Unit) (m : Addressed Message) (session : Option Session),
      s.dedup.find? (.ofId m) = none → m.data.type = .con → m.data.code.kind = .request →
        (s.leaving m session).countP (·.data.settles m.data.id) = 1 := by
  intro hall
  have htwo : (fickle.leaving question none).map (·.data) =
      [question.data.ack question.data.id, question.data.reset] := by decide
  have hone := hall fickle question none rfl rfl rfl
  have hcount : (fickle.leaving question none).countP (·.data.settles question.data.id) =
      ((fickle.leaving question none).map (·.data)).countP (·.settles question.data.id) := by
    rw [List.countP_map]
    rfl
  rw [hcount, htwo] at hone
  revert hone
  decide

end Server

end Coap
