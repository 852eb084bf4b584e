import Coap.Proofs.Delivery.Acknowledged
import Coap.Proofs.Delivery.Sessions
import Coap.Proofs.Wire.RoundTrip
import Coap.Udp.Client

/-!
# Empty messages on the wire

A message with the code 0.00 is to be four octets long, the header and nothing else. The resets that
leave a server are. The acknowledgements that announce a separate response are not: they bear the token
of their request, and so do those that a client sends.

* `EmptyReply` — the reset and the acknowledgement of a request; `EmptyReply.encode` says what their
  datagrams are.
* `Exchange.Plain` — the empty messages deposited in an exchange are of these two kinds.
* `Server.emptyReply_of_leaving` — so are those that leave a server, at any time.
* `Udp.ack_of_send` — what a client acknowledges.
* `empty_octets` — which empty messages are four octets long.
-/

namespace Coap

variable {ν : Type}

/-! ### Datagrams without options and payload -/

/-- A message without options and payload is written as its head. -/
theorem Message.encode_of_bare {m : Message} (hoptions : m.options = .empty) (hpayload : m.payload = []) :
    m.encode = .ok m.encodeHead := by
  unfold Message.encode
  rw [hoptions, hpayload]
  exact congrArg Except.ok ((List.append_nil _).trans (List.append_nil _))

theorem Token.length_eq_zero_iff {t : Token} : t.bytes.length = 0 ↔ t = .empty := by
  rw [List.length_eq_zero_iff]
  constructor
  · exact fun h => Token.ext h
  · rintro rfl
    rfl

/-- The datagram of an acknowledgement is as long as the header and the token. -/
theorem Message.encode_ack (m : Message) (id : UInt16) :
    ∃ bytes, (m.ack id).encode = .ok bytes ∧ bytes.length = 4 + m.token.bytes.length :=
  ⟨_, encode_of_bare rfl rfl, length_encodeHead _⟩

/-! ### Empty replies -/

/-- An empty message in reply to another: its reset, or its acknowledgement if it is confirmable. -/
inductive EmptyReply (request : Addressed Message) : Addressed Message → Prop where
  /-- The reset. -/
  | reset : EmptyReply request ⟨request.data.reset, request.addr⟩
  /-- The acknowledgement. -/
  | ack (confirmable : request.data.type = .con) :
    EmptyReply request ⟨request.data.ack request.data.id, request.addr⟩

namespace EmptyReply

variable {request r : Addressed Message}

/-- A reset has no token, and an acknowledgement that of the request. -/
theorem encode (reply : EmptyReply request r) :
    ∃ bytes, r.data.encode = .ok bytes ∧
      bytes.length = 4 + if r.data.type = .rst then 0 else request.data.token.bytes.length := by
  cases reply with
  | reset => exact ⟨_, Message.encode_of_bare rfl rfl, Message.length_encodeHead _⟩
  | ack confirmable => exact request.data.encode_ack request.data.id

end EmptyReply

/-! ### Deposits -/

/-- The empty messages that were deposited are resets or acknowledgements of the request. -/
def Exchange.Plain (e : Exchange) : Prop :=
  ∀ r ∈ e.responses, r.data.message.code = .empty →
    EmptyReply e.request (r.map (·.message))

/-- A final message that is empty is a reset. -/
theorem IsFinal.emptyReply {m : Addressed Message} {session : Option Session}
    {announced rejected : Bool} {r : Addressed Response}
    (final : IsFinal m session announced rejected r) (hempty : r.data.message.code = .empty) :
    EmptyReply m (r.map (·.message)) := by
  cases rejected with
  | true =>
    obtain rfl : r = refusal m session := final
    exact .reset
  | false =>
    have hkind := IsAnswer.code final
    rw [hempty] at hkind
    cases hkind

/-- So is, behind the announcement of a separate response, everything deposited that is empty. -/
theorem IsFinal.emptyReply_of_mem {m : Addressed Message} {session : Option Session}
    {announced rejected : Bool} {final r : Addressed Response}
    (hfinal : IsFinal m session announced rejected final)
    (hr : r ∈ (if m.data.type = .con ∧ announced = true then [emptyAck m session] else []) ++ [final])
    (hempty : r.data.message.code = .empty) : EmptyReply m (r.map (·.message)) := by
  rcases List.mem_append.mp hr with hr | hr
  · split at hr
    · next hannounced =>
      obtain rfl := List.mem_singleton.mp hr
      exact .ack hannounced.1
    · cases hr
  · obtain rfl := List.mem_singleton.mp hr
    exact hfinal.emptyReply hempty

namespace Server

variable {s : Server ν} {m r : Addressed Message} {session : Option Session}

/-- So it is with what is deposited for a request. -/
theorem plain_dispatch (s : Server ν) (m : Addressed Message) (session : Option Session) :
    (s.handling m session).dispatch.exchange.Plain := by
  have sound := s.sound_handling m session
  obtain ⟨-, hcomplete, hrequest, hsession, -⟩ := sound.dispatch
  obtain ⟨final, hresponses, hfinal⟩ := sound.concluded_dispatch rfl hcomplete
  intro r hr hempty
  rw [hresponses, Exchange.announcement_eq] at hr
  exact hfinal.emptyReply_of_mem hr hempty

/-! ### Messages that leave -/

/-- For a message that is no request, or that repeats one, nothing is sent before the reply. -/
theorem sent_of_not_new (s : Server ν) (m : Addressed Message) (session : Option Session)
    (h : m.data.isRequest = true → s.dedup.find? (.ofId m) ≠ none) :
    ((s.deliver m session).1.site.events.drop s.site.events.length).filterMap Event.sent? = [] := by
  have hsame : s.site.Continues (s.deliver m session).1.site ∧
      (s.deliver m session).1.site.sent = s.site.sent := by
    cases hrequest : m.data.isRequest with
    | false =>
      rw [s.deliver_of_not_isRequest m session hrequest]
      exact ⟨.refl _, rfl⟩
    | true =>
      obtain ⟨e, hfind⟩ := Option.ne_none_iff_exists'.mp (h hrequest)
      rw [deliver_of_find? hrequest hfind]
      exact ⟨s.site.continues_replay e _, s.site.sent_replay e _⟩
  obtain ⟨⟨-, more, hevents, -⟩, hsent⟩ := hsame
  exact Site.sent_since hevents (hsent.trans (List.append_nil _).symm)

/-- Nothing leaves for it but the reply. -/
theorem leaving_of_not_new (s : Server ν) (m : Addressed Message) (session : Option Session)
    (h : m.data.isRequest = true → s.dedup.find? (.ofId m) ≠ none) :
    s.leaving m session = ((s.deliver m session).2.map (·.map (·.message))).toList := by
  rw [leaving, s.sent_of_not_new m session h, List.nil_append]

/-- The request that an empty message answers: the one that arrives, or the one that it repeats. -/
def Answers (s₀ : Server ν) (acts : List (Act ν)) (m request : Addressed Message) : Prop :=
  request = m ∨ ∃ e, (s₀.history acts).original? m = some e ∧ e.request = request ∧
    Key.ofId request = .ofId m ∧ .input (.deliver request e.session) ∈ acts

/-- **Empty messages.** Those that leave a server that held nothing at first are resets and
acknowledgements, of the message that arrives or of a request that it repeats. -/
theorem emptyReply_of_leaving {s₀ : Server ν} (hblank : s₀.dedup.Blank) (acts : List (Act ν))
    (hr : r ∈ (s₀.history acts).leaving m session) (hempty : r.data.code = .empty) :
    ∃ request, s₀.Answers acts m request ∧ EmptyReply request r := by
  have hheld : (s₀.history acts).dedup.Holds fun key e =>
      Key.ofId e.request = key ∧ .input (.deliver e.request e.session) ∈ acts ∧ e.Plain := by
    refine holds_history (hblank.mono fun _ _ h => h.elim) fun s m session hmem _ => ?_
    obtain ⟨-, -, hrequest, hsession, -⟩ := (s.sound_handling m session).dispatch
    have hrequest : (s.handling m session).dispatch.exchange.request = m := hrequest
    have hsession : (s.handling m session).dispatch.exchange.session = session := hsession
    rw [hrequest, hsession]
    exact ⟨rfl, hmem, s.plain_dispatch m session⟩
  cases hrequest : m.data.isRequest with
  | false =>
    rw [leaving_of_not_new _ m session fun h => nomatch hrequest.symm.trans h] at hr
    obtain ⟨reply, hreply, rfl⟩ := Option.map_eq_some_iff.mp (Option.mem_toList.mp hr)
    obtain rfl := (s₀.history acts).eq_reset_of_not_isRequest m session hrequest hreply
    exact ⟨m, .inl rfl, .reset⟩
  | true =>
    cases hfind : (s₀.history acts).dedup.find? (.ofId m) with
    | none =>
      obtain ⟨e, final, -, -, hfinal, hleaving⟩ :=
        (s₀.history acts).leaving_of_new m session hfind hrequest
      rw [hleaving] at hr
      obtain ⟨sent, hsent, rfl⟩ := List.mem_map.mp hr
      exact ⟨m, .inl rfl, hfinal.emptyReply_of_mem hsent hempty⟩
    | some e =>
      -- a duplicate gets what was deposited for the request that it repeats
      rw [leaving_of_not_new _ m session fun _ h => nomatch hfind.symm.trans h] at hr
      obtain ⟨reply, hreply, rfl⟩ := Option.map_eq_some_iff.mp (Option.mem_toList.mp hr)
      obtain ⟨hkey, hmem, hplain⟩ := hheld.find? hfind
      have horiginal : (s₀.history acts).original? m = some e := (if_pos hrequest).trans hfind
      exact ⟨e.request, .inr ⟨e, horiginal, rfl, hkey, hmem⟩,
        hplain reply (mem_responses_of_original? hreply horiginal) hempty⟩

end Server

/-! ### Acknowledgements of a client -/

namespace Udp

theorem token_of_reading {token : Token} {m : Message}
    (h : Reading.ofMessage token m = .response) : m.token = token := by
  unfold Reading.ofMessage at h
  split at h
  · cases h
  · split at h
    · next hresponse => exact hresponse.2
    · cases h

/-- Waiting ends with a response that has the token of the request, or nothing is acknowledged. -/
theorem await_cases (timeout : Duration) (origin : Address) (token : Token) (spent : Nat)
    (arrivals : List Arrival) :
    (await timeout origin token spent arrivals).ack = none ∨
      ∃ m elapsed, m.token = token ∧
        await timeout origin token spent arrivals = ⟨some m, ackOf m, elapsed⟩ := by
  fun_induction await timeout origin token spent arrivals with
  | case1 spent => exact .inl rfl
  | case2 spent a more hgap => exact .inl rfl
  | case3 spent a more hgap spent' horigin ih => exact ih
  | case4 spent a more hgap spent' horigin cause hread ih => exact ih
  | case5 spent a more hgap spent' horigin m hread hreading =>
    exact .inr ⟨m.data, ⟨spent'⟩, token_of_reading hreading, rfl⟩
  | case6 spent a more hgap spent' horigin m hread hreading => exact .inl rfl
  | case7 spent a more hgap spent' horigin m hread hreading ih => exact ih

/-- **Acknowledged responses.** What a client acknowledges is the response it waited for, which has the
token of the request. -/
theorem ack_of_send {net : Network} {timeout : Duration} {arrivals : Addressed Bytes → List Arrival}
    {request : Addressed Message} {bytes ack : Bytes} {awaited : Awaited}
    (h : send net timeout arrivals request = .ok (bytes, awaited)) (hack : awaited.ack = some ack) :
    ∃ response, awaited.response = some response ∧ response.token = request.data.token ∧
      (response.ack response.id).encode = .ok ack := by
  have hawaited : awaited =
      await timeout request.addr request.data.token 0 (arrivals ⟨bytes, request.addr⟩) := by
    unfold send at h
    split at h
    · cases h
    · split at h
      · cases h
      · dsimp only at h
        split at h
        · cases h
        · cases h
          rfl
  rcases await_cases timeout request.addr request.data.token 0 (arrivals ⟨bytes, request.addr⟩) with
    hnone | ⟨m, elapsed, htoken, heq⟩
  · rw [hawaited, hnone] at hack
    cases hack
  · rw [hawaited, heq] at hack ⊢
    refine ⟨m, rfl, htoken, ?_⟩
    obtain ⟨octets, hencode, -⟩ := m.encode_ack m.id
    unfold ackOf at hack
    split at hack
    · rw [hencode] at hack ⊢
      exact congrArg Except.ok (Option.some.inj hack)
    · cases hack

end Udp

/-! ### Four octets -/

/-- **Lengths of empty messages.** Let a message arrive at a server that held nothing at first, whatever
has happened since. The empty messages that leave it are resets and acknowledgements, of the message
or of the request that it repeats, and they are four octets long except for the acknowledgements of
requests with a token. The acknowledgement that a client sends is four octets long if and only if
its request has no token. -/
theorem empty_octets {s₀ : Server ν} (hblank : s₀.dedup.Blank) :
    (∀ acts m session, ∀ r ∈ (s₀.history acts).leaving m session, r.data.code = .empty →
      ∃ request, s₀.Answers acts m request ∧ EmptyReply request r ∧
        ∃ bytes, r.data.encode = .ok bytes ∧
          (bytes.length = 4 ↔ r.data.type = .rst ∨ request.data.token = .empty)) ∧
    ∀ net timeout arrivals request bytes awaited ack,
      Udp.send net timeout arrivals request = .ok (bytes, awaited) → awaited.ack = some ack →
        ∃ response, awaited.response = some response ∧
          (response.ack response.id).encode = .ok ack ∧
            (ack.length = 4 ↔ request.data.token = .empty) := by
  constructor
  · intro acts m session r hr hempty
    obtain ⟨request, hanswers, reply⟩ := Server.emptyReply_of_leaving hblank acts hr hempty
    obtain ⟨bytes, hencode, hlength⟩ := reply.encode
    refine ⟨request, hanswers, reply, bytes, hencode, ?_⟩
    rw [hlength, Nat.add_eq_left, ← Token.length_eq_zero_iff]
    by_cases hreset : r.data.type = .rst
    · simp [hreset]
    · simp [hreset]
  · intro net timeout arrivals request bytes awaited ack hsend hack
    obtain ⟨response, hresponse, htoken, hencode⟩ := Udp.ack_of_send hsend hack
    obtain ⟨octets, hoctets, hlength⟩ := response.encode_ack response.id
    obtain rfl : octets = ack := Except.ok.inj (hoctets.symm.trans hencode)
    refine ⟨response, hresponse, hencode, ?_⟩
    rw [hlength, Nat.add_eq_left, htoken, Token.length_eq_zero_iff]

namespace Server

/-- A confirmable response without a token, as it comes from the peer that was asked. -/
def reply : Udp.Arrival := ⟨.ofSeconds 0, ⟨[0x40, 0x45, 0x00, 0x09], question.addr⟩⟩

/-- The client waits for the reply, and acknowledges it. -/
theorem send_question :
    Udp.send ⟨[], true⟩ (.ofSeconds 1) (fun _ => [reply]) question =
      .ok ([0x40, 0x01, 0x00, 0x07],
        ⟨some (.new .con .content 9 .empty), some [0x60, 0x00, 0x00, 0x09], .ofSeconds 0⟩) := by
  have hencode : (Message.new .con .content 9 .empty).encode = .ok reply.datagram.data := rfl
  have hread : Udp.read reply.datagram = .ok ⟨.new .con .content 9 .empty, question.addr⟩ :=
    congrArg (Except.map fun m => Addressed.mk m question.addr) (Message.decode_eq_onWire hencode)
  have hawait : Udp.await (.ofSeconds 1) question.addr question.data.token 0 [reply] =
      ⟨some (.new .con .content 9 .empty), some [0x60, 0x00, 0x00, 0x09], .ofSeconds 0⟩ := by
    rw [Udp.await, hread]
    rfl
  exact congrArg (fun awaited => Except.ok ([0x40, 0x01, 0x00, 0x07], awaited)) hawait

/-- The acknowledgement of the question is four octets long, and so is that of the reply to it. -/
theorem empty_octets_patient :
    (∃ r ∈ (patient.history []).leaving question none,
      r.data = question.data.ack question.data.id ∧
        ∃ bytes, r.data.encode = .ok bytes ∧ bytes.length = 4) ∧
    ∃ bytes awaited ack,
      Udp.send ⟨[], true⟩ (.ofSeconds 1) (fun _ => [reply]) question = .ok (bytes, awaited) ∧
        awaited.ack = some ack ∧ ack.length = 4 := by
  obtain ⟨hserver, hclient⟩ := empty_octets blank_patient
  constructor
  · have hleaving : ⟨question.data.ack question.data.id, question.addr⟩ ∈
        (patient.history []).leaving question none := by decide
    obtain ⟨request, hanswers, -, bytes, hencode, hfour⟩ :=
      hserver [] question none _ hleaving rfl
    -- nothing arrived before, so the acknowledgement is that of the question
    have hrequest : request = question := by
      rcases hanswers with rfl | ⟨e, -, -, -, hmem⟩
      · rfl
      · cases hmem
    exact ⟨_, hleaving, rfl, bytes, hencode, hfour.mpr (.inr (hrequest ▸ rfl))⟩
  · obtain ⟨-, -, -, hfour⟩ := hclient _ _ _ _ _ _ _ send_question rfl
    exact ⟨_, _, _, send_question, rfl, hfour.mpr rfl⟩

/-- The question with a token. -/
def labelled : Addressed Message :=
  ⟨.new .con Method.get.code 7 ⟨[0xAA, 0xBB], by decide⟩, question.addr⟩

/-- The acknowledgement of a question with a token bears the token. -/
theorem empty_octets_labelled :
    ¬ ∀ (s₀ : Server Unit) acts m session, s₀.dedup.Blank →
      ∀ r ∈ (s₀.history acts).leaving m session, r.data.code = .empty →
        ∀ bytes, r.data.encode = .ok bytes → bytes.length = 4 := by
  intro hall
  have hleaving : ⟨labelled.data.ack labelled.data.id, labelled.addr⟩ ∈
      (patient.history []).leaving labelled none := by decide
  have hencode : (labelled.data.ack labelled.data.id).encode =
      .ok [0x62, 0x00, 0x00, 0x07, 0xAA, 0xBB] := rfl
  exact absurd (hall patient [] labelled none blank_patient _ hleaving rfl _ hencode) (by decide)

end Server

end Coap
