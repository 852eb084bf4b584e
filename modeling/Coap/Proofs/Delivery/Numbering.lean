import Coap.Proofs.Delivery.Datagrams
import Coap.Proofs.Delivery.Endpoints

/-!
# Ids of messages that leave

An endpoint with a socket has one counter, from which every message that leaves it without an id gets the
next number, whether it is sent while a message is handled or is the reply to it. The counter goes on
whatever else happens to the server, and begins anew after 65536 messages.

* `Udp.idAfter` — the number that is given after some others, and when two of them are the same.
* `Udp.Numbered`, `Udp.numbered_numberAll` — what becomes of a list of messages.
* `Server.Counts`, `Server.KeepsCounters` — an endpoint has a counter, and what leaves all counters alone.
* `Server.receive_cases` — what becomes of a datagram.
* `Server.Incident`, `Server.passed` — what happens to a server whose endpoints have sockets, and what
  passes through one of them meanwhile.
* `Server.counts_meet`, `Server.counts_met` — what one incident does to a counter, and what any number of
  them do.
* `Server.messages_numbered` — all messages that leave an endpoint are numbered with its counter.
-/

namespace Coap

namespace Udp

variable {next : UInt16} {m : Message} {j k : Nat}

/-! ### Numbers -/

/-- The number that a counter gives after some others. -/
def idAfter (next : UInt16) (count : Nat) : UInt16 := next + .ofNat count

@[simp] theorem idAfter_zero (next : UInt16) : idAfter next 0 = next := UInt16.add_zero next

theorem idAfter_idAfter (next : UInt16) (j k : Nat) :
    idAfter (idAfter next j) k = idAfter next (j + k) := by
  rw [idAfter, idAfter, idAfter, UInt16.add_assoc, UInt16.ofNat_add]

/-- A counter gives the same number again after 65536 others, and not before. -/
theorem idAfter_eq_iff : idAfter next j = idAfter next k ↔ j % 65536 = k % 65536 := by
  rw [idAfter, idAfter, UInt16.add_right_inj, ← UInt16.toNat_inj, UInt16.toNat_ofNat',
    UInt16.toNat_ofNat']

/-- The first numbers of a counter. -/
def ids (next : UInt16) (count : Nat) : List UInt16 := (List.range count).map (idAfter next)

theorem ids_succ (next : UInt16) (count : Nat) :
    ids next (count + 1) = next :: ids (idAfter next 1) count := by
  rw [ids, List.range_succ_eq_map, List.map_cons, List.map_map, idAfter_zero, ids]
  refine congrArg (next :: ·) (List.map_congr_left fun k _ => ?_)
  rw [idAfter_idAfter, Nat.add_comm]
  rfl

/-- Among 65536 numbers in a row no two are the same. -/
theorem nodup_ids (next : UInt16) (count skipped : Nat) :
    (((ids next count).drop skipped).take 65536).Nodup := by
  rw [List.take_drop, ids, ← List.map_take, ← List.map_drop, List.take_range, List.range_eq_range',
    List.drop_range']
  refine List.pairwise_map.mpr ((List.pairwise_lt_range' 1).imp_of_mem fun hj hk hlt heq => ?_)
  rw [List.mem_range'_1] at hj hk
  rw [idAfter_eq_iff] at heq
  omega

/-! ### Messages without an id -/

theorem needsId_iff : needsId m = true ↔ (m.type = .con ∨ m.type = .non) ∧ m.id = 0 := by
  rw [needsId]
  cases m.type <;> simp [MessageType.isReply]

/-- The number of messages that lack an id. -/
def lacking (messages : List (Addressed Message)) : Nat := messages.countP fun m => needsId m.data

theorem lacking_cons_of_needsId {m : Addressed Message} (h : needsId m.data = true)
    (more : List (Addressed Message)) : lacking (m :: more) = lacking more + 1 :=
  List.countP_cons_of_pos h

theorem lacking_cons_of_not_needsId {m : Addressed Message} (h : needsId m.data = false)
    (more : List (Addressed Message)) : lacking (m :: more) = lacking more :=
  List.countP_cons_of_neg (ne_true_of_eq_false h)

theorem number_of_needsId (h : needsId m = true) :
    number next m = (idAfter next 1, { m with id := next }) := by
  rw [number, if_pos h]
  rfl

theorem number_of_not_needsId (h : needsId m = false) : number next m = (next, m) := by
  rw [number, h]
  rfl

theorem numberAll_cons (next : UInt16) (m : Addressed Message) (more : List (Addressed Message)) :
    numberAll next (m :: more) =
      ((numberAll (number next m.data).1 more).1,
        ⟨(number next m.data).2, m.addr⟩ :: (numberAll (number next m.data).1 more).2) := rfl

/-- Messages that follow others go on with the counter. -/
theorem numberAll_append (next : UInt16) (messages more : List (Addressed Message)) :
    numberAll next (messages ++ more) =
      ((numberAll (numberAll next messages).1 more).1,
        (numberAll next messages).2 ++ (numberAll (numberAll next messages).1 more).2) := by
  induction messages generalizing next with
  | nil => rfl
  | cons m messages ih =>
    rw [List.cons_append, numberAll_cons, numberAll_cons, ih]
    rfl

/-- The counter has gone on by one for each message that lacked an id. -/
theorem numberAll_fst (next : UInt16) (messages : List (Addressed Message)) :
    (numberAll next messages).1 = idAfter next (lacking messages) := by
  induction messages generalizing next with
  | nil => exact (idAfter_zero next).symm
  | cons m messages ih =>
    rw [numberAll_cons, ih]
    cases hm : needsId m.data with
    | true =>
      rw [number_of_needsId hm, idAfter_idAfter, lacking_cons_of_needsId hm, Nat.add_comm]
    | false => rw [number_of_not_needsId hm, lacking_cons_of_not_needsId hm]

theorem length_numberAll (next : UInt16) (messages : List (Addressed Message)) :
    (numberAll next messages).2.length = messages.length := by
  induction messages generalizing next with
  | nil => rfl
  | cons m messages ih => rw [numberAll_cons, List.length_cons, List.length_cons, ih]

/-- What goes out in place of a message depends on how many before it lacked an id. -/
theorem getElem?_numberAll (next : UInt16) (messages : List (Addressed Message)) (k : Nat) :
    (numberAll next messages).2[k]? =
      messages[k]?.map (·.map fun m => (number (idAfter next (lacking (messages.take k))) m).2) := by
  rcases Nat.lt_or_ge k messages.length with hk | hk
  · -- the message is the first of those that follow the ones before it
    have hsplit : messages = messages.take k ++ messages[k] :: messages.drop (k + 1) := by
      rw [← List.drop_eq_getElem_cons hk, List.take_append_drop]
    have htake : (numberAll next (messages.take k)).2.length = k := by
      rw [length_numberAll, List.length_take_of_le (Nat.le_of_lt hk)]
    conv => lhs; rw [hsplit, numberAll_append]
    rw [List.getElem?_append_right (Nat.le_of_eq htake), htake, Nat.sub_self, numberAll_fst,
      List.getElem?_eq_getElem hk]
    rfl
  · have hnone := length_numberAll next messages
    rw [List.getElem?_eq_none hk, List.getElem?_eq_none (hnone ▸ hk)]
    rfl

/-- The ids that were given to the messages that lacked one, in order. -/
def issued (messages sent : List (Addressed Message)) : List UInt16 :=
  ((messages.zip sent).filter fun p => needsId p.1.data).map fun p => p.2.data.id

theorem issued_cons_of_needsId {m : Addressed Message} (h : needsId m.data = true)
    (m' : Addressed Message) (more sent : List (Addressed Message)) :
    issued (m :: more) (m' :: sent) = m'.data.id :: issued more sent := by
  simp [issued, h]

theorem issued_cons_of_not_needsId {m : Addressed Message} (h : needsId m.data = false)
    (m' : Addressed Message) (more sent : List (Addressed Message)) :
    issued (m :: more) (m' :: sent) = issued more sent := by
  simp [issued, h]

theorem issued_numberAll (next : UInt16) (messages : List (Addressed Message)) :
    issued messages (numberAll next messages).2 = ids next (lacking messages) := by
  induction messages generalizing next with
  | nil => rfl
  | cons m messages ih =>
    rw [numberAll_cons]
    cases hm : needsId m.data with
    | true =>
      rw [issued_cons_of_needsId hm, number_of_needsId hm, ih, lacking_cons_of_needsId hm, ids_succ]
    | false =>
      rw [issued_cons_of_not_needsId hm, number_of_not_needsId hm, ih, lacking_cons_of_not_needsId hm]

/-- **Numbers.** What goes out in place of some messages. Replies and messages that have an id stay what they
are; every other message gets the number that follows those given before, and is else what it was. Among
65536 numbers that are given in a row no two are the same. -/
structure Numbered (next : UInt16) (messages sent : List (Addressed Message)) : Prop where
  length : sent.length = messages.length
  kept : ∀ {k : Nat} {m}, messages[k]? = some m →
    m.data.type = .ack ∨ m.data.type = .rst ∨ m.data.id ≠ 0 → sent[k]? = some m
  given : ∀ {k : Nat} {m}, messages[k]? = some m →
    (m.data.type = .con ∨ m.data.type = .non) ∧ m.data.id = 0 →
      sent[k]? = some (m.map ({ · with id := idAfter next (lacking (messages.take k)) }))
  consecutive : issued messages sent = ids next (lacking messages)
  distinct : ∀ skipped, (((issued messages sent).drop skipped).take 65536).Nodup

theorem numbered_numberAll (next : UInt16) (messages : List (Addressed Message)) :
    Numbered next messages (numberAll next messages).2 where
  length := length_numberAll next messages
  kept := by
    intro k m hm hkept
    have hneeds : needsId m.data = false := by
      rw [Bool.eq_false_iff, Ne, needsId_iff]
      grind
    rw [getElem?_numberAll, hm, Option.map_some, Addressed.map, number_of_not_needsId hneeds]
  given := by
    intro k m hm hlacks
    rw [getElem?_numberAll, hm, Option.map_some, Addressed.map,
      number_of_needsId (needsId_iff.mpr hlacks)]
    rfl
  consecutive := issued_numberAll next messages
  distinct := by
    intro skipped
    rw [issued_numberAll]
    exact nodup_ids next _ skipped

/-- The datagrams in which some messages go out; those that cannot be written are left out. -/
def datagrams (sent : List (Addressed Message)) : List (Addressed Bytes) :=
  sent.filterMap fun m => (Outgoing.ofMessage m).datagram?

theorem datagrams_append (sent sent' : List (Addressed Message)) :
    datagrams (sent ++ sent') = datagrams sent ++ datagrams sent' := List.filterMap_append

theorem filterMap_outgoing (next : UInt16) (messages : List (Addressed Message)) :
    (outgoing next messages).2.filterMap Outgoing.datagram? = datagrams (numberAll next messages).2 :=
  List.filterMap_map

end Udp

/-! ### Counters of a server -/

namespace Endpoint

/-- The number that the counter comes to next, if there is a socket. -/
def counter? (e : Endpoint) : Option UInt16 :=
  match e.transport with
  | .udp _ next => some next
  | .external .. => none

@[simp] theorem counter?_setDeliverer (e : Endpoint) (d : Deliverer) :
    (e.setDeliverer d).counter? = e.counter? := rfl

theorem counter?_start (e : Endpoint) (net : Udp.Network) : (e.start net).1.counter? = e.counter? := by
  obtain ⟨address, _ | ⟨bound, next⟩, deliverer, calls⟩ := e
  · rfl
  · unfold start told
    dsimp only
    repeat' split
    all_goals rfl

theorem counter?_stop (e : Endpoint) (net : Udp.Network) : (e.stop net).1.counter? = e.counter? := by
  obtain ⟨address, _ | ⟨_ | bound, next⟩, deliverer, calls⟩ := e <;> rfl

end Endpoint

namespace Server

variable {ν : Type} {s s' t : Server ν} {i j : Nat} {next : UInt16}

/-- The counters of the endpoints. -/
def counters (s : Server ν) : List (Option UInt16) := s.endpoints.map Endpoint.counter?

/-- The endpoint at a place has a socket, and its counter comes to a number next. -/
def Counts (s : Server ν) (i : Nat) (next : UInt16) : Prop := s.counters[i]? = some (some next)

/-- The counters stay what they are, though there may be further ones. -/
def KeepsCounters (s s' : Server ν) : Prop := s.counters <+: s'.counters

theorem KeepsCounters.refl (s : Server ν) : s.KeepsCounters s := List.prefix_rfl

theorem KeepsCounters.trans (h : s.KeepsCounters s') (h' : s'.KeepsCounters t) : s.KeepsCounters t :=
  List.IsPrefix.trans h h'

theorem KeepsCounters.counts (h : s.KeepsCounters s') (counts : s.Counts i next) : s'.Counts i next := by
  obtain ⟨more, hmore⟩ := h
  rw [Counts, ← hmore, List.getElem?_append_left (List.getElem?_eq_some_iff.mp counts).1, counts]

theorem keepsCounters_of_counters (h : s'.counters = s.counters) : s.KeepsCounters s' :=
  ⟨[], (List.append_nil _).trans h.symm⟩

theorem keepsCounters_of_endpoints (h : s'.endpoints = s.endpoints) : s.KeepsCounters s' :=
  keepsCounters_of_counters (congrArg (List.map Endpoint.counter?) h)

theorem map_counter?_set {es : List Endpoint} {e e' : Endpoint} (h : es[i]? = some e)
    (hsame : e'.counter? = e.counter?) :
    (es.set i e').map Endpoint.counter? = es.map Endpoint.counter? := by
  refine List.ext_getElem? fun j => ?_
  rw [List.getElem?_map, List.getElem?_map]
  by_cases hij : i = j
  · subst hij
    rw [List.getElem?_set_self (List.getElem?_eq_some_iff.mp h).1, h]
    exact congrArg some hsame
  · rw [List.getElem?_set_ne hij]

theorem map_counter?_modify (es : List Endpoint) (i : Nat) (d : Deliverer) :
    (es.modify i (·.setDeliverer d)).map Endpoint.counter? = es.map Endpoint.counter? := by
  refine List.ext_getElem? fun j => ?_
  rw [List.getElem?_map, List.getElem?_map, List.getElem?_modify]
  cases es[j]? <;> split <;> rfl

/-! ### What leaves the counters alone -/

/-- An endpoint that is called keeps its counter if the call does. -/
theorem keepsCounters_called {e : Endpoint} (he : s.endpoints[i]? = some e)
    {answer : Endpoint × Udp.Network × Except EndpointError Unit} (hsame : answer.1.counter? = e.counter?) :
    s.KeepsCounters (s.called i answer) :=
  keepsCounters_of_counters (map_counter?_set he hsame)

theorem keepsCounters_startEndpoint (s : Server ν) (i : Nat) : s.KeepsCounters (s.startEndpoint i).1 := by
  cases he : s.endpoints[i]? with
  | none =>
    rw [startEndpoint, he]
    exact .refl s
  | some e =>
    rw [startEndpoint_eq he]
    exact keepsCounters_called he (e.counter?_start s.network)

theorem keepsCounters_stopEndpoint (s : Server ν) (i : Nat) : s.KeepsCounters (s.stopEndpoint i).1 := by
  cases he : s.endpoints[i]? with
  | none =>
    rw [stopEndpoint, he]
    exact .refl s
  | some e =>
    rw [stopEndpoint_eq he]
    exact keepsCounters_called he (e.counter?_stop s.network)

theorem neutral_keepsCounters : Neutral fun s t : Server ν => s.KeepsCounters t where
  refl := .refl
  trans := .trans
  report _ _ _ := keepsCounters_of_endpoints rfl
  start := keepsCounters_startEndpoint
  stop := keepsCounters_stopEndpoint

theorem keepsCounters_place (s : Server ν) (e : Endpoint) : s.KeepsCounters (s.place e).1 := by
  show s.endpoints.map _ <+: (s.endpoints ++ [e]).map _
  rw [List.map_append]
  exact List.prefix_append ..

theorem keepsCounters_attach (s : Server ν) (i : Nat) : s.KeepsCounters (s.attach i) :=
  keepsCounters_of_counters (map_counter?_modify s.endpoints i s.deliverer)

theorem keepsCounters_setDeliverer (s : Server ν) (d : Deliverer) : s.KeepsCounters (s.setDeliverer d) := by
  refine keepsCounters_of_counters ?_
  show (s.listed.foldl _ s.endpoints).map _ = s.endpoints.map _
  generalize s.listed = places
  generalize s.endpoints = es
  induction places generalizing es with
  | nil => rfl
  | cons i places ih => exact (ih _).trans (map_counter?_modify es i d)

theorem keepsCounters_driveDedup (s : Server ν) (f : Deduplicator Exchange → Deduplicator Exchange) :
    s.KeepsCounters (s.driveDedup f) :=
  keepsCounters_of_endpoints (sameWiring_driveDedup s f).endpoints

theorem keepsCounters_launched (s : Server ν) : s.KeepsCounters s.launched := by
  refine .trans ?_ (keepsCounters_driveDedup _ _)
  unfold withEndpoint
  split
  · exact (keepsCounters_place ({ s with site := s.site.draw.2 } : Server ν) _).trans
      (keepsCounters_attach _ _)
  · exact keepsCounters_of_endpoints rfl

theorem keepsCounters_start (s : Server ν) : s.KeepsCounters s.start.1 := by
  have hall := s.keepsCounters_launched.trans (neutral_keepsCounters.startAll _ s.launched.listed)
  rw [start_eq]
  dsimp only
  split
  · exact hall.trans (keepsCounters_driveDedup _ _)
  · exact hall

theorem keepsCounters_stop (s : Server ν) : s.KeepsCounters s.stop :=
  (neutral_keepsCounters.stopAll s s.listed).trans (keepsCounters_driveDedup _ _)

/-- The endpoints keep their sockets, apart from those that start and stop. -/
def Wiring.KeepsSockets : Wiring → Prop
  | .meanwhile .. => False
  | _ => True

theorem keepsCounters_wire (s : Server ν) {op : Wiring} (hop : op.KeepsSockets) :
    s.KeepsCounters (s.wire op) := by
  cases op with
  | place e => exact keepsCounters_place s e
  | attach i =>
    rw [wire]
    split
    · exact keepsCounters_attach s i
    · exact .refl s
  | remove a =>
    obtain ⟨-, heq⟩ | ⟨front, i, back, -, -, -, heq⟩ := s.removeEndpoint_outcome a <;> rw [wire, heq]
    · exact .refl s
    · exact keepsCounters_of_endpoints rfl
  | setDeliverer d => exact keepsCounters_setDeliverer s d
  | start => exact keepsCounters_start s
  | stop => exact keepsCounters_stop s
  | meanwhile transports network => exact hop.elim

/-- A message that arrives touches no endpoint; what leaves in answer is left to the caller. -/
theorem endpoints_deliver (s : Server ν) (m : Addressed Message) (session : Option Session) :
    (s.deliver m session).1.endpoints = s.endpoints := by
  cases hrequest : m.data.isRequest with
  | false => rw [s.deliver_of_not_isRequest m session hrequest]
  | true =>
    rw [s.deliver_of_isRequest m session hrequest, handleRequest]
    dsimp only
    split <;> rfl

theorem endpoints_messagesFor (s : Server ν) (d : Deliverer) (m : Addressed Message) :
    (s.messagesFor d m).1.endpoints = s.endpoints := by
  cases d with
  | dispatcher => exact s.endpoints_deliver m none
  | fixed answer => rfl

theorem endpoints_foldl_reportUnwritten (out : List Udp.Outgoing) (s : Server ν) :
    (out.foldl reportUnwritten s).endpoints = s.endpoints := by
  induction out generalizing s with
  | nil => rfl
  | cons o out ih =>
    rw [List.foldl_cons, ih, reportUnwritten]
    split <;> rfl

/-! ### Datagrams that arrive -/

/-- The messages that are to leave the endpoint at a place for a datagram that arrives there. -/
def answersAt (s : Server ν) (i : Nat) (datagram : Addressed Bytes) : List (Addressed Message) :=
  match s.endpoints[i]? with
  | some ⟨_, .udp (some _) _, some d, _⟩ =>
    match Udp.read datagram with
    | .ok m => (s.messagesFor d m).2
    | .error _ => []
  | _ => []

/-- What is answered leaves with the numbers that follow, and the counter of the endpoint goes on. -/
theorem counters_answerAt (s : Server ν) (i : Nat) (e : Endpoint) (bound : Address) (next : UInt16)
    (d : Deliverer) (m : Addressed Message) :
    let numbered := Udp.numberAll next (s.messagesFor d m).2
    (s.answerAt i e bound next d m).1.counters = s.counters.set i (some numbered.1) ∧
      (s.answerAt i e bound next d m).2 = Udp.datagrams numbered.2 := by
  refine ⟨?_, Udp.filterMap_outgoing next _⟩
  rw [counters, answerAt]
  dsimp only
  rw [endpoints_foldl_reportUnwritten]
  dsimp only
  rw [endpoints_messagesFor, List.map_set]
  rfl

/-- Either nothing leaves for a datagram, or the endpoint runs and it holds a message that is handled. -/
theorem receive_cases (s : Server ν) (i : Nat) (datagram : Addressed Bytes) :
    (s.answersAt i datagram = [] ∧ (s.receive i datagram).1.endpoints = s.endpoints ∧
      (s.receive i datagram).2 = []) ∨
    ∃ e bound next d m, s.endpoints[i]? = some e ∧ e.counter? = some next ∧
      s.answersAt i datagram = (s.messagesFor d m).2 ∧
      s.receive i datagram = s.answerAt i e bound next d m := by
  unfold answersAt receive
  split
  · next bound next d calls he =>
    rw [he]
    cases Udp.read datagram with
    | error cause => exact .inl ⟨rfl, rfl, rfl⟩
    | ok m => exact .inr ⟨_, bound, next, d, m, rfl, rfl, rfl, rfl⟩
  · next hother =>
    split
    · next bound next d calls he => exact absurd he (hother _ bound next d calls)
    · exact .inl ⟨rfl, rfl, rfl⟩

/-- What leaves is numbered with the counter of the endpoint. -/
theorem counts_receive (counts : s.Counts i next) (datagram : Addressed Bytes) :
    let numbered := Udp.numberAll next (s.answersAt i datagram)
    (s.receive i datagram).1.Counts i numbered.1 ∧
      (s.receive i datagram).2 = Udp.datagrams numbered.2 := by
  rcases s.receive_cases i datagram with ⟨hnone, hendpoints, hnothing⟩ |
    ⟨e, bound, next', d, m, he, hnext, hmessages, hreceive⟩
  · rw [hnone, hnothing]
    exact ⟨(keepsCounters_of_endpoints hendpoints).counts counts, rfl⟩
  · obtain ⟨hlt, hget⟩ := List.getElem?_eq_some_iff.mp counts
    have heq : next' = next := by
      rw [Counts, counters, List.getElem?_map, he, Option.map_some, hnext] at counts
      exact Option.some.inj (Option.some.inj counts)
    subst heq
    obtain ⟨hcounters, hleft⟩ := s.counters_answerAt i e bound next' d m
    rw [hmessages, hreceive]
    exact ⟨(congrArg (·[i]?) hcounters).trans (List.getElem?_set_self hlt), hleft⟩

/-- The other counters stay what they are. -/
theorem counts_receive_of_ne (hne : j ≠ i) (counts : s.Counts i next) (datagram : Addressed Bytes) :
    (s.receive j datagram).1.Counts i next := by
  rcases s.receive_cases j datagram with ⟨-, hendpoints, -⟩ |
    ⟨e, bound, next', d, m, -, -, -, hreceive⟩
  · exact (keepsCounters_of_endpoints hendpoints).counts counts
  · rw [hreceive, Counts, (s.counters_answerAt j e bound next' d m).1, List.getElem?_set_ne hne]
    exact counts

/-! ### Incidents -/

/-- Something that happens to a server whose endpoints have sockets. -/
inductive Incident (ν : Type) where
  /-- A datagram reaches the socket of the endpoint at a place. -/
  | datagram (i : Nat) (d : Addressed Bytes)
  /-- A message arrives in another way, or time passes. -/
  | input (input : Input ν)
  /-- Something is done to the endpoints of the server. -/
  | wire (op : Wiring) (keeps : op.KeepsSockets)
  /-- The endpoint at a place is started apart from the server. -/
  | startAt (i : Nat)
  /-- The endpoint at a place is stopped apart from the server. -/
  | stopAt (i : Nat)
  /-- The period of the worker is over. -/
  | tick
  /-- Others bind and release sockets. -/
  | network (network : Udp.Network)

/-- The server after an incident. -/
def meet (s : Server ν) : Incident ν → Server ν
  | .datagram i d => (s.receive i d).1
  | .input input => s.step input
  | .wire op _ => s.wire op
  | .startAt i => (s.startEndpoint i).1
  | .stopAt i => (s.stopEndpoint i).1
  | .tick => s.act .tick
  | .network network => { s with network }

/-- The server after some incidents, one after the other. -/
def met (s : Server ν) (incidents : List (Incident ν)) : Server ν := incidents.foldl meet s

/-- What passes through the socket of an endpoint. -/
structure Passage where
  /-- The messages that are to leave it, in order. -/
  messages : List (Addressed Message)
  /-- The datagrams that leave it, in order. -/
  datagrams : List (Addressed Bytes)

/-- What passes through the socket of the endpoint at a place in an incident. -/
def passage (s : Server ν) (i : Nat) : Incident ν → Passage
  | .datagram j d => if j = i then ⟨s.answersAt i d, (s.receive i d).2⟩ else ⟨[], []⟩
  | _ => ⟨[], []⟩

/-- What passes through it in some incidents, one after the other. -/
def passed (i : Nat) (s : Server ν) : List (Incident ν) → Passage
  | [] => ⟨[], []⟩
  | incident :: more =>
    let first := s.passage i incident
    let rest := (s.meet incident).passed i more
    ⟨first.messages ++ rest.messages, first.datagrams ++ rest.datagrams⟩

/-- An incident other than a datagram leaves the counters alone. -/
theorem keepsCounters_meet (s : Server ν) {incident : Incident ν} (h : ∀ i d, incident ≠ .datagram i d) :
    s.KeepsCounters (s.meet incident) := by
  cases incident with
  | datagram i d => exact absurd rfl (h i d)
  | input input =>
    cases input with
    | deliver m session => exact keepsCounters_of_endpoints (s.endpoints_deliver m session)
    | meanwhile tree observers nonces elapsed => exact keepsCounters_of_endpoints rfl
  | wire op keeps => exact s.keepsCounters_wire keeps
  | startAt i => exact s.keepsCounters_startEndpoint i
  | stopAt i => exact s.keepsCounters_stopEndpoint i
  | tick =>
    refine keepsCounters_of_endpoints ?_
    rw [meet, act]
    split <;> rfl
  | network network => exact keepsCounters_of_endpoints rfl

/-- **One incident.** What passes through a socket is numbered with its counter, which goes on. -/
theorem counts_meet (counts : s.Counts i next) (incident : Incident ν) :
    let numbered := Udp.numberAll next (s.passage i incident).messages
    (s.meet incident).Counts i numbered.1 ∧
      (s.passage i incident).datagrams = Udp.datagrams numbered.2 := by
  cases incident with
  | datagram j d =>
    rw [passage]
    split
    · next heq =>
      subst heq
      exact counts_receive counts d
    · next hne => exact ⟨counts_receive_of_ne hne counts d, rfl⟩
  | _ =>
    refine ⟨(s.keepsCounters_meet ?_).counts counts, rfl⟩
    exact nofun

/-- **Any number of incidents.** -/
theorem counts_met (counts : s.Counts i next) (incidents : List (Incident ν)) :
    let numbered := Udp.numberAll next (s.passed i incidents).messages
    (s.met incidents).Counts i numbered.1 ∧
      (s.passed i incidents).datagrams = Udp.datagrams numbered.2 := by
  induction incidents generalizing s next with
  | nil => exact ⟨counts, rfl⟩
  | cons incident incidents ih =>
    obtain ⟨hcounts, hfirst⟩ := counts_meet counts incident
    obtain ⟨hafter, hrest⟩ := ih hcounts
    rw [passed]
    dsimp only
    rw [Udp.numberAll_append, Udp.datagrams_append, hfirst, hrest]
    exact ⟨hafter, rfl⟩

/-- **Ids.** Whatever messages an endpoint with a socket sends, and wherever its counter starts: replies and
messages that have an id go out as they are. Every other message goes out with the next number of the
counter, and else as it is, so that no two of 65536 such messages in a row have the same id. The counter
is the same for all that leaves the endpoint, whether it is sent while a message is handled or is the reply
to it, and whatever else happens to the server meanwhile. -/
theorem messages_numbered :
    (∀ next messages, Udp.Numbered next messages (Udp.numberAll next messages).2) ∧
    ∀ (s : Server ν) (i : Nat) (next : UInt16), s.Counts i next → ∀ incidents : List (Incident ν),
      let messages := (s.passed i incidents).messages
      (s.passed i incidents).datagrams = Udp.datagrams (Udp.numberAll next messages).2 ∧
        (s.met incidents).Counts i (Udp.idAfter next (Udp.lacking messages)) := by
  refine ⟨Udp.numbered_numberAll, fun s i next counts incidents => ?_⟩
  obtain ⟨hafter, hleft⟩ := counts_met counts incidents
  rw [Udp.numberAll_fst] at hafter
  exact ⟨hleft, hafter⟩

/-- The server with a patient resource, whose counter is about to begin anew. -/
def wrapping : Server Unit :=
  { listening with endpoints := [{ ear with transport := .udp (some ⟨.v4 0, 5683⟩) 65535 }] }

/-- A confirmable request, and another one after the server was stopped and started. -/
def requestsAroundRestart : List (Incident Unit) :=
  [.datagram 0 ⟨[0x40, 1, 0, 7], caller⟩, .wire .stop trivial, .wire .start trivial,
    .datagram 0 ⟨[0x40, 1, 0, 8], caller⟩]

/-- The acknowledgements keep the ids of the requests. The responses, which are confirmable and come without
an id, get the last number of the counter and the first. -/
theorem messages_numbered_wrapping :
    wrapping.Counts 0 65535 ∧
      (wrapping.passed 0 requestsAroundRestart).datagrams =
        [⟨[0x60, 0, 0, 7], caller⟩, ⟨[0x40, 0x45, 0xFF, 0xFF], caller⟩,
          ⟨[0x60, 0, 0, 8], caller⟩, ⟨[0x40, 0x45, 0, 0], caller⟩] := by
  have hcounts : wrapping.Counts 0 65535 := rfl
  obtain ⟨hleft, -⟩ := messages_numbered.2 wrapping 0 65535 hcounts requestsAroundRestart
  refine ⟨hcounts, hleft.trans ?_⟩
  decide +kernel

end Server

end Coap
