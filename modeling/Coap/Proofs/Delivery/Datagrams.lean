import Coap.Proofs.Delivery.Once
import Coap.Proofs.Wire.Beginnings
import Coap.Server.Receive

/-!
# Datagrams that arrive

A running endpoint reads no more than the first 1152 octets of a datagram, and cannot tell whether there
were others. What it hands to its deliverer is the message in these octets. For a datagram that is longer
this is never the message in the datagram, but one that begins it: its payload is cut, or its last options
are missing, or the datagram holds no message at all.

* `Server.Listens` — an endpoint with a socket that runs.
* `Server.datagram_delivered` — what is delivered of a datagram, and when it is what the datagram holds.
* `Server.excessive_delivered` — a datagram that holds no message and is answered.
-/

namespace Coap.Server

variable {ν : Type} {s : Server ν} {i : Nat} {e : Endpoint} {bound : Address} {next : UInt16}
  {d : Deliverer}

/-- The endpoint at a place runs: its socket is bound, and there is a deliverer. -/
structure Listens (s : Server ν) (i : Nat) (e : Endpoint) (bound : Address) (next : UInt16)
    (d : Deliverer) : Prop where
  endpoint : s.endpoints[i]? = some e
  transport : e.transport = .udp (some bound) next
  deliverer : e.deliverer = some d

/-- What becomes of what was read: a message goes to the deliverer, and anything else is only reported. -/
def takeIn (s : Server ν) (i : Nat) (e : Endpoint) (bound : Address) (next : UInt16) (d : Deliverer)
    (sender : Address) : Except DecodeError Message → Server ν × List (Addressed Bytes)
  | .ok m => s.answerAt i e bound next d ⟨m, sender⟩
  | .error cause =>
    (s.report .warning s!"dropping unparseable datagram from {sender.text}: {cause.message}", [])

theorem Listens.receive_eq (h : s.Listens i e bound next d) (datagram : Addressed Bytes) :
    s.receive i datagram =
      s.takeIn i e bound next d datagram.addr (Message.decode (Udp.received datagram.data)) := by
  obtain ⟨address, transport, deliverer, calls⟩ := e
  obtain ⟨hendpoint, rfl, rfl⟩ := h
  rw [receive, hendpoint, Udp.read]
  cases Message.decode (Udp.received datagram.data) <;> rfl

/-- A datagram of at most 1152 octets is read as it is. -/
theorem received_eq_self {bytes : Bytes} (h : bytes.length ≤ Udp.maxDatagram) :
    Udp.received bytes = bytes :=
  List.take_of_length_le h

/-- What is read of a datagram is the message in it exactly if the datagram is read as a whole, or is
not taken for a message. -/
theorem read_eq_whole_iff {bytes : Bytes} :
    (∀ m, Message.decode (Udp.received bytes) = .ok m → Message.decode bytes = .ok m) ↔
      bytes.length ≤ Udp.maxDatagram ∨
        ∃ cause, Message.decode (Udp.received bytes) = .error cause := by
  constructor
  · intro hsame
    cases hread : Message.decode (Udp.received bytes) with
    | error cause => exact .inr ⟨cause, rfl⟩
    | ok m =>
      refine .inl (Nat.le_of_not_lt fun hlong => ?_)
      have hrest : bytes.drop Udp.maxDatagram ≠ [] := by
        rw [Ne, List.drop_eq_nil_iff]
        exact Nat.not_le.mpr hlong
      have hwhole : Udp.received bytes ++ bytes.drop Udp.maxDatagram = bytes :=
        List.take_append_drop ..
      exact Message.ne_of_decode hrest hread (hwhole.symm ▸ hsame m hread) rfl
  · rintro (hshort | ⟨cause, hcause⟩) m hread
    · rwa [received_eq_self hshort] at hread
    · cases hcause.symm.trans hread

/-- **Datagrams.** A running endpoint takes in the message in the first 1152 octets of a datagram. That
is nothing but the message in the datagram exactly if there are no further octets, or those read hold no
message, so that nothing is delivered. Otherwise what is delivered begins the message in the datagram, if
there is one; and if there is one whose payload begins within the octets read, then it is delivered with
as much of the payload as is among them. -/
theorem datagram_delivered (hlistens : s.Listens i e bound next d) (datagram : Addressed Bytes) :
    let read := Message.decode (Udp.received datagram.data)
    let whole := Message.decode datagram.data
    s.receive i datagram = s.takeIn i e bound next d datagram.addr read ∧
    ((∀ m, read = .ok m → whole = .ok m) ↔
      datagram.data.length ≤ Udp.maxDatagram ∨ ∃ cause, read = .error cause) ∧
    (∀ m m', read = .ok m → whole = .ok m' → m.Begins m') ∧
    ∀ m front, whole = .ok m → datagram.data = front ++ m.payload → front.length < Udp.maxDatagram →
      read = .ok { m with payload := m.payload.take (Udp.maxDatagram - front.length) } := by
  refine ⟨hlistens.receive_eq datagram, read_eq_whole_iff, ?_, ?_⟩
  · intro m m' hread hwhole
    have hdata : Udp.received datagram.data ++ datagram.data.drop Udp.maxDatagram = datagram.data :=
      List.take_append_drop ..
    exact Message.begins_of_decode hread (hdata.symm ▸ hwhole)
  · intro m front hwhole hdata hfront
    rw [hdata] at hwhole
    rw [hdata]
    exact Message.decode_take_of_payload hwhole hfront

/-! ### A server that listens -/

/-- An endpoint whose socket is bound. -/
def ear : Endpoint := ⟨⟨.v4 0, 5683⟩, .udp (some ⟨.v4 0, 5683⟩) 1, some .dispatcher, []⟩

/-- The server with a patient resource, at an endpoint that runs. -/
def listening : Server Unit := { patient with endpoints := [ear], listed := [0] }

theorem listens_listening : listening.Listens 0 ear ⟨.v4 0, 5683⟩ 1 .dispatcher := ⟨rfl, rfl, rfl⟩

/-- Where the datagrams come from. -/
def caller : Address := ⟨.v4 1, 5683⟩

/-- A message with a given payload. -/
def parcel (payload : Bytes) : Message :=
  { Message.new .non Method.post.code 7 .empty with payload }

theorem encode_parcel {payload : Bytes} (h : payload ≠ []) :
    (parcel payload).encode = .ok ([0x50, 2, 0, 7, 0xFF] ++ payload) := by
  have hhead : (parcel payload).encodeHead = [0x50, 2, 0, 7] :=
    show (parcel []).encodeHead = _ by decide
  refine Message.encode_eq_ok_iff.mpr ⟨[], rfl, ?_⟩
  rw [hhead, show (parcel payload).payload = payload from rfl, Message.encodePayload_of_ne_nil h]
  rfl

/-- Of a payload of 2000 octets, 1147 are delivered. -/
theorem datagram_delivered_parcel :
    let payload : Bytes := List.replicate 2000 0x61
    let bytes := [0x50, 2, 0, 7, 0xFF] ++ payload
    Message.decode bytes = .ok (parcel payload) ∧
      listening.receive 0 ⟨bytes, caller⟩ =
        listening.answerAt 0 ear ⟨.v4 0, 5683⟩ 1 .dispatcher ⟨parcel (payload.take 1147), caller⟩ := by
  intro payload bytes
  have hsize : payload.length = 2000 := List.length_replicate
  have hsome : payload ≠ [] := List.ne_nil_of_length_eq_add_one hsize
  have hwhole : Message.decode bytes = .ok (parcel payload) :=
    Message.decode_of_fits (show (parcel []).Fits by decide) (encode_parcel hsome)
  obtain ⟨hreceive, -, -, hpayload⟩ := datagram_delivered listens_listening ⟨bytes, caller⟩
  have hroom : Udp.maxDatagram - ([0x50, 2, 0, 7, 0xFF] : Bytes).length = 1147 := rfl
  rw [hpayload _ [0x50, 2, 0, 7, 0xFF] hwhole rfl (by decide), hroom] at hreceive
  exact ⟨hwhole, hreceive⟩

/-- An empty message with one option. -/
def ping (value : Bytes) : Message := (Message.new .con .empty 7 .empty).set .uriQuery value

theorem encode_ping {value : Bytes} (h : value.length = 1144) :
    (ping value).encode = .ok ([0x40, 0, 0, 7, 0xDE, 2, 3, 0x6B] ++ value) := by
  have hhead : (ping value).encodeHead = [0x40, 0, 0, 7] := show (ping []).encodeHead = _ by decide
  have hoption : Message.encodeOption 15 value = [0xDE, 2, 3, 0x6B] ++ value := by
    rw [Message.encodeOption, h]
    rfl
  refine Message.encode_eq_ok_iff.mpr ⟨Message.encodeOption 15 value, ?_, ?_⟩
  · exact Message.encodeOptions_cons_eq_ok_iff.mpr
      ⟨Nat.le_of_ble_eq_true rfl, by omega, [], rfl, (List.append_nil _).symm⟩
  · rw [hhead, hoption, show Message.encodePayload (ping value).payload = [] from rfl, List.append_nil]
    rfl

/-- It is rejected. -/
theorem answerAt_ping (value : Bytes) :
    (listening.answerAt 0 ear ⟨.v4 0, 5683⟩ 1 .dispatcher ⟨(ping value).onWire, caller⟩).2 =
      [⟨[0x70, 0, 0, 7], caller⟩] := by
  have hcode : (ping value).onWire.code = .empty := show Code.ofByte Code.empty.toByte = _ by decide
  have hdeliver : listening.deliver ⟨(ping value).onWire, caller⟩ none =
      (listening, some (reset ⟨ping [], caller⟩ none)) := by
    rw [deliver, hcode]
    rfl
  rw [answerAt, messagesFor, deliverTo, hdeliver]
  rfl

/-- A datagram of 1153 octets that holds no message, for its last octet is a marker without a payload, is
rejected like the message in the 1152 octets before. -/
theorem excessive_delivered :
    let bytes : Bytes := [0x40, 0, 0, 7, 0xDE, 2, 3, 0x6B] ++ List.replicate 1144 0x61
    Message.decode (bytes ++ [0xFF]) = .error .emptyPayload ∧
      (listening.receive 0 ⟨bytes ++ [0xFF], caller⟩).2 = [⟨[0x70, 0, 0, 7], caller⟩] := by
  intro bytes
  obtain ⟨hread, hwhole⟩ := Message.decode_append_marker (encode_ping List.length_replicate) rfl
  have hsize : bytes.length = Udp.maxDatagram := by
    rw [List.length_append, List.length_replicate]
    rfl
  have hreceived : Udp.received (bytes ++ [0xFF]) = bytes := by
    rw [Udp.received, ← hsize]
    exact List.take_left
  refine ⟨hwhole, ?_⟩
  rw [listens_listening.receive_eq, hreceived, hread]
  exact answerAt_ping (List.replicate 1144 0x61)

end Coap.Server
