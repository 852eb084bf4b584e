import Coap.Message.Basic
import Coap.Message.Nibble

/-!
# Messages from datagrams

`Message.decode` reads a datagram. The header comes first, then the token, the options up to the
payload marker or the end, and the payload; the first thing that is wrong is reported. The number of an
option is added up in 32 bits, and a sum that exceeds them is no error of the datagram: nothing checks
for it, and reading halts there.

* `Message.decodeOption` — one option: its distance from the one before, its value, and what is left.
* `Message.decodeOptions` — options as long as there are any, with their absolute numbers.
-/

namespace Coap

/-- Why a datagram holds no message. -/
inductive DecodeError where
  /-- The header or the token is cut short. -/
  | truncated
  /-- The header announces a token of more than eight octets. -/
  | tokenLength (length : UInt8)
  /-- The options are wrong. -/
  | option (cause : OptionError)
  /-- No message type has this number. -/
  | invalidType (number : UInt8)
  /-- There is a payload marker without a payload. -/
  | emptyPayload
  /-- The number of an option exceeds 32 bits. This is not reported: the reader halts. -/
  | fault
deriving DecidableEq, Repr, Inhabited

/-- What went wrong, for people. -/
def DecodeError.message : DecodeError → String
  | .truncated => "unexpected end of message"
  | .tokenLength n => s!"token length {n.toNat} is greater than 8"
  | .option e => s!"invalid option: {e.message}"
  | .invalidType n => s!"invalid message type {n.toNat}"
  | .emptyPayload => "payload marker followed by empty payload"
  | .fault => "attempt to add with overflow"

/-- The message type with a given number. -/
def MessageType.decode (b : UInt8) : Except DecodeError MessageType :=
  match MessageType.ofByte? b with
  | some t => .ok t
  | none => .error (.invalidType b)

namespace Message

/-- The octet that stands before the payload. -/
def payloadMarker : UInt8 := 0xFF

/-- The first `n` octets and the rest, if there are that many. -/
def takeExact (n : Nat) (bytes : Bytes) : Option (Bytes × Bytes) :=
  let taken := bytes.take n
  if taken.length < n then none else some (taken, bytes.drop n)

/-- One option: its distance from the one before, its value, and what is left. Where no option
begins, that is at the end or at the payload marker, it reports that there are no more. -/
def decodeOption : Bytes → Except OptionError (Nat × Bytes × Bytes)
  | [] => .error .exhausted
  | head :: rest =>
    if head = payloadMarker then .error .exhausted
    else do
      let (delta, rest) ← Nibble.decode (head >>> 4) rest (.reservedDelta 15)
      let (length, rest) ← Nibble.decode (head &&& 0x0F) rest (.reservedLength 15)
      match takeExact length rest with
      | some (value, rest) => .ok (delta, value, rest)
      | none => .error .truncated

/-- An option takes up at least one octet. -/
theorem length_lt_of_decodeOption {bytes value rest : Bytes} {delta : Nat}
    (h : decodeOption bytes = .ok (delta, value, rest)) : rest.length < bytes.length := by
  unfold decodeOption at h
  split at h
  · simp at h
  · next head tail =>
    split at h
    · simp at h
    · cases hd : Nibble.decode (head >>> 4) tail (.reservedDelta 15) with
      | error e => simp [hd, bind, Except.bind] at h
      | ok p =>
        obtain ⟨d, rest₁⟩ := p
        cases hl : Nibble.decode (head &&& 0x0F) rest₁ (.reservedLength 15) with
        | error e => simp [hd, hl, bind, Except.bind] at h
        | ok q =>
          obtain ⟨l, rest₂⟩ := q
          have h₁ := Nibble.length_le_of_decode hd
          have h₂ := Nibble.length_le_of_decode hl
          simp only [hd, hl, bind, Except.bind] at h
          split at h
          · next hv =>
            unfold takeExact at hv
            simp only at hv
            split at hv
            · simp at hv
            · simp only [Option.some.injEq, Prod.mk.injEq] at hv
              simp only [Except.ok.injEq, Prod.mk.injEq] at h
              obtain ⟨-, -, rfl⟩ := h
              rw [← hv.2]
              simp only [List.length_drop, List.length_cons]
              omega
          · simp at h

/-- Options as long as there are any, with their numbers, and what is left. `number` is that of the
option before, and `done` holds the options before, last one first. -/
def decodeOptions (number : UInt32) (done : List (OptionNumber × Bytes)) (bytes : Bytes) :
    Except DecodeError (List (OptionNumber × Bytes) × Bytes) :=
  match _h : decodeOption bytes with
  | .ok (delta, value, rest) =>
    if number.toNat + delta < UInt32.size then
      let number := number + delta.toUInt32
      decodeOptions number ((⟨number⟩, value) :: done) rest
    else .error .fault
  | .error .exhausted => .ok (done.reverse, bytes)
  | .error e => .error (.option e)
termination_by bytes.length
decreasing_by exact length_lt_of_decodeOption ‹_›

/-- The payload behind its marker; nothing at all is an empty payload. -/
def decodePayload : Bytes → Except DecodeError Bytes
  | [] => .ok []
  | [_] => .error .emptyPayload
  | _ :: payload => .ok payload

/-- The message in a datagram. -/
def decode : Bytes → Except DecodeError Message
  | head :: code :: hi :: lo :: rest => do
    let type ← MessageType.decode (head >>> 4 &&& 0x03)
    let tokenLength := head &&& 0x0F
    if 8 < tokenLength then .error (.tokenLength tokenLength)
    else
      match takeExact tokenLength.toNat rest with
      | none => .error .truncated
      | some (octets, rest) =>
        match Token.ofBytes? octets with
        | none => .error (.tokenLength tokenLength)
        | some token => do
          let (instances, rest) ← decodeOptions 0 [] rest
          let payload ← decodePayload rest
          return {
            type
            version := head >>> 6
            code := .ofByte code
            id := hi.toUInt16 * 256 + lo.toUInt16
            token
            options := .ofInstances instances
            payload }
  | _ => .error .truncated

end Message

end Coap
