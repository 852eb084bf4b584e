import Coap.Proofs.Wire.Options

/-!
# Datagrams

What stands where in a datagram. `Message.decode_eq_ok_iff` takes the reader apart once and for all: a
datagram holds a message exactly if it begins with the head that `encodeHead` writes, the options behind
it can be read, and so can the payload behind these. All statements about whole datagrams follow from
it and from the theory of options.

* `Message.decode_eq_ok_iff` — the parts of a datagram that holds a message.
* `Message.encode_eq_ok_iff` — the parts of the datagram of a message.
* `Message.encodeHead_onWire` — the head says no more of a message than what the wire keeps.
-/

namespace Coap

/-- A token that was read has the octets that it was read from. -/
theorem Token.bytes_of_ofBytes? {bytes : Bytes} {t : Token} (h : ofBytes? bytes = some t) :
    t.bytes = bytes := by
  unfold ofBytes? at h
  split at h
  · cases h
    rfl
  · cases h

namespace Message

/-! ### Head -/

/-- The three fields of the first octet determine it, if the version fits. -/
theorem eq_headByte_iff {m : Message} {head : UInt8} (hversion : m.version.toNat < 4) :
    head = m.headByte ↔
      head >>> 4 &&& 0x03 = m.type.toByte ∧ head >>> 6 = m.version ∧
        (head &&& 0x0F).toNat = m.token.bytes.length := by
  have hhead := head.toNat_lt
  have htype := m.type.toByte_lt
  have hlen := m.token.length_le
  have ht : (head >>> 4 &&& 0x03).toNat = head.toNat / 16 % 4 := by
    rw [Octet.toNat_and_mask (k := 2) (m := 4) rfl rfl, Octet.toNat_upper]
  have hv := Octet.toNat_top head
  rw [← UInt8.toNat_inj, ← UInt8.toNat_inj, ← UInt8.toNat_inj, headByte_toNat, ht, hv,
    Octet.toNat_lower]
  omega

/-- The two octets of an id give it back. -/
theorem id_of_octets (id : UInt16) :
    (id >>> 8).toUInt8.toUInt16 * 256 + id.toUInt8.toUInt16 = id := by
  have hid := id.toNat_lt
  apply UInt16.toNat_inj.mp
  simp only [UInt16.toNat_add, UInt16.toNat_mul, UInt8.toNat_toUInt16, UInt16.toNat_toUInt8,
    UInt16.toNat_shiftRight, Nat.shiftRight_eq_div_pow, UInt16.reduceToNat, Nat.reduceMod,
    Nat.reducePow]
  omega

/-- The id that two octets stand for has these octets. -/
theorem octets_of_id (hi lo : UInt8) :
    ((hi.toUInt16 * 256 + lo.toUInt16) >>> 8).toUInt8 = hi ∧
      (hi.toUInt16 * 256 + lo.toUInt16).toUInt8 = lo := by
  have hhi := hi.toNat_lt
  have hlo := lo.toNat_lt
  constructor <;>
  · apply UInt8.toNat_inj.mp
    simp only [UInt16.toNat_add, UInt16.toNat_mul, UInt8.toNat_toUInt16, UInt16.toNat_toUInt8,
      UInt16.toNat_shiftRight, Nat.shiftRight_eq_div_pow, UInt16.reduceToNat, Nat.reduceMod,
      Nat.reducePow]
    omega

/-! ### Payload -/

/-- The payload, or its absence, ends the options. -/
theorem decodeOption_encodePayload (payload : Bytes) :
    decodeOption (encodePayload payload) = .error .exhausted := by
  rw [decodeOption_eq_exhausted_iff]
  cases payload with
  | nil => exact .inl rfl
  | cons b rest => exact .inr ⟨b :: rest, rfl⟩

theorem decodePayload_encodePayload (payload : Bytes) :
    decodePayload (encodePayload payload) = .ok payload := by
  cases payload <;> rfl

/-- Where the options end, only the marker and the octets of the payload are read as it. -/
theorem eq_encodePayload_of_decodePayload {tail payload : Bytes}
    (hend : decodeOption tail = .error .exhausted) (h : decodePayload tail = .ok payload) :
    tail = encodePayload payload := by
  rcases decodeOption_eq_exhausted_iff.mp hend with rfl | ⟨rest, rfl⟩
  · cases h
    rfl
  · cases rest with
    | nil => cases h
    | cons b rest =>
      cases h
      rfl

/-! ### Whole datagrams -/

theorem length_encodeHead (m : Message) : m.encodeHead.length = 4 + m.token.bytes.length := by
  rw [encodeHead, List.length_cons, List.length_cons, List.length_cons, List.length_cons]
  omega

theorem mapError_ok {ε ε' α : Type} (f : ε → ε') (a : α) :
    (Except.ok a : Except ε α).mapError f = .ok a := rfl

/-- The parts of a datagram from which a message was read. Of its header fields, version and code fit
their bits. -/
theorem parts_of_decode {bytes : Bytes} {m : Message} (h : decode bytes = .ok m) :
    (m.version < 4 ∧ m.code.Fits) ∧ ∃ body instances tail,
      bytes = m.encodeHead ++ body ∧ decodeOptions 0 [] body = .ok (instances, tail) ∧
        m.options = .ofInstances instances ∧ decodePayload tail = .ok m.payload := by
  unfold decode at h
  split at h
  · next head code hi lo rest =>
    cases ht : MessageType.decode (head >>> 4 &&& 0x03) with
    | error e => rw [ht] at h; cases h
    | ok type =>
      simp only [ht, bind, Except.bind] at h
      split at h
      · cases h
      · split at h
        · cases h
        · next octets body hoctets =>
          split at h
          · cases h
          · next token htoken =>
            cases ho : decodeOptions 0 [] body with
            | error e => rw [ho] at h; cases h
            | ok p =>
              obtain ⟨instances, tail⟩ := p
              cases hp : decodePayload tail with
              | error e => simp [ho, hp] at h
              | ok payload =>
                simp only [ho, hp] at h
                -- nothing failed: the fields of `m` are those that were read
                obtain ⟨hlen, rfl⟩ := takeExact_eq_some_iff.mp hoctets
                obtain rfl := Token.bytes_of_ofBytes? htoken
                have hm := Except.ok.inj h
                have hversion : (head >>> 6).toNat < 4 := by
                  have := head.toNat_lt
                  rw [Octet.toNat_top]
                  omega
                have hhead : head = m.headByte := by
                  subst hm
                  exact (eq_headByte_iff hversion).mpr
                    ⟨MessageType.decode_eq_ok_iff.mp ht, rfl, hlen.symm⟩
                refine ⟨?_, body, instances, tail, ?_, ho, hm ▸ rfl, hm ▸ hp⟩
                · subst hm
                  exact ⟨UInt8.lt_iff_toNat_lt.mpr hversion, Code.fits_ofByte code⟩
                · rw [encodeHead, ← hhead]
                  subst hm
                  dsimp only
                  rw [Code.toByte_ofByte, (octets_of_id hi lo).1, (octets_of_id hi lo).2]
                  rfl
  · cases h

/-- Behind a head, options and payload are read into the message of the head. -/
theorem decode_encodeHead {m : Message} (hm : m.version < 4 ∧ m.code.Fits) (body : Bytes) :
    decode (m.encodeHead ++ body) =
      (decodeOptions 0 [] body).bind fun read =>
        (decodePayload read.2).map fun payload => { m with options := .ofInstances read.1, payload } := by
  obtain ⟨ht, hv, hl⟩ := (eq_headByte_iff (UInt8.lt_iff_toNat_lt.mp hm.1)).mp rfl
  have hshort : ¬ 8 < m.headByte &&& 0x0F := by
    rw [UInt8.lt_iff_toNat_lt, hl]
    exact Nat.not_lt.mpr m.token.length_le
  have htoken : takeExact (m.headByte &&& 0x0F).toNat (m.token.bytes ++ body) =
      some (m.token.bytes, body) := takeExact_eq_some_iff.mpr ⟨hl.symm, rfl⟩
  have hof : Token.ofBytes? m.token.bytes = some m.token := dif_pos m.token.length_le
  simp only [encodeHead, List.cons_append, decode, bind, Except.bind, ht, hv, if_neg hshort,
    MessageType.decode_eq_ok_iff.mpr rfl, htoken, hof, id_of_octets,
    (Code.ofByte_toByte_iff m.code).mpr hm.2]
  cases decodeOptions 0 [] body with
  | error e => rfl
  | ok read =>
    dsimp only
    cases decodePayload read.2 <;> rfl

theorem decode_encodeHead_append {m : Message} (hm : m.version < 4 ∧ m.code.Fits) {body tail : Bytes}
    {instances : List (OptionNumber × Bytes)} (h : decodeOptions 0 [] body = .ok (instances, tail)) :
    decode (m.encodeHead ++ body) =
      (decodePayload tail).map fun payload => { m with options := .ofInstances instances, payload } := by
  rw [decode_encodeHead hm, h]
  rfl

/-- A datagram holds a message exactly if it begins with the head of the message, its options can be
read behind the head, and its payload behind these. -/
theorem decode_eq_ok_iff {bytes : Bytes} {m : Message} :
    decode bytes = .ok m ↔
      (m.version < 4 ∧ m.code.Fits) ∧ ∃ body instances tail,
        bytes = m.encodeHead ++ body ∧ decodeOptions 0 [] body = .ok (instances, tail) ∧
          m.options = .ofInstances instances ∧ decodePayload tail = .ok m.payload := by
  refine ⟨parts_of_decode, ?_⟩
  rintro ⟨hfields, body, instances, tail, rfl, ho, hoptions, hp⟩
  rw [decode_encodeHead_append hfields ho, hp, ← hoptions]
  rfl

/-- The datagram of a message: its head, its options and its payload. -/
theorem encode_eq_ok_iff {m : Message} {bytes : Bytes} :
    m.encode = .ok bytes ↔ ∃ enc, encodeOptions ⟨0⟩ [] m.options.instances = .ok enc ∧
      bytes = m.encodeHead ++ (enc ++ encodePayload m.payload) := by
  unfold encode
  cases encodeOptions ⟨0⟩ [] m.options.instances with
  | error e => simp [Except.map]
  | ok enc => simp [Except.map, eq_comm]

/-- The head says no more of a message than what the wire keeps. -/
theorem encodeHead_onWire (m : Message) : m.onWire.encodeHead = m.encodeHead := by
  have hbyte : m.onWire.headByte = m.headByte := by
    apply UInt8.toNat_inj.mp
    rw [headByte_toNat, headByte_toNat]
    show 64 * ((m.version % 4).toNat % 4) + _ = 64 * (m.version.toNat % 4) + _
    rw [UInt8.toNat_mod]
    show 64 * (m.version.toNat % 4 % 4) + _ = 64 * (m.version.toNat % 4) + _
    rw [Nat.mod_mod]
    rfl
  unfold encodeHead
  rw [hbyte]
  show _ :: (Code.ofByte m.code.toByte).toByte :: _ = _
  rw [Code.toByte_ofByte]
  rfl

end Message

end Coap
