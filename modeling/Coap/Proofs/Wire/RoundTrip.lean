import Coap.Proofs.Wire.Datagram

/-!
# Round trips over the wire

Writing and reading a message, in both orders. What was written is read as the message that the wire
keeps of it, whatever its fields hold; and a datagram that is read is the one that is written for the
message in it. So the datagrams that can be read are exactly those of messages that fit, and each of
these messages has one datagram.

* `Message.decode_of_encode` — reading what was written.
* `Message.encode_of_decode` — writing what was read.
-/

namespace Coap.Message

/-- The wire keeps a message as it is exactly if it fits. -/
theorem onWire_eq_self_iff (m : Message) : m.onWire = m ↔ m.Fits := by
  have hversion : m.version % 4 = m.version ↔ m.version < 4 := by
    rw [← UInt8.toNat_inj, UInt8.toNat_mod, UInt8.lt_iff_toNat_lt]
    show m.version.toNat % 4 = m.version.toNat ↔ m.version.toNat < 4
    omega
  rw [Fits, ← hversion, ← Code.ofByte_toByte_iff, ← Options.dropEmpty_eq_self_iff]
  constructor
  · intro h
    exact ⟨congrArg version h, congrArg code h, congrArg options h⟩
  · rintro ⟨hv, hc, ho⟩
    unfold onWire
    rw [hv, hc, ho]

/-- What the wire keeps of a message fits. -/
theorem fits_onWire (m : Message) : m.onWire.Fits := by
  refine ⟨?_, Code.fits_ofByte _, Options.hasValues_dropEmpty _⟩
  rw [UInt8.lt_iff_toNat_lt]
  show (m.version % 4).toNat < 4
  rw [UInt8.toNat_mod]
  exact Nat.mod_lt _ (by decide)

/-! ### Reading what was written -/

/-- The datagram of a message is read as what the wire keeps of the message. -/
theorem decode_eq_onWire {m : Message} {bytes : Bytes} (h : m.encode = .ok bytes) :
    decode bytes = .ok m.onWire := by
  obtain ⟨enc, henc, rfl⟩ := encode_eq_ok_iff.mp h
  obtain ⟨hversion, hcode, -⟩ := m.fits_onWire
  have hoptions : decodeOptions 0 [] (enc ++ encodePayload m.payload) =
      .ok (m.options.instances, encodePayload m.payload) :=
    decodeOptions_encodeOptions (Options.inOrder_instances _) (fun _ _ => Nat.zero_le _) henc
      (decodeOption_encodePayload _)
  rw [← encodeHead_onWire]
  exact decode_eq_ok_iff.mpr ⟨⟨hversion, hcode⟩, _, _, _, rfl, hoptions,
    (Options.ofInstances_instances _).symm, decodePayload_encodePayload _⟩

/-- The datagram of a message that fits is read as the message. -/
theorem decode_of_fits {m : Message} {bytes : Bytes} (hfits : m.Fits) (h : m.encode = .ok bytes) :
    decode bytes = .ok m := by
  rw [decode_eq_onWire h, m.onWire_eq_self_iff.mpr hfits]

/-- **Reading what was written.** The datagram of a message is read as what the wire keeps of the
message, and so as the message itself exactly if that fits. -/
theorem decode_of_encode {m : Message} {bytes : Bytes} (h : m.encode = .ok bytes) :
    decode bytes = .ok m.onWire ∧ (decode bytes = .ok m ↔ m.Fits) := by
  refine ⟨decode_eq_onWire h, ?_⟩
  rw [decode_eq_onWire h, Except.ok.injEq, onWire_eq_self_iff]

/-- A message of which the wire does not keep everything: the version and the class of the code lose
their upper bits, the detail spills into the class, and one of three options has no value. -/
def overfull : Message :=
  { type := .non, version := 5, code := ⟨9, 0x45⟩, id := 0x1234, token := ⟨[0xA0, 0xA1], by decide⟩,
    options := ((Options.addAll .empty ⟨1⟩ []).addAll ⟨11⟩ [[0x61], []]).add ⟨300⟩ [0xFF],
    payload := [0xFF] }

/-- The datagram of `overfull`. -/
def overfullBytes : Bytes :=
  [0x52, 0x65, 0x12, 0x34, 0xA0, 0xA1, 0xB1, 0x61, 0x00, 0xE1, 0x00, 0x14, 0xFF, 0xFF, 0xFF]

theorem encode_overfull : overfull.encode = .ok overfullBytes := by rfl

theorem decode_of_encode_overfull :
    overfull.encode = .ok overfullBytes ∧ decode overfullBytes = .ok overfull.onWire ∧
      (decode overfullBytes = .ok overfull ↔ overfull.Fits) ∧ ¬ overfull.Fits :=
  ⟨encode_overfull, (decode_of_encode encode_overfull).1, (decode_of_encode encode_overfull).2,
    by decide⟩

/-! ### Writing what was read -/

/-- A message that was read fits, and is written as it was read. -/
theorem fits_and_encode_of_decode {bytes : Bytes} {m : Message} (h : decode bytes = .ok m) :
    m.Fits ∧ m.encode = .ok bytes := by
  obtain ⟨⟨hversion, hcode⟩, body, instances, tail, rfl, ho, hoptions, hp⟩ := parts_of_decode h
  obtain ⟨_, enc, rfl, hinOrder, -, henc, rfl, htail⟩ := encodeOptions_of_decodeOptions ho
  refine ⟨⟨hversion, hcode, hoptions ▸ Options.hasValues_ofInstances _⟩, ?_⟩
  rw [encode_eq_ok_iff, hoptions]
  exact ⟨enc, by rwa [Options.instances_ofInstances hinOrder],
    by rw [eq_encodePayload_of_decodePayload htail hp]⟩

/-- **Writing what was read.** A datagram, however long, holds a message exactly if the message fits and
the datagram is the one that is written for it. Two datagrams that hold the same message are the same. -/
theorem encode_of_decode (bytes : Bytes) :
    (∀ m, decode bytes = .ok m ↔ m.Fits ∧ m.encode = .ok bytes) ∧
      ∀ m other, decode bytes = .ok m → decode other = .ok m → bytes = other := by
  refine ⟨fun m => ⟨fits_and_encode_of_decode, ?_⟩, ?_⟩
  · rintro ⟨hfits, henc⟩
    exact decode_of_fits hfits henc
  · intro m other hbytes hsame
    have henc := (fits_and_encode_of_decode hbytes).2
    rw [(fits_and_encode_of_decode hsame).2] at henc
    exact (Except.ok.inj henc).symm

theorem encode_of_decode_overfull :
    decode overfullBytes = .ok overfull.onWire ∧
      overfull.onWire.Fits ∧ overfull.onWire.encode = .ok overfullBytes := by
  have hread : decode overfullBytes = .ok overfull.onWire := decode_eq_onWire encode_overfull
  exact ⟨hread, ((encode_of_decode overfullBytes).1 _).mp hread⟩

end Coap.Message
