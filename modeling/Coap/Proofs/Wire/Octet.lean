import Coap.Message.Encode
import Coap.Message.Decode

/-!
# Bit fields of octets

The header of a message and those of its options pack several numbers into one octet. Shifting,
masking and joining are division, remainder and a sum on the numbers, which is the form in which the
modules above this one use them.

* `Octet.toNat_shiftLeft_or` — what two fields joined in one octet stand for.
* `Code.ofByte_toByte_iff`, `Code.toByte_ofByte` — for which codes the octet is faithful.
* `Message.headByte_toNat` — the first octet of a datagram as a number.
-/

namespace Coap

namespace Octet

/-! ### Fields of an octet

The weight `m` of a field is a power of two; it is named by a shift of 1, and `rfl` finds it for a
given place. -/

/-- Two fields in one octet: the upper one loses what does not fit above the lower one. -/
theorem toNat_shiftLeft_or {hi lo k : UInt8} {m n : Nat} (hm : 1 <<< k.toNat = m) (hn : m * n = 256)
    (hk : k.toNat < 8) (hlo : lo.toNat < m) :
    ((hi <<< k) ||| lo).toNat = m * (hi.toNat % n) + lo.toNat := by
  have hpow : 2 ^ k.toNat = m := by rw [← hm, Nat.shiftLeft_eq, Nat.one_mul]
  have hshift : hi.toNat <<< k.toNat % 256 = m * (hi.toNat % n) := by
    rw [Nat.shiftLeft_eq, hpow, Nat.mul_comm, ← Nat.mul_mod_mul_left, hn]
  rw [UInt8.toNat_or, UInt8.toNat_shiftLeft, Nat.mod_eq_of_lt hk]
  show hi.toNat <<< k.toNat % 256 ||| lo.toNat = _
  rw [hshift, ← hpow, ← Nat.two_pow_add_eq_or_of_lt (hpow.symm ▸ hlo)]

/-- The upper field is the quotient. -/
theorem toNat_shiftRight {b k : UInt8} {m : Nat} (hm : 1 <<< k.toNat = m) (hk : k.toNat < 8) :
    (b >>> k).toNat = b.toNat / m := by
  rw [UInt8.toNat_shiftRight, Nat.mod_eq_of_lt hk, Nat.shiftRight_eq_div_pow, ← hm,
    Nat.shiftLeft_eq, Nat.one_mul]

/-- The lower field is the remainder. -/
theorem toNat_and_mask {b mask : UInt8} {m k : Nat} (hm : 1 <<< k = m) (h : mask.toNat = m - 1) :
    (b &&& mask).toNat = b.toNat % m := by
  rw [UInt8.toNat_and, h, ← hm, Nat.shiftLeft_eq, Nat.one_mul, Nat.and_two_pow_sub_one_eq_mod]

/-! ### Halves of an octet -/

@[simp] theorem toNat_upper (b : UInt8) : (b >>> 4).toNat = b.toNat / 16 :=
  toNat_shiftRight (k := 4) rfl (by decide)

@[simp] theorem toNat_lower (b : UInt8) : (b &&& 0x0F).toNat = b.toNat % 16 :=
  toNat_and_mask (k := 4) rfl rfl

/-- The two bits at the top. -/
theorem toNat_top (b : UInt8) : (b >>> 6).toNat = b.toNat / 64 :=
  toNat_shiftRight (k := 6) rfl (by decide)

/-- Two halves that fit are the digits of the octet to base 16. -/
theorem toNat_join {hi lo : UInt8} (hhi : hi.toNat < 16) (hlo : lo.toNat < 16) :
    ((hi <<< 4) ||| lo).toNat = 16 * hi.toNat + lo.toNat := by
  rw [toNat_shiftLeft_or (k := 4) (m := 16) (n := 16) rfl rfl (by decide) hlo, Nat.mod_eq_of_lt hhi]

/-- The upper half of two halves put together. -/
theorem upper_join {hi lo : UInt8} (hhi : hi.toNat < 16) (hlo : lo.toNat < 16) :
    ((hi <<< 4) ||| lo) >>> 4 = hi := by
  apply UInt8.toNat_inj.mp
  rw [toNat_upper, toNat_join hhi hlo]
  omega

/-- The lower half of two halves put together. -/
theorem lower_join {hi lo : UInt8} (hhi : hi.toNat < 16) (hlo : lo.toNat < 16) :
    ((hi <<< 4) ||| lo) &&& 0x0F = lo := by
  apply UInt8.toNat_inj.mp
  rw [toNat_lower, toNat_join hhi hlo]
  omega

/-- An octet is its two halves put together. -/
theorem join_halves (b : UInt8) : ((b >>> 4) <<< 4) ||| (b &&& 0x0F) = b := by
  have hhi : (b >>> 4).toNat < 16 := by have := b.toNat_lt; rw [toNat_upper]; omega
  have hlo : (b &&& 0x0F).toNat < 16 := by rw [toNat_lower]; omega
  apply UInt8.toNat_inj.mp
  rw [toNat_join hhi hlo, toNat_upper, toNat_lower]
  omega

end Octet

/-! ### Codes -/

namespace Code

/-- The octet of a code, as a number. The bits of the class beyond the third are lost. -/
theorem toByte_toNat {c : Code} (h : c.detail.toNat < 32) :
    c.toByte.toNat = 32 * (c.cls.toNat % 8) + c.detail.toNat :=
  Octet.toNat_shiftLeft_or (k := 5) rfl rfl (by decide) h

theorem ofByte_cls (b : UInt8) : (ofByte b).cls.toNat = b.toNat / 32 :=
  Octet.toNat_shiftRight (k := 5) rfl (by decide)

theorem ofByte_detail (b : UInt8) : (ofByte b).detail.toNat = b.toNat % 32 :=
  Octet.toNat_and_mask (k := 5) rfl rfl

/-- A code fits its octet if class and detail are in range. -/
theorem fits_iff_toNat (c : Code) : c.Fits ↔ c.cls.toNat < 8 ∧ c.detail.toNat < 32 := by
  rw [Fits, UInt8.lt_iff_toNat_lt, UInt8.lt_iff_toNat_lt]
  exact Iff.rfl

/-- A code that was read fits its octet. -/
theorem fits_ofByte (b : UInt8) : (ofByte b).Fits := by
  have hb := b.toNat_lt
  rw [fits_iff_toNat, ofByte_cls, ofByte_detail]
  omega

/-- An octet is that of the code that it stands for. -/
@[simp] theorem toByte_ofByte (b : UInt8) : (ofByte b).toByte = b := by
  have hdetail := ofByte_detail b
  apply UInt8.toNat_inj.mp
  rw [toByte_toNat (by omega), hdetail, ofByte_cls]
  have hb := b.toNat_lt
  omega

/-- Exactly the codes that fit their octet are read as they were written. -/
theorem ofByte_toByte_iff (c : Code) : ofByte c.toByte = c ↔ c.Fits := by
  constructor
  · intro h
    exact h ▸ fits_ofByte c.toByte
  · intro h
    obtain ⟨hcls, hdetail⟩ := (fits_iff_toNat c).mp h
    have hbyte := toByte_toNat hdetail
    have hc : (ofByte c.toByte).cls = c.cls := by
      apply UInt8.toNat_inj.mp
      rw [ofByte_cls, hbyte]
      omega
    have hd : (ofByte c.toByte).detail = c.detail := by
      apply UInt8.toNat_inj.mp
      rw [ofByte_detail, hbyte]
      omega
    calc ofByte c.toByte = ⟨(ofByte c.toByte).cls, (ofByte c.toByte).detail⟩ := rfl
      _ = ⟨c.cls, c.detail⟩ := by rw [hc, hd]
      _ = c := rfl

end Code

/-! ### Types -/

namespace MessageType

theorem toByte_lt (t : MessageType) : t.toByte.toNat < 4 := by
  cases t <;> decide

/-- The type that a number stands for has this number. -/
theorem toByte_of_ofByte? {b : UInt8} {t : MessageType} (h : ofByte? b = some t) :
    t.toByte = b := by
  unfold ofByte? at h
  split at h
  · next hb => cases h; exact hb.symm
  · split at h
    · next hb => cases h; exact hb.symm
    · split at h
      · next hb => cases h; exact hb.symm
      · split at h
        · next hb => cases h; exact hb.symm
        · cases h

/-- A number is that of a type, and this type is read from it. -/
theorem decode_eq_ok_iff {b : UInt8} {t : MessageType} : decode b = .ok t ↔ b = t.toByte := by
  constructor
  · intro h
    unfold decode at h
    split at h
    · next ht => cases h; exact (toByte_of_ofByte? ht).symm
    · cases h
  · rintro rfl
    simp [decode]

end MessageType

/-! ### The first octet -/

namespace Message

/-- The first octet of a datagram: two bits of version, two of type, four for the length of the
token. -/
theorem headByte_toNat (m : Message) :
    m.headByte.toNat = 64 * (m.version.toNat % 4) +
      (16 * m.type.toByte.toNat + m.token.bytes.length) := by
  have ht := m.type.toByte_lt
  have hlen := m.token.length_le
  have hl : (m.token.bytes.length.toUInt8 &&& 0x0F).toNat = m.token.bytes.length := by
    rw [Octet.toNat_lower, UInt8.toNat_ofNat']
    omega
  have hlow : ((m.type.toByte <<< 4) ||| (m.token.bytes.length.toUInt8 &&& 0x0F)).toNat =
      16 * m.type.toByte.toNat + m.token.bytes.length := by
    rw [Octet.toNat_join (by omega) (by omega), hl]
  rw [headByte, UInt8.or_assoc,
    Octet.toNat_shiftLeft_or (k := 6) (m := 64) (n := 4) rfl rfl (by decide) (by omega), hlow]

end Message

end Coap
