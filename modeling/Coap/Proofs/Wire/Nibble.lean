import Coap.Proofs.Wire.Octet

/-!
# Deltas and lengths on the wire

A number up to 65535 has exactly one form as a nibble with its extension, the shortest one: it is read
back from any octets that begin with it (`Nibble.decode_encode`), and nothing else is read as that
number (`Nibble.eq_encode_of_decode`). So no form is overlong at 12, 13, 268 or 269.
-/

namespace Coap.Nibble

/-! ### Reading what was written -/

/-- A nibble is at most 14; 15 is reserved. -/
theorem encode_fst_lt (n : Nat) : (encode n).1.toNat < 15 := by
  unfold encode
  split
  · show (14 : UInt8).toNat < 15
    decide
  · split
    · show (13 : UInt8).toNat < 15
      decide
    · show n.toUInt8.toNat < 15
      rw [UInt8.toNat_ofNat']
      omega

/-- A nibble below 13 is the number itself. -/
theorem decode_of_small {nibble : UInt8} (h : nibble.toNat < 13) (bytes : Bytes)
    (reserved : OptionError) : decode nibble bytes reserved = .ok (nibble.toNat, bytes) := by
  have hne (k : UInt8) (hk : 13 ≤ k.toNat) : nibble ≠ k := by
    rintro rfl
    omega
  unfold decode
  rw [if_neg (hne 15 (by decide)), if_neg (hne 14 (by decide)), if_neg (hne 13 (by decide))]

/-- A nibble of 13 and one further octet. -/
theorem decode_one (b : UInt8) (rest : Bytes) (reserved : OptionError) :
    decode 13 (b :: rest) reserved = .ok (b.toNat + 13, rest) := rfl

/-- A nibble of 14 and two further octets. -/
theorem decode_two {hi lo : UInt8} (h : hi.toNat * 256 + lo.toNat + 269 ≤ 65535) (rest : Bytes)
    (reserved : OptionError) :
    decode 14 (hi :: lo :: rest) reserved = .ok (hi.toNat * 256 + lo.toNat + 269, rest) :=
  if_neg (Nat.not_lt.mpr h)

/-- A number of at most 16 bits is read back, and what follows it is left. -/
theorem decode_encode {n : Nat} (h : n ≤ 65535) (rest : Bytes) (reserved : OptionError) :
    decode (encode n).1 ((encode n).2 ++ rest) reserved = .ok (n, rest) := by
  unfold encode
  split
  · next hlong =>
    have hn : ((n - 269) / 256).toUInt8.toNat * 256 + (n - 269).toUInt8.toNat + 269 = n := by
      rw [UInt8.toNat_ofNat', UInt8.toNat_ofNat']
      omega
    refine (decode_two ?_ rest reserved).trans ?_
    · rw [hn]
      exact h
    · rw [hn]
  · split
    · have hn : (n - 13).toUInt8.toNat + 13 = n := by
        rw [UInt8.toNat_ofNat']
        omega
      refine (decode_one _ rest reserved).trans ?_
      rw [hn]
    · have hn : n.toUInt8.toNat = n := by
        rw [UInt8.toNat_ofNat']
        omega
      refine (decode_of_small ?_ rest reserved).trans ?_
      · show n.toUInt8.toNat < 13
        omega
      · rw [hn]

/-! ### What can be read -/

/-- Two further octets are those of the number that they stand for. -/
theorem encode_of_two (hi lo : UInt8) :
    encode (hi.toNat * 256 + lo.toNat + 269) = (14, [hi, lo]) := by
  have hlo := lo.toNat_lt
  have hhi := hi.toNat_lt
  have hdiv : (hi.toNat * 256 + lo.toNat + 269 - 269) / 256 = hi.toNat := by omega
  have hmod : (hi.toNat * 256 + lo.toNat + 269 - 269).toUInt8 = lo := by
    apply UInt8.toNat_inj.mp
    rw [UInt8.toNat_ofNat']
    omega
  unfold encode
  rw [if_pos (by omega), hdiv, hmod]
  simp

/-- One further octet is that of the number that it stands for. -/
theorem encode_of_one (b : UInt8) : encode (b.toNat + 13) = (13, [b]) := by
  have hb := b.toNat_lt
  unfold encode
  rw [if_neg (by omega), if_pos (by omega)]
  simp

/-- A nibble below 13 is that of its own number. -/
theorem encode_of_small {b : UInt8} (h : b.toNat < 13) : encode b.toNat = (b, []) := by
  unfold encode
  rw [if_neg (by omega), if_neg (by omega)]
  simp

/-- Only the form that `encode` chooses is read, and only for a number of at most 16 bits. -/
theorem eq_encode_of_decode {nibble : UInt8} {bytes rest : Bytes} {reserved : OptionError} {n : Nat}
    (hnibble : nibble.toNat < 16) (h : decode nibble bytes reserved = .ok (n, rest)) :
    n ≤ 65535 ∧ nibble = (encode n).1 ∧ bytes = (encode n).2 ++ rest := by
  unfold decode at h
  split at h
  · cases h
  · next h15 =>
    split at h
    · next h14 =>
      split at h
      · next hi lo tail =>
        dsimp only at h
        split at h
        · cases h
        · next hle =>
          cases h
          rw [encode_of_two]
          exact ⟨by omega, h14, rfl⟩
      · cases h
    · next h14 =>
      split at h
      · next h13 =>
        split at h
        · next b tail =>
          cases h
          have hb := b.toNat_lt
          rw [encode_of_one]
          exact ⟨by omega, h13, rfl⟩
        · cases h
      · next h13 =>
        cases h
        -- of the nibbles below 16 the three that have a meaning of their own are ruled out
        have hsmall : nibble.toNat < 13 := by
          have h15 : nibble.toNat ≠ 15 := fun e => h15 (UInt8.toNat_inj.mp e)
          have h14 : nibble.toNat ≠ 14 := fun e => h14 (UInt8.toNat_inj.mp e)
          have h13 : nibble.toNat ≠ 13 := fun e => h13 (UInt8.toNat_inj.mp e)
          omega
        rw [encode_of_small hsmall]
        exact ⟨by omega, rfl, rfl⟩

/-- Reading a nibble does not end the options. -/
theorem ne_exhausted_of_decode {nibble : UInt8} {bytes : Bytes} {reserved : OptionError}
    (hreserved : reserved ≠ .exhausted) : decode nibble bytes reserved ≠ .error .exhausted := by
  intro h
  unfold decode at h
  split at h
  · exact hreserved (Except.error.inj h)
  · split at h
    · split at h
      · dsimp only at h
        split at h <;> cases h
      · cases h
    · split at h
      · split at h <;> cases h
      · cases h

end Coap.Nibble
