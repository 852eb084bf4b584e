import Coap.Proofs.Text.Utf8
import Mathlib.Data.String.Basic

/-!
# The order of texts

Texts are compared by their characters, and octets by their values. UTF-8 is made so that both agree:
the octets of a greater character begin with a greater octet, or are as many and greater at the first
place where they differ.

* `Utf8.encodeChar_cases` — the octets of a character, by their number.
* `Utf8.encodeChar_append_lt` — the octets of a smaller character come first, whatever follows.
* `Text.bytes_lt_bytes_iff` — texts are in the order of their octets.
-/

namespace Coap

namespace Utf8

/-- The number of a character is what its octets hold in base 64, and there are no more octets than are
needed. -/
theorem encodeChar_cases (c : Char) :
    (∃ x, String.utf8EncodeChar c = [x] ∧ c.toNat = x.toNat ∧ x.toNat < 0x80) ∨
    (∃ x y, String.utf8EncodeChar c = [x, y] ∧ 0x80 ≤ c.toNat ∧
      c.toNat + 0xC0 * 64 + 0x80 = x.toNat * 64 + y.toNat ∧
      0xC0 ≤ x.toNat ∧ x.toNat < 0xE0 ∧ isTail y = true) ∨
    (∃ x y z, String.utf8EncodeChar c = [x, y, z] ∧ 0x800 ≤ c.toNat ∧
      c.toNat + 0xE0 * 4096 + 0x80 * 64 + 0x80 = x.toNat * 4096 + y.toNat * 64 + z.toNat ∧
      0xE0 ≤ x.toNat ∧ x.toNat < 0xF0 ∧ isTail y = true ∧ isTail z = true) ∨
    (∃ x y z u, String.utf8EncodeChar c = [x, y, z, u] ∧ 0x10000 ≤ c.toNat ∧
      c.toNat + 0xF0 * 262144 + 0x80 * 4096 + 0x80 * 64 + 0x80 =
        x.toNat * 262144 + y.toNat * 4096 + z.toNat * 64 + u.toNat ∧
      0xF0 ≤ x.toNat ∧ isTail y = true ∧ isTail z = true ∧ isTail u = true) := by
  have hvalid := toNat_valid c
  simp only [String.utf8EncodeChar, show c.val.toNat = c.toNat from rfl, isTail_iff]
  by_cases hone : c.toNat ≤ 127
  · refine .inl ⟨_, by rw [if_pos hone], ?_⟩
    simp only [UInt8.toNat_ofNat']
    omega
  · by_cases htwo : c.toNat ≤ 2047
    · refine .inr (.inl ⟨_, _, by rw [if_neg hone, if_pos htwo], ?_⟩)
      simp only [UInt8.toNat_ofNat']
      omega
    · by_cases hthree : c.toNat ≤ 65535
      · refine .inr (.inr (.inl ⟨_, _, _, by rw [if_neg hone, if_neg htwo, if_pos hthree], ?_⟩))
        simp only [UInt8.toNat_ofNat']
        omega
      · refine .inr (.inr (.inr ⟨_, _, _, _, by rw [if_neg hone, if_neg htwo, if_neg hthree], ?_⟩))
        simp only [UInt8.toNat_ofNat']
        omega

/-- **Order of characters.** The octets of a smaller character come before those of a greater one,
whatever follows them. -/
theorem encodeChar_append_lt {c d : Char} (h : c < d) (v w : Bytes) :
    String.utf8EncodeChar c ++ v < String.utf8EncodeChar d ++ w := by
  have hlt : c.toNat < d.toNat := h
  have hc := encodeChar_cases c
  have hd := encodeChar_cases d
  simp only [isTail_iff] at hc hd
  rcases hc with ⟨x, hc, _⟩ | ⟨x, y, hc, _⟩ | ⟨x, y, z, hc, _⟩ | ⟨x, y, z, u, hc, _⟩ <;>
    rcases hd with ⟨x', hd, _⟩ | ⟨x', y', hd, _⟩ | ⟨x', y', z', hd, _⟩ | ⟨x', y', z', u', hd, _⟩ <;>
      rw [hc, hd] <;>
        simp only [List.cons_append, List.nil_append, List.cons_lt_cons_iff, UInt8.lt_iff_toNat_lt,
          ← UInt8.toNat_inj] <;>
          omega

end Utf8

namespace Text

open Utf8

theorem encode_lt_encode {cs ds : List Char} (h : cs < ds) : encode cs < encode ds := by
  induction cs generalizing ds with
  | nil =>
    cases ds with
    | nil => exact absurd h (List.not_lt_nil [])
    | cons d ds =>
      obtain ⟨a, tail, hd, -⟩ := scan_encode d []
      rw [encode_cons, hd]
      exact List.nil_lt_cons _ _
  | cons c cs ih =>
    cases ds with
    | nil => exact absurd h (List.not_lt_nil _)
    | cons d ds =>
      rw [encode_cons, encode_cons]
      rcases List.cons_lt_cons_iff.mp h with hlt | ⟨rfl, hlt⟩
      · exact encodeChar_append_lt hlt _ _
      · exact List.append_left_lt (ih hlt)

/-- **Order of texts.** Texts are in the order of their octets. -/
theorem bytes_lt_bytes_iff {s s' : String} : bytes s < bytes s' ↔ s < s' := by
  have hmono : ∀ {s s' : String}, s < s' → bytes s < bytes s' := fun h =>
    encode_lt_encode (String.lt_iff.mp h)
  refine ⟨fun h => ?_, hmono⟩
  rcases lt_trichotomy s s' with hlt | rfl | hgt
  · exact hlt
  · exact absurd h (List.lt_irrefl _)
  · exact absurd (List.lt_trans h (hmono hgt)) (List.lt_irrefl _)

end Text

end Coap
