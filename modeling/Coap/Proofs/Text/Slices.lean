import Coap.Proofs.Text.Order

/-!
# Cuts between the octets of a text

A text is cut at places that count its octets. It can be cut in front of an octet that continues no
character, and at its end; anywhere else, a cut would split a character.

* `Text.isBoundary`, `Text.slice?` — where a text can be cut, and what stands between two cuts.
* `Text.isBoundary_iff` — the cuts are between characters.
* `Text.slice?_eq_some_iff` — so what is cut out is whole characters.
* `Text.isBoundary_of_ascii` — there is a cut on both sides of an octet in ASCII.
-/

namespace Coap

namespace Utf8

/-- A character begins with an octet that continues none, and its other octets continue it. In ASCII it
has no others, and the octet is its number. -/
theorem encodeChar_parts (c : Char) :
    ∃ a tail, String.utf8EncodeChar c = a :: tail ∧ isTail a = false ∧ (∀ b ∈ tail, isTail b = true) ∧
      (a.toNat < 0x80 → tail = [] ∧ c.toNat = a.toNat) := by
  have hhead : ∀ {a : UInt8}, a.toNat < 0x80 ∨ 0xC0 ≤ a.toNat → isTail a = false := by
    intro a ha
    rw [← Bool.not_eq_true, isTail_iff]
    omega
  obtain ⟨x, hc, heq, hx⟩ | ⟨x, y, hc, -, -, hx, -, hy⟩ | ⟨x, y, z, hc, -, -, hx, -, hy, hz⟩ |
    ⟨x, y, z, u, hc, -, -, hx, hy, hz, hu⟩ := encodeChar_cases c
  · exact ⟨x, [], hc, hhead (.inl hx), nofun, fun _ => ⟨rfl, heq⟩⟩
  · exact ⟨x, [y], hc, hhead (.inr hx), by simp [hy], fun _ => by omega⟩
  · exact ⟨x, [y, z], hc, hhead (.inr (by omega)), by simp [hy, hz], fun _ => by omega⟩
  · exact ⟨x, [y, z, u], hc, hhead (.inr (by omega)), by simp [hy, hz, hu], fun _ => by omega⟩

end Utf8

namespace Text

open Utf8

/-! ### Cuts -/

/-- Can a text with some octets be cut at a place? -/
def isBoundary (octets : Bytes) (i : Nat) : Bool :=
  match octets[i]? with
  | some b => !isTail b
  | none => i == octets.length

/-- The octets of a text from one place to another, if it can be cut at both. -/
def slice? (octets : Bytes) (i j : Nat) : Option Bytes :=
  if i ≤ j ∧ isBoundary octets i = true ∧ isBoundary octets j = true then
    some ((octets.drop i).take (j - i))
  else none

theorem encode_append (cs ds : List Char) : encode (cs ++ ds) = encode cs ++ encode ds :=
  List.flatMap_append

/-- Behind the first of two texts, the cuts are those of the second. -/
theorem isBoundary_append (v w : Bytes) (j : Nat) :
    isBoundary (v ++ w) (v.length + j) = isBoundary w j := by
  rw [isBoundary, isBoundary, List.getElem?_append_right (Nat.le_add_right _ _), Nat.add_sub_cancel_left,
    List.length_append]
  cases w[j]? with
  | some b => rfl
  | none => simp

/-- **Cuts.** A text can be cut between characters only. -/
theorem isBoundary_iff {cs : List Char} {i : Nat} :
    isBoundary (encode cs) i = true ↔ ∃ front back, cs = front ++ back ∧ i = (encode front).length := by
  induction cs generalizing i with
  | nil =>
    have hempty : isBoundary (encode []) i = (i == 0) := rfl
    rw [hempty, beq_iff_eq]
    constructor
    · rintro rfl
      exact ⟨[], [], rfl, rfl⟩
    · rintro ⟨front, back, hcs, rfl⟩
      rw [(List.append_eq_nil_iff.mp hcs.symm).1]
      rfl
  | cons c cs ih =>
    obtain ⟨a, tail, hc, ha, htail, -⟩ := encodeChar_parts c
    have hfront : ∀ front : List Char,
        (encode (c :: front)).length = tail.length + 1 + (encode front).length := by
      intro front
      rw [encode_cons, hc, List.length_append, List.length_cons]
    rw [encode_cons, hc]
    rcases Nat.lt_or_ge i (tail.length + 1) with hi | hi
    · -- of the octets of the first character, only the one in front continues none
      rw [isBoundary, List.getElem?_append_left (by simpa using hi)]
      cases i with
      | zero => exact iff_of_true (by simp [ha]) ⟨[], c :: cs, rfl, rfl⟩
      | succ i =>
        have hlt : i < tail.length := Nat.lt_of_succ_lt_succ hi
        have hmem : tail[i] ∈ tail := List.getElem_mem _
        rw [List.getElem?_cons_succ, List.getElem?_eq_getElem hlt]
        refine iff_of_false (by simp [htail _ hmem]) ?_
        rintro ⟨_ | ⟨d, front⟩, back, hcs, hlength⟩
        · cases hlength
        · obtain ⟨rfl, -⟩ := List.cons.inj hcs
          rw [hfront] at hlength
          omega
    · obtain ⟨j, rfl⟩ := Nat.exists_eq_add_of_le hi
      rw [show tail.length + 1 = (a :: tail).length from rfl, isBoundary_append, ih]
      constructor
      · rintro ⟨front, back, rfl, rfl⟩
        exact ⟨c :: front, back, rfl, (hfront front).symm⟩
      · rintro ⟨_ | ⟨d, front⟩, back, hcs, hlength⟩
        · exact absurd hlength (by simp [encode])
        · obtain ⟨rfl, rfl⟩ := List.cons.inj hcs
          rw [hfront] at hlength
          exact ⟨front, back, rfl, by simpa using hlength⟩

/-- **Slices.** What is cut out of a text is whole characters. -/
theorem slice?_eq_some_iff {cs : List Char} {i j : Nat} {part : Bytes} :
    slice? (encode cs) i j = some part ↔
      ∃ front mid back, cs = front ++ (mid ++ back) ∧ i = (encode front).length ∧
        j = i + (encode mid).length ∧ part = encode mid := by
  have hcut : ∀ front mid back : List Char,
      ((encode (front ++ (mid ++ back))).drop (encode front).length).take (encode mid).length =
        encode mid := by
    intro front mid back
    rw [encode_append, encode_append, List.drop_left, List.take_left]
  unfold slice?
  constructor
  · intro h
    split at h
    · next hplaces =>
      obtain ⟨hle, hi, hj⟩ := hplaces
      obtain ⟨front, rest, rfl, rfl⟩ := isBoundary_iff.mp hi
      obtain ⟨k, rfl⟩ := Nat.exists_eq_add_of_le hle
      rw [encode_append, isBoundary_append] at hj
      obtain ⟨mid, back, rfl, rfl⟩ := isBoundary_iff.mp hj
      rw [Nat.add_sub_cancel_left, hcut] at h
      exact ⟨front, mid, back, rfl, rfl, rfl, (Option.some.inj h).symm⟩
    · cases h
  · rintro ⟨front, mid, back, rfl, rfl, rfl, rfl⟩
    have hj : isBoundary (encode (front ++ (mid ++ back))) ((encode front).length + (encode mid).length)
        = true :=
      isBoundary_iff.mpr ⟨front ++ mid, back, (List.append_assoc ..).symm,
        by rw [encode_append, List.length_append]⟩
    rw [if_pos ⟨Nat.le_add_right _ _, isBoundary_iff.mpr ⟨front, _, rfl, rfl⟩, hj⟩,
      Nat.add_sub_cancel_left, hcut]

/-! ### ASCII -/

/-- A text that begins with an octet in ASCII begins with that character. -/
theorem encode_eq_cons {cs : List Char} {a : UInt8} {rest : Bytes} (h : encode cs = a :: rest)
    (ha : a.toNat < 0x80) :
    ∃ c cs', cs = c :: cs' ∧ c.toNat < 0x80 ∧ a = c.toNat.toUInt8 ∧ String.utf8EncodeChar c = [a] ∧
      rest = encode cs' := by
  cases cs with
  | nil => cases h
  | cons c cs =>
    obtain ⟨b, tail, hc, -, -, hascii⟩ := encodeChar_parts c
    rw [encode_cons, hc] at h
    obtain ⟨rfl, rfl⟩ := List.cons.inj h
    obtain ⟨rfl, hnumber⟩ := hascii ha
    exact ⟨c, cs, rfl, hnumber ▸ ha, hnumber ▸ UInt8.ofNat_toNat.symm, hc, rfl⟩

/-- An octet in ASCII is a character, so that there is a cut on both sides of it. -/
theorem isBoundary_of_ascii {cs : List Char} {i : Nat} {a : UInt8} (h : (encode cs)[i]? = some a)
    (ha : a.toNat < 0x80) :
    isBoundary (encode cs) i = true ∧ isBoundary (encode cs) (i + 1) = true := by
  have hbefore : isBoundary (encode cs) i = true := by
    rw [isBoundary, h, Bool.not_eq_true', ← Bool.not_eq_true, isTail_iff]
    omega
  obtain ⟨front, back, rfl, rfl⟩ := isBoundary_iff.mp hbefore
  rw [encode_append, List.getElem?_append_right (Nat.le_refl _), Nat.sub_self, ← List.head?_eq_getElem?,
    List.head?_eq_some_iff] at h
  obtain ⟨rest, hback⟩ := h
  obtain ⟨c, back, rfl, -, -, hc, -⟩ := encode_eq_cons hback ha
  refine ⟨hbefore, isBoundary_iff.mpr ⟨front ++ [c], back, by simp, ?_⟩⟩
  rw [encode_append, List.length_append, encode_cons, hc]
  rfl

end Text

end Coap
