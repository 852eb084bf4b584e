import Coap.OptionValue
import Mathlib.Algebra.Group.Nat.Defs
import Mathlib.Data.List.Induction

/-!
# Numbers in option values

A value of up to four octets is read as a number of 32 bits, one octet after the other. This is the number
that the octets stand for, which is said for values of any length.

* `OptionValue.toUInt?_ofUInt` — a number is read back from its shortest value.
* `OptionValue.toNat` — the number that octets stand for, however many they are.
* `OptionValue.exists_toUInt?` — up to four octets are read as the number they stand for.
* `OptionValue.map_toUInt16_toUInt?` — the same, where a number of 16 bits is read.
* `OptionValue.eq_of_toNat_eq` — no two values stand for the same number, unless one has zeros in front.
* `OptionValue.shortest_value` — the values of a number, and which of them is written.
-/

namespace Coap

namespace OptionValue

/-! ### Numbers of 32 bits -/

/-- A number with one more octet behind it. -/
def push (n : UInt32) (b : UInt8) : UInt32 := (n <<< 8) ||| b.toUInt32

theorem toNat_push (n : UInt32) (b : UInt8) :
    (push n b).toNat = n.toNat * 256 % 4294967296 + b.toNat := by
  have hshift : n.toNat * 256 % 4294967296 = 2 ^ 8 * (n.toNat % 16777216) := by omega
  rw [push, UInt32.toNat_or, UInt32.toNat_shiftLeft, UInt8.toNat_toUInt32, hshift,
    Nat.two_pow_add_eq_or_of_lt b.toNat_lt, ← hshift]
  simp [Nat.shiftLeft_eq]

/-- Leading zeros do not count. -/
theorem foldl_push_dropWhile (value : Bytes) :
    (value.dropWhile (· == 0)).foldl push 0 = value.foldl push 0 := by
  induction value with
  | nil => rfl
  | cons b value ih =>
    by_cases hb : b = 0
    · subst hb
      exact ih
    · rw [List.dropWhile_cons_of_neg (by simpa using hb)]

theorem foldl_push_bigEndian (n : UInt32) : (bigEndian n).foldl push 0 = n := by
  have hlt := n.toNat_lt
  apply UInt32.toNat_inj.mp
  simp only [bigEndian, List.foldl_cons, List.foldl_nil, toNat_push, UInt32.toNat_toUInt8,
    UInt32.toNat_shiftRight, UInt32.reduceToNat, Nat.reduceMod, Nat.shiftRight_eq_div_pow]
  omega

theorem length_ofUInt (n : UInt32) : (ofUInt n).length ≤ 4 := (List.dropWhile_suffix _).length_le

/-- A number is read back from its shortest value. -/
theorem toUInt?_ofUInt (n : UInt32) : toUInt? (ofUInt n) = some n := by
  have hfold : (ofUInt n).foldl push 0 = n := (foldl_push_dropWhile _).trans (foldl_push_bigEndian n)
  rw [toUInt?, if_neg (Nat.not_lt.mpr (length_ofUInt n))]
  exact congrArg some hfold

/-! ### Numbers of any length -/

/-- The number that octets in network order stand for, however many they are. -/
def toNat (value : Bytes) : Nat := value.foldl (fun n b => n * 256 + b.toNat) 0

theorem toNat_concat (value : Bytes) (b : UInt8) :
    toNat (value ++ [b]) = toNat value * 256 + b.toNat := by
  rw [toNat, List.foldl_append]
  rfl

theorem toNat_lt (value : Bytes) : toNat value < 256 ^ value.length := by
  induction value using List.reverseRecOn with
  | nil => decide
  | append_singleton value b ih =>
    have hb := b.toNat_lt
    rw [toNat_concat, List.length_append, List.length_singleton, Nat.pow_succ]
    omega

theorem toNat_foldl_push (value : Bytes) : (value.foldl push 0).toNat = toNat value % 4294967296 := by
  induction value using List.reverseRecOn with
  | nil => rfl
  | append_singleton value b ih =>
    have hb := b.toNat_lt
    rw [List.foldl_append, List.foldl_cons, List.foldl_nil, toNat_push, ih, toNat_concat]
    omega

/-- The number that up to four octets are read as is the one they stand for. -/
theorem exists_toUInt? {value : Bytes} (h : value.length ≤ 4) :
    ∃ n, toUInt? value = some n ∧ n.toNat = toNat value := by
  refine ⟨value.foldl push 0, if_neg (Nat.not_lt.mpr h), ?_⟩
  have hlt : toNat value < 4294967296 :=
    Nat.lt_of_lt_of_le (toNat_lt value) (Nat.pow_le_pow_right (by decide) h)
  rw [toNat_foldl_push, Nat.mod_eq_of_lt hlt]

/-- Where a number of 16 bits is read, it is the number that the octets stand for, cut to these. -/
theorem map_toUInt16_toUInt? (value : Bytes) :
    (toUInt? value).map UInt32.toUInt16 =
      if 4 < value.length then none else some (toNat value).toUInt16 := by
  split
  · next hlong => rw [toUInt?, if_pos hlong, Option.map_none]
  · next hshort =>
    obtain ⟨n, hread, hn⟩ := exists_toUInt? (Nat.not_lt.mp hshort)
    have hcut : n.toUInt16 = (toNat value).toUInt16 := by
      apply UInt16.toNat_inj.mp
      simp [← hn]
    rw [hread, Option.map_some, hcut]

/-! ### Leading zeros -/

theorem toNat_cons (b : UInt8) (value : Bytes) :
    toNat (b :: value) = b.toNat * 256 ^ value.length + toNat value := by
  induction value using List.reverseRecOn with
  | nil => simp [toNat]
  | append_singleton value c ih =>
    rw [← List.cons_append, toNat_concat, ih, toNat_concat, List.length_append, List.length_singleton,
      Nat.pow_succ, Nat.add_mul, Nat.mul_assoc, Nat.add_assoc]

theorem toNat_dropWhile (value : Bytes) : toNat (value.dropWhile (· == 0)) = toNat value := by
  induction value with
  | nil => rfl
  | cons b value ih =>
    by_cases hb : b = 0
    · subst hb
      rw [List.dropWhile_cons_of_pos rfl, ih, toNat_cons, UInt8.toNat_zero, Nat.zero_mul, Nat.zero_add]
    · rw [List.dropWhile_cons_of_neg (by simpa using hb)]

theorem head?_dropWhile_ne (value : Bytes) : (value.dropWhile (· == 0)).head? ≠ some 0 := by
  intro h
  have hfirst := List.head?_dropWhile_not (· == (0 : UInt8)) value
  rw [h] at hfirst
  cases hfirst

/-- Of octets of one length, no others stand for the same number. -/
theorem eq_of_toNat_eq_of_length_eq {v w : Bytes} (hlength : v.length = w.length)
    (h : toNat v = toNat w) : v = w := by
  induction v generalizing w with
  | nil => exact (List.length_eq_zero_iff.mp hlength.symm).symm
  | cons b v ih =>
    obtain _ | ⟨c, w⟩ := w
    · cases hlength
    · have hrest : v.length = w.length := Nat.succ.inj hlength
      rw [toNat_cons, toNat_cons, ← hrest] at h
      have hv := toNat_lt v
      have hw := hrest ▸ toNat_lt w
      -- the first octet is the quotient by the weight of the others, which are the remainder
      have hdiv : ∀ {q r : Nat}, r < 256 ^ v.length → (q * 256 ^ v.length + r) / 256 ^ v.length = q :=
        fun hr => by
          rw [Nat.mul_comm, Nat.mul_add_div (Nat.pow_pos (by decide)), Nat.div_eq_of_lt hr, Nat.add_zero]
      have hfirst : b.toNat = c.toNat :=
        (hdiv hv).symm.trans ((congrArg (· / 256 ^ v.length) h).trans (hdiv hw))
      rw [hfirst] at h
      rw [UInt8.toNat_inj.mp hfirst, ih hrest (Nat.add_left_cancel h)]

/-- An octet in front that is not zero counts for more than all that may stand behind it. -/
theorem length_le_of_toNat_le {v w : Bytes} (hv : v.head? ≠ some 0) (h : toNat v ≤ toNat w) :
    v.length ≤ w.length := by
  obtain _ | ⟨b, v⟩ := v
  · exact Nat.zero_le _
  · have hb : 0 < b.toNat := by
      refine Nat.pos_of_ne_zero fun hzero => hv ?_
      rw [List.head?_cons, UInt8.toNat_inj.mp (show b.toNat = (0 : UInt8).toNat from hzero)]
    have hweight : 256 ^ v.length ≤ b.toNat * 256 ^ v.length := Nat.le_mul_of_pos_left _ hb
    have hlt : 256 ^ v.length < 256 ^ w.length := by
      have hw := toNat_lt w
      rw [toNat_cons] at h
      omega
    exact (Nat.pow_lt_pow_iff_right (by decide)).mp hlt

/-- Of values without a zero in front, no two stand for the same number. -/
theorem eq_of_toNat_eq {v w : Bytes} (hv : v.head? ≠ some 0) (hw : w.head? ≠ some 0)
    (h : toNat v = toNat w) : v = w := by
  refine eq_of_toNat_eq_of_length_eq (Nat.le_antisymm ?_ ?_) h
  · exact length_le_of_toNat_le hv (Nat.le_of_eq h)
  · exact length_le_of_toNat_le hw (Nat.le_of_eq h.symm)

theorem toNat_ofUInt (n : UInt32) : toNat (ofUInt n) = n.toNat := by
  obtain ⟨m, hread, hm⟩ := exists_toUInt? (length_ofUInt n)
  rw [toUInt?_ofUInt] at hread
  rw [← hm, Option.some.inj hread]

/-- The values of a number are what is written for it, with zeros in front. -/
theorem toUInt?_eq_some_iff {value : Bytes} {n : UInt32} :
    toUInt? value = some n ↔ value.length ≤ 4 ∧ value.dropWhile (· == 0) = ofUInt n := by
  by_cases hshort : value.length ≤ 4
  · obtain ⟨m, hread, hm⟩ := exists_toUInt? hshort
    have hwritten : value.dropWhile (· == 0) = ofUInt m :=
      eq_of_toNat_eq (head?_dropWhile_ne value) (head?_dropWhile_ne _)
        (by rw [toNat_dropWhile, ← hm, toNat_ofUInt])
    rw [hread, hwritten, Option.some.injEq]
    refine ⟨fun h => ⟨hshort, congrArg ofUInt h⟩, fun h => ?_⟩
    have hback := congrArg toUInt? h.2
    rw [toUInt?_ofUInt, toUInt?_ofUInt] at hback
    exact Option.some.inj hback
  · rw [toUInt?, if_pos (Nat.not_le.mp hshort)]
    exact ⟨nofun, fun h => absurd h.1 hshort⟩

/-- As long as there are four octets at most, none is lost when they are read. -/
theorem push_exact {front : Bytes} {b : UInt8} (h : front.length < 4) :
    let n := front.foldl push 0
    n.toNat * 256 + b.toNat < 2 ^ 32 ∧ (n <<< 8).toNat = n.toNat * 256 ∧
      (push n b).toNat = n.toNat * 256 + b.toNat := by
  intro n
  have hn : n.toNat < 2 ^ 24 := by
    have hlt : toNat front < 256 ^ 3 :=
      Nat.lt_of_lt_of_le (toNat_lt front) (Nat.pow_le_pow_right (by decide) (by omega))
    rw [toNat_foldl_push]
    omega
  have hb := b.toNat_lt
  have hshift : (n <<< 8).toNat = n.toNat * 256 % 2 ^ 32 := by
    rw [UInt32.toNat_shiftLeft, Nat.shiftLeft_eq]
    rfl
  refine ⟨by omega, by omega, ?_⟩
  rw [toNat_push]
  omega

/-- **Numbers in values.** A value of up to four octets is read as the number that it stands for, and what
is written for that number is the value without the zeros in front. A number is read back from what is
written for it, which has no zero in front and is the shortest of its values. A value of more than four
octets is read as no number, and in any other, no step of reading leaves the 32 bits. -/
theorem shortest_value :
    (∀ value : Bytes, value.length ≤ 4 →
      ∃ n, toUInt? value = some n ∧ n.toNat = toNat value ∧ ofUInt n = value.dropWhile (· == 0)) ∧
    (∀ n : UInt32, toUInt? (ofUInt n) = some n ∧ (ofUInt n).head? ≠ some 0 ∧
      ∀ value, toUInt? value = some n → (ofUInt n).length ≤ value.length) ∧
    (∀ value : Bytes, toUInt? value = none ↔ 4 < value.length) ∧
    ∀ (front : Bytes) (b : UInt8) (back : Bytes), (front ++ b :: back).length ≤ 4 →
      let n := front.foldl push 0
      n.toNat * 256 + b.toNat < 2 ^ 32 ∧ (n <<< 8).toNat = n.toNat * 256 ∧
        (push n b).toNat = n.toNat * 256 + b.toNat := by
  refine ⟨fun value hshort => ?_, fun n => ⟨toUInt?_ofUInt n, head?_dropWhile_ne _, fun value hread => ?_⟩,
    fun value => ?_, fun front b back hshort => push_exact ?_⟩
  · obtain ⟨n, hread, hn⟩ := exists_toUInt? hshort
    exact ⟨n, hread, hn, (toUInt?_eq_some_iff.mp hread).2.symm⟩
  · rw [← (toUInt?_eq_some_iff.mp hread).2]
    exact (List.dropWhile_suffix _).length_le
  · simp [toUInt?]
  · rw [List.length_append, List.length_cons] at hshort
    omega

/-- The number 256 in four octets: it is read, two octets are written for it, and none was lost. -/
theorem shortest_value_padded :
    let padded : Bytes := [0, 0, 1, 0]
    (∃ n, toUInt? padded = some n ∧ n.toNat = 256 ∧ ofUInt n = [1, 0]) ∧
      (ofUInt 256).length ≤ padded.length ∧ toUInt? (0 :: padded) = none ∧
      (push (([0, 0, 1] : Bytes).foldl push 0) 0).toNat = 256 := by
  obtain ⟨hread, hwritten, hnone, hexact⟩ := shortest_value
  exact ⟨hread [0, 0, 1, 0] (by decide), (hwritten 256).2.2 _ (by decide), (hnone _).mpr (by decide),
    (hexact [0, 0, 1] 0 [] (by decide)).2.2⟩

end OptionValue

end Coap
