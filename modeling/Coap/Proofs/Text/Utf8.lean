import Coap.Text.Utf8

/-!
# Reading and writing UTF-8

Every character has one spelling, and nothing else is read as that character. So text in UTF-8 is the
octets of some characters, and reading undoes writing.

* `Utf8.scan_encode`, `Utf8.encode_of_scan` — a character that is written is read, and the other way
  round.
* `Text.decode?_eq_some_iff`, `Text.ofBytes?_eq_some_iff` — the same for texts.
* `Text.asciiChars_lossy` — a reader that replaces what it cannot read keeps all ASCII.
-/

namespace Coap

namespace Utf8

/-! ### Octets of a character -/

theorem isTail_iff {b : UInt8} : isTail b = true ↔ 0x80 ≤ b.toNat ∧ b.toNat ≤ 0xBF := by
  simp [isTail, UInt8.le_iff_toNat_le]

theorem second3_iff {a b : UInt8} : second3 a b = true ↔
    0x80 ≤ b.toNat ∧ b.toNat ≤ 0xBF ∧ (a.toNat = 0xE0 → 0xA0 ≤ b.toNat) ∧
      (a.toNat = 0xED → b.toNat ≤ 0x9F) := by
  simp only [second3, isTail, UInt8.le_iff_toNat_le, ← UInt8.toNat_inj, UInt8.reduceToNat]
  split
  · simp
    omega
  · split <;> simp <;> omega

theorem second4_iff {a b : UInt8} : second4 a b = true ↔
    0x80 ≤ b.toNat ∧ b.toNat ≤ 0xBF ∧ (a.toNat = 0xF0 → 0x90 ≤ b.toNat) ∧
      (a.toNat = 0xF4 → b.toNat ≤ 0x8F) := by
  simp only [second4, isTail, UInt8.le_iff_toNat_le, ← UInt8.toNat_inj, UInt8.reduceToNat]
  split
  · simp
    omega
  · split <;> simp <;> omega

/-! ### Characters that are read -/

section

variable {a b c d : UInt8} {rest : Bytes}

theorem scan_of_one (ha : a.toNat < 0x80) : scan a rest = (some (.ofNat a.toNat), 0) := by
  rw [scan.eq_def, if_pos (UInt8.lt_iff_toNat_lt.mpr ha)]

theorem scan_of_two (ha : 0xC2 ≤ a.toNat ∧ a.toNat ≤ 0xDF) (hb : isTail b = true) :
    scan a (b :: rest) = (some (.ofNat (a.toNat % 32 * 64 + tailBits b)), 1) := by
  simp only [scan, UInt8.lt_iff_toNat_lt, UInt8.le_iff_toNat_le, UInt8.reduceToNat]
  rw [if_neg (by omega), if_pos ha, if_pos hb]

theorem scan_of_three (ha : 0xE0 ≤ a.toNat ∧ a.toNat ≤ 0xEF) (hb : second3 a b = true)
    (hc : isTail c = true) :
    scan a (b :: c :: rest) =
      (some (.ofNat (a.toNat % 16 * 4096 + tailBits b * 64 + tailBits c)), 2) := by
  simp only [scan, UInt8.lt_iff_toNat_lt, UInt8.le_iff_toNat_le, UInt8.reduceToNat]
  rw [if_neg (by omega), if_neg (by omega), if_pos ha, if_pos hb, if_pos hc]

theorem scan_of_four (ha : 0xF0 ≤ a.toNat ∧ a.toNat ≤ 0xF4) (hb : second4 a b = true)
    (hc : isTail c = true) (hd : isTail d = true) :
    scan a (b :: c :: d :: rest) =
      (some (.ofNat (a.toNat % 8 * 262144 + tailBits b * 4096 + tailBits c * 64 + tailBits d)),
        3) := by
  simp only [scan, UInt8.lt_iff_toNat_lt, UInt8.le_iff_toNat_le, UInt8.reduceToNat]
  rw [if_neg (by omega), if_neg (by omega), if_neg (by omega), if_pos ha, if_pos hb, if_pos hc,
    if_pos hd]

end

theorem toNat_valid (c : Char) : c.toNat < 0xD800 ∨ 0xDFFF < c.toNat ∧ c.toNat < 0x110000 := c.valid

theorem ofNat_eq {c : Char} {n : Nat} (h : n = c.toNat) : Char.ofNat n = c := h ▸ c.ofNat_toNat

theorem toNat_ofNat {n : Nat} (h : n < 0xD800 ∨ 0xDFFF < n ∧ n < 0x110000) :
    (Char.ofNat n).toNat = n := by
  rw [Char.ofNat, dif_pos h]
  rfl

/-- The first octet of a character says how many follow, and the character is read back. -/
theorem scan_encode (c : Char) (rest : Bytes) :
    ∃ a tail, String.utf8EncodeChar c = a :: tail ∧
      scan a (tail ++ rest) = (some c, tail.length) := by
  have hvalid := toNat_valid c
  simp only [String.utf8EncodeChar, show c.val.toNat = c.toNat from rfl]
  split
  · have ha : (UInt8.ofNat c.toNat).toNat = c.toNat := by
      rw [UInt8.toNat_ofNat']
      omega
    refine ⟨_, [], rfl, ?_⟩
    rw [scan_of_one (by omega), ofNat_eq ha]
    rfl
  · split
    · refine ⟨_, [_], rfl, ?_⟩
      rw [List.singleton_append, scan_of_two]
      · refine congrArg (fun x => (some x, 1)) (ofNat_eq ?_)
        simp only [UInt8.toNat_ofNat', tailBits]
        omega
      · simp only [UInt8.toNat_ofNat']
        omega
      · rw [isTail_iff, UInt8.toNat_ofNat']
        omega
    · split
      · refine ⟨_, [_, _], rfl, ?_⟩
        rw [List.cons_append, List.singleton_append, scan_of_three]
        · refine congrArg (fun x => (some x, 2)) (ofNat_eq ?_)
          simp only [UInt8.toNat_ofNat', tailBits]
          omega
        · simp only [UInt8.toNat_ofNat']
          omega
        · rw [second3_iff]
          simp only [UInt8.toNat_ofNat']
          omega
        · rw [isTail_iff, UInt8.toNat_ofNat']
          omega
      · refine ⟨_, [_, _, _], rfl, ?_⟩
        rw [List.cons_append, List.cons_append, List.singleton_append, scan_of_four]
        · refine congrArg (fun x => (some x, 3)) (ofNat_eq ?_)
          simp only [UInt8.toNat_ofNat', tailBits]
          omega
        · simp only [UInt8.toNat_ofNat']
          omega
        · rw [second4_iff]
          simp only [UInt8.toNat_ofNat']
          omega
        · rw [isTail_iff, UInt8.toNat_ofNat']
          omega
        · rw [isTail_iff, UInt8.toNat_ofNat']
          omega

/-! ### Characters that are written -/

section

variable {a b c d : UInt8}

theorem encode_one (ha : a.toNat < 0x80) : String.utf8EncodeChar (.ofNat a.toNat) = [a] := by
  simp only [String.utf8EncodeChar, show ∀ c : Char, c.val.toNat = c.toNat from fun _ => rfl]
  rw [toNat_ofNat (by omega), if_pos (by omega), UInt8.ofNat_toNat]

theorem encode_two (ha : 0xC2 ≤ a.toNat ∧ a.toNat ≤ 0xDF) (hb : isTail b = true) :
    String.utf8EncodeChar (.ofNat (a.toNat % 32 * 64 + tailBits b)) = [a, b] := by
  rw [isTail_iff] at hb
  simp only [String.utf8EncodeChar, show ∀ c : Char, c.val.toNat = c.toNat from fun _ => rfl, tailBits]
  rw [toNat_ofNat (by omega), if_neg (by omega), if_pos (by omega)]
  simp only [List.cons.injEq, and_true, ← UInt8.toNat_inj, UInt8.toNat_ofNat']
  omega

theorem encode_three (ha : 0xE0 ≤ a.toNat ∧ a.toNat ≤ 0xEF) (hb : second3 a b = true)
    (hc : isTail c = true) :
    String.utf8EncodeChar (.ofNat (a.toNat % 16 * 4096 + tailBits b * 64 + tailBits c)) =
      [a, b, c] := by
  rw [second3_iff] at hb
  rw [isTail_iff] at hc
  simp only [String.utf8EncodeChar, show ∀ c : Char, c.val.toNat = c.toNat from fun _ => rfl, tailBits]
  rw [toNat_ofNat (by omega), if_neg (by omega), if_neg (by omega), if_pos (by omega)]
  simp only [List.cons.injEq, and_true, ← UInt8.toNat_inj, UInt8.toNat_ofNat']
  omega

theorem encode_four (ha : 0xF0 ≤ a.toNat ∧ a.toNat ≤ 0xF4) (hb : second4 a b = true)
    (hc : isTail c = true) (hd : isTail d = true) :
    String.utf8EncodeChar
        (.ofNat (a.toNat % 8 * 262144 + tailBits b * 4096 + tailBits c * 64 + tailBits d)) =
      [a, b, c, d] := by
  rw [second4_iff] at hb
  rw [isTail_iff] at hc hd
  simp only [String.utf8EncodeChar, show ∀ c : Char, c.val.toNat = c.toNat from fun _ => rfl, tailBits]
  rw [toNat_ofNat (by omega), if_neg (by omega), if_neg (by omega), if_neg (by omega)]
  simp only [List.cons.injEq, and_true, ← UInt8.toNat_inj, UInt8.toNat_ofNat']
  omega

end

/-- What is read as a character is the octets of that character. -/
theorem encode_of_scan {a : UInt8} {rest : Bytes} {c : Char} {n : Nat}
    (h : scan a rest = (some c, n)) :
    n ≤ rest.length ∧ String.utf8EncodeChar c = a :: rest.take n := by
  unfold scan at h
  simp only [UInt8.lt_iff_toNat_lt, UInt8.le_iff_toNat_le, UInt8.reduceToNat] at h
  split at h
  · next ha =>
    cases h
    exact ⟨Nat.zero_le _, encode_one ha⟩
  · split at h
    · next ha =>
      split at h
      · split at h
        · next hb =>
          cases h
          exact ⟨by simp, encode_two ha hb⟩
        · cases h
      · cases h
    · split at h
      · next ha =>
        split at h
        · split at h
          · next hb =>
            split at h
            · next hc =>
              cases h
              exact ⟨by simp, encode_three ha hb hc⟩
            · cases h
          · cases h
        · split at h <;> cases h
        · cases h
      · split at h
        · next ha =>
          split at h
          · split at h
            · next hb =>
              split at h
              · next hc =>
                split at h
                · next hd =>
                  cases h
                  exact ⟨by simp, encode_four ha hb hc hd⟩
                · cases h
              · cases h
            · cases h
          · split at h
            · split at h <;> cases h
            · cases h
          · split at h <;> cases h
          · cases h
        · cases h

/-- What is passed over with an octet beyond ASCII is beyond ASCII as well. -/
theorem le_of_mem_take_scan {a b : UInt8} {rest : Bytes}
    (hb : b ∈ rest.take (scan a rest).2) : 0x80 ≤ b.toNat := by
  have htail : ∀ {b : UInt8}, isTail b = true → 0x80 ≤ b.toNat := fun h => (isTail_iff.mp h).1
  have hthree : ∀ {b : UInt8}, second3 a b = true → 0x80 ≤ b.toNat := fun h => (second3_iff.mp h).1
  have hfour : ∀ {b : UInt8}, second4 a b = true → 0x80 ≤ b.toNat := fun h => (second4_iff.mp h).1
  revert hb
  fun_cases scan a rest <;>
    simp only [List.take_zero, List.not_mem_nil, List.take_succ_cons, List.mem_cons, or_false,
      false_imp_iff]
  all_goals grind

/-! ### ASCII -/

/-- Number of octets in ASCII. -/
def asciiOctets (v : Bytes) : Nat := v.countP fun b => b.toNat < 0x80

/-- Number of characters in ASCII. -/
def asciiChars (cs : List Char) : Nat := cs.countP fun c => c.toNat < 0x80

theorem asciiOctets_append (v w : Bytes) : asciiOctets (v ++ w) = asciiOctets v + asciiOctets w :=
  List.countP_append

theorem asciiOctets_cons (b : UInt8) (v : Bytes) :
    asciiOctets (b :: v) = asciiOctets v + if b.toNat < 0x80 then 1 else 0 := by
  simp [asciiOctets, List.countP_cons]

theorem asciiOctets_eq_zero {v : Bytes} (h : ∀ b ∈ v, 0x80 ≤ b.toNat) : asciiOctets v = 0 :=
  List.countP_eq_zero.mpr fun b hb => by simpa using h b hb

theorem asciiChars_append (cs ds : List Char) :
    asciiChars (cs ++ ds) = asciiChars cs + asciiChars ds :=
  List.countP_append

theorem asciiChars_cons (c : Char) (cs : List Char) :
    asciiChars (c :: cs) = asciiChars cs + if c.toNat < 0x80 then 1 else 0 := by
  simp [asciiChars, List.countP_cons]

theorem asciiOctets_encodeChar_of_lt {c : Char} (hc : c.toNat < 0x80) :
    asciiOctets (String.utf8EncodeChar c) = 1 := by
  simp only [String.utf8EncodeChar, show c.val.toNat = c.toNat from rfl]
  rw [if_pos (by omega), asciiOctets, List.countP_singleton, if_pos]
  rw [decide_eq_true_iff, UInt8.toNat_ofNat']
  omega

/-- The octets of a character beyond ASCII are beyond ASCII. -/
theorem le_of_mem_encodeChar {c : Char} (hc : 0x80 ≤ c.toNat) {b : UInt8}
    (hb : b ∈ String.utf8EncodeChar c) : 0x80 ≤ b.toNat := by
  have hvalid := toNat_valid c
  simp only [String.utf8EncodeChar, show c.val.toNat = c.toNat from rfl] at hb
  rw [if_neg (by omega)] at hb
  split at hb
  · simp only [List.mem_cons, List.not_mem_nil, or_false] at hb
    rcases hb with rfl | rfl <;> rw [UInt8.toNat_ofNat'] <;> omega
  · split at hb
    · simp only [List.mem_cons, List.not_mem_nil, or_false] at hb
      rcases hb with rfl | rfl | rfl <;> rw [UInt8.toNat_ofNat'] <;> omega
    · simp only [List.mem_cons, List.not_mem_nil, or_false] at hb
      rcases hb with rfl | rfl | rfl | rfl <;> rw [UInt8.toNat_ofNat'] <;> omega

/-- A character in ASCII has one octet in ASCII, and any other one none. -/
theorem asciiOctets_encodeChar (c : Char) :
    asciiOctets (String.utf8EncodeChar c) = if c.toNat < 0x80 then 1 else 0 := by
  split
  · next hc => exact asciiOctets_encodeChar_of_lt hc
  · next hc => exact asciiOctets_eq_zero fun b hb => le_of_mem_encodeChar (Nat.not_lt.mp hc) hb

end Utf8

namespace Text

open Utf8

/-! ### Texts -/

theorem encode_cons (c : Char) (cs : List Char) :
    encode (c :: cs) = String.utf8EncodeChar c ++ encode cs := rfl

/-- Characters that are written are read, whatever follows them. -/
theorem segments_encode_append (cs : List Char) (rest : Bytes) :
    segments (encode cs ++ rest) = cs.map some ++ segments rest := by
  induction cs with
  | nil => rfl
  | cons c cs ih =>
    obtain ⟨a, tail, hc, hscan⟩ := scan_encode c (encode cs ++ rest)
    rw [encode_cons, hc, List.append_assoc, List.cons_append, segments, hscan, List.drop_left, ih]
    rfl

theorem encode_of_segments {v : Bytes} {cs : List Char} (h : segments v = cs.map some) :
    v = encode cs := by
  fun_induction segments v generalizing cs
  case case1 =>
    obtain rfl : cs = [] := by simpa using h.symm
    rfl
  case case2 a rest step ih =>
    cases cs with
    | nil => cases h
    | cons c cs =>
      obtain ⟨hc, hcs⟩ := List.cons.inj h
      obtain ⟨-, hchar⟩ := encode_of_scan (Prod.ext hc rfl : scan a rest = (some c, step.2))
      rw [encode_cons, hchar, ← ih hcs, List.cons_append, List.take_append_drop]

theorem mapM_eq_some_iff {α β : Type} {f : α → Option β} {l : List α} {bs : List β} :
    l.mapM f = some bs ↔ l.map f = bs.map some := by
  induction l generalizing bs with
  | nil => cases bs <;> simp
  | cons a l ih =>
    simp only [List.mapM_cons, Option.bind_eq_bind, Option.bind_eq_some_iff, ih]
    cases bs <;> simp

/-- **Reading and writing.** Octets are read as the characters whose octets they are. -/
theorem decode?_eq_some_iff {v : Bytes} {cs : List Char} : decode? v = some cs ↔ v = encode cs := by
  rw [decode?, mapM_eq_some_iff, List.map_id]
  constructor
  · exact encode_of_segments
  · rintro rfl
    simpa [segments] using segments_encode_append cs []

theorem ofBytes?_eq_some_iff {v : Bytes} {s : String} : ofBytes? v = some s ↔ v = bytes s := by
  rw [ofBytes?, Option.map_eq_some_iff]
  constructor
  · rintro ⟨cs, hcs, rfl⟩
    rw [bytes, String.toList_ofList]
    exact decode?_eq_some_iff.mp hcs
  · intro h
    exact ⟨s.toList, decode?_eq_some_iff.mpr h, String.ofList_toList⟩

theorem bytes_injective {s s' : String} (h : bytes s = bytes s') : s = s' :=
  Option.some.inj ((ofBytes?_eq_some_iff.mpr rfl).symm.trans (ofBytes?_eq_some_iff.mpr h))

/-- Nothing is replaced in what is UTF-8. -/
theorem ofBytesLossy_bytes (s : String) : ofBytesLossy (bytes s) = s := by
  have hread := segments_encode_append s.toList []
  rw [List.append_nil, show segments [] = [] by simp [segments], List.append_nil] at hread
  rw [ofBytesLossy, bytes, hread, List.map_map]
  simp [Function.comp_def]

/-! ### Texts in ASCII -/

theorem asciiOctets_encode (cs : List Char) : asciiOctets (encode cs) = asciiChars cs := by
  induction cs with
  | nil => rfl
  | cons c cs ih =>
    rw [encode_cons, asciiOctets_append, asciiOctets_encodeChar, ih, asciiChars_cons, Nat.add_comm]

/-- A reader that puts U+FFFD in the place of what it cannot read keeps all ASCII. -/
theorem asciiChars_lossy (v : Bytes) :
    asciiChars ((segments v).map (·.getD '\uFFFD')) = asciiOctets v := by
  fun_induction segments v
  case case1 => rfl
  case case2 a rest step ih =>
    rw [List.map_cons, asciiChars_cons, ih]
    by_cases ha : a.toNat < 0x80
    · have hstep : step = _ := scan_of_one ha
      rw [hstep, asciiOctets_cons, if_pos ha, Option.getD_some, toNat_ofNat (by omega), if_pos ha]
      rfl
    · -- what is read or replaced here is beyond ASCII, and so are all its octets
      have htaken : asciiOctets (rest.take step.2) = 0 :=
        asciiOctets_eq_zero fun b hb => le_of_mem_take_scan hb
      have hhigh : ¬ (step.1.getD '\uFFFD').toNat < 0x80 := by
        cases hread : step.1 with
        | none => decide
        | some c =>
          intro (hc : c.toNat < 0x80)
          have hone := asciiOctets_encodeChar_of_lt hc
          rw [(encode_of_scan (Prod.ext hread rfl : scan a rest = (some c, step.2))).2,
            asciiOctets_cons, if_neg ha, htaken] at hone
          cases hone
      rw [if_neg hhigh, asciiOctets_cons, if_neg ha]
      conv => rhs; rw [← List.take_append_drop step.2 rest, asciiOctets_append, htaken]
      omega

end Text

end Coap
