import Coap.Proofs.Forward.Tags
import Coap.Proofs.Text.Slices

/-!
# Which texts are read as hexadecimal digits

An entity-tag is taken for octets if it can be read as pairs of hexadecimal digits. Each pair is cut out
of the text and read as a number, and a number may have a plus sign in front: so a plus sign with one
digit behind it is read as well, which is no pair of digits.

* `Http.Hexadecimal` — texts of hexadecimal digits, sixteen at most, and the octets that they write.
* `Http.unhex?_eq_some_iff` — what is read, for every text.
* `Http.number?`, `Http.unslice?`, `Http.unhex?_eq_unslice?` — the same by cutting out two octets at a time.
* `Http.digits_read` — exactly the hexadecimal digits are read, but for the plus sign.
-/

namespace Coap

namespace Http

open Utf8 Text

/-! ### Pairs of characters -/

/-- Two hexadecimal digits, and the octet that they write. -/
def Digits (hi lo : Char) (b : UInt8) : Prop :=
  ∃ x y, Bytes.hexValue? hi = some x ∧ Bytes.hexValue? lo = some y ∧ b = (x * 16 + y).toUInt8

/-- A hexadecimal digit behind a plus sign, and the octet with its value. -/
def Signed (hi lo : Char) (b : UInt8) : Prop :=
  hi = '+' ∧ ∃ y, Bytes.hexValue? lo = some y ∧ b = y.toUInt8

/-- Two characters that are read as a number. -/
def Numeral (hi lo : Char) (b : UInt8) : Prop := Digits hi lo b ∨ Signed hi lo b

/-- Characters two by two, and what each pair stands for, in order. -/
inductive Paired (R : Char → Char → UInt8 → Prop) : List Char → Bytes → Prop where
  | nil : Paired R [] []
  | cons {hi lo : Char} {b : UInt8} {cs : List Char} {v : Bytes} (pair : R hi lo b)
      (rest : Paired R cs v) : Paired R (hi :: lo :: cs) (b :: v)

/-- **Hexadecimal digits.** A text of hexadecimal digits in pairs, sixteen digits at most, and the octets
that the pairs write, in order. -/
structure Hexadecimal (s : String) (v : Bytes) : Prop where
  short : s.toList.length ≤ 16
  paired : Paired Digits s.toList v

section Paired

variable {R S : Char → Char → UInt8 → Prop} {hi lo : Char} {b : UInt8} {cs : List Char} {v : Bytes}

theorem Paired.imp (h : Paired R cs v) (himp : ∀ hi lo b, hi ∈ cs → R hi lo b → S hi lo b) :
    Paired S cs v := by
  induction h with
  | nil => exact .nil
  | cons pair rest ih =>
    refine .cons (himp _ _ _ List.mem_cons_self pair) (ih fun hi lo b hmem => himp hi lo b ?_)
    exact List.mem_cons_of_mem _ (List.mem_cons_of_mem _ hmem)

/-- What holds of both characters of every pair holds of all characters. -/
theorem Paired.forall_mem {P : Char → Prop} (h : Paired R cs v)
    (hpair : ∀ hi lo b, R hi lo b → P hi ∧ P lo) : ∀ c ∈ cs, P c := by
  induction h with
  | nil => exact nofun
  | cons pair rest ih =>
    intro c hc
    rcases List.mem_cons.mp hc with rfl | hc
    · exact (hpair _ _ _ pair).1
    · rcases List.mem_cons.mp hc with rfl | hc
      · exact (hpair _ _ _ pair).2
      · exact ih c hc

theorem Digits.isSome (h : Digits hi lo b) :
    (Bytes.hexValue? hi).isSome = true ∧ (Bytes.hexValue? lo).isSome = true := by
  obtain ⟨x, y, hx, hy, -⟩ := h
  exact ⟨by rw [hx]; rfl, by rw [hy]; rfl⟩

theorem Numeral.ascii (h : Numeral hi lo b) : hi.toNat < 0x80 ∧ lo.toNat < 0x80 := by
  obtain ⟨x, y, hx, hy, -⟩ | ⟨rfl, y, hy, -⟩ := h
  · exact ⟨Percent.lt_of_hexValue? hx, Percent.lt_of_hexValue? hy⟩
  · exact ⟨by decide, Percent.lt_of_hexValue? hy⟩

/-- Characters can be read in pairs of digits if they are digits and their number is even. -/
theorem exists_paired_digits_iff {cs : List Char} :
    (∃ v, Paired Digits cs v) ↔
      cs.length % 2 = 0 ∧ ∀ c ∈ cs, (Bytes.hexValue? c).isSome = true := by
  constructor
  · rintro ⟨v, h⟩
    refine ⟨?_, h.forall_mem fun _ _ _ => Digits.isSome⟩
    induction h with
    | nil => rfl
    | cons pair rest ih =>
      simp only [List.length_cons]
      omega
  · rintro ⟨heven, hdigits⟩
    induction cs using List.twoStepInduction with
    | nil => exact ⟨[], .nil⟩
    | singleton c => simp at heven
    | cons_cons hi lo cs ih _ =>
      obtain ⟨v, hv⟩ := ih (by simp only [List.length_cons] at heven; omega) fun c hc =>
        hdigits c (List.mem_cons_of_mem _ (List.mem_cons_of_mem _ hc))
      obtain ⟨x, hx⟩ := Option.isSome_iff_exists.mp (hdigits hi List.mem_cons_self)
      obtain ⟨y, hy⟩ := Option.isSome_iff_exists.mp
        (hdigits lo (List.mem_cons_of_mem _ List.mem_cons_self))
      exact ⟨_, .cons ⟨x, y, hx, hy, rfl⟩ hv⟩

/-- There is no plus sign among digits. -/
theorem Paired.plus_notMem (h : Paired Digits cs v) : '+' ∉ cs := by
  intro hmem
  have hdigit := h.forall_mem (P := fun c => (Bytes.hexValue? c).isSome = true)
    (fun _ _ _ => Digits.isSome) '+' hmem
  cases hdigit

/-- Without a plus sign, numbers are digits. -/
theorem Paired.digits (h : Paired Numeral cs v) (hplus : '+' ∉ cs) : Paired Digits cs v :=
  h.imp fun _ _ _ hmem hpair => hpair.resolve_right fun hsigned => hplus (hsigned.1 ▸ hmem)

theorem Paired.numeral (h : Paired Digits cs v) : Paired Numeral cs v :=
  h.imp fun _ _ _ _ => .inl

end Paired

/-! ### What is read -/

/-- The value of a digit, as an octet. -/
theorem lt_of_digit {a : UInt8} {x : Nat} (h : Bytes.hexValue? (Char.ofNat a.toNat) = some x) :
    a.toNat < 0x80 := by
  have ha := a.toNat_lt
  have hlt := Percent.lt_of_hexValue? h
  rwa [toNat_ofNat (by omega)] at hlt

/-- Octets that are read as a number are ASCII. -/
theorem ascii_of_pair? {hi lo b : UInt8} (h : pair? hi lo = some b) :
    hi.toNat < 0x80 ∧ lo.toNat < 0x80 := by
  unfold pair? at h
  dsimp only at h
  split at h
  · cases h
  · next y hy =>
    refine ⟨?_, lt_of_digit hy⟩
    split at h
    · next hplus =>
      rw [hplus]
      decide
    · obtain ⟨x, hx, -⟩ := Option.map_eq_some_iff.mp h
      exact lt_of_digit hx

/-- Two characters in ASCII are read as a number if they are one. -/
theorem pair?_eq_some_iff {hi lo : Char} (hhi : hi.toNat < 0x80) (hlo : lo.toNat < 0x80) {b : UInt8} :
    pair? hi.toNat.toUInt8 lo.toNat.toUInt8 = some b ↔ Numeral hi lo b := by
  have hplus : hi.toNat.toUInt8 = 0x2B ↔ hi = '+' := by
    constructor
    · intro h
      rw [← Percent.ofNat_toUInt8 hhi, h]
      rfl
    · rintro rfl
      rfl
  unfold pair?
  simp only [Percent.ofNat_toUInt8 hhi, Percent.ofNat_toUInt8 hlo, hplus]
  constructor
  · intro h
    split at h
    · cases h
    · next y hy =>
      split at h
      · next hsign => exact .inr ⟨hsign, y, hy, (Option.some.inj h).symm⟩
      · obtain ⟨x, hx, rfl⟩ := Option.map_eq_some_iff.mp h
        exact .inl ⟨x, y, hx, hy, rfl⟩
  · rintro (⟨x, y, hx, hy, rfl⟩ | ⟨rfl, y, hy, rfl⟩)
    · have hsign : hi ≠ '+' := by
        rintro rfl
        cases hx
      simp only [hy, if_neg hsign, hx, Option.map_some]
    · simp only [hy, if_true]

/-- **Pairs.** A text is read if its characters are numbers two by two. -/
theorem pairs?_eq_some_iff {cs : List Char} {v : Bytes} :
    pairs? (encode cs) = some v ↔ Paired Numeral cs v := by
  constructor
  · intro h
    -- by the recursion of the reader on octets, of which only those in ASCII are numbers
    generalize hoctets : encode cs = octets at h
    fun_induction pairs? octets generalizing cs v with
    | case1 =>
      obtain rfl := Option.some.inj h
      cases cs with
      | nil => exact .nil
      | cons c cs =>
        obtain ⟨a, tail, hc, -⟩ := encodeChar_parts c
        rw [encode_cons, hc] at hoctets
        cases hoctets
    | case2 => cases h
    | case3 hi lo rest ih =>
      obtain ⟨b, hpair, h⟩ := Option.bind_eq_some_iff.mp h
      obtain ⟨w, hw, h⟩ := Option.bind_eq_some_iff.mp h
      obtain rfl := Option.some.inj h
      obtain ⟨hhi, hlo⟩ := ascii_of_pair? hpair
      obtain ⟨c, cs, rfl, hc, rfl, -, hbehind⟩ := encode_eq_cons hoctets hhi
      obtain ⟨d, cs, rfl, hd, rfl, -, hrest⟩ := encode_eq_cons hbehind.symm hlo
      exact .cons ((pair?_eq_some_iff hc hd).mp hpair) (ih hrest.symm hw)
  · intro h
    induction h with
    | nil => rfl
    | @cons hi lo b cs v pair rest ih =>
      obtain ⟨hhi, hlo⟩ := pair.ascii
      rw [encode_cons, encode_cons, Percent.utf8EncodeChar_of_lt hhi, Percent.utf8EncodeChar_of_lt hlo]
      show pairs? (hi.toNat.toUInt8 :: lo.toNat.toUInt8 :: encode cs) = _
      rw [pairs?, (pair?_eq_some_iff hhi hlo).mpr pair, ih]
      rfl

/-- **Reading.** A text is read if it has sixteen characters at most, which are numbers two by two. -/
theorem unhex?_eq_some_iff {s : String} {v : Bytes} :
    unhex? s = some v ↔ s.toList.length ≤ 16 ∧ Paired Numeral s.toList v := by
  have hlength : Paired Numeral s.toList v → (Text.bytes s).length = s.toList.length := by
    intro h
    rw [Text.bytes, Percent.encode_of_lt (h.forall_mem fun _ _ _ => Numeral.ascii), List.length_map]
  unfold unhex?
  dsimp only
  constructor
  · intro h
    split at h
    · cases h
    · next hshort =>
      have hpaired := pairs?_eq_some_iff.mp h
      exact ⟨hlength hpaired ▸ Nat.not_lt.mp hshort, hpaired⟩
  · rintro ⟨hshort, hpaired⟩
    rw [if_neg (by rw [hlength hpaired]; omega)]
    exact pairs?_eq_some_iff.mpr hpaired

/-! ### Two octets at a time -/

/-- A number with one more digit behind it, if it fits in eight bits. -/
def pushDigit? (n : Nat) (a : UInt8) : Option Nat :=
  (Bytes.hexValue? (Char.ofNat a.toNat)).bind fun x => if n * 16 + x < 256 then some (n * 16 + x) else none

/-- A number of eight bits in hexadecimal digits, perhaps behind a plus sign. -/
def number? (octets : Bytes) : Option UInt8 :=
  let digits := if octets.head? = some 0x2B then octets.tail else octets
  if digits.isEmpty then none else (digits.foldlM pushDigit? 0).map Nat.toUInt8

/-- The numbers in a text that is cut into pieces of two octets. -/
def unslice? (octets : Bytes) : Option Bytes :=
  if octets.length % 2 ≠ 0 ∨ 16 < octets.length then none
  else
    (List.range (octets.length / 2)).mapM fun k => (slice? octets (2 * k) (2 * k + 2)).bind number?

/-- Two digits are never too many. -/
theorem pushDigit?_of_lt {n : Nat} (hn : n < 16) (a : UInt8) :
    pushDigit? n a = (Bytes.hexValue? (Char.ofNat a.toNat)).map (n * 16 + ·) := by
  unfold pushDigit?
  cases hx : Bytes.hexValue? (Char.ofNat a.toNat) with
  | none => rfl
  | some x =>
    have hlt := (Percent.hexValue?_bounds hx).1
    rw [Option.bind_some, if_pos (by omega), Option.map_some]

/-- Two octets are the same number to both readers. -/
theorem number?_pair (hi lo : UInt8) : number? [hi, lo] = pair? hi lo := by
  unfold pair?
  by_cases hplus : hi = 0x2B
  · subst hplus
    have hone : number? [0x2B, lo] = (pushDigit? 0 lo).map Nat.toUInt8 := by simp [number?]
    rw [hone, pushDigit?_of_lt (by decide)]
    cases hy : Bytes.hexValue? (Char.ofNat lo.toNat) <;> simp [hy]
  · have htwo : number? [hi, lo] =
        ((pushDigit? 0 hi).bind fun n => pushDigit? n lo).map Nat.toUInt8 := by
      simp [number?, hplus, Option.map_bind]
    rw [htwo, pushDigit?_of_lt (by decide)]
    cases hx : Bytes.hexValue? (Char.ofNat hi.toNat) with
    | none => cases hy : Bytes.hexValue? (Char.ofNat lo.toNat) <;> simp [hplus, hx, hy]
    | some x =>
      have hlt := (Percent.hexValue?_bounds hx).1
      rw [Option.map_some, Option.bind_some, pushDigit?_of_lt (by omega)]
      cases hy : Bytes.hexValue? (Char.ofNat lo.toNat) <;> simp [hplus, hx, hy]

/-- The number that two neighbouring octets are. -/
def pairAt? (octets : Bytes) (i : Nat) : Option UInt8 :=
  octets[i]?.bind fun hi => octets[i + 1]?.bind fun lo => pair? hi lo

theorem pairs?_eq_mapM : ∀ {octets : Bytes}, octets.length % 2 = 0 →
    pairs? octets = (List.range (octets.length / 2)).mapM fun k => pairAt? octets (2 * k)
  | [], _ => rfl
  | [_], heven => by simp at heven
  | hi :: lo :: rest, heven => by
    have heven : rest.length % 2 = 0 := by
      simp only [List.length_cons] at heven
      omega
    have hlength : (hi :: lo :: rest).length / 2 = rest.length / 2 + 1 := by
      simp only [List.length_cons]
      omega
    rw [hlength, List.range_succ_eq_map, List.mapM_cons, List.mapM_map, pairs?, pairs?_eq_mapM heven]
    rfl

/-- What is cut out of a text is the number at that place, because the octets of a number are characters. -/
theorem slice?_number (cs : List Char) {i : Nat} (h : i + 1 < (encode cs).length) :
    (slice? (encode cs) i (i + 2)).bind number? = pairAt? (encode cs) i := by
  have hhi : (encode cs)[i]? = some (encode cs)[i] := List.getElem?_eq_getElem (by omega)
  have hlo : (encode cs)[i + 1]? = some (encode cs)[i + 1] := List.getElem?_eq_getElem h
  have hpart : ((encode cs).drop i).take 2 = [(encode cs)[i], (encode cs)[i + 1]] := by
    rw [List.drop_eq_getElem_cons (by omega), List.drop_eq_getElem_cons h]
    rfl
  rw [pairAt?, hhi, hlo, Option.bind_some, Option.bind_some]
  unfold slice?
  rw [Nat.add_sub_cancel_left, hpart]
  split
  · rw [Option.bind_some, number?_pair]
  · next hcut =>
    -- octets of a number are in ASCII, so that there would have been cuts around them
    rw [Option.bind_none]
    refine (Option.eq_none_iff_forall_ne_some.mpr fun b hpair => hcut ?_).symm
    obtain ⟨hhi', hlo'⟩ := ascii_of_pair? hpair
    exact ⟨by omega, (isBoundary_of_ascii hhi hhi').1, (isBoundary_of_ascii hlo hlo').2⟩

/-- **Slices.** To cut out two octets at a time and to read these as numbers comes to the same. -/
theorem unhex?_eq_unslice? (s : String) : unhex? s = unslice? (Text.bytes s) := by
  unfold unhex? unslice?
  dsimp only
  by_cases hlong : 16 < (Text.bytes s).length
  · rw [if_pos hlong, if_pos (.inr hlong)]
  · by_cases heven : (Text.bytes s).length % 2 = 0
    · rw [if_neg hlong, if_neg (by simp [heven, hlong]), pairs?_eq_mapM heven]
      have hsame : ∀ k ∈ List.range ((Text.bytes s).length / 2),
          pairAt? (Text.bytes s) (2 * k) =
            (slice? (Text.bytes s) (2 * k) (2 * k + 2)).bind number? := by
        intro k hk
        have hlt := List.mem_range.mp hk
        exact (slice?_number s.toList (by rw [← Text.bytes]; omega)).symm
      refine Option.ext fun v => ?_
      rw [mapM_eq_some_iff, mapM_eq_some_iff, List.map_congr_left hsame]
    · rw [if_neg hlong, if_pos (.inl heven)]
      refine Option.eq_none_iff_forall_ne_some.mpr fun v hv => heven ?_
      rw [length_of_pairs? hv]
      omega

/-! ### Exactly the digits, but for the sign -/

/-- **Hexadecimal digits.** A text is read if it has sixteen characters at most, which are two by two
hexadecimal digits, or a plus sign with one digit behind it; what is read are the values of the pairs.
These are exactly the hexadecimal digits, of an even number and sixteen at most, unless there is a plus
sign that is read. The text is cut into pieces of two octets, never behind its end, and what is cut out of
it is whole characters. -/
theorem digits_read (s : String) :
    (∀ v, unhex? s = some v ↔ s.toList.length ≤ 16 ∧ Paired Numeral s.toList v) ∧
    ((∀ v, unhex? s = some v ↔ Hexadecimal s v) ↔
      ¬ (s.toList.length ≤ 16 ∧ '+' ∈ s.toList ∧ ∃ v, Paired Numeral s.toList v)) ∧
    ((∃ v, Hexadecimal s v) ↔ s.toList.length ≤ 16 ∧ s.toList.length % 2 = 0 ∧
      ∀ c ∈ s.toList, (Bytes.hexValue? c).isSome = true) ∧
    unhex? s = unslice? (Text.bytes s) ∧
    (∀ k < (Text.bytes s).length / 2, 2 * k + 2 ≤ (Text.bytes s).length) ∧
    ∀ i j part, slice? (Text.bytes s) i j = some part ↔
      ∃ front mid back, s.toList = front ++ (mid ++ back) ∧ i = (encode front).length ∧
        j = i + (encode mid).length ∧ part = encode mid := by
  refine ⟨fun v => unhex?_eq_some_iff, ?_, ?_, unhex?_eq_unslice? s, fun k hk => by omega,
    fun i j part => slice?_eq_some_iff⟩
  · constructor
    · rintro hexact ⟨hshort, hplus, v, hpaired⟩
      exact ((hexact v).mp (unhex?_eq_some_iff.mpr ⟨hshort, hpaired⟩)).paired.plus_notMem hplus
    · intro hsign v
      rw [unhex?_eq_some_iff]
      refine ⟨fun ⟨hshort, hpaired⟩ => ⟨hshort, hpaired.digits fun hplus => ?_⟩, fun h =>
        ⟨h.short, h.paired.numeral⟩⟩
      exact hsign ⟨hshort, hplus, v, hpaired⟩
  · rw [← exists_paired_digits_iff]
    exact ⟨fun ⟨v, h⟩ => ⟨h.short, v, h.paired⟩, fun ⟨hshort, v, h⟩ => ⟨v, hshort, h⟩⟩

/-- Digits of either case are read. -/
theorem digits_read_octets : unhex? "aB01" = some [0xAB, 0x01] := by
  obtain ⟨-, hexact, -⟩ := digits_read "aB01"
  refine (hexact.mpr fun hsign => ?_) [0xAB, 0x01] |>.mpr ⟨by decide, ?_⟩
  · exact absurd hsign.2.1 (by decide)
  · exact .cons ⟨10, 11, rfl, rfl, rfl⟩ (.cons ⟨0, 1, rfl, rfl, rfl⟩ .nil)

/-- A plus sign with a digit behind it is read as the digit. -/
theorem plus_read : unhex? "+f" = some [0x0F] ∧
    ¬ ∀ (s : String) (v : Bytes), unhex? s = some v ↔ Hexadecimal s v := by
  have hread : unhex? "+f" = some [0x0F] := by decide
  exact ⟨hread, fun hall => ((hall "+f" _).mp hread).paired.plus_notMem (by decide)⟩

end Http

end Coap
