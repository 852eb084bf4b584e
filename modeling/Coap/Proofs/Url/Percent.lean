import Coap.Proofs.Text.Pieces
import Coap.Proofs.Text.Utf8
import Coap.Url.Percent

/-!
# What percent-encoded characters stand for

Decoding goes through characters from the front: three of them that encode an octet give that octet,
and any other one gives the octets of its own. Encoding a set changes nothing in what characters stand
for, unless the set has the percent sign or a digit in it.

* `Percent.octet?`, `Percent.Bare` — the octet that is encoded at the front, and having none anywhere.
* `Percent.decode_encode` — encoding is undone, and octets that were encoded before stay what they are.
* `Percent.decode_eq_encode_iff` — what stands for itself is bare.
* `Percent.asciiOctets_decode` — decoding adds no ASCII, and keeps all of it only where there is nothing
  to decode.
-/

namespace Coap.Percent

open Utf8

/-! ### Digits -/

theorem hexValue?_eq (c : Char) : Bytes.hexValue? c =
    if 0x30 ≤ c.toNat ∧ c.toNat ≤ 0x39 then some (c.toNat - 0x30)
    else if 0x61 ≤ c.toNat ∧ c.toNat ≤ 0x66 then some (c.toNat - 0x61 + 10)
    else if 0x41 ≤ c.toNat ∧ c.toNat ≤ 0x46 then some (c.toNat - 0x41 + 10) else none := by
  simp only [Bytes.hexValue?, Char.le_def, UInt32.le_iff_toNat_le]
  rfl

theorem hexValue?_bounds {c : Char} {n : Nat} (h : Bytes.hexValue? c = some n) :
    n < 16 ∧ (0x30 ≤ c.toNat ∧ c.toNat ≤ 0x39 ∨ 0x41 ≤ c.toNat ∧ c.toNat ≤ 0x46 ∨
      0x61 ≤ c.toNat ∧ c.toNat ≤ 0x66) := by
  rw [hexValue?_eq] at h
  split at h
  · cases h
    omega
  · split at h
    · cases h
      omega
    · split at h
      · cases h
        omega
      · cases h

theorem lt_of_hexValue? {c : Char} {n : Nat} (h : Bytes.hexValue? c = some n) : c.toNat < 0x80 := by
  have := (hexValue?_bounds h).2
  omega

theorem hexValue?_hexDigit : ∀ n : Fin 16, Bytes.hexValue? (hexDigit n) = some n.val := by decide

/-! ### Capital letters -/

theorem toNat_toLower (c : Char) :
    c.toLower.toNat = if 0x41 ≤ c.toNat ∧ c.toNat ≤ 0x5A then c.toNat + 0x20 else c.toNat := by
  have hcapital : (c.val ≥ 'A'.val ∧ c.val ≤ 'Z'.val) ↔ 0x41 ≤ c.toNat ∧ c.toNat ≤ 0x5A := by
    simp only [ge_iff_le, UInt32.le_iff_toNat_le]
    rfl
  unfold Char.toLower
  split
  · next h =>
    rw [if_pos (hcapital.mp h)]
    show (c.val + 0x20).toNat = c.toNat + 0x20
    rw [UInt32.toNat_add]
    have := (hcapital.mp h).2
    simp
    omega
  · next h => rw [if_neg fun h' => h (hcapital.mpr h')]

/-- What is no small letter is the small form of itself only. -/
theorem eq_of_toLower_eq {c d : Char} (h : c.toLower = d) (hd : d.toNat < 0x61) : c = d := by
  have hc := toNat_toLower c
  rw [h] at hc
  split at hc
  · omega
  · exact Char.toNat_inj.mp hc.symm

theorem hexValue?_toLower (c : Char) : Bytes.hexValue? c.toLower = Bytes.hexValue? c := by
  have hc := toNat_toLower c
  rw [hexValue?_eq, hexValue?_eq, hc]
  split <;> grind

/-! ### Encoded octets -/

/-- The octet that is encoded at the front. -/
def octet? : List Char → Option UInt8
  | '%' :: hi :: lo :: _ =>
    (Bytes.hexValue? hi).bind fun x => (Bytes.hexValue? lo).map fun y => (x * 16 + y).toUInt8
  | _ => none

theorem octet?_eq_some_iff {cs : List Char} {b : UInt8} :
    octet? cs = some b ↔ ∃ hi lo rest x y, cs = '%' :: hi :: lo :: rest ∧
      Bytes.hexValue? hi = some x ∧ Bytes.hexValue? lo = some y ∧ b = (x * 16 + y).toUInt8 := by
  constructor
  · intro h
    unfold octet? at h
    split at h
    · next hi lo rest =>
      obtain ⟨x, hx, h⟩ := Option.bind_eq_some_iff.mp h
      obtain ⟨y, hy, rfl⟩ := Option.map_eq_some_iff.mp h
      exact ⟨hi, lo, rest, x, y, rfl, hx, hy, rfl⟩
    · cases h
  · rintro ⟨hi, lo, rest, x, y, rfl, hx, hy, rfl⟩
    simp [octet?, hx, hy]

/-! ### Decoding from the front -/

theorem utf8EncodeChar_of_lt {c : Char} (hc : c.toNat < 0x80) :
    String.utf8EncodeChar c = [c.toNat.toUInt8] := by
  have hb : c.toNat.toUInt8.toNat = c.toNat := by simp; omega
  have hone := encode_one (a := c.toNat.toUInt8) (by omega)
  rwa [hb, c.ofNat_toNat] at hone

/-- Characters of ASCII are their own octets. -/
theorem encode_of_lt {cs : List Char} (h : ∀ c ∈ cs, c.toNat < 0x80) :
    Text.encode cs = cs.map fun c => c.toNat.toUInt8 := by
  induction cs with
  | nil => rfl
  | cons c cs ih =>
    rw [Text.encode_cons, utf8EncodeChar_of_lt (h c List.mem_cons_self),
      ih fun d hd => h d (List.mem_cons_of_mem _ hd)]
    rfl

theorem ofNat_toUInt8 {c : Char} (hc : c.toNat < 0x80) : Char.ofNat c.toNat.toUInt8.toNat = c := by
  rw [show c.toNat.toUInt8.toNat = c.toNat by simp; omega, c.ofNat_toNat]

/-- Three characters that encode an octet stand for it. -/
theorem decode_escape {hi lo : Char} {x y : Nat} (hx : Bytes.hexValue? hi = some x)
    (hy : Bytes.hexValue? lo = some y) (cs : List Char) :
    decode ('%' :: hi :: lo :: cs) = (x * 16 + y).toUInt8 :: decode cs := by
  have hhi := lt_of_hexValue? hx
  have hlo := lt_of_hexValue? hy
  rw [decode, Text.encode_cons, Text.encode_cons, Text.encode_cons, utf8EncodeChar_of_lt hhi,
    utf8EncodeChar_of_lt hlo]
  show decodeBytes (0x25 :: hi.toNat.toUInt8 :: lo.toNat.toUInt8 :: Text.encode cs) = _
  rw [decodeBytes, ofNat_toUInt8 hhi, ofNat_toUInt8 hlo, hx, hy]
  rfl

/-- Octets other than the percent sign stay. -/
theorem decodeBytes_cons_of_ne {b : UInt8} (hb : b ≠ 0x25) (v : Bytes) :
    decodeBytes (b :: v) = b :: decodeBytes v := by
  match v with
  | [] => rfl
  | [_] => rfl
  | hi :: lo :: rest =>
    rw [decodeBytes, show (b == 0x25) = false by simpa using hb]

theorem decodeBytes_append_of_ne {v : Bytes} (hv : ∀ b ∈ v, b ≠ 0x25) (w : Bytes) :
    decodeBytes (v ++ w) = v ++ decodeBytes w := by
  induction v with
  | nil => rfl
  | cons b v ih =>
    rw [List.cons_append, decodeBytes_cons_of_ne (hv b List.mem_cons_self),
      ih fun b' hb' => hv b' (List.mem_cons_of_mem b hb'), List.cons_append]

theorem lt_of_hexValue?_ofNat {b : UInt8} {n : Nat}
    (h : Bytes.hexValue? (Char.ofNat b.toNat) = some n) : b.toNat < 0x80 := by
  have hb := b.toNat_lt
  have hlt := lt_of_hexValue? h
  rwa [toNat_ofNat (by omega)] at hlt

theorem ne_percent_of_mem_encodeChar {c : Char} (hc : c ≠ '%') {b : UInt8}
    (hb : b ∈ String.utf8EncodeChar c) : b ≠ 0x25 := by
  intro (h : b = 0x25)
  subst h
  by_cases hlt : c.toNat < 0x80
  · rw [utf8EncodeChar_of_lt hlt, List.mem_singleton] at hb
    have hnat := congrArg UInt8.toNat hb
    simp at hnat
    refine hc (Char.toNat_inj.mp ?_)
    show c.toNat = 0x25
    omega
  · exact absurd (le_of_mem_encodeChar (Nat.not_lt.mp hlt) hb) (by decide)

/-- An octet in ASCII at the front of a text is a character there. -/
theorem exists_of_encode_eq_cons {cs : List Char} {b : UInt8} {v : Bytes}
    (h : Text.encode cs = b :: v) (hb : b.toNat < 0x80) :
    ∃ rest, cs = Char.ofNat b.toNat :: rest ∧ v = Text.encode rest := by
  cases cs with
  | nil => cases h
  | cons c rest =>
    rw [Text.encode_cons] at h
    by_cases hc : c.toNat < 0x80
    · rw [utf8EncodeChar_of_lt hc] at h
      obtain ⟨rfl, rfl⟩ := List.cons.inj h
      exact ⟨rest, by rw [ofNat_toUInt8 hc], rfl⟩
    · obtain ⟨a, tail, hchar, -⟩ := scan_encode c []
      rw [hchar, List.cons_append] at h
      obtain ⟨rfl, -⟩ := List.cons.inj h
      have := le_of_mem_encodeChar (Nat.not_lt.mp hc) (hchar ▸ List.mem_cons_self)
      omega

/-- A character that begins no encoded octet stands for itself. -/
theorem decode_cons {c : Char} {cs : List Char} (h : octet? (c :: cs) = none) :
    decode (c :: cs) = String.utf8EncodeChar c ++ decode cs := by
  rw [decode, Text.encode_cons]
  by_cases hc : c = '%'
  · subst hc
    show decodeBytes (0x25 :: Text.encode cs) = 0x25 :: decodeBytes (Text.encode cs)
    match hv : Text.encode cs with
    | [] => rfl
    | [_] => rfl
    | hi :: lo :: v =>
      rw [decodeBytes]
      cases hx : Bytes.hexValue? (Char.ofNat hi.toNat) with
      | none => rfl
      | some x =>
        cases hy : Bytes.hexValue? (Char.ofNat lo.toNat) with
        | none => rfl
        | some y =>
          -- digits are in ASCII, so the characters behind the percent sign are these two
          obtain ⟨rest, rfl, hrest⟩ := exists_of_encode_eq_cons hv (lt_of_hexValue?_ofNat hx)
          obtain ⟨rest, rfl, -⟩ := exists_of_encode_eq_cons hrest.symm (lt_of_hexValue?_ofNat hy)
          simp [octet?, hx, hy] at h
  · exact decodeBytes_append_of_ne (fun b hb => ne_percent_of_mem_encodeChar hc hb) _

/-! ### Bare characters -/

/-- No octet is encoded anywhere. -/
def Bare (cs : List Char) : Prop := ∀ tail, tail <:+ cs → octet? tail = none

theorem bare_nil : Bare [] := by simp [Bare, octet?]

theorem bare_cons {c : Char} {cs : List Char} :
    Bare (c :: cs) ↔ octet? (c :: cs) = none ∧ Bare cs := by
  simp [Bare, List.suffix_cons_iff]

instance Bare.decide : (cs : List Char) → Decidable (Bare cs)
  | [] => isTrue bare_nil
  | _ :: cs => @decidable_of_iff _ _ bare_cons.symm (@instDecidableAnd _ _ _ (Bare.decide cs))

theorem decode_of_bare {cs : List Char} (h : Bare cs) : decode cs = Text.encode cs := by
  induction cs with
  | nil => rfl
  | cons c cs ih =>
    obtain ⟨hc, hcs⟩ := bare_cons.mp h
    rw [decode_cons hc, ih hcs, Text.encode_cons]

/-- Letters of either case encode the same octets. -/
theorem Bare.map_toLower {cs : List Char} (h : Bare cs) : Bare (cs.map Char.toLower) := by
  induction cs with
  | nil => exact h
  | cons c cs ih =>
    obtain ⟨hc, hcs⟩ := bare_cons.mp h
    refine bare_cons.mpr ⟨Option.eq_none_iff_forall_ne_some.mpr fun b hb => ?_, ih hcs⟩
    obtain ⟨hi, lo, rest, x, y, heq, hx, hy, -⟩ := octet?_eq_some_iff.mp hb
    obtain ⟨hpercent, hdigits⟩ := List.cons.inj heq
    obtain ⟨hi, more, rfl, rfl, hdigit⟩ := List.map_eq_cons_iff.mp hdigits
    obtain ⟨lo, more, rfl, rfl, -⟩ := List.map_eq_cons_iff.mp hdigit
    obtain rfl := eq_of_toLower_eq hpercent (by decide)
    rw [hexValue?_toLower] at hx hy
    simp [octet?, hx, hy] at hc

/-- Where nothing is a percent sign, nothing is encoded. -/
theorem bare_of_notMem {cs : List Char} (h : '%' ∉ cs) : Bare cs := by
  intro tail htail
  cases hoctet : octet? tail with
  | none => rfl
  | some b =>
    obtain ⟨hi, lo, rest, x, y, rfl, -⟩ := octet?_eq_some_iff.mp hoctet
    exact absurd (htail.subset List.mem_cons_self) h

/-- Induction along decoding. -/
@[elab_as_elim]
theorem decodeInduction {motive : List Char → Prop} (nil : motive [])
    (plain : ∀ c cs, octet? (c :: cs) = none → motive cs → motive (c :: cs))
    (encoded : ∀ hi lo cs x y, Bytes.hexValue? hi = some x → Bytes.hexValue? lo = some y →
      motive cs → motive ('%' :: hi :: lo :: cs))
    (cs : List Char) : motive cs := by
  match cs with
  | [] => exact nil
  | c :: cs =>
    cases hoctet : octet? (c :: cs) with
    | none => exact plain c cs hoctet (decodeInduction nil plain encoded cs)
    | some b =>
      obtain ⟨hi, lo, rest, x, y, heq, hx, hy, -⟩ := octet?_eq_some_iff.mp hoctet
      cases heq
      exact encoded hi lo rest x y hx hy (decodeInduction nil plain encoded rest)
termination_by cs.length

/-- **Loss.** Decoding adds no ASCII, and loses none only where nothing is encoded. -/
theorem asciiOctets_decode (cs : List Char) :
    asciiOctets (decode cs) ≤ asciiChars cs ∧
      (asciiOctets (decode cs) = asciiChars cs → Bare cs) := by
  induction cs using decodeInduction with
  | nil => exact ⟨Nat.le_refl 0, fun _ => bare_nil⟩
  | plain c cs hoctet ih =>
    rw [decode_cons hoctet, asciiOctets_append, asciiOctets_encodeChar, asciiChars_cons]
    exact ⟨by omega, fun heq => bare_cons.mpr ⟨hoctet, ih.2 (by omega)⟩⟩
  | encoded hi lo cs x y hx hy ih =>
    have hone (b : UInt8) : (if b.toNat < 0x80 then 1 else 0) ≤ 1 := by split <;> omega
    rw [decode_escape hx hy, asciiOctets_cons, asciiChars_cons, asciiChars_cons, asciiChars_cons,
      if_pos (lt_of_hexValue? hx), if_pos (lt_of_hexValue? hy)]
    have := hone (x * 16 + y).toUInt8
    omega

/-- Characters stand for themselves if they are bare, and only then. -/
theorem decode_eq_encode_iff {cs : List Char} : decode cs = Text.encode cs ↔ Bare cs := by
  constructor
  · intro h
    refine (asciiOctets_decode cs).2 ?_
    rw [h, Text.asciiOctets_encode]
  · exact decode_of_bare

/-! ### Encoding -/

/-- A set with neither the percent sign nor a digit in it: encoding it leaves encoded octets alone. -/
def Faithful (set : Char → Bool) : Prop := ∀ c, set c = true → c ≠ '%' ∧ Bytes.hexValue? c = none

theorem decode_encodeByte (b : UInt8) (cs : List Char) :
    decode (encodeByte b ++ cs) = b :: decode cs := by
  have hb := b.toNat_lt
  have hoctet : (b.toNat / 16 * 16 + b.toNat % 16).toUInt8 = b := by
    rw [show b.toNat / 16 * 16 + b.toNat % 16 = b.toNat by omega]
    exact UInt8.toNat_inj.mp (by simp)
  have hhi := hexValue?_hexDigit ⟨b.toNat / 16, by omega⟩
  have hlo := hexValue?_hexDigit ⟨b.toNat % 16, by omega⟩
  exact (decode_escape hhi hlo cs).trans (congrArg (· :: decode cs) hoctet)

theorem decode_encodeBytes (v : Bytes) (cs : List Char) :
    decode (v.flatMap encodeByte ++ cs) = v ++ decode cs := by
  induction v with
  | nil => rfl
  | cons b v ih =>
    rw [List.flatMap_cons, List.append_assoc, decode_encodeByte, ih, List.cons_append]

section

variable {set : Char → Bool}

/-- A character that encoding shows is a character of the text, or one that encodes octets. -/
theorem of_mem_encodeChar {c d : Char} (h : d ∈ encodeChar set c) :
    d.toNat < 0x80 ∧ (d = c ∧ set c = false ∨ d = '%' ∨ ∃ n, Bytes.hexValue? d = some n) := by
  unfold encodeChar at h
  split at h
  · obtain ⟨b, -, hd⟩ := List.mem_flatMap.mp h
    have hb := b.toNat_lt
    have hhi := hexValue?_hexDigit ⟨b.toNat / 16, by omega⟩
    have hlo := hexValue?_hexDigit ⟨b.toNat % 16, by omega⟩
    simp only [encodeByte, List.mem_cons, List.not_mem_nil, or_false] at hd
    obtain rfl | rfl | rfl := hd
    · exact ⟨by decide, .inr (.inl rfl)⟩
    · exact ⟨lt_of_hexValue? hhi, .inr (.inr ⟨_, hhi⟩)⟩
    · exact ⟨lt_of_hexValue? hlo, .inr (.inr ⟨_, hlo⟩)⟩
  · next hc =>
    obtain rfl := List.mem_singleton.mp h
    simp only [Bool.or_eq_true, decide_eq_true_eq, not_or, Bool.not_eq_true] at hc
    exact ⟨by omega, .inl ⟨rfl, hc.2⟩⟩

theorem encode_cons (c : Char) (cs : List Char) :
    encode set (c :: cs) = encodeChar set c ++ encode set cs := rfl

/-- Encoded text is in ASCII and has none of the set. -/
theorem not_set_of_mem_encode (hset : Faithful set) {cs : List Char} {d : Char}
    (h : d ∈ encode set cs) : d.toNat < 0x80 ∧ set d = false := by
  obtain ⟨c, -, hd⟩ := List.mem_flatMap.mp h
  obtain ⟨hascii, ⟨rfl, hc⟩ | rfl | ⟨n, hn⟩⟩ := of_mem_encodeChar hd
  · exact ⟨hascii, hc⟩
  · exact ⟨hascii, Bool.eq_false_iff.mpr fun hin => (hset _ hin).1 rfl⟩
  · exact ⟨hascii, Bool.eq_false_iff.mpr fun hin => by simp [(hset _ hin).2] at hn⟩

/-- What encodes no octet is in encoded text only if it is in the text. -/
theorem mem_of_mem_encode {cs : List Char} {d : Char} (h : d ∈ encode set cs) (hmark : d ≠ '%')
    (hdigit : Bytes.hexValue? d = none) : d ∈ cs := by
  obtain ⟨c, hc, hd⟩ := List.mem_flatMap.mp h
  obtain ⟨-, ⟨rfl, -⟩ | rfl | ⟨n, hn⟩⟩ := of_mem_encodeChar hd
  · exact hc
  · exact absurd rfl hmark
  · simp [hdigit] at hn

/-- Text in ASCII with none of the set stays as it is. -/
theorem encode_eq_self {cs : List Char} (h : ∀ c ∈ cs, c.toNat < 0x80 ∧ set c = false) :
    encode set cs = cs := by
  induction cs with
  | nil => rfl
  | cons c cs ih =>
    obtain ⟨hascii, hc⟩ := h c List.mem_cons_self
    rw [encode_cons, encodeChar, hc, ih fun d hd => h d (List.mem_cons_of_mem c hd),
      Bool.or_false, if_neg (by simpa using hascii), List.singleton_append]

/-- A digit at the front of encoded text stands there before. -/
theorem exists_of_encode_eq_cons_digit {cs rest : List Char} {d : Char} {n : Nat}
    (h : encode set cs = d :: rest) (hd : Bytes.hexValue? d = some n) :
    ∃ cs', cs = d :: cs' ∧ rest = encode set cs' := by
  cases cs with
  | nil => cases h
  | cons c cs =>
    rw [encode_cons, encodeChar] at h
    split at h
    · -- what is encoded begins with a percent sign
      obtain ⟨a, tail, hchar, -⟩ := scan_encode c []
      rw [hchar, List.flatMap_cons] at h
      obtain ⟨rfl, -⟩ := List.cons.inj h
      cases hd
    · obtain ⟨rfl, rfl⟩ := List.cons.inj h
      exact ⟨cs, rfl, rfl⟩

/-- **Encoding.** Encoding text leaves alone what it stands for. -/
theorem decode_encode (hset : Faithful set) (cs : List Char) :
    decode (encode set cs) = decode cs := by
  induction cs using decodeInduction with
  | nil => rfl
  | plain c cs hoctet ih =>
    rw [decode_cons hoctet, ← ih, encode_cons, encodeChar]
    split
    · rw [decode_encodeBytes]
    · refine decode_cons (Option.eq_none_iff_forall_ne_some.mpr fun b hb => ?_)
      -- the digits of an octet at the front would have been there before
      obtain ⟨hi, lo, rest, x, y, heq, hx, hy, -⟩ := octet?_eq_some_iff.mp hb
      obtain ⟨rfl, hcs⟩ := List.cons.inj heq
      obtain ⟨cs, rfl, hrest⟩ := exists_of_encode_eq_cons_digit hcs hx
      obtain ⟨cs, rfl, -⟩ := exists_of_encode_eq_cons_digit hrest.symm hy
      simp [octet?, hx, hy] at hoctet
  | encoded hi lo cs x y hx hy ih =>
    have hkept {c : Char} (hc : c.toNat < 0x80) (hout : ¬ (c ≠ '%' ∧ Bytes.hexValue? c = none)) :
        encodeChar set c = [c] := by
      rw [encodeChar, Bool.eq_false_iff.mpr fun hin => hout (hset c hin), Bool.or_false,
        if_neg (by simpa using hc)]
    rw [encode_cons, encode_cons, encode_cons, hkept (by decide) (by simp),
      hkept (lt_of_hexValue? hx) (by simp [hx]), hkept (lt_of_hexValue? hy) (by simp [hy])]
    exact (decode_escape hx hy _).trans ((congrArg _ ih).trans (decode_escape hx hy _).symm)

/-- Cutting encoded text cuts the text, at a separator that is not encoded. -/
theorem splitChars_encode {sep : Char} (hascii : sep.toNat < 0x80) (hsep : set sep = false)
    (hplain : sep ≠ '%' ∧ Bytes.hexValue? sep = none) (cs : List Char) :
    Text.splitChars sep (encode set cs) = (Text.splitChars sep cs).map (encode set) := by
  induction cs with
  | nil => rfl
  | cons c cs ih =>
    by_cases hc : c = sep
    · subst hc
      rw [encode_cons, encodeChar, hsep, Bool.or_false, if_neg (by simpa using hascii),
        List.singleton_append, Text.splitChars, if_pos rfl, Text.splitChars, if_pos rfl, ih]
      rfl
    · have hnone : sep ∉ encodeChar set c := by
        intro hmem
        obtain ⟨-, ⟨rfl, -⟩ | rfl | ⟨n, hn⟩⟩ := of_mem_encodeChar hmem
        · exact hc rfl
        · exact hplain.1 rfl
        · simp [hplain.2] at hn
      obtain ⟨piece, more, hcs⟩ := List.exists_cons_of_ne_nil (Text.splitChars_ne_nil sep cs)
      rw [hcs, List.map_cons] at ih
      rw [encode_cons, Text.splitChars_append_of_notMem hnone ih, Text.splitChars_cons_of_ne hc hcs]
      rfl

end

/-! ### The sets of the parts of a URL -/

theorem Faithful.or {set set' : Char → Bool} (h : Faithful set) (h' : Faithful set') :
    Faithful fun c => set c || set' c := by
  intro c hc
  obtain hc | hc := Bool.or_eq_true_iff.mp hc
  · exact h c hc
  · exact h' c hc

theorem faithful_controls : Faithful controls := by
  intro c hc
  simp only [controls, Bool.or_eq_true, decide_eq_true_eq, beq_iff_eq] at hc
  refine ⟨fun h => ?_, Option.eq_none_iff_forall_ne_some.mpr fun n hn => ?_⟩
  · subst h
    revert hc
    decide
  · have := (hexValue?_bounds hn).2
    omega

theorem faithful_marks {marks : List Char}
    (h : (marks.all fun c => c != '%' && (Bytes.hexValue? c).isNone) = true) :
    Faithful fun c => c ∈ marks := by
  intro c hc
  simpa using List.all_eq_true.mp h c (by simpa using hc)

theorem faithful_path : Faithful path :=
  (faithful_controls.or (faithful_marks (by decide))).or (faithful_marks (by decide))

theorem faithful_query : Faithful query := faithful_controls.or (faithful_marks (by decide))

theorem faithful_specialQuery : Faithful specialQuery := by
  refine faithful_query.or fun c hc => ?_
  obtain rfl := beq_iff_eq.mp hc
  decide

end Coap.Percent
