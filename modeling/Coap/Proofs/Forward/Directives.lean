import Coap.Forward.Http
import Coap.Proofs.Text.Pieces
import Coap.Proofs.Text.Trim
import Coap.Proofs.Url.Percent

/-!
# Directives that give an age

A header field says in a list of directives how long a response may be kept. The age is read from the first
directive that begins with a name in small letters and goes on with a number, perhaps behind blanks and a
plus sign. A directive in capital letters is passed over, though in HTTP it is the same.

* `Http.AgeDirective` — the parts of a directive that gives an age.
* `Http.Gives`, `Http.Tells` — directives with the name in small letters, and in any letters.
* `Http.ageOf?_eq_some_iff`, `Http.tells_iff` — how the two are read.
* `Http.Allows`, `Http.maxAge?_eq_some_iff`, `Http.maxAge?_eq_none_iff` — the age in a field.
* `Http.allows_single_iff` — a field with a single directive of that name.
-/

namespace Coap

namespace Http

/-! ### Directives -/

/-- The name of the directives that give an age. -/
def ageName : List Char := "max-age".toList

/-- A directive that gives an age: a name in capital or small letters, and a number behind the `=`. There
may be blanks around all of it and before the number, and a plus sign with the number. -/
structure AgeDirective where
  before : List Char
  name : List Char
  gap : List Char
  sign : List Char
  digits : List Char
  after : List Char
  blank_before : ∀ c ∈ before, Text.isBlank c = true
  blank_gap : ∀ c ∈ gap, Text.isBlank c = true
  blank_after : ∀ c ∈ after, Text.isBlank c = true
  named : name.map Char.toLower = ageName
  signed : sign = [] ∨ sign = ['+']
  some_digits : digits ≠ []
  all_digits : ∀ c ∈ digits, c.isDigit = true

namespace AgeDirective

variable (f : AgeDirective)

/-- What stands behind the `=`, but for the blanks. -/
def number : List Char := f.sign ++ f.digits

/-- The directive as it is written. -/
def chars : List Char := f.before ++ (f.name ++ '=' :: (f.gap ++ f.number ++ f.after))

/-- The age in seconds. -/
def age : Nat := Nat.ofDigitChars 10 f.digits 0

/-- Is the directive as HTTP has it, with nothing between the `=` and the digits? -/
def Strict : Prop := f.gap = [] ∧ f.sign = []

end AgeDirective

/-- A directive gives an age in any letters. -/
def Tells (p : List Char) (n : UInt32) : Prop := ∃ f : AgeDirective, f.chars = p ∧ f.age = n.toNat

/-- A directive gives an age in small letters. -/
def Gives (p : List Char) (n : UInt32) : Prop :=
  ∃ f : AgeDirective, f.chars = p ∧ f.name = ageName ∧ f.age = n.toNat

/-- A directive gives an age as HTTP has it, in any letters. -/
def States (p : List Char) (n : UInt32) : Prop :=
  ∃ f : AgeDirective, f.chars = p ∧ f.Strict ∧ f.age = n.toNat

/-- A directive has the name of those that give an age, in any letters. -/
def IsAge (p : List Char) : Prop :=
  ∃ before name rest : List Char, p = before ++ (name ++ '=' :: rest) ∧
    (∀ c ∈ before, Text.isBlank c = true) ∧ name.map Char.toLower = ageName

theorem Gives.tells {p : List Char} {n : UInt32} (h : Gives p n) : Tells p n := by
  obtain ⟨f, hchars, -, hage⟩ := h
  exact ⟨f, hchars, hage⟩

theorem Tells.isAge {p : List Char} {n : UInt32} (h : Tells p n) : IsAge p := by
  obtain ⟨f, rfl, -⟩ := h
  exact ⟨f.before, f.name, _, rfl, f.blank_before, f.named⟩

/-! ### Numbers -/

theorem foldl_digits (digits : List Char) :
    digits.foldl (fun n c => n * 10 + (c.toNat - 0x30)) 0 = Nat.ofDigitChars 10 digits 0 := by
  unfold Nat.ofDigitChars
  congr 1
  funext n c
  rw [Nat.mul_comm]
  rfl

/-- Without the sign in front. -/
def unsigned : List Char → List Char
  | '+' :: rest => rest
  | cs => cs

theorem exists_sign (cs : List Char) : ∃ sign, cs = sign ++ unsigned cs ∧ (sign = [] ∨ sign = ['+']) := by
  unfold unsigned
  split
  · exact ⟨['+'], rfl, .inr rfl⟩
  · exact ⟨[], rfl, .inl rfl⟩

theorem unsigned_append {sign digits : List Char} (hsign : sign = [] ∨ sign = ['+'])
    (hdigits : ∀ c ∈ digits, c.isDigit = true) : unsigned (sign ++ digits) = digits := by
  rcases hsign with rfl | rfl
  · unfold unsigned
    split
    · next rest heq =>
      rw [List.nil_append] at heq
      cases hdigits '+' (heq ▸ List.mem_cons_self)
    · rfl
  · rfl

theorem seconds?_eq (cs : List Char) :
    seconds? cs =
      if (unsigned cs).isEmpty || !(unsigned cs).all Char.isDigit then none
      else if Nat.ofDigitChars 10 (unsigned cs) 0 < UInt32.size then
        some (Nat.ofDigitChars 10 (unsigned cs) 0).toUInt32
      else none := by
  rw [← foldl_digits]
  unfold seconds?
  split
  · rfl
  · next hunsigned =>
    rw [unsigned.eq_2 cs hunsigned]

/-- Digits are read as the number that they write, if that has 32 bits. -/
theorem seconds?_eq_some_iff {cs : List Char} {n : UInt32} :
    seconds? cs = some n ↔ ∃ sign digits : List Char, cs = sign ++ digits ∧ (sign = [] ∨ sign = ['+']) ∧
      digits ≠ [] ∧ (∀ c ∈ digits, c.isDigit = true) ∧ Nat.ofDigitChars 10 digits 0 = n.toNat := by
  rw [seconds?_eq]
  constructor
  · intro h
    obtain ⟨sign, hcs, hsign⟩ := exists_sign cs
    split at h
    · cases h
    · next hread =>
      have hdigits : unsigned cs ≠ [] ∧ ∀ c ∈ unsigned cs, c.isDigit = true := by simpa using hread
      refine ⟨sign, unsigned cs, hcs, hsign, hdigits.1, hdigits.2, ?_⟩
      split at h
      · next hlt =>
        obtain rfl := Option.some.inj h
        exact (Nat.mod_eq_of_lt hlt).symm
      · cases h
  · rintro ⟨sign, digits, rfl, hsign, hsome, hdigits, hvalue⟩
    have hread : (digits.isEmpty || !digits.all Char.isDigit) = false := by simpa [hsome] using hdigits
    rw [unsigned_append hsign hdigits, hread, if_neg Bool.false_ne_true, hvalue, if_pos n.toNat_lt]
    exact congrArg some n.ofNat_toNat

/-- The age that a directive gives. -/
def ageOf? (directive : List Char) : Option UInt32 :=
  (behind? "max-age=".toList (Text.trimChars Text.isBlank directive)).bind fun value =>
    seconds? (Text.trimChars Text.isBlank value)

theorem maxAge?_eq (field : String) :
    maxAge? field = (Text.splitChars ',' field.toList).findSome? ageOf? := rfl

theorem behind?_eq_some_iff {start cs rest : List Char} :
    behind? start cs = some rest ↔ cs = start ++ rest := by
  unfold behind?
  split
  · next h =>
    obtain ⟨rest', rfl⟩ := List.isPrefixOf_iff_prefix.mp h
    rw [List.drop_left, Option.some_inj, List.append_cancel_left_eq, eq_comm]
  · next h =>
    refine iff_of_false nofun fun heq => h ?_
    exact List.isPrefixOf_iff_prefix.mpr ⟨rest, heq.symm⟩

theorem bounds_of_isDigit {c : Char} (h : c.isDigit = true) : 0x30 ≤ c.toNat ∧ c.toNat ≤ 0x39 := by
  simp only [Char.isDigit, ge_iff_le, Bool.and_eq_true, decide_eq_true_eq, UInt32.le_iff_toNat_le] at h
  exact h

theorem isBlank_of_isDigit {c : Char} (h : c.isDigit = true) : Text.isBlank c = false := by
  have hbounds := bounds_of_isDigit h
  rw [← Bool.not_eq_true]
  simp only [Text.isBlank, Bool.or_eq_true, Bool.and_eq_true, decide_eq_true_eq, beq_iff_eq]
  omega

namespace AgeDirective

variable (f : AgeDirective)

theorem getLast?_digits (front : List Char) {c : Char} (h : (front ++ f.digits).getLast? = some c) :
    Text.isBlank c = false := by
  rw [List.getLast?_append_of_ne_nil _ f.some_digits] at h
  exact isBlank_of_isDigit (f.all_digits c (List.mem_of_getLast? h))

theorem tight_number : Text.Tight Text.isBlank f.number where
  front c hc := by
    rcases f.signed with hsign | hsign <;> rw [number, hsign] at hc
    · exact isBlank_of_isDigit (f.all_digits c (List.mem_of_head? hc))
    · obtain rfl := Option.some.inj hc
      decide
  back c hc := f.getLast?_digits f.sign hc

theorem trimChars_chars (hname : f.name = ageName) :
    Text.trimChars Text.isBlank f.chars = "max-age=".toList ++ (f.gap ++ f.number) := by
  have htight : Text.Tight Text.isBlank ("max-age=".toList ++ (f.gap ++ f.number)) := by
    constructor
    · intro c hc
      obtain rfl : 'm' = c := Option.some.inj hc
      decide
    · intro c hc
      rw [number, ← List.append_assoc, ← List.append_assoc] at hc
      exact f.getLast?_digits _ hc
  have hchars : f.chars = f.before ++ ("max-age=".toList ++ (f.gap ++ f.number)) ++ f.after := by
    have hmark : "max-age=".toList = ageName ++ ['='] := rfl
    simp only [chars, hname, hmark, List.append_assoc, List.cons_append, List.nil_append]
  rw [hchars, Text.trimChars_append htight f.blank_before f.blank_after]

theorem trimChars_number : Text.trimChars Text.isBlank (f.gap ++ f.number) = f.number := by
  rw [← List.append_nil (f.gap ++ f.number),
    Text.trimChars_append f.tight_number f.blank_gap (List.forall_mem_nil _)]

end AgeDirective

/-- Directives are read that give an age in small letters. -/
theorem ageOf?_eq_some_iff {p : List Char} {n : UInt32} : ageOf? p = some n ↔ Gives p n := by
  rw [ageOf?, Option.bind_eq_some_iff]
  constructor
  · rintro ⟨value, hvalue, hread⟩
    obtain ⟨-, before, after, hp, hbefore, hafter⟩ :=
      Text.trimChars_eq_iff.mp (behind?_eq_some_iff.mp hvalue)
    obtain ⟨sign, digits, hnumber, hsign, hsome, hdigits, hage⟩ := seconds?_eq_some_iff.mp hread
    obtain ⟨-, gap, gap', rfl, hgap, hgap'⟩ := Text.trimChars_eq_iff.mp hnumber
    refine ⟨⟨before, ageName, gap, sign, digits, gap' ++ after, hbefore, hgap, ?_, rfl, hsign, hsome,
      hdigits⟩, ?_, rfl, hage⟩
    · intro c hc
      exact (List.mem_append.mp hc).elim (hgap' c) (hafter c)
    · have hmark : "max-age=".toList = ageName ++ ['='] := rfl
      rw [hp]
      simp only [AgeDirective.chars, AgeDirective.number, hmark, List.append_assoc, List.cons_append,
        List.nil_append]
  · rintro ⟨f, rfl, hname, hage⟩
    refine ⟨f.gap ++ f.number, behind?_eq_some_iff.mpr (f.trimChars_chars hname), ?_⟩
    rw [f.trimChars_number]
    exact seconds?_eq_some_iff.mpr
      ⟨f.sign, f.digits, rfl, f.signed, f.some_digits, f.all_digits, hage⟩

theorem ageOf?_eq_none_iff {p : List Char} : ageOf? p = none ↔ ∀ n, ¬ Gives p n := by
  simp only [← ageOf?_eq_some_iff, Option.eq_none_iff_forall_ne_some, ne_eq]

/-! ### Fields -/

/-- The directives of a field. -/
def directives (field : String) : List (List Char) := Text.splitChars ',' field.toList

/-- A field gives an age: its first directive that gives one does. -/
def Allows (field : String) (n : UInt32) : Prop :=
  ∃ front p back, directives field = front ++ p :: back ∧ Gives p n ∧ ∀ q ∈ front, ∀ m, ¬ Gives q m

theorem maxAge?_eq_some_iff {field : String} {n : UInt32} : maxAge? field = some n ↔ Allows field n := by
  simp only [maxAge?_eq, List.findSome?_eq_some_iff, ageOf?_eq_some_iff, ageOf?_eq_none_iff]
  rfl

theorem maxAge?_eq_none_iff {field : String} :
    maxAge? field = none ↔ ∀ p ∈ directives field, ∀ n, ¬ Gives p n := by
  simp only [maxAge?_eq, List.findSome?_eq_none_iff, ageOf?_eq_none_iff]
  rfl

/-! ### Letters -/

theorem isBlank_toLower (c : Char) : Text.isBlank c.toLower = Text.isBlank c := by
  rw [Bool.eq_iff_iff]
  simp only [Text.isBlank, Bool.or_eq_true, Bool.and_eq_true, decide_eq_true_eq, beq_iff_eq,
    Percent.toNat_toLower]
  split <;> omega

/-- What has no letters is the small form of itself only. -/
theorem eq_of_map_toLower_eq {cs ds : List Char} (h : cs.map Char.toLower = ds)
    (hds : ∀ d ∈ ds, d.toNat < 0x61) : cs = ds := by
  subst h
  refine (List.map_id cs).symm.trans (List.map_congr_left fun c hc => ?_)
  exact Percent.eq_of_toLower_eq rfl (hds _ (List.mem_map_of_mem hc))

theorem map_toLower_eq_self {cs : List Char} (h : ∀ c ∈ cs, c.toNat < 0x41) : cs.map Char.toLower = cs := by
  refine (List.map_congr_left fun c hc => ?_).trans (List.map_id cs)
  refine Char.toNat_inj.mp ?_
  rw [Percent.toNat_toLower, if_neg (by have := h c hc; omega)]
  rfl

namespace AgeDirective

variable (f : AgeDirective)

/-- A number has no letters. -/
theorem toNat_lt_of_mem_number {c : Char} (h : c ∈ f.number) : c.toNat < 0x3A := by
  rcases List.mem_append.mp h with h | h
  · rcases f.signed with hsign | hsign <;> rw [hsign] at h
    · cases h
    · obtain rfl := List.mem_singleton.mp h
      decide
  · exact Nat.lt_succ_of_le (bounds_of_isDigit (f.all_digits c h)).2

/-- The directive in small letters. -/
def toSmall : AgeDirective where
  before := f.before.map Char.toLower
  name := ageName
  gap := f.gap.map Char.toLower
  sign := f.sign
  digits := f.digits
  after := f.after.map Char.toLower
  blank_before := List.forall_mem_map.mpr fun c hc => (isBlank_toLower c).trans (f.blank_before c hc)
  blank_gap := List.forall_mem_map.mpr fun c hc => (isBlank_toLower c).trans (f.blank_gap c hc)
  blank_after := List.forall_mem_map.mpr fun c hc => (isBlank_toLower c).trans (f.blank_after c hc)
  named := rfl
  signed := f.signed
  some_digits := f.some_digits
  all_digits := f.all_digits

theorem chars_toSmall : f.toSmall.chars = f.chars.map Char.toLower := by
  have hnumber : f.number.map Char.toLower = f.number :=
    map_toLower_eq_self fun c hc => Nat.lt_trans (f.toNat_lt_of_mem_number hc) (by decide)
  have hmark : Char.toLower '=' = '=' := rfl
  simp only [chars, List.map_append, List.map_cons, hnumber, hmark, f.named]
  rfl

end AgeDirective

/-- Any letters are read as their small forms are. -/
theorem tells_iff {p : List Char} {n : UInt32} : Tells p n ↔ Gives (p.map Char.toLower) n := by
  constructor
  · rintro ⟨f, rfl, hage⟩
    exact ⟨f.toSmall, f.chars_toSmall, rfl, hage⟩
  · rintro ⟨f, hchars, hname, hage⟩
    -- the parts of the directive are where those of its small form are
    obtain ⟨before, p, rfl, hbefore, hchars⟩ := List.map_eq_append_iff.mp hchars.symm
    obtain ⟨name, p, rfl, hname', hchars⟩ := List.map_eq_append_iff.mp hchars
    obtain ⟨c, p, rfl, hc, hchars⟩ := List.map_eq_cons_iff.mp hchars
    obtain ⟨value, after, rfl, hvalue, hafter⟩ := List.map_eq_append_iff.mp hchars
    obtain ⟨gap, number, rfl, hgap, hnumber⟩ := List.map_eq_append_iff.mp hvalue
    obtain rfl : c = '=' := Percent.eq_of_toLower_eq hc (by decide)
    obtain rfl : number = f.number := eq_of_map_toLower_eq hnumber fun d hd =>
      Nat.lt_trans (f.toNat_lt_of_mem_number hd) (by decide)
    have hblank : ∀ {cs ds : List Char}, cs.map Char.toLower = ds →
        (∀ d ∈ ds, Text.isBlank d = true) → ∀ c ∈ cs, Text.isBlank c = true := by
      rintro cs _ rfl hds c hc
      exact (isBlank_toLower c).symm.trans (hds _ (List.mem_map_of_mem hc))
    exact ⟨⟨before, name, gap, f.sign, f.digits, after, hblank hbefore f.blank_before,
      hblank hgap f.blank_gap, hblank hafter f.blank_after, hname'.trans hname, f.signed, f.some_digits,
      f.all_digits⟩, rfl, hage⟩

/-- A text in small letters. -/
def lowered (field : String) : String := String.ofList (field.toList.map Char.toLower)

theorem directives_lowered (field : String) :
    directives (lowered field) = (directives field).map (List.map Char.toLower) := by
  have hcomma : ∀ c : Char, c.toLower = ',' ↔ c = ',' := fun c =>
    ⟨fun h => Percent.eq_of_toLower_eq h (by decide), fun h => by rw [h]; rfl⟩
  rw [directives, lowered, String.toList_ofList, Text.splitChars_map hcomma, directives]

/-! ### Names -/

theorem dropWhile_isAge {before name : List Char} (hbefore : ∀ c ∈ before, Text.isBlank c = true)
    (hname : name.map Char.toLower = ageName) (rest : List Char) :
    (before ++ (name ++ rest)).dropWhile Text.isBlank = name ++ rest := by
  rw [List.dropWhile_append_of_pos hbefore]
  refine Text.dropWhile_eq_self fun c hc => ?_
  obtain ⟨m, name, rfl, hm, -⟩ := List.map_eq_cons_iff.mp (hname : _ = 'm' :: _)
  obtain rfl := Option.some.inj hc
  rw [← isBlank_toLower, hm]
  decide

/-- The name of a directive that gives an age is in small letters. -/
theorem Gives.name_eq {before name rest : List Char} {n : UInt32}
    (h : Gives (before ++ (name ++ '=' :: rest)) n) (hbefore : ∀ c ∈ before, Text.isBlank c = true)
    (hname : name.map Char.toLower = ageName) : name = ageName := by
  obtain ⟨g, hchars, hg, -⟩ := h
  have hsame : g.name ++ '=' :: (g.gap ++ g.number ++ g.after) = name ++ '=' :: rest := by
    rw [← dropWhile_isAge hbefore hname, ← dropWhile_isAge g.blank_before g.named]
    exact congrArg _ hchars
  have hlength : g.name.length = name.length := by
    rw [hg, ← hname, List.length_map]
  exact (List.append_inj_left hsame hlength).symm.trans hg

/-- **A single directive.** If one directive has the name, in whatever letters, and goes on with a number,
its age is given exactly if the name is in small letters. -/
theorem allows_single_iff {field : String} {front back : List (List Char)} {f : AgeDirective} {n : UInt32}
    (hfield : directives field = front ++ f.chars :: back) (hothers : ∀ q ∈ front ++ back, ¬ IsAge q)
    (hage : f.age = n.toNat) :
    (Allows field n ↔ f.name = ageName) ∧
      ((∀ p ∈ directives field, ∀ m, ¬ Gives p m) ↔ f.name ≠ ageName) := by
  have hnone : ∀ q ∈ front ++ back, ∀ m, ¬ Gives q m := fun q hq m hgives =>
    hothers q hq hgives.tells.isAge
  have hsmall (hname : f.name = ageName) : Allows field n :=
    ⟨front, f.chars, back, hfield, ⟨f, rfl, hname, hage⟩,
      fun q hq => hnone q (List.mem_append_left back hq)⟩
  have hother (hname : f.name ≠ ageName) : ∀ p ∈ directives field, ∀ m, ¬ Gives p m := by
    intro p hp m hgives
    rw [hfield, List.mem_append, List.mem_cons] at hp
    rcases hp with hp | rfl | hp
    · exact hnone p (List.mem_append_left back hp) m hgives
    · exact hname (hgives.name_eq f.blank_before f.named)
    · exact hnone p (List.mem_append_right front hp) m hgives
  -- an age is given or not, and the name is in small letters or not
  have hnot (hallows : Allows field n) : ¬ ∀ p ∈ directives field, ∀ m, ¬ Gives p m := by
    intro h
    cases (maxAge?_eq_some_iff.mpr hallows).symm.trans (maxAge?_eq_none_iff.mpr h)
  exact ⟨⟨fun hallows => not_not.mp fun hname => hnot hallows (hother hname), hsmall⟩,
    ⟨fun h hname => hnot (hsmall hname) h, hother⟩⟩

/-- Where no directive gives an age as HTTP has it, those that give one nonetheless have a plus sign or
blanks before the digits. -/
theorem exists_gives_iff {field : String} (h : ∀ p ∈ directives field, ∀ n, ¬ States p n) :
    (¬ ∀ p ∈ directives field, ∀ n, ¬ Gives p n) ↔
      ∃ f : AgeDirective, f.chars ∈ directives field ∧ f.name = ageName ∧ ¬ f.Strict ∧
        f.age < UInt32.size := by
  constructor
  · intro hgives
    simp only [not_forall, not_not] at hgives
    obtain ⟨_, hp, n, f, rfl, hname, hage⟩ := hgives
    exact ⟨f, hp, hname, fun strict => h _ hp n ⟨f, rfl, strict, hage⟩, hage ▸ n.toNat_lt⟩
  · rintro ⟨f, hp, hname, -, hage⟩ hnone
    exact hnone _ hp (.ofNat f.age) ⟨f, rfl, hname, (Nat.mod_eq_of_lt hage).symm⟩

end Http

end Coap
