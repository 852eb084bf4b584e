import Coap.Text.Blank
import Mathlib.Data.List.DropRight

/-!
# Trimming

Trimming takes characters off both ends as long as they satisfy a condition. What is left is the part in
the middle that neither begins nor ends with such a character.

* `Text.Tight` — characters off which nothing can be trimmed.
* `Text.trimChars_eq_iff` — what is left of characters when they are trimmed.
-/

namespace Coap

namespace Text

variable {p : Char → Bool} {cs before inner after : List Char}

/-- Neither the first character nor the last one satisfies the condition. -/
structure Tight (p : Char → Bool) (cs : List Char) : Prop where
  front : ∀ c, cs.head? = some c → p c = false
  back : ∀ c, cs.getLast? = some c → p c = false

theorem dropWhile_eq_self (h : ∀ c, cs.head? = some c → p c = false) : cs.dropWhile p = cs := by
  cases cs with
  | nil => rfl
  | cons c cs => exact List.dropWhile_cons_of_neg (by simp [h c rfl])

theorem head?_dropWhile {c : Char} (h : (cs.dropWhile p).head? = some c) : p c = false := by
  have hnot := List.head?_dropWhile_not p cs
  rwa [h] at hnot

theorem trimChars_append (htight : Tight p inner) (hbefore : ∀ c ∈ before, p c = true)
    (hafter : ∀ c ∈ after, p c = true) : trimChars p (before ++ inner ++ after) = inner := by
  rw [trimChars, List.append_assoc, List.dropWhile_append_of_pos hbefore]
  cases inner with
  | nil =>
    have hnone : after.dropWhile p = [] := List.dropWhile_eq_nil_iff.mpr hafter
    rw [List.nil_append, hnone]
    rfl
  | cons c inner =>
    have hfront : ∀ d, (c :: inner ++ after).head? = some d → p d = false := fun d hd =>
      htight.front d hd
    rw [dropWhile_eq_self hfront, List.reverse_append,
      List.dropWhile_append_of_pos fun d hd => hafter d (List.mem_reverse.mp hd),
      dropWhile_eq_self fun d hd => htight.back d (by rwa [List.head?_reverse] at hd),
      List.reverse_reverse]

theorem tight_trimChars (p : Char → Bool) (cs : List Char) : Tight p (trimChars p cs) := by
  constructor
  · intro c hc
    -- the front is that of the characters before the last ones were taken off
    have hprefix : trimChars p cs <+: cs.dropWhile p := List.rdropWhile_prefix p _
    obtain ⟨after, hafter⟩ := hprefix
    have hhead : (cs.dropWhile p).head? = some c := by
      rw [← hafter, List.head?_append, hc]
      rfl
    exact head?_dropWhile hhead
  · intro c hc
    rw [trimChars, List.getLast?_reverse] at hc
    exact head?_dropWhile hc

/-- **Trimming.** What is left is tight, and the characters before and after it were taken off. -/
theorem trimChars_eq_iff :
    trimChars p cs = inner ↔
      Tight p inner ∧ ∃ before after, cs = before ++ inner ++ after ∧
        (∀ c ∈ before, p c = true) ∧ ∀ c ∈ after, p c = true := by
  constructor
  · intro h
    refine ⟨h ▸ tight_trimChars p cs, cs.takeWhile p, (cs.dropWhile p).rtakeWhile p, ?_,
      fun c hc => List.mem_takeWhile_imp hc, fun c hc => List.mem_rtakeWhile_imp hc⟩
    subst h
    show cs = cs.takeWhile p ++ (cs.dropWhile p).rdropWhile p ++ (cs.dropWhile p).rtakeWhile p
    rw [List.append_assoc, List.rdropWhile_append_rtakeWhile, List.takeWhile_append_dropWhile]
  · rintro ⟨htight, before, after, rfl, hbefore, hafter⟩
    exact trimChars_append htight hbefore hafter

end Text

end Coap
