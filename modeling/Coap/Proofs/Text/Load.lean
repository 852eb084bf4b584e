import Coap.Proofs.Text.Pieces
import Coap.Proofs.Text.Utf8
import Mathlib.Data.List.DropRight

/-!
# How much of a text is left

Characters in ASCII are counted to tell whether anything was lost on the way: a text that is joined has
as many of them as its pieces, and one more for each piece but one. What is taken out of a text on
purpose has at least one of them, so that a text with as many as before is the text from before.

* `Text.load` — the count for a list of values.
* `Text.load_splitChars`, `Text.load_joinChars` — cutting and joining keep it.
* `Text.LeftOf` — a text that lost nothing if it lost no ASCII.
* `Text.notMem_of_length_splitChars` — joined pieces are cut into as many only if no piece has
  a separator.
-/

namespace Coap.Text

open Utf8

/-! ### Load -/

/-- The octets in ASCII that some values have, and one more for each value. -/
def load : List Bytes → Nat
  | [] => 0
  | v :: values => asciiOctets v + 1 + load values

@[simp] theorem load_nil : load [] = 0 := rfl

@[simp] theorem load_cons (v : Bytes) (values : List Bytes) :
    load (v :: values) = asciiOctets v + 1 + load values := rfl

@[simp] theorem load_append (values values' : List Bytes) :
    load (values ++ values') = load values + load values' := by
  induction values with
  | nil => simp
  | cons v values ih => simp [ih, Nat.add_assoc]

/-- Cutting counts the separators for the pieces. -/
theorem load_splitChars {sep : Char} (hsep : sep.toNat < 0x80) (cs : List Char) :
    load ((splitChars sep cs).map encode) = asciiChars cs + 1 := by
  induction cs with
  | nil => rfl
  | cons c cs ih =>
    by_cases hc : c = sep
    · subst hc
      rw [splitChars, if_pos rfl, List.map_cons, load_cons, ih, asciiChars_cons, if_pos hsep]
      exact Nat.add_comm _ _
    · obtain ⟨piece, more, hcs⟩ := List.exists_cons_of_ne_nil (splitChars_ne_nil sep cs)
      rw [hcs, List.map_cons, load_cons] at ih
      rw [splitChars_cons_of_ne hc hcs, List.map_cons, load_cons, encode_cons, asciiOctets_append,
        asciiOctets_encodeChar, asciiChars_cons]
      omega

/-- Joining counts the pieces for the separators. -/
theorem load_joinChars {sep : Char} (hsep : sep.toNat < 0x80) {pieces : List (List Char)}
    (hne : pieces ≠ []) :
    load (pieces.map encode) = asciiChars (joinChars [sep] pieces) + 1 := by
  induction pieces with
  | nil => exact absurd rfl hne
  | cons piece more ih =>
    cases more with
    | nil =>
      simp [joinChars, asciiOctets_encode]
    | cons next more =>
      show _ = asciiChars (piece ++ [sep] ++ joinChars [sep] (next :: more)) + 1
      rw [List.map_cons, load_cons, ih (List.cons_ne_nil next more), asciiOctets_encode,
        asciiChars_append, asciiChars_append, asciiChars_cons, if_pos hsep]
      simp [asciiChars]
      omega

/-- Leaving out what is not UTF-8 leaves less, unless there is no such thing. -/
theorem load_filterMap (values : List Bytes) :
    load ((values.filterMap ofBytes?).map bytes) ≤ load values ∧
      (load values ≤ load ((values.filterMap ofBytes?).map bytes) →
        values = (values.filterMap ofBytes?).map bytes) := by
  induction values with
  | nil => simp
  | cons v values ih =>
    obtain ⟨hle, hsame⟩ := ih
    cases hread : ofBytes? v with
    | none =>
      rw [List.filterMap_cons_none hread, load_cons]
      omega
    | some s =>
      obtain rfl := ofBytes?_eq_some_iff.mp hread
      rw [List.filterMap_cons_some hread, List.map_cons, load_cons, load_cons]
      exact ⟨by omega, fun h => congrArg (bytes s :: ·) (hsame (by omega))⟩

/-- Replacing what is not UTF-8 leaves as much. -/
theorem load_lossy (values : List Bytes) :
    load (values.map fun v => encode (ofBytesLossy v).toList) = load values := by
  induction values with
  | nil => rfl
  | cons v values ih =>
    rw [List.map_cons, load_cons, load_cons, ih, asciiOctets_encode, ofBytesLossy,
      String.toList_ofList, asciiChars_lossy]

/-! ### Numbers of pieces -/

theorem length_splitChars (sep : Char) (cs : List Char) :
    (splitChars sep cs).length = cs.count sep + 1 := by
  induction cs with
  | nil => rfl
  | cons c cs ih =>
    by_cases hc : c = sep
    · subst hc
      rw [splitChars, if_pos rfl, List.length_cons, ih, List.count_cons_self]
    · obtain ⟨piece, more, hcs⟩ := List.exists_cons_of_ne_nil (splitChars_ne_nil sep cs)
      rw [hcs, List.length_cons] at ih
      rw [splitChars_cons_of_ne hc hcs, List.length_cons, ih, List.count_cons_of_ne hc]

theorem length_le_count_joinChars (sep : Char) (pieces : List (List Char)) :
    pieces.length ≤ (joinChars [sep] pieces).count sep + 1 ∧
      (pieces.length = (joinChars [sep] pieces).count sep + 1 → ∀ piece ∈ pieces, sep ∉ piece) := by
  induction pieces with
  | nil => simp
  | cons piece more ih =>
    cases more with
    | nil =>
      simp [joinChars, List.count_eq_zero, eq_comm]
    | cons next more =>
      have hcount : (joinChars [sep] (piece :: next :: more)).count sep =
          piece.count sep + 1 + (joinChars [sep] (next :: more)).count sep := by
        show (piece ++ [sep] ++ joinChars [sep] (next :: more)).count sep = _
        rw [List.count_append, List.count_append, List.count_singleton_self]
      rw [hcount, List.length_cons, List.forall_mem_cons]
      refine ⟨by omega, fun heq => ⟨?_, ih.2 (by omega)⟩⟩
      exact List.count_eq_zero.mp (by omega)

/-- Joined pieces are cut into as many only where none of them has a separator. -/
theorem notMem_of_length_splitChars {sep : Char} {pieces : List (List Char)}
    (h : (splitChars sep (joinChars [sep] pieces)).length = pieces.length) :
    ∀ piece ∈ pieces, sep ∉ piece :=
  (length_le_count_joinChars sep pieces).2 (h.symm.trans (length_splitChars ..))

/-- Joined pieces that are cut into as many come back. -/
theorem splitChars_of_length {sep : Char} {pieces : List (List Char)} (hne : pieces ≠ [])
    (h : (splitChars sep (joinChars [sep] pieces)).length = pieces.length) :
    splitChars sep (joinChars [sep] pieces) = pieces :=
  splitChars_joinChars hne (notMem_of_length_splitChars h)

/-! ### What is taken out -/

/-- What is left of a text: all of it, unless some ASCII is missing. -/
structure LeftOf (left cs : List Char) : Prop where
  /-- Nothing else is there. -/
  sublist : left.Sublist cs
  /-- Nothing is missing if no ASCII is. -/
  eq_of_le : asciiChars cs ≤ asciiChars left → left = cs

namespace LeftOf

variable {as bs cs : List Char}

theorem asciiChars_le (h : LeftOf bs cs) : asciiChars bs ≤ asciiChars cs := h.sublist.countP_le

theorem refl (cs : List Char) : LeftOf cs cs := ⟨.refl cs, fun _ => rfl⟩

theorem trans (h : LeftOf as bs) (h' : LeftOf bs cs) : LeftOf as cs := by
  refine ⟨h.sublist.trans h'.sublist, fun hle => ?_⟩
  obtain rfl := h'.eq_of_le (hle.trans h.asciiChars_le)
  exact h.eq_of_le hle

/-- What is left where characters in ASCII are taken out. -/
theorem filter {p : Char → Bool} (hp : ∀ c, p c = false → c.toNat < 0x80) (cs : List Char) :
    LeftOf (cs.filter p) cs := by
  refine ⟨List.filter_sublist, fun hle => List.filter_eq_self.mpr fun c hc => ?_⟩
  by_contra hout
  have hmem : c ∈ cs.filter fun c => !p c := List.mem_filter.mpr ⟨hc, by simpa using hout⟩
  have hpos : 0 < asciiChars (cs.filter fun c => !p c) :=
    List.countP_pos_iff.mpr ⟨c, hmem, by simpa using hp c (by simpa using hout)⟩
  have hsum : asciiChars cs = asciiChars (cs.filter p) + asciiChars (cs.filter fun c => !p c) :=
    List.countP_eq_countP_filter_add cs _ p
  omega

/-- What stands before a character in ASCII. -/
theorem front {front rest : List Char} (hrest : ∀ c ∈ rest.head?, c.toNat < 0x80) :
    LeftOf front (front ++ rest) := by
  refine ⟨List.sublist_append_left front rest, fun hle => ?_⟩
  cases rest with
  | nil => rw [List.append_nil]
  | cons c rest =>
    rw [asciiChars_append, asciiChars_cons, if_pos (hrest c rfl)] at hle
    omega

theorem takeWhile {p : Char → Bool} (hp : ∀ c, p c = false → c.toNat < 0x80) (cs : List Char) :
    LeftOf (cs.takeWhile p) cs := by
  have h : LeftOf (cs.takeWhile p) (cs.takeWhile p ++ cs.dropWhile p) := by
    refine front fun c hc => hp c ?_
    have hhead := List.head?_dropWhile_not p cs
    rwa [hc] at hhead
  rwa [List.takeWhile_append_dropWhile] at h

theorem rdropWhile {p : Char → Bool} (hp : ∀ c, p c = true → c.toNat < 0x80) (cs : List Char) :
    LeftOf (cs.rdropWhile p) cs := by
  have h : LeftOf (cs.rdropWhile p) (cs.rdropWhile p ++ cs.rtakeWhile p) :=
    front fun c hc => hp c (List.mem_rtakeWhile_imp (List.mem_of_mem_head? hc))
  rwa [List.rdropWhile_append_rtakeWhile] at h

end LeftOf

end Coap.Text
