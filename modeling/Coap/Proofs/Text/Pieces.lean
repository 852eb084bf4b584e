import Coap.Text.Split

/-!
# Pieces of a text

Cutting a text at its separators undoes joining pieces with them. Its non-empty pieces hold all its
characters but the separators, so that they tell nothing of separators that follow one another.

* `Text.splitChars_append_sep` — a separator cuts.
* `Text.pieces_join` — pieces that are joined come back.
* `Text.flatten_pieces` — what the pieces hold.
* `Text.pieces_append_eq_iff` — separators at the end, and nothing else there, go unnoticed.
-/

namespace Coap.Text

variable {sep : Char}

/-! ### Cutting -/

theorem splitChars_ne_nil (sep : Char) (cs : List Char) : splitChars sep cs ≠ [] := by
  cases cs with
  | nil => simp [splitChars]
  | cons c cs =>
    unfold splitChars
    split
    · simp
    · split <;> simp

/-- A character that is no separator comes before the first piece. -/
theorem splitChars_cons_of_ne {c : Char} (hc : c ≠ sep) {cs piece : List Char}
    {more : List (List Char)} (h : splitChars sep cs = piece :: more) :
    splitChars sep (c :: cs) = (c :: piece) :: more := by
  rw [splitChars, if_neg hc, h]

/-- Characters without separators come before the first piece. -/
theorem splitChars_append_of_notMem {front cs piece : List Char} (hfront : sep ∉ front)
    {more : List (List Char)} (h : splitChars sep cs = piece :: more) :
    splitChars sep (front ++ cs) = (front ++ piece) :: more := by
  induction front with
  | nil => exact h
  | cons c front ih =>
    obtain ⟨hc, hfront⟩ := List.ne_and_not_mem_of_not_mem_cons hfront
    exact splitChars_cons_of_ne (Ne.symm hc) (ih hfront)

/-- A text without separators is a single piece. -/
theorem splitChars_of_notMem {cs : List Char} (h : sep ∉ cs) : splitChars sep cs = [cs] := by
  induction cs with
  | nil => rfl
  | cons c cs ih =>
    obtain ⟨hc, hcs⟩ := List.ne_and_not_mem_of_not_mem_cons h
    exact splitChars_cons_of_ne (Ne.symm hc) (ih hcs)

/-- A separator cuts, whatever stands before and behind it. -/
theorem splitChars_append_sep (front back : List Char) :
    splitChars sep (front ++ sep :: back) = splitChars sep front ++ splitChars sep back := by
  induction front with
  | nil => exact if_pos rfl
  | cons c front ih =>
    by_cases hc : c = sep
    · subst hc
      rw [List.cons_append, splitChars, if_pos rfl, splitChars, if_pos rfl, ih, List.cons_append]
    · obtain ⟨piece, more, hfront⟩ := List.exists_cons_of_ne_nil (splitChars_ne_nil sep front)
      rw [hfront, List.cons_append] at ih
      rw [List.cons_append, splitChars_cons_of_ne hc ih, splitChars_cons_of_ne hc hfront,
        List.cons_append]

/-- No piece has a separator. -/
theorem notMem_of_mem_splitChars {cs piece : List Char} (h : piece ∈ splitChars sep cs) :
    sep ∉ piece := by
  induction cs generalizing piece with
  | nil =>
    obtain rfl : piece = [] := by simpa [splitChars] using h
    exact List.not_mem_nil
  | cons c cs ih =>
    by_cases hc : c = sep
    · rw [splitChars, if_pos hc] at h
      obtain rfl | h := List.mem_cons.mp h
      · exact List.not_mem_nil
      · exact ih h
    · obtain ⟨first, more, hcs⟩ := List.exists_cons_of_ne_nil (splitChars_ne_nil sep cs)
      rw [hcs] at ih
      rw [splitChars_cons_of_ne hc hcs] at h
      obtain rfl | h := List.mem_cons.mp h
      · exact List.not_mem_cons_of_ne_of_not_mem (Ne.symm hc) (ih List.mem_cons_self)
      · exact ih (List.mem_cons_of_mem first h)

/-- Where a text is cut does not depend on its other characters. -/
theorem splitChars_map {f : Char → Char} (hsep : ∀ c, f c = sep ↔ c = sep) (cs : List Char) :
    splitChars sep (cs.map f) = (splitChars sep cs).map (List.map f) := by
  induction cs with
  | nil => rfl
  | cons c cs ih =>
    by_cases hc : c = sep
    · rw [List.map_cons, splitChars, if_pos ((hsep c).mpr hc), splitChars, if_pos hc, ih]
      rfl
    · obtain ⟨piece, more, hcs⟩ := List.exists_cons_of_ne_nil (splitChars_ne_nil sep cs)
      rw [hcs, List.map_cons] at ih
      rw [List.map_cons, splitChars_cons_of_ne (mt (hsep c).mp hc) ih, splitChars_cons_of_ne hc hcs]
      rfl

/-- Pieces without separators come back from a text that joins them. -/
theorem splitChars_joinChars {pieces : List (List Char)} (hne : pieces ≠ [])
    (h : ∀ piece ∈ pieces, sep ∉ piece) : splitChars sep (joinChars [sep] pieces) = pieces := by
  induction pieces with
  | nil => exact absurd rfl hne
  | cons piece more ih =>
    have hpiece := splitChars_of_notMem (h piece List.mem_cons_self)
    cases more with
    | nil => exact hpiece
    | cons next more =>
      have hmore := ih (List.cons_ne_nil next more) fun p hp => h p (List.mem_cons_of_mem piece hp)
      show splitChars sep (piece ++ [sep] ++ joinChars [sep] (next :: more)) = _
      rw [List.append_assoc, List.singleton_append, splitChars_append_sep, hpiece, hmore,
        List.singleton_append]

theorem map_joinChars (f : Char → Char) (sep : List Char) (pieces : List (List Char)) :
    (joinChars sep pieces).map f = joinChars (sep.map f) (pieces.map (List.map f)) := by
  induction pieces with
  | nil => rfl
  | cons piece more ih =>
    cases more with
    | nil => rfl
    | cons next more =>
      show (piece ++ sep ++ joinChars sep (next :: more)).map f = _
      rw [List.map_append, List.map_append, ih]
      rfl

theorem mem_joinChars {pieces : List (List Char)} {c : Char} (h : c ∈ joinChars [sep] pieces) :
    c = sep ∨ ∃ piece ∈ pieces, c ∈ piece := by
  induction pieces with
  | nil => cases h
  | cons piece more ih =>
    cases more with
    | nil => exact .inr ⟨piece, List.mem_cons_self, h⟩
    | cons next more =>
      have hmem : c ∈ piece ++ [sep] ++ joinChars [sep] (next :: more) := h
      simp only [List.mem_append, List.mem_singleton] at hmem
      obtain (hpiece | rfl) | hmore := hmem
      · exact .inr ⟨piece, List.mem_cons_self, hpiece⟩
      · exact .inl rfl
      · obtain rfl | ⟨p, hp, hc⟩ := ih hmore
        · exact .inl rfl
        · exact .inr ⟨p, List.mem_cons_of_mem piece hp, hc⟩

theorem mem_joinChars_of_mem {pieces : List (List Char)} {piece : List Char} (h : piece ∈ pieces)
    {c : Char} (hc : c ∈ piece) : c ∈ joinChars [sep] pieces := by
  induction pieces with
  | nil => cases h
  | cons first more ih =>
    cases more with
    | nil =>
      obtain rfl := List.mem_singleton.mp h
      exact hc
    | cons next more =>
      show c ∈ first ++ [sep] ++ joinChars [sep] (next :: more)
      obtain rfl | h := List.mem_cons.mp h
      · simp [hc]
      · exact List.mem_append_right _ (ih h)

/-- A text that joins non-empty pieces does not end in a separator. -/
theorem getLast?_joinChars {pieces : List (List Char)} (hne : pieces ≠ [])
    (h : ∀ piece ∈ pieces, piece ≠ [] ∧ sep ∉ piece) :
    ∃ c, (joinChars [sep] pieces).getLast? = some c ∧ c ≠ sep := by
  induction pieces with
  | nil => exact absurd rfl hne
  | cons piece more ih =>
    cases more with
    | nil =>
      obtain ⟨hpiece, hsep⟩ := h piece List.mem_cons_self
      exact ⟨piece.getLast hpiece, List.getLast?_eq_some_getLast hpiece,
        fun hc => hsep (hc ▸ List.getLast_mem hpiece)⟩
    | cons next more =>
      obtain ⟨c, hlast, hc⟩ :=
        ih (List.cons_ne_nil next more) fun p hp => h p (List.mem_cons_of_mem piece hp)
      refine ⟨c, ?_, hc⟩
      show (piece ++ [sep] ++ joinChars [sep] (next :: more)).getLast? = _
      rw [List.getLast?_append, hlast, Option.some_or]

/-- Cutting loses the separators and nothing else. -/
theorem flatten_splitChars (sep : Char) (cs : List Char) :
    (splitChars sep cs).flatten = cs.filter fun c => !(c == sep) := by
  induction cs with
  | nil => rfl
  | cons c cs ih =>
    by_cases hc : c = sep
    · subst hc
      rw [splitChars, if_pos rfl, List.flatten_cons, List.nil_append, ih,
        List.filter_cons_of_neg (by simp)]
    · obtain ⟨piece, more, hcs⟩ := List.exists_cons_of_ne_nil (splitChars_ne_nil sep cs)
      rw [hcs, List.flatten_cons] at ih
      rw [splitChars_cons_of_ne hc hcs, List.flatten_cons, List.cons_append, ih,
        List.filter_cons_of_pos (by simp [hc])]

theorem splitOnceChars_of_notMem {cs : List Char} (h : sep ∉ cs) : splitOnceChars sep cs = none := by
  induction cs with
  | nil => rfl
  | cons c cs ih =>
    obtain ⟨hc, hcs⟩ := List.ne_and_not_mem_of_not_mem_cons h
    rw [splitOnceChars, if_neg (Ne.symm hc), ih hcs]
    rfl

theorem mem_of_mem_splitChars {cs piece : List Char} (h : piece ∈ splitChars sep cs) {c : Char}
    (hc : c ∈ piece) : c ∈ cs := by
  have hflat : c ∈ (splitChars sep cs).flatten := List.mem_flatten.mpr ⟨piece, h, hc⟩
  rw [flatten_splitChars] at hflat
  exact (List.mem_filter.mp hflat).1

/-! ### Non-empty pieces -/

/-- The pieces that are not empty. -/
def piecesChars (sep : Char) (cs : List Char) : List (List Char) :=
  (splitChars sep cs).filter fun piece => !piece.isEmpty

theorem pieces_eq_map (sep : Char) (s : String) :
    pieces sep s = (piecesChars sep s.toList).map String.ofList := by
  rw [pieces, split, List.filter_map, piecesChars]
  congr 1
  refine List.filter_congr fun piece _ => congrArg not ?_
  rw [Bool.eq_iff_iff, String.isEmpty_iff, List.isEmpty_iff, String.ofList_eq_empty_iff]

theorem piecesChars_append_sep (front back : List Char) :
    piecesChars sep (front ++ sep :: back) = piecesChars sep front ++ piecesChars sep back := by
  rw [piecesChars, splitChars_append_sep, List.filter_append]
  rfl

/-- Nothing but separators has no pieces. -/
theorem piecesChars_of_all_sep {cs : List Char} (h : ∀ c ∈ cs, c = sep) :
    piecesChars sep cs = [] := by
  induction cs with
  | nil => rfl
  | cons c cs ih =>
    obtain rfl := h c List.mem_cons_self
    exact (piecesChars_append_sep [] cs).trans (ih fun d hd => h d (List.mem_cons_of_mem c hd))

theorem piecesChars_append_of_all_sep (front : List Char) {back : List Char}
    (h : ∀ c ∈ back, c = sep) : piecesChars sep (front ++ back) = piecesChars sep front := by
  cases back with
  | nil => rw [List.append_nil]
  | cons c back =>
    obtain rfl := h c List.mem_cons_self
    rw [piecesChars_append_sep,
      piecesChars_of_all_sep fun d hd => h d (List.mem_cons_of_mem c hd), List.append_nil]

/-- The pieces hold all characters but the separators. -/
theorem flatten_piecesChars (sep : Char) (cs : List Char) :
    (piecesChars sep cs).flatten = cs.filter fun c => !(c == sep) := by
  rw [piecesChars, List.flatten_filter_not_isEmpty, flatten_splitChars]

theorem flatten_pieces (sep : Char) (s : String) :
    ((pieces sep s).map String.toList).flatten = s.toList.filter fun c => !(c == sep) := by
  rw [pieces_eq_map, List.map_map, ← flatten_piecesChars]
  congr 1
  exact (List.map_congr_left fun piece _ => String.toList_ofList).trans (List.map_id _)

/-- **Ends.** What is added to a text leaves its pieces alone if it is separators, and only then. -/
theorem pieces_append_eq_iff (s more : String) :
    pieces sep (s ++ more) = pieces sep s ↔ ∀ c ∈ more.toList, c = sep := by
  constructor
  · intro h c hc
    have hsame := flatten_pieces sep (s ++ more)
    rw [h, flatten_pieces, String.toList_append, List.filter_append, List.self_eq_append_right] at hsame
    simpa using List.filter_eq_nil_iff.mp hsame c hc
  · intro h
    rw [pieces_eq_map, pieces_eq_map, String.toList_append, piecesChars_append_of_all_sep _ h]

/-- Separators at the end of a text that joins pieces are not there. -/
theorem join_ne_append {names : List String} (hne : names ≠ [])
    (h : ∀ name ∈ names, name ≠ "" ∧ sep ∉ name.toList) {mark : String} (hmark : mark.toList = [sep])
    {front more : String} (hmore : more ≠ "") (hsep : ∀ c ∈ more.toList, c = sep) :
    mark ++ join mark names ≠ front ++ more := by
  intro heq
  have hvalid : ∀ piece ∈ names.map String.toList, piece ≠ [] ∧ sep ∉ piece := by simpa using h
  obtain ⟨c, hlast, hc⟩ := getLast?_joinChars (by simpa using hne) hvalid
  have hmore' : more.toList ≠ [] := by simpa using hmore
  have hchars := congrArg (List.getLast? ∘ String.toList) heq
  simp only [Function.comp, String.toList_append, join, hmark, String.toList_ofList,
    List.getLast?_append, hlast, List.getLast?_eq_some_getLast hmore', Option.some_or] at hchars
  exact hc (Option.some.inj hchars ▸ hsep _ (List.getLast_mem hmore'))

/-- **Joining.** Pieces that are not empty and hold no separator come back from a text that joins
them, also behind a first separator. -/
theorem pieces_join {names : List String} (h : ∀ name ∈ names, name ≠ "" ∧ sep ∉ name.toList)
    {mark : String} (hmark : mark.toList = [sep]) :
    pieces sep (mark ++ join mark names) = names := by
  have hchars : piecesChars sep (joinChars [sep] (names.map String.toList)) =
      names.map String.toList := by
    by_cases hnames : names = []
    · subst hnames
      rfl
    · rw [piecesChars, splitChars_joinChars (by simpa using hnames)]
      · refine List.filter_eq_self.mpr fun piece hpiece => ?_
        obtain ⟨name, hname, rfl⟩ := List.mem_map.mp hpiece
        simpa using (h name hname).1
      · intro piece hpiece
        obtain ⟨name, hname, rfl⟩ := List.mem_map.mp hpiece
        exact (h name hname).2
  have hnone : piecesChars sep [] = [] := rfl
  rw [pieces_eq_map, String.toList_append, hmark, join, hmark, String.toList_ofList,
    List.singleton_append, ← List.nil_append (sep :: _), piecesChars_append_sep, hchars, hnone,
    List.nil_append, List.map_map]
  exact (List.map_congr_left fun name _ => String.ofList_toList).trans (List.map_id _)

/-- A name that is put behind a text and a separator is one piece more. -/
theorem pieces_append_name (s : String) {name : String} (h : name ≠ "" ∧ sep ∉ name.toList)
    {mark : String} (hmark : mark.toList = [sep]) :
    pieces sep (s ++ mark ++ name) = pieces sep s ++ [name] := by
  have hname : piecesChars sep name.toList = [name.toList] := by
    rw [piecesChars, splitChars_of_notMem h.2]
    simpa using h.1
  rw [pieces_eq_map, pieces_eq_map, String.toList_append, String.toList_append, hmark,
    List.append_assoc, List.singleton_append, piecesChars_append_sep, hname, List.map_append,
    List.map_singleton, String.ofList_toList]

end Coap.Text
