import Coap.Proofs.Url.Path

/-!
# What stands behind an authority

A text of a scheme, two slashes, a host and perhaps a port, a slash and a tail is read as a URL whose
path, query and fragment are those of the tail: who serves it takes none of that away.

* `Url.cutOff_append`, `Url.cutOff_fst` — what precedes a separator and what follows it.
* `Url.readAuthority_plain` — a plain host ends where the path begins.
* `Url.ofChars_tail` — path, query and fragment of the URL that is read.
-/

namespace Coap.Url

/-! ### Ends -/

theorem rdropWhile_append_cons {α : Type} {p : α → Bool} {a : α} (ha : p a = false)
    (front rest : List α) : (front ++ a :: rest).rdropWhile p = front ++ a :: rest.rdropWhile p := by
  -- margins are dropped from the end, so the induction takes the last one off
  induction rest using List.reverseRecOn with
  | nil => rw [List.rdropWhile_concat_neg _ _ _ (by simp [ha]), List.rdropWhile_nil]
  | append_singleton rest last ih =>
    rw [← List.cons_append, ← List.append_assoc]
    by_cases hlast : p last = true
    · rw [List.rdropWhile_concat_pos _ _ _ hlast, List.rdropWhile_concat_pos _ _ _ hlast, ih]
    · rw [List.rdropWhile_concat_neg _ _ _ hlast, List.rdropWhile_concat_neg _ _ _ hlast]
      simp

/-- What does not begin or end with margins keeps the front. -/
theorem trimChars_cons_append_cons {a c : Char} (ha : isMargin a = false) (hc : isMargin c = false)
    (front tail : List Char) : Text.trimChars isMargin (a :: front ++ c :: tail) =
      a :: front ++ c :: tail.rdropWhile isMargin := by
  show ((a :: (front ++ c :: tail)).dropWhile isMargin).rdropWhile isMargin = _
  rw [List.dropWhile_cons_of_neg (by simp [ha])]
  exact rdropWhile_append_cons hc (a :: front) tail

/-! ### Cuts -/

section

variable {sep : Char}

theorem cutOff_cons_self (cs : List Char) : cutOff sep (sep :: cs) = ([], some cs) := by
  simp [cutOff, Text.splitOnceChars]

theorem cutOff_cons_of_ne {c : Char} (hc : c ≠ sep) (cs : List Char) :
    cutOff sep (c :: cs) = (c :: (cutOff sep cs).1, (cutOff sep cs).2) := by
  rw [cutOff, Text.splitOnceChars, if_neg hc, cutOff]
  cases Text.splitOnceChars sep cs <;> rfl

/-- What has no separator stays in front of the first one. -/
theorem cutOff_append {front : List Char} (h : sep ∉ front) (cs : List Char) :
    cutOff sep (front ++ cs) = (front ++ (cutOff sep cs).1, (cutOff sep cs).2) := by
  induction front with
  | nil => rfl
  | cons c front ih =>
    obtain ⟨hc, hfront⟩ := List.ne_and_not_mem_of_not_mem_cons h
    rw [List.cons_append, cutOff_cons_of_ne (Ne.symm hc), ih hfront]
    rfl

theorem cutOff_of_notMem {cs : List Char} (h : sep ∉ cs) : cutOff sep cs = (cs, none) := by
  rw [cutOff, Text.splitOnceChars_of_notMem h]

theorem cutOff_fst (sep : Char) (cs : List Char) :
    (cutOff sep cs).1 = cs.takeWhile (· != sep) := by
  induction cs with
  | nil => rfl
  | cons c cs ih =>
    by_cases hc : c = sep
    · subst hc
      simp [cutOff_cons_self]
    · rw [cutOff_cons_of_ne hc, ih, List.takeWhile_cons_of_pos (by simpa using hc)]

end

/-! ### Authorities -/

/-- May the character stand in a plain host: a name in ASCII, or an address, or either of these with
a port? -/
def isPlaceChar (c : Char) : Bool := c.isAlphanum || c ∈ ['-', '.', '_', '~', ':', '[', ']']

section

variable {place : List Char} (h : ∀ c ∈ place, isPlaceChar c = true)
include h

theorem ne_of_place {c d : Char} (hc : c ∈ place) (hd : isPlaceChar d = false) : c ≠ d := by
  intro heq
  subst heq
  simp [h c hc] at hd

theorem notMem_of_place {d : Char} (hd : isPlaceChar d = false) : d ∉ place :=
  fun hmem => ne_of_place h hmem hd rfl

theorem visible_of_place : visible place = place := by
  refine List.filter_eq_self.mpr fun c hc => ?_
  have htab := ne_of_place h hc (d := '\t') (by decide)
  have hline := ne_of_place h hc (d := '\n') (by decide)
  have hreturn := ne_of_place h hc (d := '\r') (by decide)
  simp [isBreak, htab, hline, hreturn]

theorem isSlash_of_place (backslash : Bool) {c : Char} (hc : c ∈ place) :
    isSlash backslash c = false := by
  have hslash := ne_of_place h hc (d := '/') (by decide)
  have hback := ne_of_place h hc (d := '\\') (by decide)
  simp [isSlash, hslash, hback]

end

theorem readPort_rest {digits behind : List Char} {port : Option UInt16}
    (hslash : ∀ c ∈ digits, ¬ (c = '/' ∨ c = '\\')) (h : readPort digits = .ok (port, behind)) :
    behind = [] := by
  unfold readPort at h
  dsimp only at h
  split at h
  · cases h
  · split at h
    · cases h
      rfl
    · next c rest heq =>
      have hc : c ∈ digits := (List.dropWhile_suffix _).subset (heq ▸ List.mem_cons_self)
      rw [if_neg (hslash c hc)] at h
      cases h

theorem splitHost_append (inside : Bool) (cs : List Char) :
    (splitHost inside cs).1 ++ (splitHost inside cs).2 = cs := by
  induction cs generalizing inside with
  | nil => rfl
  | cons c cs ih =>
    unfold splitHost
    split
    · rfl
    · exact congrArg (c :: ·) (ih _)

/-- Behind an authority there is what follows its span, and before that what is left of the digits of
a port. -/
theorem behind_of_readAuthority {scheme : String} {more : Bool} {cs behind : List Char} {a : Authority}
    (h : readAuthority scheme more cs = .ok (a, behind)) :
    let span := cs.takeWhile fun c => !isSlash (isSpecial scheme) c
    let place := ((splitLast '@' span).getD ([], span)).2
    behind = cs.drop span.length ∨ ∃ digits port left, (splitHost false place).2 = ':' :: digits ∧
      readPort digits = .ok (port, left) ∧ behind = left ++ cs.drop span.length := by
  unfold readAuthority at h
  dsimp only at h ⊢
  generalize (splitLast '@' _).getD _ = parts at h ⊢
  simp only [bind, Except.bind, throw, throwThe, MonadExceptOf.throw, pure, Except.pure] at h
  split at h
  · cases h
  · split at h
    · cases h
    · -- a host is read in one of two ways, and may be none; what follows is the same
      cases hempty : (splitHost false parts.2).1.isEmpty <;>
        simp only [hempty, Bool.false_eq_true, if_false, if_true] at h <;> split at h
      all_goals
        split at h
        · cases h
        · split at h
          · next digits hdigits =>
            split at h
            · cases h
            · split at h
              · cases h
              · next port hread =>
                cases h
                exact .inr ⟨digits, port.1, port.2, hdigits, hread, rfl⟩
          · split at h
            · cases h
            · cases h
              exact .inl rfl

section

variable {place : List Char} (hplace : ∀ c ∈ place, isPlaceChar c = true)
include hplace

theorem takeWhile_of_place (backslash : Bool) (cs : List Char) :
    (place ++ '/' :: cs).takeWhile (fun c => !isSlash backslash c) = place := by
  rw [List.takeWhile_append_of_pos fun c hc => by simp [isSlash_of_place hplace _ hc]]
  simp [isSlash]

theorem splitLast_of_place : splitLast '@' place = none := by
  have hnone : '@' ∉ place.reverse := by simpa using notMem_of_place hplace (by decide)
  rw [splitLast, Text.splitOnceChars_of_notMem hnone]
  rfl

theorem readPort_of_place {digits left : List Char} {port : Option UInt16}
    (hdigits : (splitHost false place).2 = ':' :: digits)
    (hread : readPort digits = .ok (port, left)) : left = [] := by
  refine readPort_rest (fun c hc => ?_) hread
  have hmem : c ∈ place := by
    rw [← splitHost_append false place, hdigits]
    exact List.mem_append_right _ (List.mem_cons_of_mem ':' hc)
  simpa [isSlash] using isSlash_of_place hplace true hmem

/-- A plain place ends where the path begins. -/
theorem readAuthority_plain {scheme : String} {more : Bool} {path behind : List Char} {a : Authority}
    (h : readAuthority scheme more (place ++ '/' :: path) = .ok (a, behind)) :
    behind = '/' :: path := by
  have hbehind := behind_of_readAuthority h
  dsimp only at hbehind
  rw [takeWhile_of_place hplace, splitLast_of_place hplace, List.drop_left] at hbehind
  obtain hnone | ⟨digits, port, left, hdigits, hread, hport⟩ := hbehind
  · exact hnone
  · rw [hport, readPort_of_place hplace hdigits hread, List.nil_append]

end

/-! ### Tails -/

theorem pathBehind_cons (scheme : String) (cs : List Char) :
    pathBehind scheme ('/' :: cs) = .segments (segments (isSpecial scheme) cs) := by
  unfold pathBehind
  split
  · next hspecial =>
    rw [hspecial]
    rfl
  · next hspecial =>
    rw [Bool.not_eq_true] at hspecial
    rw [hspecial]
    rfl

section

variable {scheme : String} {more : Bool} {place cs : List Char} {x : Option Authority × UrlPath}
  (hplace : ∀ c ∈ place, isPlaceChar c = true)
include hplace

theorem readSpecial_plain (hne : place ≠ [])
    (h : readSpecial scheme more ("//".toList ++ place ++ '/' :: cs) = .ok x) :
    x.2 = .segments (segments (isSpecial scheme) cs) := by
  have hslashes : ("//".toList ++ place ++ '/' :: cs).dropWhile (isSlash true) =
      place ++ '/' :: cs := by
    obtain ⟨c, rest, rfl⟩ := List.exists_cons_of_ne_nil hne
    have hc := isSlash_of_place hplace true List.mem_cons_self
    show (c :: (rest ++ '/' :: cs)).dropWhile (isSlash true) = _
    rw [List.dropWhile_cons_of_neg (by simp [hc])]
    rfl
  rw [readSpecial, hslashes] at h
  cases hread : readAuthority scheme more (place ++ '/' :: cs) with
  | error e =>
    rw [hread] at h
    cases h
  | ok served =>
    rw [hread] at h
    cases h
    rw [readAuthority_plain hplace hread, pathBehind_cons]

theorem readOther_plain (h : readOther scheme more ("//".toList ++ place ++ '/' :: cs) = .ok x) :
    x.2 = .segments (segments (isSpecial scheme) cs) := by
  have hslashes : "//".toList ++ place ++ '/' :: cs = '/' :: '/' :: (place ++ '/' :: cs) := rfl
  rw [hslashes, readOther] at h
  cases hread : readAuthority scheme more (place ++ '/' :: cs) with
  | error e =>
    rw [hread] at h
    cases h
  | ok served =>
    rw [hread] at h
    cases h
    rw [readAuthority_plain hplace hread, pathBehind_cons]

end

/-- The characters that are encoded in the query of a URL. -/
def querySet (scheme : String) : Char → Bool :=
  if isSpecial scheme then Percent.specialQuery else Percent.query

theorem faithful_querySet (scheme : String) : Percent.Faithful (querySet scheme) := by
  unfold querySet
  split
  · exact Percent.faithful_specialQuery
  · exact Percent.faithful_query

theorem querySet_ampersand (scheme : String) : querySet scheme '&' = false := by
  unfold querySet
  split <;> decide

/-- A scheme ends at its colon. Margins can only be behind it, as the text does not begin with one. -/
theorem readScheme_trimChars {scheme : String} (hscheme : scheme ∈ ["http", "https", "coap"])
    (place tail : List Char) :
    readScheme (Text.trimChars isMargin
        (scheme.toList ++ ("://".toList ++ place ++ '/' :: tail))) =
      some (scheme, "//".toList ++ place ++ '/' :: tail.rdropWhile isMargin) := by
  have htrim (a : Char) (ha : isMargin a = false) (front : List Char) :=
    trimChars_cons_append_cons ha (c := '/') rfl front tail
  simp only [List.mem_cons, List.not_mem_nil, or_false] at hscheme
  obtain rfl | rfl | rfl := hscheme
  · exact congrArg readScheme (htrim 'h' rfl ("ttp://".toList ++ place))
  · exact congrArg readScheme (htrim 'h' rfl ("ttps://".toList ++ place))
  · exact congrArg readScheme (htrim 'c' rfl ("oap://".toList ++ place))

/-- **Tails.** Behind a plain place and a slash, a URL is read from what follows: up to its end without
margins, a fragment from the first hash, a query from the first question mark before it, and a path
before that. -/
theorem ofChars_tail {scheme : String} (hscheme : scheme ∈ ["http", "https", "coap"])
    {place tail : List Char} (hne : place ≠ []) (hplace : ∀ c ∈ place, isPlaceChar c = true) {u : Url}
    (h : ofChars (scheme.toList ++ ("://".toList ++ place ++ '/' :: tail)) = .ok u) :
    let cut := cutOff '#' (tail.rdropWhile isMargin)
    let body := cutOff '?' cut.1
    u.scheme = scheme ∧
      u.path = .segments (segments (isSpecial scheme) (visible body.1)) ∧
      u.query = body.2.map (fun part =>
        String.ofList (Percent.encode (querySet scheme) (visible part))) ∧
      u.fragment = cut.2.map (fun part =>
        String.ofList (Percent.encode Percent.fragment (visible part))) := by
  dsimp only
  have hhash : '#' ∉ "//".toList ++ place ++ ['/'] := by
    have := notMem_of_place hplace (d := '#') (by decide)
    simpa using this
  have hquestion : '?' ∉ "//".toList ++ place ++ ['/'] := by
    have := notMem_of_place hplace (d := '?') (by decide)
    simpa using this
  unfold ofChars at h
  rw [readScheme_trimChars hscheme] at h
  dsimp only at h
  -- neither cut falls into the place, so both are cuts of the tail
  rw [List.append_cons, cutOff_append hhash] at h
  dsimp only at h
  rw [cutOff_append hquestion] at h
  dsimp only at h
  have hfile : scheme ≠ "file" := by
    intro heq
    subst heq
    revert hscheme
    decide
  have hvisible (cs : List Char) :
      visible ("//".toList ++ place ++ ['/'] ++ cs) = "//".toList ++ place ++ '/' :: visible cs := by
    have hplain := visible_of_place hplace
    simp only [visible, List.filter_append] at hplain ⊢
    rw [hplain]
    simp [isBreak]
  have hset : (if isSpecial scheme then Percent.specialQuery else Percent.query) =
    querySet scheme := rfl
  rw [if_neg hfile, hvisible, hset] at h
  split at h
  · cases hbody : readSpecial scheme _ _ with
    | error e =>
      rw [hbody] at h
      cases h
    | ok x =>
      rw [hbody] at h
      cases h
      exact ⟨rfl, readSpecial_plain hplace hne hbody, rfl, rfl⟩
  · cases hbody : readOther scheme _ _ with
    | error e =>
      rw [hbody] at h
      cases h
    | ok x =>
      rw [hbody] at h
      cases h
      exact ⟨rfl, readOther_plain hplace hbody, rfl, rfl⟩

end Coap.Url
