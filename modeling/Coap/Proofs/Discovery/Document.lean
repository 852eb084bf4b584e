import Coap.Discovery.Link
import Coap.Proofs.Text.Pieces
import Mathlib.Data.List.Forall2

/-!
# Reading links back

What the link-format document of some links says of them. Texts stand between their delimiters as they
are, so a text that has a delimiter in it may end there for a reader. Where a delimiter is one that ends
a text can be told by what stands behind it: a comma, a semicolon or nothing at all. So links whose texts
have no such place can be read back, and what is read behind them is what was written there.

* `Link.Enclosable` — characters that can be told from the delimiter behind them.
* `Link.Readable` — links with such texts only.
* `Link.Agree` — links that say the same.
* `Link.document_eq_iff` — readable links with the same document are the same, one by one.
* `Link.text_of_title`, `Link.document_of_href` — others may read like links that say something else.
-/

namespace Coap.Link

/-! ### What stands behind -/

/-- What may stand behind a parameter: nothing, further links, or further parameters, of which the first
has a name that begins with one of `initials`. -/
def Follows (initials : List Char) (cs : List Char) : Prop :=
  cs = [] ∨ (∃ more, cs = ',' :: more) ∨ ∃ c ∈ initials, ∃ more, cs = ';' :: c :: more

variable {initials : List Char} {x y r s : List Char} {initial close : Char}

theorem Follows.of_cons {c : Char} (h : Follows initials (c :: r)) : c = ',' ∨ c = ';' := by
  rcases h with h | ⟨more, h⟩ | ⟨i, -, more, h⟩
  · cases h
  · exact .inl (List.cons.inj h).1
  · exact .inr (List.cons.inj h).1

/-! ### Enclosed texts -/

/-- Characters in which no delimiter stands before a comma or a semicolon. -/
def Enclosable (close : Char) (cs : List Char) : Prop :=
  ¬ [close, ','] <:+: cs ∧ ¬ [close, ';'] <:+: cs

instance (close : Char) (cs : List Char) : Decidable (Enclosable close cs) :=
  inferInstanceAs (Decidable (_ ∧ _))

theorem Enclosable.tail {c : Char} (h : Enclosable close (c :: x)) : Enclosable close x :=
  ⟨fun hx => h.1 (List.infix_cons hx), fun hx => h.2 (List.infix_cons hx)⟩

/-- A delimiter in enclosable characters is not what ends them. -/
theorem Enclosable.not_follows (h : Enclosable close (close :: x)) (hclose : close ≠ ',' ∧ close ≠ ';') :
    ¬ Follows initials (x ++ close :: r) := by
  intro hfollows
  cases x with
  | nil => exact hfollows.of_cons.elim hclose.1 hclose.2
  | cons c x =>
    rcases hfollows.of_cons with rfl | rfl
    · exact h.1 ⟨[], x, rfl⟩
    · exact h.2 ⟨[], x, rfl⟩

/-- Enclosed characters are determined, and so is what follows. -/
theorem enclosed_unique (hclose : close ≠ ',' ∧ close ≠ ';') (hx : Enclosable close x)
    (hy : Enclosable close y) (hr : Follows initials r) (hs : Follows initials s)
    (h : x ++ close :: r = y ++ close :: s) : x = y ∧ r = s := by
  induction x generalizing y with
  | nil =>
    cases y with
    | nil => exact ⟨rfl, (List.cons.inj h).2⟩
    | cons c y =>
      obtain ⟨rfl, rfl⟩ := List.cons.inj h
      exact absurd hr (hy.not_follows hclose)
  | cons c x ih =>
    cases y with
    | nil =>
      obtain ⟨rfl, rfl⟩ := List.cons.inj h
      exact absurd hs (hx.not_follows hclose)
    | cons d y =>
      obtain ⟨rfl, hmore⟩ := List.cons.inj h
      obtain ⟨rfl, hrest⟩ := ih hx.tail hy.tail hmore
      exact ⟨rfl, hrest⟩

/-- Characters that need no delimiters. -/
def Bare (cs : List Char) : Prop := ∀ c ∈ cs, c ≠ ',' ∧ c ≠ ';'

instance (cs : List Char) : Decidable (Bare cs) :=
  List.decidableBAll (fun c => c ≠ ',' ∧ c ≠ ';') cs

theorem Bare.append (hx : Bare x) (hy : Bare y) : Bare (x ++ y) := fun c hc =>
  (List.mem_append.mp hc).elim (hx c) (hy c)

theorem bare_unique (hx : Bare x) (hy : Bare y) (hr : Follows initials r) (hs : Follows initials s)
    (h : x ++ r = y ++ s) : x = y ∧ r = s := by
  induction x generalizing y with
  | nil =>
    cases y with
    | nil => exact ⟨rfl, h⟩
    | cons c y =>
      obtain rfl : r = c :: (y ++ s) := h
      obtain ⟨hcomma, hsemicolon⟩ := hy c List.mem_cons_self
      exact absurd hr.of_cons (not_or.mpr ⟨hcomma, hsemicolon⟩)
  | cons c x ih =>
    cases y with
    | nil =>
      obtain rfl : c :: (x ++ r) = s := h
      obtain ⟨hcomma, hsemicolon⟩ := hx c List.mem_cons_self
      exact absurd hs.of_cons (not_or.mpr ⟨hcomma, hsemicolon⟩)
    | cons d y =>
      obtain ⟨rfl, hmore⟩ := List.cons.inj h
      obtain ⟨rfl, hrest⟩ := ih (fun c hc => hx c (List.mem_cons_of_mem _ hc))
        (fun c hc => hy c (List.mem_cons_of_mem _ hc)) hmore
      exact ⟨rfl, hrest⟩

/-! ### Parameters -/

/-- A parameter, if it has a value, with the characters from the second one of its name on. -/
def parameter (initial : Char) : Option (List Char) → List Char
  | none => []
  | some cs => ';' :: initial :: cs

/-- Parameters one after the other. -/
def parameters (ps : List (Char × Option (List Char))) : List Char := ps.flatMap fun p => parameter p.1 p.2

theorem parameters_nil : parameters [] = [] := rfl

theorem parameters_cons (initial : Char) (value : Option (List Char))
    (ps : List (Char × Option (List Char))) :
    parameters ((initial, value) :: ps) = parameter initial value ++ parameters ps := rfl

theorem follows_parameters (hr : Follows [] r) (ps : List (Char × Option (List Char))) :
    Follows (ps.map Prod.fst) (parameters ps ++ r) := by
  induction ps with
  | nil => exact hr
  | cons p ps ih =>
    obtain ⟨initial, value⟩ := p
    rw [parameters_cons, List.append_assoc]
    cases value with
    | some cs => exact .inr (.inr ⟨initial, List.mem_cons_self, _, rfl⟩)
    | none =>
      rcases ih with hnil | hmore | ⟨c, hc, hmore⟩
      · exact .inl hnil
      · exact .inr (.inl hmore)
      · exact .inr (.inr ⟨c, List.mem_cons_of_mem _ hc, hmore⟩)

/-- What follows a parameter is not taken for it. -/
theorem Follows.ne (hr : Follows initials r) (hinitial : initial ∉ initials) (cs : List Char) :
    r ≠ ';' :: initial :: cs := by
  rcases hr with rfl | ⟨more, rfl⟩ | ⟨c, hc, more, rfl⟩
  · exact nofun
  · exact fun h => absurd (List.cons.inj h).1 (by decide)
  · intro h
    obtain ⟨-, hname⟩ := List.cons.inj h
    exact hinitial ((List.cons.inj hname).1 ▸ hc)

/-- Two values of a parameter that can be told from what follows, if both are there. -/
def Separable (value value' : Option (List Char)) : Prop :=
  ∀ x ∈ value, ∀ y ∈ value', ∀ initials r s, Follows initials r → Follows initials s →
    x ++ r = y ++ s → x = y ∧ r = s

/-- Parameters whose names begin differently are determined, and so is what follows. -/
theorem parameters_unique {ps ps' : List (Char × Option (List Char))}
    (h : List.Forall₂ (fun p p' => p.1 = p'.1 ∧ Separable p.2 p'.2) ps ps')
    (hnames : (ps.map Prod.fst).Nodup) (hr : Follows [] r) (hs : Follows [] s)
    (hsame : parameters ps ++ r = parameters ps' ++ s) : ps = ps' ∧ r = s := by
  induction h with
  | nil => exact ⟨rfl, hsame⟩
  | @cons p p' ps ps' hp hps ih =>
    obtain ⟨initial, value⟩ := p
    obtain ⟨_, value'⟩ := p'
    obtain ⟨rfl, hseparable⟩ := hp
    obtain ⟨hinitial, hnames⟩ := List.nodup_cons.mp hnames
    have hinitials : ps.map Prod.fst = ps'.map Prod.fst := by
      rw [← List.forall₂_eq_eq_eq, List.forall₂_map_left_iff, List.forall₂_map_right_iff]
      exact hps.imp fun _ _ hp => hp.1
    have hfollows := follows_parameters hr ps
    have hfollows' := hinitials ▸ follows_parameters hs ps'
    rw [parameters_cons, parameters_cons, List.append_assoc, List.append_assoc] at hsame
    obtain ⟨rfl, hrest⟩ : value = value' ∧ parameters ps ++ r = parameters ps' ++ s := by
      cases value with
      | none =>
        cases value' with
        | none => exact ⟨rfl, hsame⟩
        | some y => exact absurd hsame (hfollows.ne hinitial _)
      | some x =>
        cases value' with
        | none => exact absurd hsame.symm (hfollows'.ne hinitial _)
        | some y =>
          obtain ⟨rfl, hrest⟩ := hseparable x rfl y rfl _ _ _ hfollows hfollows'
            (List.cons.inj (List.cons.inj hsame).2).2
          exact ⟨rfl, hrest⟩
    obtain ⟨rfl, hrs⟩ := ih hnames hrest
    exact ⟨rfl, hrs⟩

/-! ### Values -/

/-- The rest of a name, and a text in quotes. -/
def quote (name : List Char) (text : String) : List Char := name ++ ['"'] ++ text.toList ++ ['"']

/-- Values in one text, if there are any. -/
def joined? (values : List String) : Option String :=
  if values.isEmpty then none else some (Text.join " " values)

/-- The digits of a number. -/
def digits (n : Nat) : List Char := Nat.toDigits 10 n

/-- The rest of a name, and a size. -/
def sizeText (n : UInt64) : List Char := ['z', '='] ++ digits n.toNat

/-- The rest of a name, and the numbers of some formats, if there are any. -/
def contentText? : List UInt16 → Option (List Char)
  | [] => none
  | [n] => some (['t', '='] ++ digits n.toNat)
  | ns => some (['t', '=', '"'] ++ Text.joinChars [' '] (ns.map fun n => digits n.toNat) ++ ['"'])

/-- The rest of a name without a value, if it is there. -/
def observeText? (observable : Option Bool) : Option (List Char) :=
  if observable = some true then some ['b', 's'] else none

theorem quote_injective (name : List Char) : Function.Injective (quote name) := fun _ _ h =>
  String.toList_inj.mp (List.append_cancel_left (List.append_cancel_right h))

theorem separable_quote {name : List Char} {text text' : Option String}
    (htext : ∀ t ∈ text, Enclosable '"' t.toList) (htext' : ∀ t ∈ text', Enclosable '"' t.toList) :
    Separable (text.map (quote name)) (text'.map (quote name)) := by
  intro x hx y hy initials r s hr hs hsame
  obtain ⟨t, ht, rfl⟩ := Option.map_eq_some_iff.mp hx
  obtain ⟨t', ht', rfl⟩ := Option.map_eq_some_iff.mp hy
  simp only [quote, List.append_assoc, List.singleton_append] at hsame
  obtain ⟨htexts, hrest⟩ := enclosed_unique (by decide) (htext t ht) (htext' t' ht') hr hs
    (List.cons.inj (List.append_cancel_left hsame)).2
  exact ⟨congrArg _ (String.toList_inj.mp htexts), hrest⟩

theorem separable_bare {value value' : Option (List Char)} (hvalue : ∀ x ∈ value, Bare x)
    (hvalue' : ∀ x ∈ value', Bare x) : Separable value value' := fun x hx y hy _ _ _ hr hs =>
  bare_unique (hvalue x hx) (hvalue' y hy) hr hs

theorem observeText?_eq_iff {observable observable' : Option Bool} (h : observable ≠ some false)
    (h' : observable' ≠ some false) :
    observeText? observable = observeText? observable' ↔ observable = observable' := by
  match observable, observable' with
  | none, none => exact iff_of_true rfl rfl
  | some true, some true => exact iff_of_true rfl rfl
  | none, some true => exact iff_of_false nofun nofun
  | some true, none => exact iff_of_false nofun nofun
  | some false, _ => exact absurd rfl h
  | _, some false => exact absurd rfl h'

theorem joined?_eq_iff {values values' : List String} :
    joined? values = joined? values' ↔
      Text.join " " values = Text.join " " values' ∧ (values = [] ↔ values' = []) := by
  unfold joined?
  cases values <;> cases values' <;> simp

theorem digits_injective : Function.Injective digits := fun n m h => by
  rw [← Nat.ofDigitChars_ten_toDigits (n := n), ← Nat.ofDigitChars_ten_toDigits (n := m)]
  exact congrArg (Nat.ofDigitChars 10 · 0) h

theorem sizeText_injective : Function.Injective sizeText := fun _ _ h =>
  UInt64.toNat_inj.mp (digits_injective (List.append_cancel_left h))

theorem isDigit_of_mem_digits {n : Nat} {c : Char} (h : c ∈ digits n) : c.isDigit = true :=
  Nat.isDigit_of_mem_toDigits (by decide) (by decide) h

theorem notMem_digits {n : Nat} {c : Char} (hc : c.isDigit = false) : c ∉ digits n := fun h => by
  rw [isDigit_of_mem_digits h] at hc
  cases hc

/-- Numbers with blanks between them are determined. -/
theorem join_digits_injective {ns ns' : List UInt16} (hns : ns ≠ []) (hns' : ns' ≠ [])
    (h : Text.joinChars [' '] (ns.map fun n => digits n.toNat) =
      Text.joinChars [' '] (ns'.map fun n => digits n.toNat)) : ns = ns' := by
  have hsplit (ns : List UInt16) (hns : ns ≠ []) :
      Text.splitChars ' ' (Text.joinChars [' '] (ns.map fun n => digits n.toNat)) =
        ns.map fun n => digits n.toNat := by
    refine Text.splitChars_joinChars (by simpa using hns) fun piece hpiece => ?_
    obtain ⟨n, -, rfl⟩ := List.mem_map.mp hpiece
    exact notMem_digits rfl
  have hdigits : Function.Injective fun n : UInt16 => digits n.toNat := fun n n' hn =>
    UInt16.toNat_inj.mp (digits_injective hn)
  refine List.map_injective_iff.mpr hdigits ?_
  rw [← hsplit ns hns, h, hsplit ns' hns']

theorem contentText?_injective : Function.Injective contentText? := by
  have hquote (n : UInt16) (cs : List Char) : digits n.toNat ≠ '"' :: cs := fun h =>
    notMem_digits rfl (h ▸ List.mem_cons_self)
  intro ns ns' h
  match ns, ns' with
  | [], [] => rfl
  | [], [_] => cases h
  | [], _ :: _ :: _ => cases h
  | [_], [] => cases h
  | _ :: _ :: _, [] => cases h
  | [n], [n'] =>
    have hdigits : digits n.toNat = digits n'.toNat := List.append_cancel_left (Option.some.inj h)
    rw [UInt16.toNat_inj.mp (digits_injective hdigits)]
  -- one number has no quotes
  | [n], _ :: _ :: _ => exact absurd (List.append_cancel_left (Option.some.inj h)) (hquote n _)
  | _ :: _ :: _, [n] => exact absurd (List.append_cancel_left (Option.some.inj h.symm)) (hquote n _)
  | a :: b :: more, a' :: b' :: more' =>
    exact join_digits_injective (List.cons_ne_nil _ _) (List.cons_ne_nil _ _)
      (List.append_cancel_left (List.append_cancel_right (Option.some.inj h)))

theorem bare_of_isDigit {cs : List Char} (h : ∀ c ∈ cs, c.isDigit = true ∨ c = ' ') : Bare cs := by
  intro c hc
  rcases h c hc with hdigit | rfl
  · constructor <;> (rintro rfl; cases hdigit)
  · decide

theorem bare_digits (n : Nat) : Bare (digits n) :=
  bare_of_isDigit fun _ hc => .inl (isDigit_of_mem_digits hc)

theorem bare_sizeText (n : UInt64) : Bare (sizeText n) :=
  Bare.append (by decide) (bare_digits _)

theorem bare_contentText? {contents : List UInt16} {x : List Char} (hx : x ∈ contentText? contents) :
    Bare x := by
  match contents with
  | [n] =>
    obtain rfl := Option.some.inj hx
    exact Bare.append (by decide) (bare_digits _)
  | n :: next :: more =>
    obtain rfl := Option.some.inj hx
    refine .append (.append (by decide) (bare_of_isDigit fun c hc => ?_)) (by decide)
    rcases Text.mem_joinChars hc with rfl | ⟨piece, hpiece, hc⟩
    · exact .inr rfl
    · obtain ⟨n, -, rfl⟩ := List.mem_map.mp hpiece
      exact .inl (isDigit_of_mem_digits hc)

/-! ### Links -/

theorem toList_toString (n : Nat) : (toString n).toList = digits n := by
  rw [Nat.toString_eq_repr, Nat.toList_repr]
  rfl

theorem toList_title (title : Option String) :
    (match title with
    | some t => ";title=\"" ++ t ++ "\""
    | none => "").toList = parameter 't' (title.map (quote ['i', 't', 'l', 'e', '='])) := by
  cases title <;> simp [parameter, quote]

theorem toList_values {name : String} {rest : List Char} (h : name.toList = ';' :: initial :: rest)
    (values : List String) :
    (if values.isEmpty then "" else name ++ quotedValues values).toList =
      parameter initial ((joined? values).map (quote rest)) := by
  unfold joined?
  split
  · rfl
  · simp [parameter, quote, quotedValues, h]

theorem toList_size (size : Option UInt64) :
    (match size with
    | some n => ";sz=" ++ toString n.toNat
    | none => "").toList = parameter 's' (size.map sizeText) := by
  cases size with
  | none => rfl
  | some n =>
    rw [String.toList_append, toList_toString]
    rfl

theorem toList_contents (contents : List UInt16) :
    (match contents with
    | [] => ""
    | [ct] => ";ct=" ++ toString ct.toNat
    | cts => ";ct=" ++ quotedValues (cts.map fun ct : UInt16 => toString ct.toNat)).toList =
      parameter 'c' (contentText? contents) := by
  match contents with
  | [] => rfl
  | [n] =>
    rw [String.toList_append, toList_toString]
    rfl
  | n :: next :: more =>
    have hdigits (n : UInt16) : (toString n.toNat).toList = digits n.toNat := toList_toString _
    simp only [quotedValues, String.toList_append, Text.join, String.toList_ofList, List.map_map,
      Function.comp_def, hdigits]
    rfl

theorem toList_observable (observable : Option Bool) :
    (if observable = some true then ";obs" else "").toList =
      parameter 'o' (observeText? observable) := by
  unfold observeText?
  split <;> rfl

/-- The parameters of a link. -/
def values (l : Link) : List (Char × Option (List Char)) :=
  [('t', l.attributes.title.map (quote ['i', 't', 'l', 'e', '='])),
    ('r', (joined? l.attributes.resourceTypes).map (quote ['t', '='])),
    ('i', (joined? l.attributes.interfaces).map (quote ['f', '='])),
    ('s', l.attributes.sizeHint.map sizeText),
    ('c', contentText? l.attributes.contentTypes),
    ('o', observeText? l.observable)]

/-- A link is its path between brackets, and its parameters. -/
theorem toList_text (l : Link) :
    l.text.toList = '<' :: (l.href.toList ++ '>' :: parameters l.values) := by
  have htypes : (";rt=" : String).toList = [';', 'r', 't', '='] := rfl
  have hinterfaces : (";if=" : String).toList = [';', 'i', 'f', '='] := rfl
  simp only [values, parameters_cons, parameters_nil, List.append_nil]
  rw [← toList_title, ← toList_values htypes, ← toList_values hinterfaces, ← toList_size,
    ← toList_contents, ← toList_observable]
  simp only [text, String.toList_append, List.append_assoc]
  rfl

/-- A link whose texts can be told from the delimiters behind them. -/
structure Readable (l : Link) : Prop where
  href : Enclosable '>' l.href.toList
  title : ∀ t ∈ l.attributes.title, Enclosable '"' t.toList
  types : ∀ t ∈ joined? l.attributes.resourceTypes, Enclosable '"' t.toList
  interfaces : ∀ t ∈ joined? l.attributes.interfaces, Enclosable '"' t.toList
  /-- As of every link to a resource, it is said that it can be observed, or nothing. -/
  observable : l.observable ≠ some false

instance (l : Link) : Decidable l.Readable :=
  decidable_of_iff (Enclosable '>' l.href.toList ∧ (∀ t ∈ l.attributes.title, Enclosable '"' t.toList) ∧
      (∀ t ∈ joined? l.attributes.resourceTypes, Enclosable '"' t.toList) ∧
      (∀ t ∈ joined? l.attributes.interfaces, Enclosable '"' t.toList) ∧ l.observable ≠ some false)
    ⟨fun ⟨hhref, htitle, htypes, hinterfaces, hobservable⟩ =>
        ⟨hhref, htitle, htypes, hinterfaces, hobservable⟩,
      fun h => ⟨h.href, h.title, h.types, h.interfaces, h.observable⟩⟩

/-- Links that say the same. -/
structure Agree (l l' : Link) : Prop where
  href : l.href = l'.href
  title : l.attributes.title = l'.attributes.title
  types : Text.join " " l.attributes.resourceTypes = Text.join " " l'.attributes.resourceTypes
  hasTypes : l.attributes.resourceTypes = [] ↔ l'.attributes.resourceTypes = []
  interfaces : Text.join " " l.attributes.interfaces = Text.join " " l'.attributes.interfaces
  hasInterfaces : l.attributes.interfaces = [] ↔ l'.attributes.interfaces = []
  size : l.attributes.sizeHint = l'.attributes.sizeHint
  contents : l.attributes.contentTypes = l'.attributes.contentTypes
  observable : l.observable = l'.observable

theorem Agree.values_eq {l l' : Link} (h : l.Agree l') : l.values = l'.values := by
  rw [values, values, h.title, joined?_eq_iff.mpr ⟨h.types, h.hasTypes⟩,
    joined?_eq_iff.mpr ⟨h.interfaces, h.hasInterfaces⟩, h.size, h.contents, h.observable]

/-- Links say the same exactly if their paths and their parameters are the same, as long as it is not
said of them that they cannot be observed. -/
theorem agree_iff {l l' : Link} (hl : l.observable ≠ some false) (hl' : l'.observable ≠ some false) :
    l.Agree l' ↔ l.href = l'.href ∧ l.values = l'.values := by
  constructor
  · exact fun h => ⟨h.href, h.values_eq⟩
  · rintro ⟨hhref, hvalues⟩
    simp only [values, List.cons.injEq, Prod.mk.injEq, true_and, and_true] at hvalues
    obtain ⟨htitle, htypes, hinterfaces, hsize, hcontents, hobservable⟩ := hvalues
    obtain ⟨htypes, hasTypes⟩ :=
      joined?_eq_iff.mp (Option.map_injective (quote_injective _) htypes)
    obtain ⟨hinterfaces, hasInterfaces⟩ :=
      joined?_eq_iff.mp (Option.map_injective (quote_injective _) hinterfaces)
    exact ⟨hhref, Option.map_injective (quote_injective _) htitle, htypes, hasTypes, hinterfaces,
      hasInterfaces, Option.map_injective sizeText_injective hsize, contentText?_injective hcontents,
      (observeText?_eq_iff hl hl').mp hobservable⟩

theorem Readable.separable {l l' : Link} (hl : l.Readable) (hl' : l'.Readable) :
    List.Forall₂ (fun p p' => p.1 = p'.1 ∧ Separable p.2 p'.2) l.values l'.values := by
  have hsize (n : Option UInt64) (x) (hx : x ∈ n.map sizeText) : Bare x := by
    obtain ⟨n, -, rfl⟩ := Option.map_eq_some_iff.mp hx
    exact bare_sizeText n
  have hobserve (o : Option Bool) (x) (hx : x ∈ observeText? o) : Bare x := by
    unfold observeText? at hx
    split at hx
    · obtain rfl := Option.some.inj hx
      decide
    · cases hx
  exact .cons ⟨rfl, separable_quote hl.title hl'.title⟩ <|
    .cons ⟨rfl, separable_quote hl.types hl'.types⟩ <|
    .cons ⟨rfl, separable_quote hl.interfaces hl'.interfaces⟩ <|
    .cons ⟨rfl, separable_bare (hsize _) (hsize _)⟩ <|
    .cons ⟨rfl, separable_bare (fun _ => bare_contentText?) fun _ => bare_contentText?⟩ <|
    .cons ⟨rfl, separable_bare (hobserve _) (hobserve _)⟩ .nil

/-- A readable link is determined by its text, and so is what follows. -/
theorem text_unique {l l' : Link} (hl : l.Readable) (hl' : l'.Readable) (hr : Follows [] r)
    (hs : Follows [] s) (h : l.text.toList ++ r = l'.text.toList ++ s) : l.Agree l' ∧ r = s := by
  have hnames : (l.values.map Prod.fst).Nodup := show ['t', 'r', 'i', 's', 'c', 'o'].Nodup by decide
  rw [toList_text, toList_text] at h
  simp only [List.cons_append, List.append_assoc] at h
  obtain ⟨hhref, hbehind⟩ := enclosed_unique (by decide) hl.href hl'.href (follows_parameters hr l.values)
    (follows_parameters hs l'.values) (List.cons.inj h).2
  obtain ⟨hvalues, hrest⟩ := parameters_unique (hl.separable hl') hnames hr hs hbehind
  exact ⟨(agree_iff hl.observable hl'.observable).mpr ⟨String.toList_inj.mp hhref, hvalues⟩, hrest⟩

theorem Agree.text_eq {l l' : Link} (h : l.Agree l') : l.text = l'.text := by
  rw [← String.toList_inj, toList_text, toList_text, h.href, h.values_eq]

/-! ### Documents -/

/-- What stands behind a link when there are others. -/
def behind : List Link → List Char
  | [] => []
  | l :: links => ',' :: (l.text.toList ++ behind links)

theorem follows_behind (links : List Link) : Follows [] (behind links) := by
  cases links with
  | nil => exact .inl rfl
  | cons l links => exact .inr (.inl ⟨_, rfl⟩)

theorem toList_document (links : List Link) :
    (document links).toList = Text.joinChars [','] (links.map fun l => l.text.toList) := by
  rw [document, Text.join, String.toList_ofList, List.map_map]
  rfl

theorem toList_document_cons (l : Link) (links : List Link) :
    (document (l :: links)).toList = l.text.toList ++ behind links := by
  induction links generalizing l with
  | nil => exact (toList_document [l]).trans (List.append_nil _).symm
  | cons next links ih =>
    have hnext := ih next
    rw [toList_document] at hnext ⊢
    show l.text.toList ++ [','] ++ Text.joinChars [','] ((next :: links).map _) = _
    rw [hnext, List.append_assoc]
    rfl

/-- Readable links behind a readable link are determined. -/
theorem behind_unique {links links' : List Link} (h : ∀ l ∈ links, l.Readable)
    (h' : ∀ l ∈ links', l.Readable) (hsame : behind links = behind links') :
    List.Forall₂ Agree links links' := by
  induction links generalizing links' with
  | nil =>
    cases links' with
    | nil => exact .nil
    | cons l' links' => cases hsame
  | cons l links ih =>
    cases links' with
    | nil => cases hsame
    | cons l' links' =>
      obtain ⟨hl, hlinks⟩ := List.forall_mem_cons.mp h
      obtain ⟨hl', hlinks'⟩ := List.forall_mem_cons.mp h'
      obtain ⟨hagree, hbehind⟩ := text_unique hl hl' (follows_behind links) (follows_behind links')
        (List.cons.inj hsame).2
      exact .cons hagree (ih hlinks hlinks' hbehind)

/-- **Documents.** Readable links have the same document exactly if they say the same, one by one. -/
theorem document_eq_iff {links links' : List Link} (h : ∀ l ∈ links, l.Readable)
    (h' : ∀ l ∈ links', l.Readable) :
    document links = document links' ↔ List.Forall₂ Agree links links' := by
  have hsome (l : Link) (links : List Link) : document (l :: links) ≠ document [] := fun hnil => by
    have hempty := congrArg String.toList hnil
    rw [toList_document_cons, toList_text] at hempty
    cases hempty
  constructor
  · intro hsame
    cases links with
    | nil =>
      cases links' with
      | nil => exact .nil
      | cons l' links' => exact absurd hsame.symm (hsome l' links')
    | cons l links =>
      cases links' with
      | nil => exact absurd hsame (hsome l links)
      | cons l' links' =>
        refine behind_unique h h' (congrArg (',' :: ·) ?_)
        rw [← toList_document_cons, ← toList_document_cons, hsame]
  · intro hagree
    have htexts : links.map text = links'.map text := by
      rw [← List.forall₂_eq_eq_eq, List.forall₂_map_left_iff, List.forall₂_map_right_iff]
      exact hagree.imp fun _ _ => Agree.text_eq
    rw [document, htexts, document]

/-! ### Texts that cannot be read -/

/-- A title that closes its quotes reads like a title and a resource type. -/
theorem text_of_title (l : Link) (title type : String) :
    text { l with attributes := { l.attributes with
      title := some (title ++ "\";rt=\"" ++ type), resourceTypes := [] } } =
    text { l with attributes := { l.attributes with title := some title, resourceTypes := [type] } } := by
  have hquotes : ("\";rt=\"" : String).toList = ['"', ';', 'r', 't', '=', '"'] := rfl
  rw [← String.toList_inj, toList_text, toList_text]
  simp [values, parameters_cons, parameter, quote, joined?, Text.join, Text.joinChars, hquotes]

/-- A path that closes its brackets reads like two links. -/
theorem document_of_href (l : Link) (href : String) (links : List Link) :
    document ({ l with href := href ++ ">,<" ++ l.href } :: links) =
      document (⟨href, default, none⟩ :: l :: links) := by
  have hbrackets : (">,<" : String).toList = ['>', ',', '<'] := rfl
  have hblank : parameters (values ⟨href, default, none⟩) = [] := rfl
  rw [← String.toList_inj, toList_document_cons, toList_document_cons, behind, toList_text, toList_text,
    toList_text, hblank]
  simp [hbrackets, values]

/-- Links whose texts have quotes and brackets in them, but none before a comma or a semicolon. -/
def plain (types : List String) : List Link :=
  [⟨"/a>b", { (default : Attributes) with title := some "say \"x\"", resourceTypes := types }, some true⟩,
    ⟨"/c", default, none⟩]

/-- It cannot be told whether there are two resource types or one with a blank, but which they are. -/
theorem document_eq_plain :
    document (plain ["x", "y"]) = document (plain ["x y"]) ∧
      document (plain ["x", "y"]) ≠ document (plain ["x", "z"]) := by
  have hreadable : ∀ l ∈ plain ["x", "y"] ++ plain ["x y"] ++ plain ["x", "z"], l.Readable := by
    decide +kernel
  simp only [List.forall_mem_append] at hreadable
  obtain ⟨⟨hpair, hone⟩, hother⟩ := hreadable
  constructor
  · refine (document_eq_iff hpair hone).mpr (.cons ?_ (.cons ?_ .nil))
    · exact ⟨rfl, rfl, by decide, by decide, rfl, Iff.rfl, rfl, rfl, rfl⟩
    · exact ⟨rfl, rfl, rfl, Iff.rfl, rfl, Iff.rfl, rfl, rfl, rfl⟩
  · intro hsame
    cases (document_eq_iff hpair hother).mp hsame with
    | cons hagree _ => exact absurd hagree.types (by decide)

/-- A link whose title closes its quotes. -/
def crafty : Link := ⟨"/a", { (default : Attributes) with title := some "x\";rt=\"y" }, none⟩

/-- A link with a title and a resource type. -/
def honest : Link :=
  ⟨"/a", { (default : Attributes) with title := some "x", resourceTypes := ["y"] }, none⟩

theorem document_not_unique :
    document [crafty] = document [honest] ∧ ¬ List.Forall₂ Agree [crafty] [honest] := by
  have htext : crafty.text = honest.text := text_of_title ⟨"/a", default, none⟩ "x" "y"
  refine ⟨congrArg (fun t => Text.join "," [t]) htext, fun hall => ?_⟩
  cases hall with
  | cons hagree _ => exact absurd hagree.title (by decide)

end Coap.Link
