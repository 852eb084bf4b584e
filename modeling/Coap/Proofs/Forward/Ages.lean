import Coap.Proofs.Forward.Carried
import Coap.Proofs.Forward.Recased

/-!
# Ages of responses from HTTP

The response that is given in place of one from HTTP has the age that is read from the header.

* `Http.age_eq` — the age is that of the header.
* `Http.forall_recased_iff` — the responses whose age does not depend on letters.
* `Http.age_carried` — the ages of all responses.
-/

namespace Coap

namespace Http

variable {r r' : Response}

/-! ### The age of a response -/

/-- The age option of the response that is given in place of one from HTTP. -/
def Response.age (r : Response) (method : Method) : Except MappingError (Option (List Bytes)) :=
  (Coap.Response.ofHttp r method).map fun resp => resp.message.options.get? .maxAge

/-- The age that the header of a response allows. -/
def Response.allowed? (r : Response) : Option UInt32 := (r.text? "cache-control").bind maxAge?

theorem get?_maxAge_toMessage (r : Response) (code : Code) :
    (r.toMessage code).options.get? .maxAge = r.allowed?.map fun n => [OptionValue.ofUInt n] := by
  rw [Response.toMessage, (sameBut_withTag _ r).2 _ (by decide), withAge, Response.allowed?]
  cases (r.text? "cache-control").bind maxAge? with
  | some n => exact Message.get?_set_self _ .maxAge _
  | none =>
    dsimp only
    rw [get?_withBody_of_ne _ r (by decide)]
    rfl

theorem age_eq (r : Response) (method : Method) :
    r.age method =
      (method.codeOfStatus r.status).map fun _ => r.allowed?.map fun n => [OptionValue.ofUInt n] := by
  rw [Response.age, ofHttp_eq]
  cases method.codeOfStatus r.status with
  | error e => rfl
  | ok code => exact congrArg Except.ok (get?_maxAge_toMessage r code)

/-- Every directive of a response that gives an age in any letters does so in small ones. -/
def Response.Plain (r : Response) : Prop :=
  ∀ field, r.text? "cache-control" = some field → ∀ p ∈ directives field, ∀ n, Tells p n → Gives p n

/-- No directive of a response gives an age, whatever its letters. -/
def Response.Silent (r : Response) : Prop :=
  ∀ field, r.text? "cache-control" = some field → ∀ p ∈ directives field, ∀ n, ¬ Tells p n

/-- Names in small letters are read as if all letters were small. -/
theorem Response.Plain.allowed?_eq (plain : r.Plain) :
    r.allowed? = ((r.text? "cache-control").map lowered).bind maxAge? := by
  unfold Response.allowed?
  cases hfield : r.text? "cache-control" with
  | none => rfl
  | some field =>
    have hsame : ∀ p ∈ directives field, ageOf? p = (ageOf? ∘ List.map Char.toLower) p := by
      refine fun p hp => Option.ext fun n => ?_
      rw [Function.comp, ageOf?_eq_some_iff, ageOf?_eq_some_iff, ← tells_iff]
      exact ⟨Gives.tells, plain field hfield p hp n⟩
    calc maxAge? field
        = (directives field).findSome? ageOf? := rfl
      _ = (directives field).findSome? (ageOf? ∘ List.map Char.toLower) := by
          rw [← List.head?_filterMap, ← List.head?_filterMap, List.filterMap_congr hsame]
      _ = (directives (lowered field)).findSome? ageOf? := by rw [directives_lowered, List.findSome?_map]

theorem Response.Silent.allowed?_eq_none (silent : r.Silent) : r.allowed? = none := by
  unfold Response.allowed?
  cases hfield : r.text? "cache-control" with
  | none => rfl
  | some field => exact maxAge?_eq_none_iff.mpr fun p hp n h => silent field hfield p hp n h.tells

theorem Recased.silent (h : Recased r r') (silent : r.Silent) : r'.Silent := by
  intro field' hfield' p' hp' n htells
  have hlowered := h.text?
  rw [hfield', Option.map_some] at hlowered
  obtain ⟨field, hfield, heq⟩ := Option.map_eq_some_iff.mp hlowered.symm
  -- the directives of both are the same in small letters
  have hmem : p'.map Char.toLower ∈ (directives field).map (List.map Char.toLower) := by
    rw [← directives_lowered, heq, directives_lowered]
    exact List.mem_map_of_mem hp'
  obtain ⟨p, hp, hsame⟩ := List.mem_map.mp hmem
  exact silent field hfield p hp n (tells_iff.mpr (hsame ▸ tells_iff.mp htells))

/-- If a directive gives an age in whatever letters, one is read from the small forms. -/
theorem allowed?_recase_small (h : ¬ r.Silent) : (r.recase small).allowed? ≠ none := by
  simp only [Response.Silent, not_forall, not_not] at h
  obtain ⟨field, hfield, p, hp, n, htells⟩ := h
  rw [Response.allowed?, text?_recase_small, hfield]
  intro hnone
  refine maxAge?_eq_none_iff.mp hnone (p.map Char.toLower) ?_ n (tells_iff.mp htells)
  rw [directives_lowered]
  exact List.mem_map_of_mem hp

/-- None is read from capital forms. -/
theorem allowed?_recase_capital (r : Response) : (r.recase capital).allowed? = none := by
  unfold Response.allowed?
  cases hfield : (r.recase capital).text? "cache-control" with
  | none => rfl
  | some field =>
    refine maxAge?_eq_none_iff.mpr fun p hp n hgives => ?_
    obtain ⟨f, rfl, hname, -⟩ := hgives
    have hm : 'm' ∈ f.chars := by
      refine List.mem_append_right _ (List.mem_append_left _ ?_)
      rw [hname]
      decide
    exact notMem_of_text?_recase hfield (Text.mem_of_mem_splitChars hp hm)

theorem get?_maxAge_ofHttp {method : Method} {resp : Coap.Response}
    (h : Coap.Response.ofHttp r method = .ok resp) :
    resp.message.options.get? .maxAge = r.allowed?.map fun n => [OptionValue.ofUInt n] := by
  rw [ofHttp_eq] at h
  cases hcode : method.codeOfStatus r.status with
  | error e =>
    rw [hcode] at h
    cases h
  | ok code =>
    rw [hcode] at h
    obtain rfl := Except.ok.inj h
    exact get?_maxAge_toMessage r code

theorem map_ofUInt_eq_some_iff {age? : Option UInt32} {n : UInt32} :
    (age?.map fun n => [OptionValue.ofUInt n]) = some [OptionValue.ofUInt n] ↔ age? = some n := by
  rw [Option.map_eq_some_iff]
  constructor
  · rintro ⟨m, rfl, heq⟩
    have hread := congrArg OptionValue.toUInt? (List.cons.inj heq).1
    rw [OptionValue.toUInt?_ofUInt, OptionValue.toUInt?_ofUInt] at hread
    exact hread
  · rintro rfl
    exact ⟨n, rfl, rfl⟩

/-- **Letters.** All responses that differ in letters only have the same age exactly if no directive gives
one, whatever its letters. -/
theorem forall_recased_iff (method : Method) (hcode : HasCode r.status) :
    (∀ r', Recased r r' → r'.age method = r.age method) ↔ r.Silent := by
  obtain ⟨-, code, heq, -, -⟩ | ⟨hnone, -⟩ := method.codeOfStatus_cases r.status
  · have hage : ∀ {r'}, Recased r r' →
        r'.age method = .ok (r'.allowed?.map fun n => [OptionValue.ofUInt n]) := by
      intro r' h
      rw [age_eq, h.status, heq]
      rfl
    constructor
    · intro hsame
      by_contra hsilent
      have hsmall := recased_recase small_small r
      have hcapital := recased_recase small_capital r
      have hages := (hage hsmall).symm.trans
        ((hsame _ hsmall).trans ((hsame _ hcapital).symm.trans (hage hcapital)))
      rw [allowed?_recase_capital, Option.map_none, Except.ok.injEq, Option.map_eq_none_iff] at hages
      exact allowed?_recase_small hsilent hages
    · intro silent r' h
      rw [age_eq, age_eq, h.status, silent.allowed?_eq_none, (h.silent silent).allowed?_eq_none]
  · exact absurd hcode hnone

/-- Names in small letters are read whatever the letters of the rest. -/
theorem Recased.age_eq_of_plain (h : Recased r r') (plain : r.Plain) (plain' : r'.Plain) (method : Method) :
    r'.age method = r.age method := by
  rw [age_eq, age_eq, h.status, plain.allowed?_eq, plain'.allowed?_eq, h.text?]

/-- **Ages.** The response that is given in place of one from HTTP has the age of the first directive that
gives one in small letters, and none if there is no such directive. So the age of a single directive is
given if its name is in small letters, and not otherwise; and where no directive gives one as HTTP has it,
there is one only if some directive has a plus sign or blanks before its digits. Responses that differ in
letters have the same age if the names are in small letters, and in whatever letters only if no directive
gives one. -/
theorem age_carried (r : Response) (method : Method) :
    (∀ resp, Coap.Response.ofHttp r method = .ok resp →
      let age := resp.message.options.get? .maxAge
      (r.text? "cache-control" = none → age = none) ∧
      ∀ field, r.text? "cache-control" = some field →
        (∀ n, age = some [OptionValue.ofUInt n] ↔ Allows field n) ∧
        (age = none ↔ ∀ p ∈ directives field, ∀ n, ¬ Gives p n) ∧
        (∀ front (f : AgeDirective) back (n : UInt32), directives field = front ++ f.chars :: back →
          (∀ q ∈ front ++ back, ¬ IsAge q) → f.age = n.toNat →
          (age = some [OptionValue.ofUInt n] ↔ f.name = ageName) ∧ (age = none ↔ f.name ≠ ageName)) ∧
        ((∀ p ∈ directives field, ∀ n, ¬ States p n) →
          (age ≠ none ↔ ∃ f : AgeDirective, f.chars ∈ directives field ∧ f.name = ageName ∧
            ¬ f.Strict ∧ f.age < UInt32.size))) ∧
    (∀ r', Recased r r' → r.Plain → r'.Plain → r'.age method = r.age method) ∧
    (HasCode r.status → ((∀ r', Recased r r' → r'.age method = r.age method) ↔ r.Silent)) := by
  refine ⟨fun resp hresp => ?_, fun r' h plain plain' => h.age_eq_of_plain plain plain' method,
    forall_recased_iff method⟩
  dsimp only
  rw [get?_maxAge_ofHttp hresp, Response.allowed?]
  refine ⟨fun hnone => by rw [hnone]; rfl, fun field hfield => ?_⟩
  rw [hfield, Option.bind_some]
  refine ⟨fun n => map_ofUInt_eq_some_iff.trans maxAge?_eq_some_iff, ?_, ?_, ?_⟩
  · rw [Option.map_eq_none_iff, maxAge?_eq_none_iff]
  · intro front f back n hlist hothers hage
    rw [map_ofUInt_eq_some_iff, Option.map_eq_none_iff, maxAge?_eq_some_iff, maxAge?_eq_none_iff]
    exact allows_single_iff hlist hothers hage
  · intro hstates
    rw [ne_eq, Option.map_eq_none_iff, maxAge?_eq_none_iff]
    exact exists_gives_iff hstates

/-! ### Half a minute -/

/-- A response that says how long to keep it. -/
def kept (control : String) : Response := ⟨200, [("cache-control", Text.bytes control)], []⟩

theorem text?_kept : (kept "public, max-age=30").text? "cache-control" = some "public, max-age=30" :=
  text?_of_find? rfl (by decide)

theorem text?_kept_capital : (kept "Max-Age=30").text? "cache-control" = some "Max-Age=30" :=
  text?_of_find? rfl (by decide)

/-- The directive that allows half a minute, in some letters. -/
def halfMinute (before name : List Char) (blank : ∀ c ∈ before, Text.isBlank c = true)
    (named : name.map Char.toLower = ageName) : AgeDirective where
  before := before
  name := name
  gap := []
  sign := []
  digits := ['3', '0']
  after := []
  blank_before := blank
  blank_gap := List.forall_mem_nil _
  blank_after := List.forall_mem_nil _
  named := named
  signed := .inl rfl
  some_digits := List.cons_ne_nil _ _
  all_digits := List.all_eq_true.mp rfl

/-- Half a minute is carried behind another directive. -/
theorem age_carried_kept :
    ∃ resp, Coap.Response.ofHttp (kept "public, max-age=30") .get = .ok resp ∧
      resp.message.options.get? .maxAge = some [OptionValue.ofUInt 30] := by
  refine ⟨_, rfl, ?_⟩
  obtain ⟨hallows, -⟩ := ((age_carried (kept "public, max-age=30") .get).1 _ rfl).2 _ text?_kept
  refine (hallows 30).mpr ⟨["public".toList], " max-age=30".toList, [], by decide, ?_, ?_⟩
  · exact ⟨halfMinute [' '] ageName (List.all_eq_true.mp rfl) rfl, rfl, rfl, rfl⟩
  · intro q hq
    rw [List.mem_singleton.mp hq]
    exact ageOf?_eq_none_iff.mp (by decide)

/-- Half a minute in capital letters gets lost, and in small ones it does not. -/
theorem age_lost :
    (¬ ∀ (r r' : Response) (method : Method), Recased r r' → r'.age method = r.age method) ∧
    ¬ ∀ (r : Response) (method : Method) (field : String) (front back : List (List Char)) (p : List Char)
      (n : UInt32), HasCode r.status → r.text? "cache-control" = some field → '"' ∉ field.toList →
      directives field = front ++ p :: back → States p n → (∀ q ∈ front ++ back, ¬ IsAge q) →
      r.age method = .ok (some [OptionValue.ofUInt n]) := by
  have hcapital : (kept "Max-Age=30").age .get = .ok none := by
    rw [age_eq, Response.allowed?, text?_kept_capital]
    have hnone : maxAge? "Max-Age=30" = none := by decide
    rw [Option.bind_some, hnone]
    rfl
  constructor
  · intro h
    have hrecased : Recased (kept "Max-Age=30") ((kept "Max-Age=30").recase small) :=
      recased_recase small_small _
    have hsame := (h _ _ .get hrecased).trans hcapital
    rw [age_eq, Response.allowed?, text?_recase_small, text?_kept_capital] at hsame
    have hsome : maxAge? (lowered "Max-Age=30") = some 30 := by decide
    rw [Option.map_some, Option.bind_some, hsome] at hsame
    cases hsame
  · intro h
    have hstated := h (kept "Max-Age=30") .get "Max-Age=30" [] [] "Max-Age=30".toList 30 (by decide)
      text?_kept_capital (by decide) (by decide)
      ⟨halfMinute [] "Max-Age".toList (List.forall_mem_nil _) (by decide), rfl, ⟨rfl, rfl⟩, rfl⟩ nofun
    cases hcapital.symm.trans hstated

end Http

end Coap
