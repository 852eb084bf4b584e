import Coap.Options

/-!
# Options one by one

The options of a message go over the wire one by one, the values of one number next to each other.
Collecting single options and listing them are inverse to each other, as long as the numbers do not go
down and no number is present without values.

* `Options.instances_ofInstances` — options that are in order are listed as they were collected.
* `Options.ofInstances_instances` — what is listed and collected again are the options that have values.
* `Options.ext_valuesOf` — options without empty lists are determined by their values.
-/

namespace Coap

namespace OptionNumber

/-- Numbers are compared by their values. -/
theorem compare_eq_lt {a b : OptionNumber} : compare a b = .lt ↔ a.val.toNat < b.val.toNat :=
  (Std.compare_eq_lt (a := a.val) (b := b.val)).trans UInt32.lt_iff_toNat_lt

theorem compare_eq_gt {a b : OptionNumber} : compare a b = .gt ↔ b.val.toNat < a.val.toNat :=
  (Std.compare_eq_gt (a := a.val) (b := b.val)).trans UInt32.lt_iff_toNat_lt

end OptionNumber

namespace OrderedMap

variable {κ : Type u} {α : Type v} [Ord κ] [Std.TransOrd κ] [Std.LawfulEqOrd κ]

/-- Lookups among the entries that satisfy a condition. -/
theorem get?_filter (m : OrderedMap κ α) (p : κ → α → Bool) (k : κ) :
    (m.filter p).get? k = (m.get? k).filter (p k) := by
  apply Option.ext
  intro a
  rw [get?_eq_some_iff, Option.filter_eq_some_iff, get?_eq_some_iff]
  exact List.mem_filter

end OrderedMap

namespace Options

/-! ### Values -/

/-- No number is present without values if every lookup that succeeds finds some. -/
theorem hasValues_iff {o : Options} : o.HasValues ↔ ∀ n values, o.get? n = some values → values ≠ [] := by
  constructor
  · intro h n values hget
    exact h (n, values) (OrderedMap.get?_eq_some_iff.mp hget)
  · rintro h ⟨n, values⟩ hmem
    exact h n values (OrderedMap.get?_eq_some_iff.mpr hmem)

/-- Options without empty lists are determined by their values. -/
theorem ext_valuesOf {o p : Options} (ho : o.HasValues) (hp : p.HasValues)
    (h : ∀ n, o.valuesOf n = p.valuesOf n) : o = p := by
  apply OrderedMap.ext_get?
  intro n
  have hn := h n
  unfold valuesOf at hn
  cases ho' : o.get? n with
  | none =>
    cases hp' : p.get? n with
    | none => rfl
    | some values =>
      rw [ho', hp'] at hn
      exact absurd hn.symm (hasValues_iff.mp hp n values hp')
  | some values =>
    cases hp' : p.get? n with
    | none =>
      rw [ho', hp'] at hn
      exact absurd hn (hasValues_iff.mp ho n values ho')
    | some others =>
      rw [ho', hp'] at hn
      exact congrArg some hn

/-- A value put in front is seen under its number, and the other numbers are as before. -/
theorem valuesOf_addFront (o : Options) (n j : OptionNumber) (value : Bytes) :
    (o.addFront n value).valuesOf j = if j = n then value :: o.valuesOf n else o.valuesOf j := by
  unfold valuesOf addFront
  rw [OrderedMap.get?_alter]
  split <;> rfl

/-! ### Leaving out what has no values -/

theorem hasValues_dropEmpty (o : Options) : o.dropEmpty.HasValues := by
  intro entry hmem hnil
  have hkept := (List.mem_filter.mp hmem).2
  rw [hnil] at hkept
  cases hkept

theorem valuesOf_dropEmpty (o : Options) (n : OptionNumber) :
    o.dropEmpty.valuesOf n = o.valuesOf n := by
  unfold valuesOf dropEmpty
  rw [OrderedMap.get?_filter]
  cases o.get? n with
  | none => rfl
  | some values => cases values <;> rfl

/-- Nothing is left out exactly if no number is present without values. -/
theorem dropEmpty_eq_self_iff (o : Options) : o.dropEmpty = o ↔ o.HasValues :=
  ⟨fun h => h ▸ hasValues_dropEmpty o,
    fun h => ext_valuesOf (hasValues_dropEmpty o) h (valuesOf_dropEmpty o)⟩

/-! ### Collecting -/

/-- The values of a number among single options. -/
def among (n : OptionNumber) (l : List (OptionNumber × Bytes)) : List Bytes :=
  l.filterMap fun i => if i.1 = n then some i.2 else none

theorem ofInstances_cons (i : OptionNumber × Bytes) (l : List (OptionNumber × Bytes)) :
    ofInstances (i :: l) = (ofInstances l).addFront i.1 i.2 := rfl

/-- Collected options have the values that were given for them, in the same order. -/
theorem valuesOf_ofInstances (l : List (OptionNumber × Bytes)) (n : OptionNumber) :
    (ofInstances l).valuesOf n = among n l := by
  induction l with
  | nil => rfl
  | cons i l ih =>
    rw [ofInstances_cons, valuesOf_addFront]
    by_cases h : n = i.1
    · subst h
      simp [among, ih]
    · rw [if_neg h, ih]
      simp [among, Ne.symm h]

/-- No number is collected without a value. -/
theorem hasValues_ofInstances (l : List (OptionNumber × Bytes)) : (ofInstances l).HasValues := by
  induction l with
  | nil => exact fun entry hmem => absurd hmem List.not_mem_nil
  | cons i l ih =>
    rw [hasValues_iff] at ih ⊢
    intro n values hget
    rw [ofInstances_cons, addFront, OrderedMap.get?_alter] at hget
    split at hget
    · cases hget
      exact List.cons_ne_nil _ _
    · exact ih n values hget

/-! ### Listing -/

theorem among_append (n : OptionNumber) (l r : List (OptionNumber × Bytes)) :
    among n (l ++ r) = among n l ++ among n r := List.filterMap_append

/-- Among the values of one number, those of another are none. -/
theorem among_map (n k : OptionNumber) (values : List Bytes) :
    among n (values.map fun value => (k, value)) = if k = n then values else [] := by
  induction values with
  | nil => exact (ite_self _).symm
  | cons value values ih =>
    have hcons : among n ((value :: values).map fun value => (k, value)) =
        among n [(k, value)] ++ among n (values.map fun value => (k, value)) :=
      among_append n [(k, value)] _
    rw [hcons, ih]
    by_cases h : k = n
    · simp [among, h]
    · simp [among, h]

/-- Among the entries of a map, the values of a number are those that are looked up. -/
theorem among_entries {entries : List (OptionNumber × List Bytes)} (h : Ascending entries)
    (n : OptionNumber) :
    among n (entries.flatMap fun e => e.2.map fun value => (e.1, value)) =
      (OrderedMap.find? n entries).getD [] := by
  induction entries with
  | nil => rfl
  | cons e rest ih =>
    obtain ⟨hhead, hrest⟩ := List.pairwise_cons.mp h
    have hsplit : among n ((e :: rest).flatMap fun e => e.2.map fun value => (e.1, value)) =
        (if e.1 = n then e.2 else []) ++ (OrderedMap.find? n rest).getD [] := by
      rw [← ih hrest, List.flatMap_cons, among_append, among_map]
    rw [hsplit, OrderedMap.find?]
    -- the entries ascend, so there is nothing under `n` behind a number that is not below it
    cases hc : compare n e.1 with
    | lt =>
      have hbelow : ∀ d ∈ rest, compare n d.1 = .lt := fun d hd =>
        Std.TransCmp.lt_trans hc (hhead d hd)
      have hne : e.1 ≠ n := by
        rintro rfl
        simp at hc
      simp [hne, OrderedMap.find?_eq_none_of_lt hbelow]
    | eq =>
      have hn : n = e.1 := Std.LawfulEqOrd.eq_of_compare hc
      subst hn
      simp [OrderedMap.find?_eq_none_of_lt hhead]
    | gt =>
      have hne : e.1 ≠ n := by
        rintro rfl
        simp at hc
      simp [hne]

theorem among_instances (o : Options) (n : OptionNumber) : among n o.instances = o.valuesOf n :=
  among_entries o.ascending n

/-- What is listed and collected again are the options that have values. -/
theorem ofInstances_instances (o : Options) : ofInstances o.instances = o.dropEmpty := by
  apply ext_valuesOf (hasValues_ofInstances _) (hasValues_dropEmpty o)
  intro n
  rw [valuesOf_ofInstances, among_instances, valuesOf_dropEmpty]

/-! ### Order -/

/-- The numbers of single options do not go down. -/
def InOrder (l : List (OptionNumber × Bytes)) : Prop :=
  l.Pairwise fun a b => a.1.val.toNat ≤ b.1.val.toNat

theorem inOrder_instances (o : Options) : InOrder o.instances := by
  refine List.pairwise_flatMap.mpr ⟨fun e _ => ?_, o.ascending.imp fun {d e} hlt => ?_⟩
  · rw [List.pairwise_map]
    exact List.pairwise_of_forall (fun _ _ => Nat.le_refl _)
  · intro i hi j hj
    obtain ⟨_, -, rfl⟩ := List.mem_map.mp hi
    obtain ⟨_, -, rfl⟩ := List.mem_map.mp hj
    exact Nat.le_of_lt (OptionNumber.compare_eq_lt.mp hlt)

/-- A number that options are collected for is the number of one of them. -/
theorem mem_of_mem_ofInstances {l : List (OptionNumber × Bytes)}
    {e : OptionNumber × List Bytes} (h : e ∈ (ofInstances l).entries) :
    ∃ value, (e.1, value) ∈ l := by
  induction l with
  | nil => exact absurd h List.not_mem_nil
  | cons i l ih =>
    rcases OrderedMap.mem_change h with heq | hmem
    · exact ⟨i.2, by rw [heq]; exact List.mem_cons_self⟩
    · obtain ⟨value, hvalue⟩ := ih hmem
      exact ⟨value, List.mem_cons_of_mem _ hvalue⟩

/-- A value put in front of the smallest number is listed first. -/
theorem instances_addFront {o : Options} {n : OptionNumber} (value : Bytes)
    (h : ∀ e ∈ o.entries, n.val.toNat ≤ e.1.val.toNat) :
    (o.addFront n value).instances = (n, value) :: o.instances := by
  show (OrderedMap.change n _ o.entries).flatMap _ = (n, value) :: o.entries.flatMap _
  revert h
  cases o.entries with
  | nil => exact fun _ => rfl
  | cons e rest =>
    intro h
    have hle := h e List.mem_cons_self
    unfold OrderedMap.change
    cases hc : compare n e.1 with
    | lt => rfl
    | eq =>
      have hn : n = e.1 := Std.LawfulEqOrd.eq_of_compare hc
      subst hn
      rfl
    | gt =>
      have := OptionNumber.compare_eq_gt.mp hc
      omega

/-- Options that are in order are listed as they were collected. -/
theorem instances_ofInstances {l : List (OptionNumber × Bytes)} (h : InOrder l) :
    (ofInstances l).instances = l := by
  induction l with
  | nil => rfl
  | cons i l ih =>
    obtain ⟨hhead, htail⟩ := List.pairwise_cons.mp h
    rw [ofInstances_cons, instances_addFront i.2 fun e he => ?_, ih htail]
    obtain ⟨value, hvalue⟩ := mem_of_mem_ofInstances he
    exact hhead _ hvalue

end Options

end Coap
