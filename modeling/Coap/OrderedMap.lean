/-!
# Finite maps in ascending key order

A finite map is the list of its entries with strictly ascending keys. The order is part of the
type, so two maps with the same entries are equal, and folding over one visits its keys in order.

* `OrderedMap.get?`, `OrderedMap.alter` — look up a key, and change what is stored under one;
  `insert`, `erase` and `modify` are instances of `alter`.
* `OrderedMap.get?_alter` — a change is seen under its own key and under no other.
* `OrderedMap.ext_get?` — a map is determined by its lookups.
-/

namespace Coap

/-- Entries whose keys ascend strictly. -/
def Ascending {κ : Type u} {α : Type v} [Ord κ] (entries : List (κ × α)) : Prop :=
  entries.Pairwise fun a b => compare a.1 b.1 = .lt

/-- A finite map from `κ` to `α`, as its entries in ascending order of their keys. -/
structure OrderedMap (κ : Type u) (α : Type v) [Ord κ] where
  /-- The entries, smallest key first. -/
  entries : List (κ × α)
  /-- No key is repeated or out of place. -/
  ascending : Ascending entries

namespace OrderedMap

variable {κ : Type u} {α : Type v} {β : Type w} [Ord κ]

/-- Two maps with the same entries are the same map. -/
@[ext] theorem ext {m n : OrderedMap κ α} (h : m.entries = n.entries) : m = n := by
  cases m; cases n; cases h; rfl

instance [DecidableEq κ] [DecidableEq α] : DecidableEq (OrderedMap κ α) := fun m n =>
  decidable_of_iff (m.entries = n.entries) ⟨ext, fun h => h ▸ rfl⟩

/-- The map without entries. -/
def empty : OrderedMap κ α := ⟨[], .nil⟩

instance : EmptyCollection (OrderedMap κ α) := ⟨empty⟩
instance : Inhabited (OrderedMap κ α) := ⟨empty⟩

/-- Keep the entries that satisfy `p`. -/
def filter (m : OrderedMap κ α) (p : κ → α → Bool) : OrderedMap κ α :=
  ⟨m.entries.filter fun e => p e.1 e.2, List.Pairwise.filter _ m.ascending⟩

/-- Apply `f` to every value. -/
def map (m : OrderedMap κ α) (f : α → β) : OrderedMap κ β :=
  ⟨m.entries.map fun e => (e.1, f e.2), by
    have := m.ascending
    unfold Ascending at *
    exact List.pairwise_map.2 this⟩

/-- Number of entries. -/
def size (m : OrderedMap κ α) : Nat := m.entries.length

/-- Has the map no entries? -/
def isEmpty (m : OrderedMap κ α) : Bool := m.entries.isEmpty

/-- The keys, ascending. -/
def keys (m : OrderedMap κ α) : List κ := m.entries.map (·.1)

/-- The values, in the order of their keys. -/
def values (m : OrderedMap κ α) : List α := m.entries.map (·.2)

/-! ## Lookup -/

/-- The value under a key, among entries in ascending order. -/
def find? (k : κ) : List (κ × α) → Option α
  | [] => none
  | (k', a) :: rest =>
    match compare k k' with
    | .lt => none
    | .eq => some a
    | .gt => find? k rest

/-- The value stored under `k`. -/
def get? (m : OrderedMap κ α) (k : κ) : Option α := find? k m.entries

/-- Is something stored under `k`? -/
def contains (m : OrderedMap κ α) (k : κ) : Bool := (m.get? k).isSome

/-! ## Change -/

/-- Put `o` in front of entries with larger keys; `none` puts nothing. -/
def consIf (k : κ) (o : Option α) (rest : List (κ × α)) : List (κ × α) :=
  match o with
  | none => rest
  | some a => (k, a) :: rest

/-- Change what ascending entries hold under `k`; `none` stands for no entry. -/
def change (k : κ) (f : Option α → Option α) : List (κ × α) → List (κ × α)
  | [] => consIf k (f none) []
  | (k', a) :: rest =>
    match compare k k' with
    | .lt => consIf k (f none) ((k', a) :: rest)
    | .eq => consIf k (f (some a)) rest
    | .gt => (k', a) :: change k f rest

/-- A key of the changed entries is the changed key or was there before. -/
theorem mem_change {k : κ} {f : Option α → Option α} {l : List (κ × α)} {e : κ × α}
    (h : e ∈ change k f l) : e.1 = k ∨ e ∈ l := by
  induction l with
  | nil =>
    unfold change consIf at h
    split at h <;> simp_all
  | cons head rest ih =>
    obtain ⟨k', a⟩ := head
    unfold change consIf at h
    split at h
    · split at h
      · exact .inr h
      · rcases List.mem_cons.1 h with rfl | h
        · exact .inl rfl
        · exact .inr h
    · split at h
      · exact .inr (List.mem_cons_of_mem _ h)
      · rcases List.mem_cons.1 h with rfl | h
        · exact .inl rfl
        · exact .inr (List.mem_cons_of_mem _ h)
    · rcases List.mem_cons.1 h with rfl | h
      · exact .inr List.mem_cons_self
      · exact (ih h).imp_right (List.mem_cons_of_mem _)

/-- Everything from an entry on has a larger key than a key below that entry's. -/
theorem lt_of_mem [Std.TransOrd κ] {k k' : κ} {a : α} {rest : List (κ × α)} {e : κ × α}
    (h : Ascending ((k', a) :: rest)) (hk : compare k k' = .lt) (he : e ∈ (k', a) :: rest) :
    compare k e.1 = .lt := by
  rcases List.mem_cons.1 he with rfl | he
  · exact hk
  · exact Std.TransCmp.lt_trans hk ((List.pairwise_cons.1 h).1 e he)

variable [Std.TransOrd κ] [Std.LawfulEqOrd κ]

/-- A change keeps the entries in order. -/
theorem ascending_change (k : κ) (f : Option α → Option α) {l : List (κ × α)}
    (h : Ascending l) : Ascending (change k f l) := by
  induction l with
  | nil =>
    unfold change consIf
    split
    · exact List.Pairwise.nil
    · exact List.pairwise_singleton _ _
  | cons head rest ih =>
    obtain ⟨k', a⟩ := head
    have htail : Ascending rest := (List.pairwise_cons.1 h).2
    unfold change consIf
    split
    · next hk =>
      split
      · exact h
      · exact List.pairwise_cons.2 ⟨fun e he => lt_of_mem h hk he, h⟩
    · next hk =>
      have hk' : k = k' := Std.LawfulEqOrd.eq_of_compare hk
      subst hk'
      split
      · exact htail
      · exact List.pairwise_cons.2 ⟨(List.pairwise_cons.1 h).1, htail⟩
    · next hk =>
      refine List.pairwise_cons.2 ⟨fun e he => ?_, ih htail⟩
      rcases mem_change he with he | he
      · rw [he]; exact Std.OrientedCmp.lt_of_gt hk
      · exact (List.pairwise_cons.1 h).1 e he

/-- Change what is stored under `k`; `none` stands for nothing. -/
def alter (m : OrderedMap κ α) (k : κ) (f : Option α → Option α) : OrderedMap κ α :=
  ⟨change k f m.entries, ascending_change k f m.ascending⟩

/-- Store `a` under `k`, in place of what is there. -/
def insert (m : OrderedMap κ α) (k : κ) (a : α) : OrderedMap κ α := m.alter k fun _ => some a

/-- Drop what is stored under `k`. -/
def erase (m : OrderedMap κ α) (k : κ) : OrderedMap κ α := m.alter k fun _ => none

/-- Change the value under `k`, if there is one. -/
def modify (m : OrderedMap κ α) (k : κ) (f : α → α) : OrderedMap κ α := m.alter k (Option.map f)

/-! ## What lookups see -/

omit [Std.TransOrd κ] [Std.LawfulEqOrd κ] in
/-- A key below all entries is not found. -/
theorem find?_eq_none_of_lt {k : κ} {l : List (κ × α)} (h : ∀ e ∈ l, compare k e.1 = .lt) :
    find? k l = none := by
  cases l with
  | nil => rfl
  | cons head rest =>
    have := h head List.mem_cons_self
    simp [find?, this]

/-- A value in front of larger keys is found under its own key. -/
theorem find?_consIf {k j : κ} {o : Option α} {rest : List (κ × α)}
    (h : ∀ e ∈ rest, compare k e.1 = .lt) :
    find? j (consIf k o rest) = if compare j k = .eq then o else find? j rest := by
  cases o with
  | none =>
    simp only [consIf]
    split
    · next hj =>
      have hjk : j = k := Std.LawfulEqOrd.eq_of_compare hj
      subst hjk
      exact find?_eq_none_of_lt h
    · rfl
  | some a =>
    simp only [consIf, find?]
    split
    · next hj =>
      rw [if_neg (by simp [hj])]
      exact (find?_eq_none_of_lt fun e he => Std.TransCmp.lt_trans hj (h e he)).symm
    · next hj => simp [hj]
    · next hj => rw [if_neg (by simp [hj])]

/-- A change is seen under its own key, and lookups of other keys are as before. -/
theorem find?_change {k j : κ} {f : Option α → Option α} {l : List (κ × α)} (h : Ascending l) :
    find? j (change k f l) = if compare j k = .eq then f (find? k l) else find? j l := by
  induction l with
  | nil =>
    simp only [change, find?]
    rw [find?_consIf (by simp)]
    simp [find?]
  | cons head rest ih =>
    obtain ⟨k', a⟩ := head
    have htail : Ascending rest := (List.pairwise_cons.1 h).2
    have hhead : ∀ e ∈ rest, compare k' e.1 = .lt := (List.pairwise_cons.1 h).1
    unfold change
    split
    · next hk =>
      rw [find?_consIf fun e he => lt_of_mem h hk he]
      simp [find?, hk]
    · next hk =>
      have hkk : k = k' := Std.LawfulEqOrd.eq_of_compare hk
      subst hkk
      rw [find?_consIf hhead]
      simp only [find?, hk]
      split
      · rfl
      · next hj =>
        cases hjk : compare j k with
        | lt =>
          exact find?_eq_none_of_lt fun e he => Std.TransCmp.lt_trans hjk (hhead e he)
        | eq => exact absurd hjk hj
        | gt => rfl
    · next hk =>
      simp only [find?, hk]
      cases hj : compare j k' with
      | lt =>
        have hjk : compare j k = .lt := Std.TransCmp.lt_trans hj (Std.OrientedCmp.lt_of_gt hk)
        simp [hjk]
      | eq =>
        have hjk : j = k' := Std.LawfulEqOrd.eq_of_compare hj
        subst hjk
        have hlt : compare j k = .lt := Std.OrientedCmp.lt_of_gt hk
        simp [hlt]
      | gt => simpa using ih htail

/-- A change is seen under its own key, and lookups of other keys are as before. -/
theorem get?_alter [DecidableEq κ] (m : OrderedMap κ α) (k j : κ) (f : Option α → Option α) :
    (m.alter k f).get? j = if j = k then f (m.get? k) else m.get? j := by
  have := find?_change (j := j) (k := k) (f := f) m.ascending
  simpa only [get?, alter, Std.LawfulEqCmp.compare_eq_iff_eq] using this

omit [Std.TransOrd κ] [Std.LawfulEqOrd κ] in
/-- Nothing is stored in the empty map. -/
@[simp] theorem get?_empty (k : κ) : (empty : OrderedMap κ α).get? k = none := rfl

/-- Lookups after storing a value. -/
theorem get?_insert [DecidableEq κ] (m : OrderedMap κ α) (k j : κ) (a : α) :
    (m.insert k a).get? j = if j = k then some a else m.get? j := get?_alter m k j _

/-- Lookups after dropping a key. -/
theorem get?_erase [DecidableEq κ] (m : OrderedMap κ α) (k j : κ) :
    (m.erase k).get? j = if j = k then none else m.get? j := get?_alter m k j _

/-- Lookups after changing a value in place. -/
theorem get?_modify [DecidableEq κ] (m : OrderedMap κ α) (k j : κ) (f : α → α) :
    (m.modify k f).get? j = if j = k then (m.get? k).map f else m.get? j := get?_alter m k j _

/-- What an entry holds is found under its key, and nothing else is found. -/
theorem find?_eq_some_iff {l : List (κ × α)} (h : Ascending l) {k : κ} {a : α} :
    find? k l = some a ↔ (k, a) ∈ l := by
  induction l with
  | nil => simp [find?]
  | cons head rest ih =>
    obtain ⟨k', b⟩ := head
    have htail : Ascending rest := (List.pairwise_cons.1 h).2
    have hhead : ∀ e ∈ rest, compare k' e.1 = .lt := (List.pairwise_cons.1 h).1
    have hself : ∀ c : α, (k', c) ∈ rest → False := fun c hc => by
      simpa using hhead _ hc
    simp only [find?]
    cases hk : compare k k' with
    | lt =>
      have hne : k ≠ k' := fun e => by subst e; simp at hk
      have : (k, a) ∉ rest := fun hm => by
        simpa using Std.TransCmp.lt_trans hk (hhead _ hm)
      simp [hne, this]
    | eq =>
      have hkk : k = k' := Std.LawfulEqOrd.eq_of_compare hk
      subst hkk
      have : (k, a) ∉ rest := fun hm => hself a hm
      simp [this, eq_comm]
    | gt =>
      have hne : k ≠ k' := fun e => by subst e; simp at hk
      simp [hne, ih htail]

/-- What is found under a key is an entry, and every entry is found. -/
theorem get?_eq_some_iff {m : OrderedMap κ α} {k : κ} {a : α} :
    m.get? k = some a ↔ (k, a) ∈ m.entries := find?_eq_some_iff m.ascending

/-- Ascending lists with the same entries are equal. -/
theorem Ascending.eq_of_mem_iff {l r : List (κ × α)} (hl : Ascending l) (hr : Ascending r)
    (h : ∀ e, e ∈ l ↔ e ∈ r) : l = r := by
  induction l generalizing r with
  | nil =>
    cases r with
    | nil => rfl
    | cons e r => exact absurd ((h e).2 List.mem_cons_self) (by simp)
  | cons d l ih =>
    cases r with
    | nil => exact absurd ((h d).1 List.mem_cons_self) (by simp)
    | cons e r =>
      have hd := (List.pairwise_cons.1 hl).1
      have he := (List.pairwise_cons.1 hr).1
      have hde : d = e := by
        rcases List.mem_cons.1 ((h d).1 List.mem_cons_self) with hde | hdr
        · exact hde
        · rcases List.mem_cons.1 ((h e).2 List.mem_cons_self) with hed | hel
          · exact hed.symm
          · have := Std.TransCmp.lt_trans (he d hdr) (hd e hel)
            simp at this
      subst hde
      have hdl : d ∉ l := fun hm => by simpa using hd d hm
      have hdr : d ∉ r := fun hm => by simpa using he d hm
      rw [ih (List.pairwise_cons.1 hl).2 (List.pairwise_cons.1 hr).2 fun f => ?_]
      constructor
      · intro hf
        rcases List.mem_cons.1 ((h f).1 (List.mem_cons_of_mem _ hf)) with rfl | hf'
        · exact absurd hf hdl
        · exact hf'
      · intro hf
        rcases List.mem_cons.1 ((h f).2 (List.mem_cons_of_mem _ hf)) with rfl | hf'
        · exact absurd hf hdr
        · exact hf'

/-- A map is determined by its lookups. -/
theorem ext_get? {m n : OrderedMap κ α} (h : ∀ k, m.get? k = n.get? k) : m = n := by
  apply ext
  apply Ascending.eq_of_mem_iff m.ascending n.ascending
  intro ⟨k, a⟩
  rw [← get?_eq_some_iff, ← get?_eq_some_iff, h]

end OrderedMap

end Coap
