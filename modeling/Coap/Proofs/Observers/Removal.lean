import Coap.Proofs.Delivery.Once
import Coap.Proofs.Observers.Settlement
import Coap.Proofs.Tree.Run
import Coap.Proofs.Tree.Subtree

/-!
# Removed resources and their observers

A server that removes a resource forgets the observe relations of this resource. It does not forget
those of the resources below it, which are removed as well: their relations stay, and count.

* `Observers.sizeOn_forget` — how many relations are left on a set of resources.
* `Server.remove_relations` — what is left of relations and sequence numbers after a removal.
* `Server.remove_relations_left` — a lamp in a porch is still observed after the porch is removed.
-/

namespace Coap

/-! ## Sums over maps -/

namespace OrderedMap

variable {κ : Type u} {α : Type v} [Ord κ]

/-- The sum of a weight over all entries. -/
def total (m : OrderedMap κ α) (weight : κ → α → Nat) : Nat :=
  m.entries.foldr (fun e n => weight e.1 e.2 + n) 0

theorem total_eq_zero_iff {m : OrderedMap κ α} {weight : κ → α → Nat} :
    m.total weight = 0 ↔ ∀ k a, (k, a) ∈ m.entries → weight k a = 0 := by
  unfold total
  induction m.entries with
  | nil => simp
  | cons head rest ih =>
    rw [List.foldr_cons, Nat.add_eq_zero_iff, ih]
    constructor
    · rintro ⟨hhead, hrest⟩ k a hmem
      rcases List.mem_cons.mp hmem with rfl | hmem
      · exact hhead
      · exact hrest k a hmem
    · intro h
      exact ⟨h _ _ List.mem_cons_self, fun k a hmem => h k a (List.mem_cons_of_mem head hmem)⟩

/-- An entry that is erased takes its weight along. -/
theorem total_erase [Std.TransOrd κ] [Std.LawfulEqOrd κ] (m : OrderedMap κ α) (weight : κ → α → Nat) (k : κ) :
    (m.erase k).total weight + ((m.get? k).map (weight k)).getD 0 = m.total weight := by
  show (change k (fun _ => none) m.entries).foldr _ 0 + ((find? k m.entries).map _).getD 0 =
    m.entries.foldr _ 0
  induction m.entries with
  | nil => rfl
  | cons head rest ih =>
    obtain ⟨k', a⟩ := head
    cases hk : compare k k' with
    | lt => simp [change, find?, consIf, hk]
    | eq =>
      obtain rfl := Std.LawfulEqOrd.eq_of_compare hk
      simp only [change, find?, consIf, hk, List.foldr_cons, Option.map_some, Option.getD_some]
      omega
    | gt =>
      simp only [change, find?, hk, List.foldr_cons]
      omega

end OrderedMap

/-! ## Forgetting a resource -/

namespace Observers

variable {o : Observers} {r id : ResourceId}

/-- Number of relations of some resources. -/
def sizeOn (o : Observers) (among : ResourceId → Bool) : Nat :=
  o.resources.total fun r known => if among r then known.relations.size else 0

theorem relations_forget (r : ResourceId) :
    (o.forget id).relations r = if r = id then [] else o.relations r := by
  rw [relations, observed_forget]
  split <;> rfl

theorem sequence_forget (r : ResourceId) :
    (o.forget id).sequence r = if r = id then 0 else o.sequence r := by
  rw [sequence, observed_forget]
  split <;> rfl

theorem length_relations (o : Observers) (r : ResourceId) :
    (o.relations r).length = ((o.resources.get? r).map (·.relations.size)).getD 0 := by
  simp only [relations, observed, OrderedMap.values, List.length_map]
  cases o.resources.get? r <;> rfl

theorem foldl_size (l : List (ResourceId × Observed)) (n : Nat) :
    (l.map (·.2)).foldl (fun n known => n + known.relations.size) n =
      n + l.foldr (fun e n => e.2.relations.size + n) 0 := by
  induction l generalizing n with
  | nil => rfl
  | cons e l ih =>
    simp only [List.map_cons, List.foldl_cons, List.foldr_cons, ih]
    omega

theorem size_eq (o : Observers) : o.size = o.sizeOn fun _ => true :=
  (foldl_size o.resources.entries 0).trans (Nat.zero_add _)

/-- A resource that is forgotten takes its relations along. -/
theorem sizeOn_forget {among : ResourceId → Bool} (h : among id = true) :
    (o.forget id).sizeOn among + (o.relations id).length = o.sizeOn among := by
  rw [length_relations, sizeOn, sizeOn, ← o.resources.total_erase _ id]
  simp only [h, if_true]
  rfl

/-- There are no relations on some resources if there are none on any of them. -/
theorem sizeOn_eq_zero_iff {among : ResourceId → Bool} :
    o.sizeOn among = 0 ↔ ∀ r, among r = true → o.relations r = [] := by
  rw [sizeOn, OrderedMap.total_eq_zero_iff]
  constructor
  · intro h r hr
    refine List.eq_nil_of_length_eq_zero ?_
    rw [length_relations]
    cases hget : o.resources.get? r with
    | none => rfl
    | some known =>
      have hweight := h r known (OrderedMap.get?_eq_some_iff.mp hget)
      rwa [if_pos hr] at hweight
  · intro h r known hentry
    split
    · next hr =>
      have hlen := o.length_relations r
      rw [h r hr, OrderedMap.get?_eq_some_iff.mpr hentry] at hlen
      exact hlen.symm
    · rfl

end Observers

/-! ## Removing a resource -/

namespace Server

variable {ν : Type} (s : Server ν) (id : ResourceId)

/-- Is a resource removed when `id` is? -/
def removes (r : ResourceId) : Bool :=
  s.site.tree.contains r && !(s.site.tree.remove id).1.contains r

variable {s id}

theorem removes_self (h : (s.remove id).2 = true) : s.removes id id = true := by
  obtain ⟨hbefore, hafter⟩ : s.site.tree.contains id = true ∧
      (s.site.tree.remove id).1.contains id = false := Tree.contains_remove_self h
  simp [removes, hbefore, hafter]

/-- Removed is what stands below the resource. -/
theorem removes_iff (wf : s.site.tree.WellFormed) (h : (s.remove id).2 = true) (r : ResourceId) :
    s.removes id r = true ↔ s.site.tree.contains r = true ∧ s.site.tree.Below id r := by
  have hleft : (s.site.tree.remove id).1.contains r = true ↔ _ := wf.contains_remove_iff h
  rw [removes, Bool.and_eq_true, Bool.not_eq_true', ← Bool.not_eq_true, hleft]
  constructor
  · rintro ⟨hr, hnot⟩
    exact ⟨hr, Classical.byContradiction fun hbelow => hnot ⟨hr, hbelow⟩⟩
  · rintro ⟨hr, hbelow⟩
    exact ⟨hr, fun h => h.2 hbelow⟩

/-- **What a removal leaves of the observers.** The relations of the removed resource are gone, its
sequence number begins anew, and for every other resource both are as before. So no relation is left
on a removed resource, and there are fewer relations by just those that the removed resources had, if
and only if no resource below was observed. -/
theorem remove_relations (h : (s.remove id).2 = true) :
    let before := s.site.observers
    let after := (s.remove id).1.site.observers
    ((s.removes id id = true ∧ (s.site.tree.WellFormed → ∀ r, s.removes id r = true ↔
        s.site.tree.contains r = true ∧ s.site.tree.Below id r)) ∧
      (after.relations id = [] ∧ after.sequence id = 0) ∧
      (∀ r, r ≠ id →
        after.relations r = before.relations r ∧ after.sequence r = before.sequence r) ∧
      after.size + (before.relations id).length = before.size) ∧
    ((∀ r, s.removes id r = true → after.relations r = []) ↔
      ∀ r, s.removes id r = true → r ≠ id → before.relations r = []) ∧
    (after.size + before.sizeOn (s.removes id) = before.size ↔
      ∀ r, s.removes id r = true → r ≠ id → before.relations r = []) := by
  intro before after
  have hforget : after = before.forget id := rfl
  have hself := removes_self h
  have hgone : after.relations id = [] := by rw [hforget, Observers.relations_forget, if_pos rfl]
  have hnumber : after.sequence id = 0 := by rw [hforget, Observers.sequence_forget, if_pos rfl]
  have hother : ∀ r, r ≠ id →
      after.relations r = before.relations r ∧ after.sequence r = before.sequence r := by
    intro r hr
    rw [hforget, Observers.relations_forget, Observers.sequence_forget, if_neg hr, if_neg hr]
    exact ⟨rfl, rfl⟩
  have hsize : after.size + (before.relations id).length = before.size := by
    rw [hforget, Observers.size_eq, Observers.size_eq]
    exact Observers.sizeOn_forget rfl
  have hleft : (∀ r, s.removes id r = true → after.relations r = []) ↔
      ∀ r, s.removes id r = true → r ≠ id → before.relations r = [] := by
    constructor
    · intro hnone r hr hne
      rw [← (hother r hne).1]
      exact hnone r hr
    · intro hnone r hr
      by_cases hne : r = id
      · rw [hne, hgone]
      · rw [(hother r hne).1]
        exact hnone r hr hne
  refine ⟨⟨⟨hself, fun wf => removes_iff wf h⟩, ⟨hgone, hnumber⟩, hother, hsize⟩, hleft, ?_⟩
  -- what is missing from the balance is what is left on the removed resources
  have hbalance : after.sizeOn (s.removes id) + (before.relations id).length =
      before.sizeOn (s.removes id) := by
    rw [hforget]
    exact Observers.sizeOn_forget hself
  rw [← hleft, ← Observers.sizeOn_eq_zero_iff]
  omega

/-! ### A lamp in a porch -/

/-- What answers each request with 2.05. -/
def plainly : Resource Unit := ⟨default, fun _ => .respond .content fun _ => .done⟩

/-- A server of a porch, and of a lamp below it that can be observed. -/
def house : Server Unit :=
  { patient with
    site.tree := (Tree.withRoot default plainly).run
      [.add { (default : Profile) with name := "porch" } plainly,
        .addAt "porch" { (default : Profile) with name := "lamp", observable := true } plainly] }

/-- A request to observe the lamp. -/
def watching : Addressed Message :=
  ⟨((Message.new .con Method.get.code 7 .empty).setPath "porch/lamp").setObserve 0, ⟨.v4 0, 5683⟩⟩

/-- The house while somebody observes the lamp. -/
def observedHouse : Server Unit := (house.deliver watching none).1

theorem path_watching : watching.data.path? = some ["porch", "lamp"] := by
  have hvalues : watching.data.options.valuesOf .uriPath =
      [[0x70, 0x6F, 0x72, 0x63, 0x68], [0x6C, 0x61, 0x6D, 0x70]] := by decide
  rw [Message.path?, hvalues]
  simp [Text.ofBytes?, Text.decode?, Utf8.segments, Utf8.scan]

theorem site_observedHouse :
    observedHouse.site =
      (((house.handling watching none).record
        (.dispatched watching (house.handling watching none).target?)).runResource ⟨2, 0⟩
          plainly).site := by
  have hassigned : (house.handling watching none).assigned? = some (⟨2, 0⟩, plainly) := by
    show (watching.data.path?.bind house.site.tree.findSegments).bind _ = _
    rw [path_watching]
    rfl
  obtain ⟨dedup, heq, -⟩ := house.handleRequest_of_find?_eq_none watching none rfl
  rw [observedHouse, house.deliver_of_isRequest watching none rfl, heq, Handling.dispatch_eq,
    hassigned]
  rfl

/-- The lamp is observed. -/
theorem relations_observedHouse :
    observedHouse.site.observers.relations ⟨2, 0⟩ =
      [⟨watching.addr, watching.data.token, ⟨watching.data, 0⟩⟩] := by
  rw [site_observedHouse]
  decide

theorem tree_observedHouse : observedHouse.site.tree = house.site.tree := by
  rw [site_observedHouse]
  rfl

/-- Porch and lamp can be removed, and the lamp goes with the porch. -/
theorem remove_observedHouse :
    (observedHouse.remove ⟨1, 0⟩).2 = true ∧ (observedHouse.remove ⟨2, 0⟩).2 = true ∧
      observedHouse.removes ⟨1, 0⟩ ⟨2, 0⟩ = true := by
  have hporch : (observedHouse.remove ⟨1, 0⟩).2 = true := by
    show (observedHouse.site.tree.remove ⟨1, 0⟩).2 = true
    rw [tree_observedHouse]
    decide
  have hlamp : (observedHouse.remove ⟨2, 0⟩).2 = true := by
    show (observedHouse.site.tree.remove ⟨2, 0⟩).2 = true
    rw [tree_observedHouse]
    decide
  have wf : observedHouse.site.tree.WellFormed :=
    tree_observedHouse ▸ (Tree.wellFormed_withRoot default plainly).run _
  refine ⟨hporch, hlamp, (removes_iff wf hporch _).mpr ?_⟩
  rw [tree_observedHouse]
  exact ⟨by decide, 1, by decide⟩

/-- The relation of the lamp is gone after the lamp is removed. -/
theorem remove_relations_lamp :
    (observedHouse.remove ⟨2, 0⟩).2 = true ∧
      (observedHouse.remove ⟨2, 0⟩).1.site.observers.relations ⟨2, 0⟩ = [] ∧
        (observedHouse.remove ⟨2, 0⟩).1.site.observers.size + 1 =
          observedHouse.site.observers.size := by
  have hremoved := remove_observedHouse.2.1
  obtain ⟨⟨-, ⟨hgone, -⟩, -, hsize⟩, -, -⟩ := remove_relations hremoved
  rw [relations_observedHouse] at hsize
  exact ⟨hremoved, hgone, hsize⟩

/-- It is still there after the porch is removed, and the lamp with it. -/
theorem remove_relations_left :
    ¬ ∀ (s : Server Unit) (id : ResourceId), (s.remove id).2 = true →
      ∀ r, s.removes id r = true → (s.remove id).1.site.observers.relations r = [] := by
  intro hall
  obtain ⟨hporch, -, hlamp⟩ := remove_observedHouse
  have hgone := hall observedHouse ⟨1, 0⟩ hporch ⟨2, 0⟩ hlamp
  have hkept : (observedHouse.remove ⟨1, 0⟩).1.site.observers.relations ⟨2, 0⟩ =
      observedHouse.site.observers.relations ⟨2, 0⟩ := by
    show (observedHouse.site.observers.forget ⟨1, 0⟩).relations ⟨2, 0⟩ = _
    rw [Observers.relations_forget, if_neg (by decide)]
  rw [hkept, relations_observedHouse] at hgone
  cases hgone

end Server

end Coap
