import Coap.Tree.Basic

/-!
# Lookups in a changed tree

What an id names after a node was changed, put in or taken out, and which slots stand empty then.
Nothing above this module opens the list of slots.

* `Tree.node?_modify`, `Tree.nodeIn?_retire` — a change in place, and a slot that is emptied.
* `Tree.insert_cases` — the two places a new node may get; `Tree.node?_insert` is what it comes to.
* `Tree.vacant_modify_iff`, `Tree.vacant_retire_iff`, `Tree.vacant_insert_iff` — the empty slots.
-/

namespace Coap.Tree

variable {η : Type u}

/-! ### Slots -/

/-- The slot at an index is there and holds no node. -/
def Vacant (slots : List (Slot η)) (index : Nat) : Prop :=
  ∃ slot, slots[index]? = some slot ∧ slot.node = none

theorem Vacant.lt_length {slots : List (Slot η)} {index : Nat} (h : Vacant slots index) :
    index < slots.length := by
  obtain ⟨slot, hslot, -⟩ := h
  exact (List.getElem?_eq_some_iff.mp hslot).1

/-- An id names the node in its slot, if the slot is of its generation. -/
theorem nodeIn?_eq_some_iff {slots : List (Slot η)} {id : ResourceId} {node : Node η} :
    nodeIn? slots id = some node ↔ slots[id.index]? = some ⟨id.generation, some node⟩ := by
  unfold nodeIn?
  cases slots[id.index]? with
  | none => simp
  | some slot =>
    obtain ⟨generation, held⟩ := slot
    by_cases hg : generation = id.generation
    · simp [hg]
    · simp [hg]

/-- A slot with a node in it is not vacant. -/
theorem not_vacant_of_nodeIn? {slots : List (Slot η)} {id : ResourceId} {node : Node η}
    (h : nodeIn? slots id = some node) : ¬ Vacant slots id.index := by
  rintro ⟨slot, hslot, hnone⟩
  rw [nodeIn?_eq_some_iff.mp h] at hslot
  obtain rfl := Option.some.inj hslot
  cases hnone

/-- No id of a vacant slot names anything. -/
theorem nodeIn?_eq_none_of_vacant {slots : List (Slot η)} {id : ResourceId}
    (h : Vacant slots id.index) : nodeIn? slots id = none := by
  cases hn : nodeIn? slots id with
  | none => rfl
  | some node => exact absurd h (not_vacant_of_nodeIn? hn)

/-- Two ids are apart in their slots or, of one slot, in their generations. -/
theorem generation_ne_of_index_eq {id other : ResourceId} (h : other ≠ id)
    (hindex : id.index = other.index) : id.generation ≠ other.generation := by
  intro hgeneration
  apply h
  cases id
  cases other
  cases hindex
  cases hgeneration
  rfl

/-- What is done to the slot of an id is not seen under other ids, as long as the slot does not go
over to one of them with a node in it. -/
theorem nodeIn?_modify_of_ne {id other : ResourceId} {F : Slot η → Slot η} (h : other ≠ id)
    (hF : ∀ slot, (F slot).generation = slot.generation ∨ (F slot).node = none)
    (slots : List (Slot η)) :
    nodeIn? (slots.modify id.index fun slot =>
        if slot.generation = id.generation then F slot else slot) other = nodeIn? slots other := by
  unfold nodeIn?
  rw [List.getElem?_modify]
  cases slots[other.index]? with
  | none => rfl
  | some slot =>
    by_cases hi : id.index = other.index
    · -- one slot, two generations: `other` is stale if the slot is that of `id`
      have hne := generation_ne_of_index_eq h hi
      by_cases hs : slot.generation = id.generation
      · have hold : slot.generation ≠ other.generation := hs ▸ hne
        rcases hF slot with hg | hnone
        · simp [hi, hs, hg, hne]
        · simp [hi, hs, hnone, hne]
      · simp [hs]
    · simp [hi]

/-! ### A node is changed -/

/-- What a node under some id becomes when `f` changes the one under `target`. -/
def editAt (target : ResourceId) (f : Node η → Node η) (id : ResourceId) (node : Node η) : Node η :=
  if id = target then f node else node

/-- What a change leaves alone in the node it is made to stays alone everywhere. -/
theorem editAt_keeps {α : Type v} {g : Node η → α} {f : Node η → Node η}
    (hf : ∀ node, g (f node) = g node) (target id : ResourceId) (node : Node η) :
    g (editAt target f id node) = g node := by
  unfold editAt
  by_cases h : id = target
  · rw [if_pos h, hf]
  · rw [if_neg h]

/-- What changes only the children of a node leaves the rest of all nodes alone. -/
theorem editAt_children {f : Node η → Node η}
    (hf : ∀ node, f node = { node with children := (f node).children }) (target id : ResourceId)
    (node : Node η) :
    editAt target f id node = { node with children := (editAt target f id node).children } := by
  unfold editAt
  split
  · exact hf node
  · rfl

/-- A change is seen under its own id and under no other. -/
theorem node?_modify (t : Tree η) (target id : ResourceId) (f : Node η → Node η) :
    (t.modify target f).node? id = (t.node? id).map (editAt target f id) := by
  by_cases h : id = target
  · subst h
    have hself : editAt id f id = f := funext fun node => if_pos rfl
    rw [hself]
    unfold node? nodeIn? modify
    rw [List.getElem?_modify]
    cases t.slots[id.index]? with
    | none => rfl
    | some slot => by_cases hg : slot.generation = id.generation <;> simp [hg]
  · have hsame : (t.modify target f).node? id = t.node? id :=
      nodeIn?_modify_of_ne (F := fun slot => { slot with node := slot.node.map f }) h
        (fun _ => .inl rfl) t.slots
    rw [hsame]
    cases t.node? id with
    | none => rfl
    | some node => simp [editAt, h]

/-- What is found after a change was there before, and was changed if it is the node in question. -/
theorem node?_modify_eq_some_iff {t : Tree η} {target id : ResourceId} {f : Node η → Node η}
    {node : Node η} :
    (t.modify target f).node? id = some node ↔
      ∃ before, t.node? id = some before ∧ editAt target f id before = node := by
  rw [node?_modify, Option.map_eq_some_iff]

/-- A change leaves every slot as full or empty as it was. -/
theorem vacant_modify_iff (t : Tree η) (id : ResourceId) (f : Node η → Node η) (index : Nat) :
    Vacant (t.modify id f).slots index ↔ Vacant t.slots index := by
  unfold Vacant modify
  rw [List.getElem?_modify]
  cases t.slots[index]? with
  | none => simp
  | some slot =>
    by_cases hi : id.index = index <;> by_cases hg : slot.generation = id.generation <;>
      simp [hi, hg]

/-! ### A node is taken out -/

/-- The id whose slot was emptied names nothing any more; all others name what they did. -/
theorem nodeIn?_retire (slots : List (Slot η)) (id other : ResourceId) :
    nodeIn? (retire slots id) other = if other = id then none else nodeIn? slots other := by
  by_cases h : other = id
  · subst h
    rw [if_pos rfl]
    unfold nodeIn? retire
    rw [List.getElem?_modify]
    cases slots[other.index]? with
    | none => rfl
    | some slot => by_cases hg : slot.generation = other.generation <;> simp [hg]
  · rw [if_neg h]
    exact nodeIn?_modify_of_ne h (fun _ => .inr rfl) slots

/-- The slot a node was taken out of is vacant, with those that were before. -/
theorem vacant_retire_iff {slots : List (Slot η)} {id : ResourceId} {node : Node η}
    (h : nodeIn? slots id = some node) (index : Nat) :
    Vacant (retire slots id) index ↔ index = id.index ∨ Vacant slots index := by
  unfold Vacant retire
  rw [List.getElem?_modify]
  by_cases hi : index = id.index
  · subst hi
    simp [nodeIn?_eq_some_iff.mp h]
  · have hne : ¬ id.index = index := fun h => hi h.symm
    simp [hi, hne]

/-! ### A node is put in -/

/-- A node gets the slot freed last, which is vacant, or a new one behind all others. -/
theorem insert_cases {t : Tree η} (h : ∀ index ∈ t.free, Vacant t.slots index) (node : Node η) :
    (∃ index free generation, t.free = index :: free ∧
      t.slots[index]? = some ⟨generation, none⟩ ∧
      t.insert node = ({ t with slots := t.slots.set index ⟨generation, some node⟩, free },
        ⟨index, generation⟩)) ∨
    (t.free = [] ∧
      t.insert node = ({ t with slots := t.slots ++ [⟨0, some node⟩] }, ⟨t.slots.length, 0⟩)) := by
  unfold insert
  cases hfree : t.free with
  | nil => exact .inr ⟨rfl, rfl⟩
  | cons index free =>
    obtain ⟨⟨generation, held⟩, hslot, hnone⟩ := h index (hfree ▸ List.mem_cons_self)
    obtain rfl : held = none := hnone
    refine .inl ⟨index, free, generation, rfl, hslot, ?_⟩
    simp only [hslot]

variable {t : Tree η} (h : ∀ index ∈ t.free, Vacant t.slots index) (node : Node η)

include h in
/-- The id of a new node named nothing before. -/
theorem node?_insert_snd : t.node? (t.insert node).2 = none := by
  rcases insert_cases h node with ⟨index, free, generation, hfree, hslot, heq⟩ | ⟨hfree, heq⟩
  · rw [heq]
    exact nodeIn?_eq_none_of_vacant ⟨_, hslot, rfl⟩
  · rw [heq]
    simp [node?, nodeIn?]

include h in
/-- The id of a new node names it, and all others name what they did. -/
theorem node?_insert (other : ResourceId) :
    (t.insert node).1.node? other =
      if other = (t.insert node).2 then some node else t.node? other := by
  rcases insert_cases h node with ⟨index, free, generation, hfree, hslot, heq⟩ | ⟨hfree, heq⟩
  · have hlt : index < t.slots.length := (List.getElem?_eq_some_iff.mp hslot).1
    rw [heq]
    by_cases ho : other = ⟨index, generation⟩
    · subst ho
      simp [node?, nodeIn?, hlt]
    · rw [if_neg ho]
      unfold node? nodeIn?
      rw [List.getElem?_set]
      by_cases hi : index = other.index
      · -- a stale id of the slot that was taken
        have hg := generation_ne_of_index_eq ho hi
        subst hi
        rw [if_pos rfl, if_pos hlt, hslot]
        simpa using hg
      · simp [hi]
  · rw [heq]
    by_cases ho : other = ⟨t.slots.length, 0⟩
    · subst ho
      simp [node?, nodeIn?]
    · rw [if_neg ho]
      unfold node? nodeIn?
      by_cases hi : other.index < t.slots.length
      · rw [List.getElem?_append_left hi]
      · rw [List.getElem?_eq_none (Nat.not_lt.mp hi)]
        by_cases hl : other.index = t.slots.length
        · have hg := generation_ne_of_index_eq ho hl.symm
          simp [hl, hg]
        · rw [List.getElem?_eq_none (by simp; omega)]

include h in
/-- A new node takes one vacant slot at most. -/
theorem vacant_insert_iff (index : Nat) :
    Vacant (t.insert node).1.slots index ↔
      index ≠ (t.insert node).2.index ∧ Vacant t.slots index := by
  rcases insert_cases h node with ⟨taken, free, generation, hfree, hslot, heq⟩ | ⟨hfree, heq⟩
  · have hlt : taken < t.slots.length := (List.getElem?_eq_some_iff.mp hslot).1
    rw [heq]
    unfold Vacant
    rw [List.getElem?_set]
    by_cases hi : taken = index
    · subst hi
      simp [hlt]
    · have hne : index ≠ taken := fun h => hi h.symm
      simp [hi, hne]
  · rw [heq]
    constructor
    · rintro ⟨slot, hget, hnone⟩
      by_cases hi : index < t.slots.length
      · rw [List.getElem?_append_left hi] at hget
        exact ⟨Nat.ne_of_lt hi, slot, hget, hnone⟩
      · rw [List.getElem?_append_right (Nat.not_lt.mp hi)] at hget
        have hslot := List.mem_singleton.mp (List.mem_of_getElem? hget)
        subst hslot
        cases hnone
    · rintro ⟨-, slot, hget, hnone⟩
      refine ⟨slot, ?_, hnone⟩
      have hi := (List.getElem?_eq_some_iff.mp hget).1
      rw [List.getElem?_append_left hi, hget]

include h in
/-- The slot of a new node is off the list of free ones. -/
theorem free_eq_or_insert :
    t.free = (t.insert node).2.index :: (t.insert node).1.free ∨
      t.free = [] ∧ (t.insert node).1.free = [] ∧ (t.insert node).2.index = t.slots.length := by
  rcases insert_cases h node with ⟨index, free, generation, hfree, -, heq⟩ | ⟨hfree, heq⟩
  · rw [heq]
    exact .inl hfree
  · rw [heq]
    exact .inr ⟨hfree, hfree, rfl⟩

@[simp] theorem root_insert : (t.insert node).1.root = t.root := by
  unfold insert
  split
  · split <;> rfl
  · rfl

end Coap.Tree
