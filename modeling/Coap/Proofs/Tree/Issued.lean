import Coap.Proofs.Tree.Removal

/-!
# Ids that were issued

Each slot counts how often it was freed, and an id holds the count of its time. So an id that names a
resource, or that did so before its slot was freed, is never given to another resource, as long as the
counts do not come full circle. A removal frees a slot once at most, so that no count is greater than
the number of removals.

* `Tree.Advances` — how the generations of slots move on; `Tree.WellFormed.advances_apply` says that
  every operation moves them on like this.
* `Tree.Known` — an id names a resource or is of an earlier generation of its slot; what is known stays
  known.
* `Tree.WellFormed.not_known_of_added?` — the id of a resource that is added is not known before.
-/

namespace Coap.Tree

variable {η : Type u} {t t' : Tree η} {id : ResourceId}

/-! ### Generations of slots -/

/-- The generation of a slot, if there is one at the index. -/
def generation? (t : Tree η) (index : Nat) : Option UInt64 := t.slots[index]?.map (·.generation)

theorem generation?_of_contains (h : t.contains id = true) :
    t.generation? id.index = some id.generation := by
  obtain ⟨node, hnode⟩ := contains_iff.mp h
  rw [generation?, nodeIn?_eq_some_iff.mp hnode, Option.map_some]

theorem generation?_modify (t : Tree η) (target : ResourceId) (f : Node η → Node η) (index : Nat) :
    (t.modify target f).generation? index = t.generation? index := by
  unfold generation? modify
  rw [List.getElem?_modify]
  cases t.slots[index]? with
  | none => rfl
  | some slot =>
    by_cases hi : target.index = index <;> by_cases hg : slot.generation = target.generation <;>
      simp [hi, hg]

theorem contains_modify (t : Tree η) (target : ResourceId) (f : Node η → Node η) (id : ResourceId) :
    (t.modify target f).contains id = t.contains id := by
  rw [contains, contains, node?_modify, Option.isSome_map]

section insert

variable (h : ∀ index ∈ t.free, Vacant t.slots index) (node : Node η)

include h

/-- A new resource has the generation of its slot, which is 0 if the slot is new as well. -/
theorem generation?_insert_snd :
    t.generation? (t.insert node).2.index = some (t.insert node).2.generation ∨
      t.generation? (t.insert node).2.index = none ∧ (t.insert node).2.generation = 0 := by
  rcases insert_cases h node with ⟨index, free, generation, -, hslot, heq⟩ | ⟨-, heq⟩
  · rw [heq]
    exact .inl (by rw [generation?, hslot, Option.map_some])
  · rw [heq]
    exact .inr ⟨by simp [generation?], rfl⟩

/-- No other slot than that of the new resource is touched. -/
theorem generation?_insert (index : Nat) :
    (t.insert node).1.generation? index =
      if index = (t.insert node).2.index then some (t.insert node).2.generation
      else t.generation? index := by
  rcases insert_cases h node with ⟨taken, free, generation, -, hslot, heq⟩ | ⟨-, heq⟩
  · have hlt : taken < t.slots.length := (List.getElem?_eq_some_iff.mp hslot).1
    rw [heq]
    unfold generation?
    by_cases hi : index = taken
    · simp [hi, hlt]
    · have hne : ¬ taken = index := fun h => hi h.symm
      simp [hi, hne]
  · rw [heq]
    unfold generation?
    by_cases hi : index = t.slots.length
    · simp [hi]
    · rw [if_neg hi]
      by_cases hlt : index < t.slots.length
      · rw [List.getElem?_append_left hlt]
      · rw [List.getElem?_eq_none (by simp; omega), List.getElem?_eq_none (by omega)]

end insert

/-- A release frees the slot of a resource once, and leaves all other slots as they are. -/
theorem Linked.slot_release {root : ResourceId} {slots : List (Slot η)} {free : List Nat}
    {loose : List ResourceId} (linked : Linked root slots free loose) (index : Nat) :
    (Tree.release slots free loose).1[index]? = slots[index]? ∨
      ∃ generation node, slots[index]? = some ⟨generation, some node⟩ ∧
        (Tree.release slots free loose).1[index]? = some ⟨generation + 1, none⟩ := by
  fun_induction Tree.release slots free loose with
  | case1 slots free => exact .inl rfl
  | case2 slots free gone pending node hgone ih =>
    have hslot := nodeIn?_eq_some_iff.mp hgone
    have hretire : (Tree.retire slots gone)[index]? =
        if index = gone.index then some ⟨gone.generation + 1, none⟩ else slots[index]? := by
      rw [Tree.retire, List.getElem?_modify]
      by_cases hi : index = gone.index
      · simp [hi, hslot]
      · have hne : ¬ gone.index = index := fun h => hi h.symm
        simp [hi, hne]
    rw [hretire] at ih
    by_cases hi : index = gone.index
    · -- what was freed here is empty, so it is not freed again
      rw [if_pos hi] at ih
      rcases ih (linked.retire hgone) with hsame | ⟨generation, held, hheld, -⟩
      · exact .inr ⟨gone.generation, node, hi ▸ hslot, hsame⟩
      · cases hheld
    · rw [if_neg hi] at ih
      exact ih (linked.retire hgone)
  | case3 slots free gone pending hgone ih =>
    -- what is loose is there
    obtain ⟨node, -, hnode, -⟩ := linked.loose_live List.mem_cons_self
    rw [hgone] at hnode
    cases hnode

/-! ### Generations move on -/

/-- **Generations.** They stay, or, where something was removed, move on by one; those of new slots are
0. A resource that is gone leaves its slot in the next generation. -/
structure Advances (t t' : Tree η) (shrunk : Bool) : Prop where
  kept : ∀ {index generation}, t.generation? index = some generation →
    t'.generation? index = some generation ∨
      shrunk = true ∧ t'.generation? index = some (generation + 1)
  fresh : ∀ {index generation}, t.generation? index = none →
    t'.generation? index = some generation → generation = 0
  gone : ∀ {id}, t.contains id = true →
    t'.contains id = true ∨ shrunk = true ∧ t'.generation? id.index = some (id.generation + 1)

theorem Advances.refl (t : Tree η) : t.Advances t false where
  kept h := .inl h
  fresh hnone h := nomatch hnone.symm.trans h
  gone h := .inl h

/-- A change in place leaves generations alone. -/
theorem Advances.modify {shrunk : Bool} (h : t.Advances t' shrunk) (target : ResourceId)
    (f : Node η → Node η) : t.Advances (t'.modify target f) shrunk := by
  constructor
  case kept =>
    intro index generation hthere
    rw [generation?_modify]
    exact h.kept hthere
  case fresh =>
    intro index generation hnone hthere
    rw [generation?_modify] at hthere
    exact h.fresh hnone hthere
  case gone =>
    intro id hid
    rw [contains_modify, generation?_modify]
    exact h.gone hid

namespace WellFormed

theorem advances_insert (wf : t.WellFormed) (node : Node η) :
    t.Advances (t.insert node).1 false := by
  have hsnd := generation?_insert_snd wf.vacant_of_mem_free node
  have hall := generation?_insert wf.vacant_of_mem_free node
  constructor
  case kept =>
    intro index generation h
    rw [hall]
    by_cases hi : index = (t.insert node).2.index
    · rcases hsnd with hsame | ⟨hnone, -⟩
      · rw [if_pos hi, ← hsame, ← hi]
        exact .inl h
      · rw [← hi, h] at hnone
        cases hnone
    · rw [if_neg hi]
      exact .inl h
  case fresh =>
    intro index generation hnone h
    rw [hall] at h
    by_cases hi : index = (t.insert node).2.index
    · rw [if_pos hi] at h
      rcases hsnd with hsome | ⟨-, hzero⟩
      · rw [← hi, hnone] at hsome
        cases hsome
      · rw [← Option.some.inj h, hzero]
    · rw [if_neg hi, hnone] at h
      cases h
  case gone =>
    intro id h
    refine .inl ?_
    rw [contains, node?_insert wf.vacant_of_mem_free]
    split
    · rfl
    · exact h

theorem advances_addChild (wf : t.WellFormed) (parent : ResourceId) (profile : Profile)
    (handler : η) : t.Advances (t.addChild parent profile handler).1 false := by
  rcases addChild_cases t parent profile handler with ⟨e, heq⟩ | ⟨-, above, -, -, heq⟩
  · rw [heq]
    exact .refl t
  · rw [heq]
    exact (wf.advances_insert _).modify parent _

theorem advances_remove (wf : t.WellFormed) (id : ResourceId) :
    t.Advances (t.remove id).1 (t.remove id).2 := by
  rcases remove_cases t id with heq | ⟨node, parent, hid, hparent, heq⟩
  · rw [heq]
    exact .refl t
  · let cut := t.modify parent (unlisting node.name)
    have hslot := (wf.linked_unlisting hid hparent).slot_release
    have hcut : ∀ index, cut.generation? index = t.generation? index :=
      t.generation?_modify parent (unlisting node.name)
    rw [heq]
    constructor
    case kept =>
      intro index generation h
      rw [← hcut] at h
      rcases hslot index with hsame | ⟨generation', node', hbefore, hafter⟩
      · exact .inl ((congrArg (Option.map Slot.generation) hsame).trans h)
      · rw [generation?, hbefore] at h
        obtain rfl := Option.some.inj h
        exact .inr ⟨rfl, congrArg (Option.map Slot.generation) hafter⟩
    case fresh =>
      intro index generation hnone h
      rw [← hcut] at hnone
      rcases hslot index with hsame | ⟨generation', node', hbefore, hafter⟩
      · rw [generation?, hsame] at h
        cases hnone.symm.trans h
      · rw [generation?, hbefore] at hnone
        cases hnone
    case gone =>
      intro x hx
      rw [← contains_modify t parent (unlisting node.name)] at hx
      obtain ⟨before, hbefore⟩ := contains_iff.mp hx
      rw [node?, nodeIn?_eq_some_iff] at hbefore
      rcases hslot x.index with hsame | ⟨generation', node', hheld, hafter⟩
      · refine .inl (contains_iff.mpr ⟨before, ?_⟩)
        rw [node?, nodeIn?_eq_some_iff]
        exact hsame.trans hbefore
      · obtain rfl : x.generation = generation' :=
          congrArg Slot.generation (Option.some.inj (hbefore.symm.trans hheld))
        exact .inr ⟨rfl, congrArg (Option.map Slot.generation) hafter⟩

end WellFormed

/-! ### Operations -/

/-- The id that an operation returns, if it adds a resource. -/
def added? (t : Tree η) : Op η → Option ResourceId
  | .add profile handler => (t.add profile handler).2.toOption
  | .addChild parent profile handler => (t.addChild parent profile handler).2.toOption
  | .addAt path profile handler => (t.addAt path profile handler).2.toOption
  | _ => none

/-- Does an operation remove anything? -/
def shrinks (t : Tree η) : Op η → Bool
  | .remove id => (t.remove id).2
  | _ => false

/-- Every operation moves generations on, and only where it removes something. -/
theorem WellFormed.advances_apply (wf : t.WellFormed) (op : Op η) :
    t.Advances (t.apply op) (t.shrinks op) := by
  cases op with
  | add profile handler => exact wf.advances_addChild t.root profile handler
  | addChild parent profile handler => exact wf.advances_addChild parent profile handler
  | addAt path profile handler =>
    show t.Advances (t.addAt path profile handler).1 false
    unfold Tree.addAt
    cases t.findPath path with
    | none => exact .refl t
    | some parent => exact wf.advances_addChild parent profile handler
  | remove id => exact wf.advances_remove id
  | setAttributes id attributes =>
    show t.Advances (t.setAttributes id attributes).1 false
    unfold Tree.setAttributes
    split
    · exact (Advances.refl t).modify id _
    · exact .refl t
  | setObservable id observable =>
    show t.Advances (t.setObservable id observable).1 false
    unfold Tree.setObservable
    split
    · exact (Advances.refl t).modify id _
    · exact .refl t

/-! ### Known ids -/

/-- The slot of an id is in a later generation. -/
def Past (t : Tree η) (id : ResourceId) : Prop :=
  ∃ generation, t.generation? id.index = some generation ∧ id.generation < generation

/-- An id names a resource, or is of an earlier generation of its slot. -/
def Known (t : Tree η) (id : ResourceId) : Prop := t.contains id = true ∨ t.Past id

/-- No slot was freed more than `n` times. -/
def Aged (t : Tree η) (n : Nat) : Prop :=
  ∀ index generation, t.generation? index = some generation → generation.toNat ≤ n

theorem Past.contains_eq_false (h : t.Past id) : t.contains id = false := by
  obtain ⟨generation, hsome, hlt⟩ := h
  refine Bool.eq_false_iff.mpr fun hthere => ?_
  rw [generation?_of_contains hthere] at hsome
  rw [Option.some.inj hsome] at hlt
  exact absurd hlt (UInt64.lt_irrefl _)

theorem aged_withRoot (profile : Profile) (handler : η) : (withRoot profile handler).Aged 0 := by
  intro index generation h
  obtain ⟨slot, hslot, rfl⟩ := Option.map_eq_some_iff.mp h
  obtain rfl := List.mem_singleton.mp (List.mem_of_getElem? hslot)
  exact Nat.le_refl 0

namespace Advances

variable {shrunk : Bool} {n : Nat}

/-- A removal makes slots older by one at most. -/
theorem aged (h : t.Advances t' shrunk) (haged : t.Aged n) : t'.Aged (n + shrunk.toNat) := by
  intro index generation hafter
  cases hbefore : t.generation? index with
  | none =>
    rw [h.fresh hbefore hafter]
    exact Nat.zero_le _
  | some old =>
    have hold := haged index old hbefore
    rcases h.kept hbefore with hsame | ⟨rfl, hnext⟩
    · obtain rfl := Option.some.inj (hsame.symm.trans hafter)
      omega
    · obtain rfl := Option.some.inj (hnext.symm.trans hafter)
      rw [UInt64.toNat_add, Bool.toNat_true]
      exact Nat.le_trans (Nat.mod_le _ _) (Nat.succ_le_succ hold)

/-- The next generation is later, as long as it is not the first one again. -/
theorem lt_next (haged : t.Aged n) (hn : n + 1 < UInt64.size) {index : Nat} {generation : UInt64}
    (h : t.generation? index = some generation) : generation < generation + 1 := by
  have hsize : generation.toNat + 1 < UInt64.size :=
    Nat.lt_of_le_of_lt (Nat.succ_le_succ (haged index generation h)) hn
  rw [UInt64.lt_iff_toNat_lt, UInt64.toNat_add, UInt64.toNat_one, Nat.mod_eq_of_lt hsize]
  exact Nat.lt_succ_self _

/-- What is past stays so. -/
theorem past (h : t.Advances t' shrunk) (haged : t.Aged n) (hn : n + shrunk.toNat < UInt64.size)
    (hpast : t.Past id) : t'.Past id := by
  obtain ⟨generation, hsome, hlt⟩ := hpast
  rcases h.kept hsome with hsame | ⟨rfl, hnext⟩
  · exact ⟨generation, hsame, hlt⟩
  · exact ⟨generation + 1, hnext, UInt64.lt_trans hlt (lt_next haged hn hsome)⟩

/-- What is known stays so. -/
theorem known (h : t.Advances t' shrunk) (haged : t.Aged n) (hn : n + shrunk.toNat < UInt64.size)
    (hknown : t.Known id) : t'.Known id := by
  rcases hknown with hthere | hpast
  · rcases h.gone hthere with hstill | ⟨rfl, hnext⟩
    · exact .inl hstill
    · exact .inr ⟨_, hnext, lt_next haged hn (generation?_of_contains hthere)⟩
  · exact .inr (h.past haged hn hpast)

end Advances

/-! ### New ids -/

namespace WellFormed

theorem not_known_insert (wf : t.WellFormed) (node : Node η) : ¬ t.Known (t.insert node).2 := by
  rintro (hthere | ⟨generation, hsome, hlt⟩)
  · rw [contains, node?_insert_snd wf.vacant_of_mem_free] at hthere
    cases hthere
  · rcases generation?_insert_snd wf.vacant_of_mem_free node with hsame | ⟨hnone, -⟩
    · rw [Option.some.inj (hsame.symm.trans hsome)] at hlt
      exact UInt64.lt_irrefl _ hlt
    · cases hnone.symm.trans hsome

theorem not_known_addChild (wf : t.WellFormed) {parent : ResourceId} {profile : Profile}
    {handler : η} (h : (t.addChild parent profile handler).2.toOption = some id) :
    ¬ t.Known id ∧ (t.addChild parent profile handler).1.contains id = true := by
  rcases addChild_cases t parent profile handler with ⟨e, heq⟩ | ⟨-, above, habove, -, heq⟩
  · rw [heq] at h
    cases h
  · rw [heq] at h ⊢
    obtain rfl := Option.some.inj h
    refine ⟨wf.not_known_insert _, contains_iff.mpr ⟨.ofProfile profile handler (some parent), ?_⟩⟩
    rw [node?_withChild wf habove, if_pos rfl]

/-- **New ids.** The id of a resource that is added names it, and was not known before. -/
theorem not_known_of_added? (wf : t.WellFormed) {op : Op η} (h : t.added? op = some id) :
    ¬ t.Known id ∧ (t.apply op).contains id = true := by
  cases op with
  | add profile handler => exact wf.not_known_addChild h
  | addChild parent profile handler => exact wf.not_known_addChild h
  | addAt path profile handler =>
    have h : (t.addAt path profile handler).2.toOption = some id := h
    show _ ∧ (t.addAt path profile handler).1.contains id = true
    unfold Tree.addAt at h ⊢
    cases hparent : t.findPath path with
    | none =>
      rw [hparent] at h
      cases h
    | some parent =>
      rw [hparent] at h
      exact wf.not_known_addChild h
  | remove id => cases h
  | setAttributes id attributes => cases h
  | setObservable id observable => cases h

end WellFormed

end Coap.Tree
