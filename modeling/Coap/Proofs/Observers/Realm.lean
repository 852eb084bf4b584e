import Coap.Proofs.Observers.Settlement
import Coap.Proofs.Tree.Issued

/-!
# Trees and their observers

What is known of the observers of a resource is stored under its id. Tree and observers change
independently of each other, and a removal from the tree leaves behind what the observers know. That
does no harm to a resource that comes to stand in the same slot, because its id is a new one.

* `Realm`, `Realm.Op`, `Realm.run` — a tree with its observers, and all that can be done to them.
* `Realm.issued`, `Realm.removals`, `Realm.Careful` — the ids that a history returned, how often it
  removed something, and that it observed only what it knew.
* `Realm.Orderly`, `Realm.Orderly.apply` — ids that were issued are known, and nothing is observed
  under an id that is not.
* `Realm.ids_run` — new ids are new, removed resources stay absent, and nobody observes a new resource.
-/

namespace Coap

/-- A tree with the observe relations of its resources. -/
structure Realm (η : Type u) where
  /-- The resources. -/
  tree : Tree η
  /-- The observe relations. -/
  observers : Observers

/-! ### What is known of nobody -/

namespace Observers

variable {o : Observers} {id : ResourceId}

/-- Nothing is known of the observers of a resource. -/
def Blank (o : Observers) (id : ResourceId) : Prop := o.observed id = ⟨0, .empty⟩

theorem blank_none (id : ResourceId) : none.Blank id := rfl

/-- There are no relations then, and the sequence number is 0. -/
theorem Blank.relations (h : o.Blank id) : o.relations id = [] ∧ o.sequence id = 0 := by
  rw [Observers.relations, Observers.sequence, h]
  exact ⟨rfl, rfl⟩

theorem Blank.register (h : o.Blank id) {other : ResourceId} (hne : id ≠ other)
    (relation : Relation) : (o.register other relation).1.Blank id := by
  rw [Blank, observed_register, if_neg hne]
  exact h

theorem Blank.cancel (h : o.Blank id) (other : ResourceId) (key : Key) :
    (o.cancel other key).1.Blank id := by
  rw [Blank, observed_cancel]
  by_cases hid : id = other
  · rw [if_pos hid, ← hid, h]
    rfl
  · rw [if_neg hid]
    exact h

theorem Blank.changed (h : o.Blank id) {other : ResourceId} (hne : id ≠ other) :
    (o.changed other).1.Blank id := by
  rw [Blank, observed_changed, if_neg hne]
  exact h

theorem Blank.forget (h : o.Blank id) (other : ResourceId) : (o.forget other).Blank id := by
  rw [Blank, observed_forget]
  by_cases hid : id = other
  · rw [if_pos hid]
  · rw [if_neg hid]
    exact h

/-- A response establishes a relation only with a resource that is there. -/
theorem Blank.settle {η : Type u} {tree : Tree η} (h : o.Blank id) (habsent : tree.contains id = false)
    (e : Exchange) (now : Instant) (m : Message) : (o.settle tree e now m).1.Blank id := by
  cases hr : e.resource with
  | none =>
    rw [settle_of_resource_none hr]
    exact h
  | some r =>
    rcases settle_cases o tree now m hr with ⟨hgrants, heq⟩ | ⟨e', heq⟩ | heq
    · rw [heq]
      refine h.register ?_ _
      rintro rfl
      rw [hgrants.live] at habsent
      cases habsent
    · rw [heq]
      exact h.cancel r _
    · rw [heq]
      exact h

end Observers

namespace Realm

variable {η : Type u}

/-! ### Histories -/

/-- Something that is done to a tree or its observers. -/
inductive Op (η : Type u) where
  /-- The tree is changed. -/
  | tree (op : Tree.Op η)
  /-- A relation is added. -/
  | register (id : ResourceId) (relation : Relation)
  /-- A relation is removed. -/
  | cancel (id : ResourceId) (key : Key)
  /-- A change of a resource is noted. -/
  | changed (id : ResourceId)
  /-- Everything about a resource is forgotten. -/
  | forget (id : ResourceId)
  /-- A response settles the relation of its request. -/
  | settle (e : Exchange) (now : Instant) (response : Message)

/-- A tree and its observers after something was done to them. -/
def apply (r : Realm η) : Op η → Realm η
  | .tree op => { r with tree := r.tree.apply op }
  | .register id relation => { r with observers := (r.observers.register id relation).1 }
  | .cancel id key => { r with observers := (r.observers.cancel id key).1 }
  | .changed id => { r with observers := (r.observers.changed id).1 }
  | .forget id => { r with observers := r.observers.forget id }
  | .settle e now response =>
    { r with observers := (r.observers.settle r.tree e now response).1 }

/-- A tree and its observers after some things were done to them, one after the other. -/
def run (r : Realm η) (ops : List (Op η)) : Realm η := ops.foldl apply r

/-- A tree of one resource, which nobody observes. -/
def bare (profile : Profile) (handler : η) : Realm η := ⟨.withRoot profile handler, .none⟩

/-- The id that is returned, if a resource is added. -/
def added? (r : Realm η) : Op η → Option ResourceId
  | .tree op => r.tree.added? op
  | _ => none

/-- Is anything removed from the tree? -/
def shrinks (r : Realm η) : Op η → Bool
  | .tree op => r.tree.shrinks op
  | _ => false

/-- The resource of which something is to be known from now on, whether or not it is there. -/
def Op.noted? : Op η → Option ResourceId
  | .register id _ => some id
  | .changed id => some id
  | _ => none

/-- The ids of the resources that are added, oldest first. -/
def issued (r : Realm η) : List (Op η) → List ResourceId
  | [] => []
  | op :: ops => (r.added? op).toList ++ (r.apply op).issued ops

/-- How often something is removed from the tree. -/
def removals (r : Realm η) : List (Op η) → Nat
  | [] => 0
  | op :: ops => (r.shrinks op).toNat + (r.apply op).removals ops

/-- Relations are added, and changes noted, only under some given ids and those issued before. -/
def Careful (r : Realm η) (ids : List ResourceId) : List (Op η) → Prop
  | [] => True
  | op :: ops =>
    (∀ id ∈ op.noted?, id ∈ ids) ∧ (r.apply op).Careful (ids ++ (r.added? op).toList) ops

instance decidableCareful (r : Realm η) (ids : List ResourceId) :
    (ops : List (Op η)) → Decidable (r.Careful ids ops)
  | [] => .isTrue trivial
  | op :: ops =>
    have := decidableCareful (r.apply op) (ids ++ (r.added? op).toList) ops
    inferInstanceAs (Decidable (_ ∧ _))

variable {r : Realm η} {ids : List ResourceId} {id : ResourceId} {n : Nat}

theorem run_append (r : Realm η) (front back : List (Op η)) :
    r.run (front ++ back) = (r.run front).run back := List.foldl_append

theorem removals_append (r : Realm η) (front back : List (Op η)) :
    r.removals (front ++ back) = r.removals front + (r.run front).removals back := by
  induction front generalizing r with
  | nil => exact (Nat.zero_add _).symm
  | cons op front ih =>
    rw [List.cons_append, removals, removals, ih, Nat.add_assoc]
    rfl

theorem careful_append {front back : List (Op η)} :
    r.Careful ids (front ++ back) ↔
      r.Careful ids front ∧ (r.run front).Careful (ids ++ r.issued front) back := by
  induction front generalizing r ids with
  | nil =>
    rw [List.nil_append, issued, List.append_nil]
    exact ⟨fun h => ⟨trivial, h⟩, fun h => h.2⟩
  | cons op front ih =>
    rw [List.cons_append, Careful, Careful, ih, issued, List.append_assoc, and_assoc]
    rfl

/-! ### Order -/

/-- Nothing that is done breaks a well-formed tree. -/
theorem wellFormed_tree_apply (wf : r.tree.WellFormed) (op : Op η) : (r.apply op).tree.WellFormed := by
  cases op with
  | tree op => exact wf.apply op
  | _ => exact wf

theorem wellFormed_tree_run (wf : r.tree.WellFormed) (ops : List (Op η)) :
    (r.run ops).tree.WellFormed := by
  induction ops generalizing r with
  | nil => exact wf
  | cons op ops ih => exact ih (wellFormed_tree_apply wf op)

/-- Generations of slots move on as they should, whatever is done. -/
theorem advances_apply (wf : r.tree.WellFormed) (op : Op η) :
    r.tree.Advances (r.apply op).tree (r.shrinks op) := by
  cases op with
  | tree op => exact wf.advances_apply op
  | _ => exact .refl _

/-- Nothing comes to be known of a resource that is not there, unless it is noted. -/
theorem blank_apply (h : r.observers.Blank id) (habsent : r.tree.contains id = false) {op : Op η}
    (hnoted : op.noted? ≠ some id) : (r.apply op).observers.Blank id := by
  cases op with
  | tree op => exact h
  | register other relation => exact h.register (fun heq => hnoted (congrArg some heq.symm)) relation
  | cancel other key => exact h.cancel other key
  | changed other => exact h.changed fun heq => hnoted (congrArg some heq.symm)
  | forget other => exact h.forget other
  | settle e now response => exact h.settle habsent e now response

/-- **Order.** Some ids are known to the tree, no slot was freed more often than something was removed,
and nothing is known of observers under ids that are not known to the tree. -/
structure Orderly (r : Realm η) (ids : List ResourceId) (n : Nat) : Prop where
  wf : r.tree.WellFormed
  aged : r.tree.Aged n
  known : ∀ id ∈ ids, r.tree.Known id
  blank : ∀ id, ¬ r.tree.Known id → r.observers.Blank id

theorem orderly_bare (profile : Profile) (handler : η) :
    (bare profile handler).Orderly [(bare profile handler).tree.root] 0 where
  wf := Tree.wellFormed_withRoot profile handler
  aged := Tree.aged_withRoot profile handler
  known id hid := by
    rw [List.mem_singleton.mp hid]
    exact .inl rfl
  blank id _ := Observers.blank_none id

namespace Orderly

/-- What is known stays known, whatever is done. -/
theorem known_apply (h : r.Orderly ids n) {op : Op η} (hfew : n + (r.shrinks op).toNat < UInt64.size)
    (hknown : r.tree.Known id) : (r.apply op).tree.Known id :=
  (advances_apply h.wf op).known h.aged hfew hknown

/-- **New ids.** The id of a resource that is added is not known before, and nothing is known of
its observers. -/
theorem added (h : r.Orderly ids n) {op : Op η} (hadded : r.added? op = some id) :
    id ∉ ids ∧ (r.apply op).tree.contains id = true ∧ (r.apply op).observers.Blank id := by
  cases op with
  | tree op =>
    obtain ⟨hnew, hthere⟩ := h.wf.not_known_of_added? hadded
    exact ⟨fun hmem => hnew (h.known id hmem), hthere, h.blank id hnew⟩
  | _ => cases hadded

/-- **One step.** Order is kept by everything that notes only what is known. -/
theorem apply (h : r.Orderly ids n) {op : Op η} (hfew : n + (r.shrinks op).toNat < UInt64.size)
    (hnoted : ∀ id ∈ op.noted?, id ∈ ids) :
    (r.apply op).Orderly (ids ++ (r.added? op).toList) (n + (r.shrinks op).toNat) := by
  have hkept : ∀ {id}, r.tree.Known id → (r.apply op).tree.Known id := h.known_apply hfew
  constructor
  case wf => exact wellFormed_tree_apply h.wf op
  case aged => exact (advances_apply h.wf op).aged h.aged
  case known =>
    intro id hid
    rcases List.mem_append.mp hid with hold | hnew
    · exact hkept (h.known id hold)
    · exact .inl (h.added (Option.mem_toList.mp hnew)).2.1
  case blank =>
    intro id hunknown
    have hbefore : ¬ r.tree.Known id := fun hknown => hunknown (hkept hknown)
    refine blank_apply (h.blank id hbefore) (Bool.eq_false_iff.mpr fun hthere => ?_) fun hop => ?_
    · exact hbefore (.inl hthere)
    · exact hbefore (h.known id (hnoted id hop))

/-- **Many steps.** -/
theorem run (h : r.Orderly ids n) {ops : List (Op η)} (hfew : n + r.removals ops < UInt64.size)
    (hcareful : r.Careful ids ops) :
    (r.run ops).Orderly (ids ++ r.issued ops) (n + r.removals ops) := by
  induction ops generalizing r ids n with
  | nil =>
    rw [issued, List.append_nil]
    exact h
  | cons op ops ih =>
    rw [removals, ← Nat.add_assoc] at hfew ⊢
    rw [issued, ← List.append_assoc]
    exact ih (h.apply (Nat.lt_of_le_of_lt (Nat.le_add_right _ _) hfew) hcareful.1) hfew hcareful.2

/-- What is known stays known in the long run, and so does what is past. -/
theorem stays (h : r.Orderly ids n) {ops : List (Op η)} (hfew : n + r.removals ops < UInt64.size)
    (hcareful : r.Careful ids ops) :
    (r.tree.Known id → (r.run ops).tree.Known id) ∧ (r.tree.Past id → (r.run ops).tree.Past id) := by
  induction ops generalizing r ids n with
  | nil => exact ⟨fun hknown => hknown, fun hpast => hpast⟩
  | cons op ops ih =>
    rw [removals, ← Nat.add_assoc] at hfew
    have hstep := Nat.lt_of_le_of_lt (Nat.le_add_right _ _) hfew
    obtain ⟨hknown, hpast⟩ := ih (h.apply hstep hcareful.1) hfew hcareful.2
    exact ⟨fun hbefore => hknown (h.known_apply hstep hbefore),
      fun hbefore => hpast ((advances_apply h.wf op).past h.aged hstep hbefore)⟩

/-- What was there and is gone stays absent. -/
theorem absent (h : r.Orderly ids n) {mid back : List (Op η)}
    (hfew : n + r.removals (mid ++ back) < UInt64.size) (hcareful : r.Careful ids (mid ++ back))
    (hthere : r.tree.contains id = true) (hgone : (r.run mid).tree.contains id = false) :
    (r.run (mid ++ back)).tree.Absent id := by
  rw [removals_append, ← Nat.add_assoc] at hfew
  obtain ⟨hmid, hback⟩ := careful_append.mp hcareful
  have hfewMid := Nat.lt_of_le_of_lt (Nat.le_add_right _ _) hfew
  rcases (h.stays hfewMid hmid).1 (.inl hthere) with hstill | hpast
  · rw [hgone] at hstill
    cases hstill
  · rw [run_append]
    exact Tree.absent_iff.mpr (((h.run hfewMid hmid).stays hfew hback).2 hpast).contains_eq_false

end Orderly

/-- **Ids in the long run.** If something was removed fewer than `UInt64.size` times, and observers were
noted only under the id of the root and ids issued before, then each new id differs from that of the
root and from those issued before, nobody observes the new resource, and what was there and was removed
stays absent. -/
theorem ids_run (profile : Profile) (handler : η) {ops : List (Op η)}
    (hfew : (bare profile handler).removals ops < UInt64.size)
    (hcareful : (bare profile handler).Careful [(bare profile handler).tree.root] ops) :
    let first := bare profile handler
    (∀ front op back id, ops = front ++ op :: back → (first.run front).added? op = some id →
      id ≠ first.tree.root ∧ id ∉ first.issued front ∧
        let after := first.run (front ++ [op])
        after.tree.contains id = true ∧
          after.observers.relations id = [] ∧ after.observers.sequence id = 0) ∧
    ∀ front mid back id, ops = front ++ (mid ++ back) →
      (first.run front).tree.contains id = true →
      (first.run (front ++ mid)).tree.contains id = false → (first.run ops).tree.Absent id := by
  intro first
  -- at any point of the history there is order
  have horderly : ∀ {front back}, ops = front ++ back →
      (first.run front).Orderly ([first.tree.root] ++ first.issued front)
          (0 + first.removals front) ∧
        0 + first.removals front + (first.run front).removals back < UInt64.size ∧
        (first.run front).Careful ([first.tree.root] ++ first.issued front) back := by
    rintro front back rfl
    rw [removals_append] at hfew
    obtain ⟨hfront, hback⟩ := careful_append.mp hcareful
    rw [Nat.zero_add]
    refine ⟨?_, hfew, hback⟩
    have h : (first.run front).Orderly ([first.tree.root] ++ first.issued front)
        (0 + first.removals front) := (orderly_bare profile handler).run (by omega) hfront
    rwa [Nat.zero_add] at h
  constructor
  · intro front op back id hops hadded
    obtain ⟨h, -, -⟩ := horderly hops
    obtain ⟨hnew, hthere, hblank⟩ := h.added hadded
    rw [List.mem_append, not_or, List.mem_singleton] at hnew
    rw [run_append]
    exact ⟨hnew.1, hnew.2, hthere, hblank.relations⟩
  · rintro front mid back id hops hthere hgone
    obtain ⟨h, hless, hrest⟩ := horderly hops
    rw [run_append] at hgone
    rw [hops, run_append]
    exact h.absent hless hrest hthere hgone

end Realm

end Coap
