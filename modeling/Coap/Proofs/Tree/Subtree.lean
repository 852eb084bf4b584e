import Coap.Proofs.Tree.Release

/-!
# What a removal takes away

`Tree.release` follows the children down from the resource that is removed. In a well-formed tree these
are the resources from which the way up leads over it, so a removal takes away exactly these.

* `Tree.Below` — the way up from a resource leads over another.
* `Tree.WellFormed.contains_remove_iff` — what is left after a removal is what was there and is not
  below the resource that was removed.
-/

namespace Coap.Tree

variable {η : Type u}

/-- The way up from a resource leads over another, or it is that one. -/
def Below (t : Tree η) (top id : ResourceId) : Prop := ∃ steps, t.ancestor? steps id = some top

theorem below_self (t : Tree η) (id : ResourceId) : t.Below id id := ⟨0, rfl⟩

/-- The way up goes on from where it led to. -/
theorem Below.parent {t : Tree η} {top mid id : ResourceId} (h : t.Below mid id)
    (hparent : t.parent? mid = some top) : t.Below top id := by
  obtain ⟨steps, hsteps⟩ := h
  refine ⟨steps + 1, ?_⟩
  induction steps generalizing id with
  | zero =>
    cases hsteps
    simp [ancestor?, hparent]
  | succ steps ih =>
    obtain ⟨up, hup, habove⟩ := Option.bind_eq_some_iff.mp hsteps
    exact Option.bind_eq_some_iff.mpr ⟨up, hup, ih habove⟩

/-! ### Ways down -/

/-- The way down from a resource over the children that are listed. -/
inductive Descends (slots : List (Slot η)) : ResourceId → ResourceId → Prop where
  /-- No step. -/
  | here (id : ResourceId) : Descends slots id id
  /-- A step to a child, and on from there. -/
  | child {top child id : ResourceId} {node : Node η} (htop : nodeIn? slots top = some node)
      (hchild : child ∈ node.children.values) (h : Descends slots child id) : Descends slots top id

theorem nodeIn?_of_retire {slots : List (Slot η)} {gone id : ResourceId} {node : Node η}
    (h : nodeIn? (retire slots gone) id = some node) : id ≠ gone ∧ nodeIn? slots id = some node := by
  rw [nodeIn?_retire] at h
  split at h
  · cases h
  · next hne => exact ⟨hne, h⟩

/-- A way down over fewer resources was there before. -/
theorem Descends.of_retire {slots : List (Slot η)} {gone top id : ResourceId}
    (h : Descends (retire slots gone) top id) : Descends slots top id := by
  induction h with
  | here id => exact .here id
  | child htop hchild _ ih =>
    exact .child (nodeIn?_of_retire htop).2 hchild ih

/-- A way down that does not lead over a child that is listed no more was there before. -/
theorem Descends.of_unlisting {t : Tree η} {parent top id : ResourceId} {gone : String}
    (h : Descends (t.modify parent (unlisting gone)).slots top id) : Descends t.slots top id := by
  induction h with
  | here id => exact .here id
  | child htop hchild _ ih =>
    obtain ⟨before, hbefore, rfl⟩ := node?_modify_eq_some_iff.mp htop
    obtain ⟨name, hlists⟩ := OrderedMap.mem_values_iff.mp hchild
    have hlisted := (get?_editAt_unlisting.mp hlists).2
    exact .child hbefore (OrderedMap.mem_values_iff.mpr ⟨name, hlisted⟩) ih

/-- The way down over the children is a way up over the parents. -/
theorem WellFormed.below_of_descends {t : Tree η} (wf : t.WellFormed) {top id : ResourceId}
    (h : Descends t.slots top id) : t.Below top id := by
  induction h with
  | here id => exact t.below_self id
  | child htop hchild _ ih =>
    obtain ⟨name, hlists⟩ := OrderedMap.mem_values_iff.mp hchild
    obtain ⟨below, hbelow, hup, -⟩ := wf.child_live htop hlists
    exact ih.parent (parent?_eq_some_iff.mpr ⟨below, hbelow, hup⟩)

/-! ### Release -/

/-- What is left was there, and did not wait to be freed. -/
theorem nodeIn?_of_release {slots : List (Slot η)} {free : List Nat} {pending : List ResourceId}
    {id : ResourceId} {node : Node η} (h : nodeIn? (release slots free pending).1 id = some node) :
    id ∉ pending ∧ nodeIn? slots id = some node := by
  fun_induction release slots free pending with
  | case1 slots free => exact ⟨List.not_mem_nil, h⟩
  | case2 slots free gone pending above hgone ih =>
    obtain ⟨hpending, hthere⟩ := ih h
    obtain ⟨hne, hthere⟩ := nodeIn?_of_retire hthere
    rw [List.mem_append, not_or] at hpending
    exact ⟨List.not_mem_cons_of_ne_of_not_mem hne hpending.2, hthere⟩
  | case3 slots free gone pending hgone ih =>
    obtain ⟨hpending, hthere⟩ := ih h
    obtain ⟨hne, hthere⟩ := nodeIn?_of_retire hthere
    exact ⟨List.not_mem_cons_of_ne_of_not_mem hne hpending, hthere⟩

/-- What is freed stands below something that waited to be freed. -/
theorem descends_of_release {slots : List (Slot η)} {free : List Nat} {pending : List ResourceId}
    {id : ResourceId} {node : Node η} (hid : nodeIn? slots id = some node)
    (h : nodeIn? (release slots free pending).1 id = none) :
    ∃ top ∈ pending, Descends slots top id := by
  fun_induction release slots free pending with
  | case1 slots free =>
    rw [hid] at h
    cases h
  | case2 slots free gone pending above hgone ih =>
    by_cases hne : id = gone
    · exact ⟨gone, List.mem_cons_self, hne ▸ .here id⟩
    · obtain ⟨top, htop, hdown⟩ := ih (by rw [nodeIn?_retire, if_neg hne, hid]) h
      rcases List.mem_append.mp htop with hchild | hpending
      · exact ⟨gone, List.mem_cons_self, .child hgone hchild hdown.of_retire⟩
      · exact ⟨top, List.mem_cons_of_mem gone hpending, hdown.of_retire⟩
  | case3 slots free gone pending hgone ih =>
    have hne : id ≠ gone := by
      rintro rfl
      rw [hid] at hgone
      cases hgone
    obtain ⟨top, htop, hdown⟩ := ih (by rw [nodeIn?_retire, if_neg hne, hid]) h
    exact ⟨top, List.mem_cons_of_mem gone htop, hdown.of_retire⟩

/-! ### Removal -/

/-- A resource that was removed is there no more. -/
theorem contains_remove_self {t : Tree η} {id : ResourceId} (h : (t.remove id).2 = true) :
    t.contains id = true ∧ (t.remove id).1.contains id = false := by
  rcases remove_cases t id with heq | ⟨node, parent, hid, -, heq⟩
  · rw [heq] at h
    cases h
  · refine ⟨Option.isSome_iff_exists.mpr ⟨node, hid⟩, ?_⟩
    rw [heq, contains, Option.isSome_eq_false_iff, Option.isNone_iff_eq_none]
    refine Option.eq_none_iff_forall_ne_some.mpr fun left hleft => ?_
    exact (nodeIn?_of_release hleft).1 List.mem_cons_self

/-- What is left was there, with the same resource above it. -/
theorem node?_of_remove {t : Tree η} {id x : ResourceId} {left : Node η}
    (h : (t.remove id).1.node? x = some left) :
    ∃ node, t.node? x = some node ∧ node.parent = left.parent := by
  rcases remove_cases t id with heq | ⟨node, parent, -, -, heq⟩
  · rw [heq] at h
    exact ⟨left, h, rfl⟩
  · rw [heq] at h
    obtain ⟨before, hbefore, rfl⟩ := node?_modify_eq_some_iff.mp (nodeIn?_of_release h).2
    exact ⟨before, hbefore,
      (editAt_kept (f := unlisting node.name) (fun _ => ⟨rfl, rfl⟩) parent x before).2.symm⟩

namespace WellFormed

variable {t : Tree η} {id x : ResourceId}

/-- Whatever a resource that is left hangs below is left as well. -/
theorem contains_of_below (wf : t.WellFormed) {top : ResourceId}
    (hx : (t.remove id).1.contains x = true) (h : t.Below top x) :
    (t.remove id).1.contains top = true := by
  obtain ⟨steps, hsteps⟩ := h
  induction steps generalizing x with
  | zero =>
    cases hsteps
    exact hx
  | succ steps ih =>
    obtain ⟨up, hup, habove⟩ := Option.bind_eq_some_iff.mp hsteps
    obtain ⟨left, hleft⟩ := Option.isSome_iff_exists.mp hx
    obtain ⟨node, hnode, hsame⟩ := node?_of_remove hleft
    obtain ⟨node', hnode', hparent⟩ := parent?_eq_some_iff.mp hup
    obtain rfl := Option.some.inj (hnode.symm.trans hnode')
    rw [hsame] at hparent
    -- the tree is still well formed, so the parent of what is left is left
    have wf' := wf.remove id
    have hroot : x ≠ (t.remove id).1.root := fun h => by
      rw [(wf'.parent_eq_none_iff hleft).mpr h] at hparent
      cases hparent
    obtain ⟨up', above, hup', habove', -⟩ := wf'.parent_live hleft hroot
    obtain rfl := Option.some.inj (hparent.symm.trans hup')
    exact ih (Option.isSome_iff_exists.mpr ⟨above, habove'⟩) habove

/-- **Removal.** What is left is what was there and does not stand below the resource that was
removed. -/
theorem contains_remove_iff (wf : t.WellFormed) (h : (t.remove id).2 = true) :
    (t.remove id).1.contains x = true ↔ t.contains x = true ∧ ¬ t.Below id x := by
  constructor
  · intro hx
    obtain ⟨left, hleft⟩ := Option.isSome_iff_exists.mp hx
    obtain ⟨node, hnode, -⟩ := node?_of_remove hleft
    refine ⟨Option.isSome_iff_exists.mpr ⟨node, hnode⟩, fun hbelow => ?_⟩
    have := wf.contains_of_below hx hbelow
    rw [(contains_remove_self h).2] at this
    cases this
  · rintro ⟨hx, hnot⟩
    obtain ⟨node, parent, hid, -, heq⟩ := (remove_cases t id).resolve_left fun heq => by
      rw [heq] at h
      cases h
    rw [heq]
    obtain ⟨before, hbefore⟩ := Option.isSome_iff_exists.mp hx
    have hcut : (t.modify parent (unlisting node.name)).node? x =
        some (editAt parent (unlisting node.name) x before) :=
      node?_modify_eq_some_iff.mpr ⟨before, hbefore, rfl⟩
    refine Option.isSome_iff_ne_none.mpr fun hgone => hnot ?_
    obtain ⟨top, htop, hdown⟩ := descends_of_release hcut hgone
    obtain rfl := List.mem_singleton.mp htop
    exact wf.below_of_descends hdown.of_unlisting

end WellFormed

end Coap.Tree
