import Coap.Proofs.Tree.WellFormed

/-!
# Removal of subtrees

A removal cuts off a node from its parent and then frees it, its children, theirs, and so on. In
between, the slots are linked but for the nodes that are cut off and still wait.

* `Tree.WellFormed.linked_unlisting` — cutting off a node.
* `Tree.Linked.retire` — freeing one node cuts off its children.
* `Tree.Linked.release` — once none is left, the slots are linked again, and what is still there is
  as it was.
* `Tree.WellFormed.remove` — a removal keeps a tree well formed.
-/

namespace Coap

/-- The values of a map are what is found under its keys. -/
theorem OrderedMap.mem_values_iff {κ : Type u} {α : Type v} [Ord κ] [Std.TransOrd κ]
    [Std.LawfulEqOrd κ] {m : OrderedMap κ α} {a : α} : a ∈ m.values ↔ ∃ k, m.get? k = some a := by
  constructor
  · intro h
    obtain ⟨⟨k, _⟩, hmem, rfl⟩ := List.mem_map.mp h
    exact ⟨k, get?_eq_some_iff.mpr hmem⟩
  · rintro ⟨k, h⟩
    exact List.mem_map.mpr ⟨(k, a), get?_eq_some_iff.mp h, rfl⟩

namespace Tree

variable {η : Type u}

/-! ### A node is cut off -/

/-- A node that lists one child fewer. -/
def unlisting (name : String) (node : Node η) : Node η :=
  { node with children := node.children.erase name }

/-- What a node still lists it listed before, and the entry that is gone is the one of that name. -/
theorem get?_editAt_unlisting {parent id child : ResourceId} {node : Node η} {gone name : String} :
    (editAt parent (unlisting gone) id node).children.get? name = some child ↔
      ¬ (id = parent ∧ name = gone) ∧ node.children.get? name = some child := by
  unfold editAt
  by_cases h : id = parent
  · rw [if_pos h, unlisting, OrderedMap.get?_erase]
    by_cases hname : name = gone
    · simp [h, hname]
    · simp [hname]
  · simp [h]

/-- A node whose parent does not list it any more is all that is loose. -/
theorem WellFormed.linked_unlisting {t : Tree η} (wf : t.WellFormed) {id parent : ResourceId}
    {node : Node η} (hid : t.node? id = some node) (hparent : node.parent = some parent) :
    Linked t.root (t.modify parent (unlisting node.name)).slots t.free [id] := by
  let cut : ResourceId → Node η → Node η := editAt parent (unlisting node.name)
  have hkept : ∀ (x : ResourceId) (n : Node η),
      (cut x n).name = n.name ∧ (cut x n).parent = n.parent :=
    editAt_kept (f := unlisting node.name) (fun _ => ⟨rfl, rfl⟩) parent
  have hthere : ∀ {x n}, t.node? x = some n →
      (t.modify parent (unlisting node.name)).node? x = some (cut x n) := fun h =>
    node?_modify_eq_some_iff.mpr ⟨_, h, rfl⟩
  constructor
  case root_live =>
    obtain ⟨root, hroot, hnone⟩ := wf.root_live
    exact ⟨_, hthere hroot, (hkept _ root).2.trans hnone⟩
  case parent_live =>
    intro x n hx hroot hloose
    obtain ⟨before, hbefore, rfl⟩ := node?_modify_eq_some_iff.mp hx
    obtain ⟨up, above, hup, habove, hlists⟩ := wf.parent_live hbefore hroot
    refine ⟨up, _, (hkept x before).2.trans hup, hthere habove, ?_⟩
    rw [(hkept x before).1]
    refine get?_editAt_unlisting.mpr ⟨?_, hlists⟩
    -- the parent lists only the node that was cut off under its name
    rintro ⟨rfl, hname⟩
    obtain ⟨up', above', hup', habove', hlists'⟩ := wf.parent_live hid fun h => by
      rw [(wf.parent_eq_none_iff hid).mpr h] at hparent
      cases hparent
    obtain rfl := Option.some.inj (hparent.symm.trans hup')
    obtain rfl := Option.some.inj (habove.symm.trans habove')
    rw [hname, hlists'] at hlists
    exact hloose (List.mem_singleton.mpr (Option.some.inj hlists).symm)
  case child_live =>
    intro x n name child hx hchild
    obtain ⟨before, hbefore, rfl⟩ := node?_modify_eq_some_iff.mp hx
    obtain ⟨hother, hlists⟩ := get?_editAt_unlisting.mp hchild
    obtain ⟨below, hbelow, hup, rfl⟩ := wf.child_live hbefore hlists
    refine ⟨?_, _, hthere hbelow, (hkept child below).2.trans hup, (hkept child below).1⟩
    intro hloose
    obtain rfl := List.mem_singleton.mp hloose
    obtain rfl := Option.some.inj (hid.symm.trans hbelow)
    exact hother ⟨Option.some.inj (hup.symm.trans hparent), rfl⟩
  case name_valid =>
    intro x n hx hroot
    obtain ⟨before, hbefore, rfl⟩ := node?_modify_eq_some_iff.mp hx
    rw [(hkept x before).1]
    exact wf.name_valid hbefore hroot
  case loose_live =>
    intro x hx
    obtain rfl := List.mem_singleton.mp hx
    exact ⟨_, parent, hthere hid, (hkept x node).2.trans hparent⟩
  case loose_nodup => exact List.pairwise_singleton _ id
  case free_nodup => exact wf.free_nodup
  case mem_free_iff =>
    intro index
    exact wf.mem_free_iff.trans (vacant_modify_iff t parent _ index).symm

/-! ### A node is freed -/

namespace Linked

variable {root : ResourceId} {slots : List (Slot η)} {free : List Nat} {loose : List ResourceId}

/-- No node is listed twice. -/
theorem nodup_children (linked : Linked root slots free loose) {id : ResourceId} {node : Node η}
    (h : nodeIn? slots id = some node) : node.children.values.Nodup := by
  refine List.pairwise_map.mpr (node.children.ascending.imp_of_mem ?_)
  rintro ⟨name, child⟩ ⟨name', _⟩ hmem hmem' hlt (rfl : child = _)
  obtain ⟨-, below, hbelow, -, hname⟩ :=
    linked.child_live h (OrderedMap.get?_eq_some_iff.mpr hmem)
  obtain ⟨-, below', hbelow', -, hname'⟩ :=
    linked.child_live h (OrderedMap.get?_eq_some_iff.mpr hmem')
  obtain rfl := Option.some.inj (hbelow.symm.trans hbelow')
  obtain rfl := hname.symm.trans hname'
  simp at hlt

/-- Freeing a node that is cut off cuts off its children. -/
theorem retire {id : ResourceId} {node : Node η} (linked : Linked root slots free (id :: loose))
    (hid : nodeIn? slots id = some node) :
    Linked root (retire slots id) (id.index :: free) (node.children.values ++ loose) := by
  have hlive : ∀ {x n}, nodeIn? (Tree.retire slots id) x = some n ↔
      x ≠ id ∧ nodeIn? slots x = some n := by
    intro x n
    rw [nodeIn?_retire]
    by_cases hx : x = id <;> simp [hx]
  have hnodup := List.nodup_cons.mp linked.loose_nodup
  have hnotLoose : ∀ {x n name child}, nodeIn? slots x = some n →
      n.children.get? name = some child → child ≠ id ∧ child ∉ loose := by
    intro x n name child hx hchild
    have hnot := (linked.child_live hx hchild).1
    exact ⟨fun h => hnot (h ▸ List.mem_cons_self), fun h => hnot (List.mem_cons_of_mem id h)⟩
  have hroot : root ≠ id := by
    rintro rfl
    obtain ⟨above, habove, hnone⟩ := linked.root_live
    obtain ⟨n, up, hn, hup⟩ := linked.loose_live List.mem_cons_self
    obtain rfl := Option.some.inj (habove.symm.trans hn)
    rw [hnone] at hup
    cases hup
  constructor
  case root_live =>
    obtain ⟨above, habove, hnone⟩ := linked.root_live
    exact ⟨above, hlive.mpr ⟨hroot, habove⟩, hnone⟩
  case parent_live =>
    intro x n hx hne hloose
    obtain ⟨hxid, hx⟩ := hlive.mp hx
    have hx' : x ∉ id :: loose := by
      simp only [List.mem_cons, not_or]
      exact ⟨hxid, fun h => hloose (List.mem_append_right _ h)⟩
    obtain ⟨up, above, hup, habove, hlists⟩ := linked.parent_live hx hne hx'
    -- a child of the node that was freed is loose
    have hupid : up ≠ id := by
      rintro rfl
      obtain rfl := Option.some.inj (hid.symm.trans habove)
      exact hloose (List.mem_append_left _ (OrderedMap.mem_values_iff.mpr ⟨_, hlists⟩))
    exact ⟨up, above, hup, hlive.mpr ⟨hupid, habove⟩, hlists⟩
  case child_live =>
    intro x n name child hx hchild
    obtain ⟨hxid, hx⟩ := hlive.mp hx
    obtain ⟨hne, hloose⟩ := hnotLoose hx hchild
    obtain ⟨-, below, hbelow, hup, hname⟩ := linked.child_live hx hchild
    refine ⟨?_, below, hlive.mpr ⟨hne, hbelow⟩, hup, hname⟩
    intro hmem
    rcases List.mem_append.mp hmem with hmem | hmem
    · obtain ⟨name', hlists⟩ := OrderedMap.mem_values_iff.mp hmem
      obtain ⟨-, below', hbelow', hup', -⟩ := linked.child_live hid hlists
      obtain rfl := Option.some.inj (hbelow.symm.trans hbelow')
      exact hxid (Option.some.inj (hup.symm.trans hup'))
    · exact hloose hmem
  case name_valid =>
    intro x n hx hne
    exact linked.name_valid (hlive.mp hx).2 hne
  case loose_live =>
    intro x hx
    rcases List.mem_append.mp hx with hx | hx
    · obtain ⟨name, hlists⟩ := OrderedMap.mem_values_iff.mp hx
      obtain ⟨-, below, hbelow, hup, -⟩ := linked.child_live hid hlists
      exact ⟨below, id, hlive.mpr ⟨(hnotLoose hid hlists).1, hbelow⟩, hup⟩
    · obtain ⟨n, up, hn, hup⟩ := linked.loose_live (List.mem_cons_of_mem id hx)
      exact ⟨n, up, hlive.mpr ⟨fun h => hnodup.1 (h ▸ hx), hn⟩, hup⟩
  case loose_nodup =>
    refine List.nodup_append.mpr ⟨linked.nodup_children hid, hnodup.2, ?_⟩
    rintro child hchild _ hother rfl
    obtain ⟨name, hlists⟩ := OrderedMap.mem_values_iff.mp hchild
    exact (hnotLoose hid hlists).2 hother
  case free_nodup =>
    refine List.nodup_cons.mpr ⟨fun h => ?_, linked.free_nodup⟩
    exact not_vacant_of_nodeIn? hid (linked.mem_free_iff.mp h)
  case mem_free_iff =>
    intro index
    rw [vacant_retire_iff hid, List.mem_cons, linked.mem_free_iff]

/-- **Release.** When all that was cut off is freed, with everything below it, the slots are linked,
and each node that is left is as it was. -/
theorem release (linked : Linked root slots free loose) :
    Linked root (Tree.release slots free loose).1 (Tree.release slots free loose).2 [] ∧
      ∀ {id node}, nodeIn? (Tree.release slots free loose).1 id = some node →
        nodeIn? slots id = some node := by
  fun_induction Tree.release slots free loose with
  | case1 slots free => exact ⟨linked, id⟩
  | case2 slots free id pending node hid ih =>
    obtain ⟨hlinked, hsame⟩ := ih (linked.retire hid)
    refine ⟨hlinked, fun {x n} h => ?_⟩
    have hx := hsame h
    rw [nodeIn?_retire] at hx
    by_cases hxid : x = id
    · rw [if_pos hxid] at hx
      cases hx
    · rwa [if_neg hxid] at hx
  | case3 slots free id pending hid ih =>
    -- what is loose is there
    obtain ⟨node, -, hnode, -⟩ := linked.loose_live List.mem_cons_self
    rw [hid] at hnode
    cases hnode

end Linked

/-! ### A subtree is removed -/

/-- Either nothing is removed, or a node with a parent is cut off and freed. -/
theorem remove_cases (t : Tree η) (id : ResourceId) :
    t.remove id = (t, false) ∨
      ∃ node parent, t.node? id = some node ∧ node.parent = some parent ∧
        let cut := t.modify parent (unlisting node.name)
        t.remove id = ({ t with slots := (release cut.slots t.free [id]).1,
                                free := (release cut.slots t.free [id]).2 }, true) := by
  unfold remove
  by_cases hroot : id = t.root
  · exact .inl (if_pos hroot)
  · rw [if_neg hroot]
    cases hid : t.node? id with
    | none => exact .inl rfl
    | some node =>
      obtain ⟨name, handler, parent, children, attributes, observable, visible⟩ := node
      cases parent with
      | none => exact .inl rfl
      | some parent => exact .inr ⟨_, parent, rfl, rfl, rfl⟩

/-- Removing a resource with everything below it keeps a tree well formed. -/
theorem WellFormed.remove {t : Tree η} (wf : t.WellFormed) (id : ResourceId) :
    (t.remove id).1.WellFormed := by
  rcases remove_cases t id with h | ⟨node, parent, hid, hparent, h⟩
  · rw [h]
    exact wf
  · rw [h]
    obtain ⟨linked, hsame⟩ := (wf.linked_unlisting hid hparent).release
    refine linked.wellFormed fun {x} hx => ?_
    -- the way up from a node that is left leads over nodes that are left
    have hbefore : ∀ {x n}, nodeIn? (release (t.modify parent (unlisting node.name)).slots t.free
        [id]).1 x = some n → ∃ before, t.node? x = some before ∧ before.parent = n.parent := by
      intro x n hx
      obtain ⟨before, hbefore, rfl⟩ := node?_modify_eq_some_iff.mp (hsame hx)
      exact ⟨before, hbefore,
        (editAt_kept (f := unlisting node.name) (fun _ => ⟨rfl, rfl⟩) parent x before).2.symm⟩
    obtain ⟨n, hn⟩ := Option.isSome_iff_exists.mp hx
    obtain ⟨before, hx', -⟩ := hbefore hn
    refine wf.reaches_root_of_parent? (P := fun x => ∃ n, nodeIn? _ x = some n) ?_ hx' ⟨n, hn⟩
    rintro x up ⟨n, hn⟩ hup
    obtain ⟨before, hx, hsameUp⟩ := hbefore hn
    obtain ⟨old, hold, hup⟩ := parent?_eq_some_iff.mp hup
    obtain rfl := Option.some.inj (hx.symm.trans hold)
    have hne : x ≠ t.root := fun h => by
      rw [(wf.parent_eq_none_iff hx).mpr h] at hup
      cases hup
    obtain ⟨up', above, hup', habove, -⟩ := linked.parent_live hn hne List.not_mem_nil
    obtain rfl := Option.some.inj (hup.symm.trans (hsameUp.trans hup'))
    exact ⟨parent?_eq_some_iff.mpr ⟨n, hn, hup'⟩, above, habove⟩

end Tree

end Coap
