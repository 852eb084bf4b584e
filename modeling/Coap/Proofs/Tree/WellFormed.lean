import Coap.Proofs.Tree.Lookup

/-!
# Well-formed trees

Parents, children, generations and the list of free slots say the same thing in four ways. A tree is
well formed if they agree. A single node that is added or relabelled keeps it so; the removal of a
whole subtree is in `Coap.Proofs.Tree.Release`.

* `Tree.WellFormed` — the agreement, and that every node hangs below the root.
* `Tree.Linked` — the same while some subtrees are cut off but not yet freed.
* `Tree.WellFormed.relabel`, `Tree.WellFormed.addChild` — steps that keep a tree well formed.
-/

namespace Coap.Tree

variable {η : Type u}

/-- The resource some steps above another. -/
def ancestor? (t : Tree η) : Nat → ResourceId → Option ResourceId
  | 0, id => some id
  | steps + 1, id => (t.parent? id).bind (t.ancestor? steps)

/-- **Well-formedness.** Parents, children, names and free slots agree, and all nodes hang below the
root. -/
structure WellFormed (t : Tree η) : Prop where
  /-- The root is there, and nothing is above it. -/
  root_live : ∃ node, t.node? t.root = some node ∧ node.parent = none
  /-- Every other node has a parent, which is there and lists the node under its name. -/
  parent_live : ∀ {id node}, t.node? id = some node → id ≠ t.root →
    ∃ parent above, node.parent = some parent ∧ t.node? parent = some above ∧
      above.children.get? node.name = some id
  /-- Every child a node lists is there, has the node as its parent, and the name it is listed
  under. -/
  child_live : ∀ {id node name child}, t.node? id = some node →
    node.children.get? name = some child →
      ∃ below, t.node? child = some below ∧ below.parent = some id ∧ below.name = name
  /-- No name is empty or holds a slash, except that of the root. -/
  name_valid : ∀ {id node}, t.node? id = some node → id ≠ t.root →
    node.name ≠ "" ∧ '/' ∉ node.name.toList
  /-- The way up from any node ends at the root. -/
  reaches_root : ∀ {id}, t.contains id = true → ∃ steps, t.ancestor? steps id = some t.root
  /-- No slot is free twice. -/
  free_nodup : t.free.Nodup
  /-- The free slots are those without a node. -/
  mem_free_iff : ∀ {index}, index ∈ t.free ↔
    ∃ slot, t.slots[index]? = some slot ∧ slot.node = none

/-- Slots that are well formed but for some subtrees, whose topmost nodes no node lists any more. -/
structure Linked (root : ResourceId) (slots : List (Slot η)) (free : List Nat)
    (loose : List ResourceId) : Prop where
  root_live : ∃ node, nodeIn? slots root = some node ∧ node.parent = none
  parent_live : ∀ {id node}, nodeIn? slots id = some node → id ≠ root → id ∉ loose →
    ∃ parent above, node.parent = some parent ∧ nodeIn? slots parent = some above ∧
      above.children.get? node.name = some id
  child_live : ∀ {id node name child}, nodeIn? slots id = some node →
    node.children.get? name = some child → child ∉ loose ∧
      ∃ below, nodeIn? slots child = some below ∧ below.parent = some id ∧ below.name = name
  name_valid : ∀ {id node}, nodeIn? slots id = some node → id ≠ root →
    node.name ≠ "" ∧ '/' ∉ node.name.toList
  loose_live : ∀ {id}, id ∈ loose →
    ∃ node parent, nodeIn? slots id = some node ∧ node.parent = some parent
  loose_nodup : loose.Nodup
  free_nodup : free.Nodup
  mem_free_iff : ∀ {index}, index ∈ free ↔ Vacant slots index

/-! ### Ways up -/

theorem parent?_eq_some_iff {t : Tree η} {id parent : ResourceId} :
    t.parent? id = some parent ↔ ∃ node, t.node? id = some node ∧ node.parent = some parent := by
  simp [parent?, Option.bind_eq_some_iff]

/-- A way up stays if every node on it keeps its parent. -/
theorem ancestor?_of_parent? {t t' : Tree η} {P : ResourceId → Prop}
    (hP : ∀ {id parent}, P id → t.parent? id = some parent →
      t'.parent? id = some parent ∧ P parent)
    {steps : Nat} {id top : ResourceId} (hid : P id) (h : t.ancestor? steps id = some top) :
    t'.ancestor? steps id = some top := by
  induction steps generalizing id with
  | zero => exact h
  | succ steps ih =>
    obtain ⟨parent, hparent, habove⟩ := Option.bind_eq_some_iff.mp h
    obtain ⟨hparent', hid'⟩ := hP hid hparent
    exact Option.bind_eq_some_iff.mpr ⟨parent, hparent', ih hid' habove⟩

/-! ### First consequences -/

namespace WellFormed

variable {t : Tree η}

/-- Free slots are there to be taken. -/
theorem vacant_of_mem_free (wf : t.WellFormed) : ∀ index ∈ t.free, Vacant t.slots index :=
  fun _ h => wf.mem_free_iff.mp h

/-- The root is the only node without a parent. -/
theorem parent_eq_none_iff (wf : t.WellFormed) {id : ResourceId} {node : Node η}
    (h : t.node? id = some node) : node.parent = none ↔ id = t.root := by
  constructor
  · intro hnone
    by_cases hroot : id = t.root
    · exact hroot
    · obtain ⟨parent, above, hparent, -, -⟩ := wf.parent_live h hroot
      rw [hnone] at hparent
      cases hparent
  · rintro rfl
    obtain ⟨root, hroot, hnone⟩ := wf.root_live
    rw [h] at hroot
    rw [Option.some.inj hroot, hnone]

/-- A node from which every way up stays still reaches the root. -/
theorem reaches_root_of_parent? (wf : t.WellFormed) {t' : Tree η} {P : ResourceId → Prop}
    (hP : ∀ {id parent}, P id → t.parent? id = some parent →
      t'.parent? id = some parent ∧ P parent)
    {id : ResourceId} {node : Node η} (h : t.node? id = some node) (hid : P id) :
    ∃ steps, t'.ancestor? steps id = some t.root := by
  obtain ⟨steps, hsteps⟩ := wf.reaches_root (Option.isSome_iff_exists.mpr ⟨node, h⟩)
  exact ⟨steps, ancestor?_of_parent? hP hid hsteps⟩

end WellFormed

/-- A tree with nothing cut off is well formed if all ways up end at the root. -/
theorem Linked.wellFormed {t : Tree η} (linked : Linked t.root t.slots t.free [])
    (h : ∀ {id}, t.contains id = true → ∃ steps, t.ancestor? steps id = some t.root) :
    t.WellFormed where
  root_live := linked.root_live
  parent_live hid hroot := linked.parent_live hid hroot List.not_mem_nil
  child_live hid hchild := (linked.child_live hid hchild).2
  name_valid := linked.name_valid
  reaches_root := h
  free_nodup := linked.free_nodup
  mem_free_iff := linked.mem_free_iff

/-! ### The first tree -/

theorem node?_withRoot {profile : Profile} {handler : η} {id : ResourceId} {node : Node η}
    (h : (withRoot profile handler).node? id = some node) :
    id = (withRoot profile handler).root ∧
      node = { Node.ofProfile profile handler none with name := "" } := by
  rw [node?, nodeIn?_eq_some_iff] at h
  obtain ⟨hlt, hslot⟩ := List.getElem?_eq_some_iff.mp h
  obtain ⟨index, generation⟩ := id
  obtain rfl : index = 0 := Nat.lt_one_iff.mp hlt
  cases hslot
  exact ⟨rfl, rfl⟩

/-- A tree of one node is well formed. -/
theorem wellFormed_withRoot (profile : Profile) (handler : η) :
    (withRoot profile handler).WellFormed where
  root_live := ⟨_, rfl, rfl⟩
  parent_live h hroot := absurd (node?_withRoot h).1 hroot
  child_live h hchild := by
    rw [(node?_withRoot h).2] at hchild
    cases hchild
  name_valid h hroot := absurd (node?_withRoot h).1 hroot
  reaches_root h := by
    obtain ⟨node, hnode⟩ := Option.isSome_iff_exists.mp h
    exact ⟨0, congrArg some (node?_withRoot hnode).1⟩
  free_nodup := List.nodup_nil
  mem_free_iff {index} := by
    constructor
    · intro h
      cases h
    · rintro ⟨slot, hslot, hnone⟩
      obtain ⟨hlt, rfl⟩ := List.getElem?_eq_some_iff.mp hslot
      obtain rfl : index = 0 := Nat.lt_one_iff.mp hlt
      cases hnone

/-! ### A node is relabelled -/

/-- Where a change keeps name and parent of the node in question, all names and parents stay. -/
theorem editAt_kept {f : Node η → Node η}
    (hf : ∀ node, (f node).name = node.name ∧ (f node).parent = node.parent)
    (target id : ResourceId) (node : Node η) :
    (editAt target f id node).name = node.name ∧
      (editAt target f id node).parent = node.parent :=
  ⟨editAt_keeps (g := Node.name) (fun node => (hf node).1) target id node,
    editAt_keeps (g := Node.parent) (fun node => (hf node).2) target id node⟩

theorem parent?_modify {f : Node η → Node η} (hf : ∀ node, (f node).parent = node.parent)
    (t : Tree η) (target id : ResourceId) : (t.modify target f).parent? id = t.parent? id := by
  unfold parent?
  rw [node?_modify]
  cases t.node? id with
  | none => rfl
  | some node => exact editAt_keeps (g := Node.parent) hf target id node

/-- A change in place of a node that keeps its name and its neighbours keeps a tree well formed. -/
theorem WellFormed.relabel {t : Tree η} (wf : t.WellFormed) (target : ResourceId)
    {f : Node η → Node η}
    (hf : ∀ node, (f node).name = node.name ∧ (f node).parent = node.parent)
    (hchildren : ∀ node, (f node).children = node.children) : (t.modify target f).WellFormed := by
  have hkept := editAt_kept hf target
  have hthere : ∀ {id node}, t.node? id = some node →
      (t.modify target f).node? id = some (editAt target f id node) := fun h =>
    node?_modify_eq_some_iff.mpr ⟨_, h, rfl⟩
  constructor
  case root_live =>
    obtain ⟨root, hroot, hnone⟩ := wf.root_live
    exact ⟨_, hthere hroot, (hkept _ root).2.trans hnone⟩
  case parent_live =>
    intro id node hid hroot
    obtain ⟨before, hbefore, rfl⟩ := node?_modify_eq_some_iff.mp hid
    obtain ⟨parent, above, hparent, habove, hlists⟩ := wf.parent_live hbefore hroot
    refine ⟨parent, _, (hkept id before).2.trans hparent, hthere habove, ?_⟩
    rw [editAt_keeps (g := Node.children) hchildren, (hkept id before).1, hlists]
  case child_live =>
    intro id node name child hid hchild
    obtain ⟨before, hbefore, rfl⟩ := node?_modify_eq_some_iff.mp hid
    rw [editAt_keeps (g := Node.children) hchildren] at hchild
    obtain ⟨below, hbelow, hparent, rfl⟩ := wf.child_live hbefore hchild
    exact ⟨_, hthere hbelow, (hkept child below).2.trans hparent, (hkept child below).1⟩
  case name_valid =>
    intro id node hid hroot
    obtain ⟨before, hbefore, rfl⟩ := node?_modify_eq_some_iff.mp hid
    rw [(hkept id before).1]
    exact wf.name_valid hbefore hroot
  case reaches_root =>
    intro id hid
    obtain ⟨node, hnode⟩ := Option.isSome_iff_exists.mp hid
    obtain ⟨before, hbefore, -⟩ := node?_modify_eq_some_iff.mp hnode
    refine wf.reaches_root_of_parent? (P := fun _ => True) ?_ hbefore trivial
    intro x parent _ h
    exact ⟨(parent?_modify (fun node => (hf node).2) t target x).trans h, trivial⟩
  case free_nodup => exact wf.free_nodup
  case mem_free_iff =>
    intro index
    exact wf.mem_free_iff.trans (vacant_modify_iff t target f index).symm

/-! ### A node is added -/

/-- A node may have a name that is not empty and holds no slash. -/
theorem validName_iff {name : String} :
    validName name = true ↔ name ≠ "" ∧ '/' ∉ name.toList := by
  rw [validName, Bool.and_eq_true, Bool.not_eq_true', Bool.not_eq_true']
  refine and_congr ?_ ?_
  · rw [← Bool.not_eq_true, String.isEmpty_iff]
  · rw [← Bool.not_eq_true, List.contains_iff_mem]

/-- A node that lists one more child. -/
def listing (name : String) (child : ResourceId) (node : Node η) : Node η :=
  { node with children := node.children.insert name child }

/-- A tree in which a parent has one more child. -/
def withChild (t : Tree η) (parent : ResourceId) (leaf : Node η) : Tree η :=
  (t.insert leaf).1.modify parent (listing leaf.name (t.insert leaf).2)

/-- Either nothing is added, or a leaf with a fresh name of its own below a node that is there. -/
theorem addChild_cases (t : Tree η) (parent : ResourceId) (profile : Profile) (handler : η) :
    (∃ e, t.addChild parent profile handler = (t, .error e)) ∨
      (profile.name ≠ "" ∧ '/' ∉ profile.name.toList) ∧
        ∃ node, t.node? parent = some node ∧ node.children.get? profile.name = none ∧
          t.addChild parent profile handler =
            (t.withChild parent (.ofProfile profile handler (some parent)),
              .ok (t.insert (.ofProfile profile handler (some parent))).2) := by
  unfold addChild
  cases hname : validName profile.name with
  | false => exact .inl ⟨_, rfl⟩
  | true =>
    cases hparent : t.node? parent with
    | none => exact .inl ⟨_, rfl⟩
    | some node =>
      by_cases htaken : node.children.contains profile.name = true
      · exact .inl ⟨.nameTaken profile.name, by simp [htaken]⟩
      · refine .inr ⟨validName_iff.mp hname, node, rfl, ?_, by simp [htaken]; rfl⟩
        simpa [OrderedMap.contains] using htaken

section withChild

variable {t : Tree η} {parent : ResourceId} {above leaf : Node η}

/-- The free slots after a node was put in are again those without a node. -/
theorem WellFormed.free_insert (wf : t.WellFormed) (leaf : Node η) :
    (t.insert leaf).1.free.Nodup ∧
      ∀ index, index ∈ (t.insert leaf).1.free ↔ Vacant (t.insert leaf).1.slots index := by
  have hfree := free_eq_or_insert wf.vacant_of_mem_free leaf
  refine ⟨?_, fun index => ?_⟩
  · rcases hfree with h | ⟨-, h, -⟩
    · exact (List.nodup_cons.mp (h ▸ wf.free_nodup)).2
    · rw [h]
      exact List.nodup_nil
  · have hmem : index ∈ t.free ↔ Vacant t.slots index := wf.mem_free_iff
    rw [vacant_insert_iff wf.vacant_of_mem_free, ← hmem]
    rcases hfree with h | ⟨hnil, h, -⟩
    · have hfirst := (List.nodup_cons.mp (h ▸ wf.free_nodup)).1
      rw [h, List.mem_cons]
      constructor
      · intro hi
        exact ⟨fun he => hfirst (he ▸ hi), .inr hi⟩
      · rintro ⟨hne, hi | hi⟩
        · exact absurd hi hne
        · exact hi
    · simp [h, hnil]

/-- The new id names the leaf, and all others name what they did, but for the new entry. -/
theorem node?_withChild (wf : t.WellFormed) (habove : t.node? parent = some above)
    (leaf : Node η) (id : ResourceId) :
    (t.withChild parent leaf).node? id =
      if id = (t.insert leaf).2 then some leaf
      else (t.node? id).map (editAt parent (listing leaf.name (t.insert leaf).2) id) := by
  have hfresh := node?_insert_snd wf.vacant_of_mem_free leaf
  rw [withChild, node?_modify, node?_insert wf.vacant_of_mem_free]
  by_cases hid : id = (t.insert leaf).2
  · have hne : id ≠ parent := by
      rintro rfl
      rw [hid, hfresh] at habove
      cases habove
    rw [if_pos hid, if_pos hid, Option.map_some, editAt, if_neg hne]
  · rw [if_neg hid, if_neg hid]

/-- A parent that gets a child lists it besides those it listed before. -/
theorem get?_editAt_listing (habove : t.node? parent = some above)
    (hfree : above.children.get? leaf.name = none) {id : ResourceId} {node : Node η}
    (hid : t.node? id = some node) {new child : ResourceId} {name : String} :
    (editAt parent (listing leaf.name new) id node).children.get? name = some child ↔
      id = parent ∧ name = leaf.name ∧ child = new ∨ node.children.get? name = some child := by
  unfold editAt
  by_cases h : id = parent
  · subst h
    obtain rfl := Option.some.inj (habove.symm.trans hid)
    rw [if_pos rfl, listing, OrderedMap.get?_insert]
    by_cases hname : name = leaf.name
    · subst hname
      simp [hfree, eq_comm]
    · simp [hname]
  · simp [h]

/-- A leaf below a parent that lists no other child of its name keeps a tree well formed. -/
theorem WellFormed.withChild (wf : t.WellFormed) (habove : t.node? parent = some above)
    (hfree : above.children.get? leaf.name = none)
    (hname : leaf.name ≠ "" ∧ '/' ∉ leaf.name.toList)
    (hleaf : leaf.parent = some parent) (hempty : leaf.children = .empty) :
    (t.withChild parent leaf).WellFormed := by
  have hnode := node?_withChild wf habove leaf
  have hnew := node?_insert_snd wf.vacant_of_mem_free leaf
  let new := (t.insert leaf).2
  let grown : ResourceId → Node η → Node η := editAt parent (listing leaf.name new)
  have hkept : ∀ (id : ResourceId) (node : Node η),
      (grown id node).name = node.name ∧ (grown id node).parent = node.parent :=
    editAt_kept (f := listing leaf.name new) (fun _ => ⟨rfl, rfl⟩) parent
  have hthere : ∀ {id node}, t.node? id = some node →
      (t.withChild parent leaf).node? id = some (grown id node) := by
    intro id node h
    rw [hnode, if_neg, h]
    · rfl
    · rintro rfl
      rw [hnew] at h
      cases h
  have hleafThere : (t.withChild parent leaf).node? new = some leaf := by rw [hnode, if_pos rfl]
  -- conversely, what there is now is the leaf or was there before
  have horigin : ∀ {id node}, (t.withChild parent leaf).node? id = some node →
      id = new ∧ node = leaf ∨ ∃ before, t.node? id = some before ∧ grown id before = node := by
    intro id node h
    rw [hnode] at h
    by_cases hid : id = new
    · rw [if_pos hid] at h
      exact .inl ⟨hid, (Option.some.inj h).symm⟩
    · rw [if_neg hid] at h
      exact .inr (Option.map_eq_some_iff.mp h)
  have hroot : (t.withChild parent leaf).root = t.root := root_insert leaf
  have hreach : ∀ {id node}, t.node? id = some node →
      ∃ steps, (t.withChild parent leaf).ancestor? steps id = some t.root := by
    intro id node h
    refine wf.reaches_root_of_parent? (P := fun _ => True) ?_ h trivial
    intro x up _ hup
    obtain ⟨node, hx, hup⟩ := parent?_eq_some_iff.mp hup
    exact ⟨parent?_eq_some_iff.mpr ⟨_, hthere hx, (hkept x node).2.trans hup⟩, trivial⟩
  -- each condition is that of the tree before, and one more case for the leaf
  constructor
  case root_live =>
    obtain ⟨root, hlive, hnone⟩ := wf.root_live
    exact ⟨_, hroot ▸ hthere hlive, (hkept _ root).2.trans hnone⟩
  case parent_live =>
    intro id node hid hne
    rcases horigin hid with ⟨rfl, rfl⟩ | ⟨before, hbefore, rfl⟩
    · exact ⟨parent, _, hleaf, hthere habove,
        (get?_editAt_listing habove hfree habove).mpr (.inl ⟨rfl, rfl, rfl⟩)⟩
    · obtain ⟨up, node, hup, hnode, hlists⟩ := wf.parent_live hbefore (hroot ▸ hne)
      refine ⟨up, _, (hkept id before).2.trans hup, hthere hnode, ?_⟩
      rw [(hkept id before).1]
      exact (get?_editAt_listing habove hfree hnode).mpr (.inr hlists)
  case child_live =>
    intro id node name child hid hchild
    rcases horigin hid with ⟨rfl, rfl⟩ | ⟨before, hbefore, rfl⟩
    · rw [hempty] at hchild
      cases hchild
    · rcases (get?_editAt_listing habove hfree hbefore).mp hchild with ⟨rfl, rfl, rfl⟩ | hold
      · exact ⟨leaf, hleafThere, hleaf, rfl⟩
      · obtain ⟨below, hbelow, hup, rfl⟩ := wf.child_live hbefore hold
        exact ⟨_, hthere hbelow, (hkept child below).2.trans hup, (hkept child below).1⟩
  case name_valid =>
    intro id node hid hne
    rcases horigin hid with ⟨rfl, rfl⟩ | ⟨before, hbefore, rfl⟩
    · exact hname
    · rw [(hkept id before).1]
      exact wf.name_valid hbefore (hroot ▸ hne)
  case reaches_root =>
    intro id hid
    obtain ⟨node, hnode⟩ := Option.isSome_iff_exists.mp hid
    rw [hroot]
    rcases horigin hnode with ⟨rfl, rfl⟩ | ⟨before, hbefore, -⟩
    · obtain ⟨steps, hsteps⟩ := hreach habove
      refine ⟨steps + 1, Option.bind_eq_some_iff.mpr ⟨parent, ?_, hsteps⟩⟩
      exact parent?_eq_some_iff.mpr ⟨node, hleafThere, hleaf⟩
    · exact hreach hbefore
  case free_nodup => exact (wf.free_insert leaf).1
  case mem_free_iff =>
    intro index
    exact ((wf.free_insert leaf).2 index).trans (vacant_modify_iff _ parent _ index).symm

end withChild

/-- Adding a resource keeps a tree well formed, whether it succeeds or not. -/
theorem WellFormed.addChild {t : Tree η} (wf : t.WellFormed) (parent : ResourceId)
    (profile : Profile) (handler : η) : (t.addChild parent profile handler).1.WellFormed := by
  rcases addChild_cases t parent profile handler with
    ⟨e, h⟩ | ⟨hname, above, habove, hfree, h⟩
  · rw [h]
    exact wf
  · rw [h]
    exact wf.withChild habove hfree hname rfl rfl

end Coap.Tree
