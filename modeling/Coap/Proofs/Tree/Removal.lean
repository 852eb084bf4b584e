import Coap.Proofs.Tree.Paths
import Coap.Proofs.Tree.Subtree

/-!
# A removed subtree

A removal takes away the subtree of a resource and nothing else. The subtree is what hangs below the
resource, which is what has its path as a beginning: the way up from a resource leads over those whose
routes are prefixes of its own. What is left keeps its node, except that the parent of the removed
resource lists it no more, and so it keeps its route and its path.

* `Tree.Absent` — what a tree says of an id that names nothing.
* `Tree.Route.below_iff_prefix` — below a resource, and its path as a beginning.
* `Tree.WellFormed.node?_remove` — the nodes that are left.
* `Tree.remove_subtree_run` — removals in every tree there ever is.
-/

namespace Coap.Tree

variable {η : Type u} {t : Tree η} {id x : ResourceId}

/-! ### Absent resources -/

/-- **Absence.** A tree knows nothing of a resource, and refuses to do anything to it or below it. -/
structure Absent (t : Tree η) (id : ResourceId) : Prop where
  contains : t.contains id = false
  child : ∀ name, t.child? id name = none
  children : t.children id = []
  parent : t.parent? id = none
  path : t.pathOf id = none
  handler : t.handler? id = none
  attributes : t.attributes? id = none
  observable : t.isObservable id = false
  setAttributes : ∀ attributes, t.setAttributes id attributes = (t, .error .removed)
  setObservable : ∀ observable, t.setObservable id observable = (t, .error .removed)
  addChild : ∀ profile handler, validName profile.name = true →
    t.addChild id profile handler = (t, .error .removed)
  remove : t.remove id = (t, false)

theorem contains_eq_false_iff : t.contains id = false ↔ t.node? id = none := by
  rw [contains, Option.isSome_eq_false_iff, Option.isNone_iff_eq_none]

/-- What is not there is absent. -/
theorem absent_iff : t.Absent id ↔ t.contains id = false := by
  refine ⟨Absent.contains, fun hcontains => ?_⟩
  have hnode := contains_eq_false_iff.mp hcontains
  constructor
  case contains => exact hcontains
  case child => exact fun name => by rw [child?, hnode, Option.bind_none]
  case children => rw [children, hnode]
  case parent => rw [parent?, hnode, Option.bind_none]
  case path => rw [pathOf, segmentsOf, climb, hnode, Option.map_none]
  case handler => rw [handler?, hnode, Option.map_none]
  case attributes => rw [attributes?, hnode, Option.map_none]
  case observable => rw [isObservable, hnode]
  case setAttributes => exact fun _ => by rw [Tree.setAttributes, hcontains, if_neg Bool.false_ne_true]
  case setObservable => exact fun _ => by rw [Tree.setObservable, hcontains, if_neg Bool.false_ne_true]
  case addChild => exact fun _ _ hname => by simp [Tree.addChild, hname, hnode]
  case remove =>
    unfold Tree.remove
    by_cases hroot : id = t.root
    · rw [if_pos hroot]
    · rw [if_neg hroot, hnode]

/-! ### Below and behind -/

/-- What is above the parent of a resource is above the resource. -/
theorem Below.of_parent {top parent : ResourceId} (h : t.Below top parent)
    (hparent : t.parent? id = some parent) : t.Below top id := by
  obtain ⟨steps, hsteps⟩ := h
  exact ⟨steps + 1, Option.bind_eq_some_iff.mpr ⟨parent, hparent, hsteps⟩⟩

/-- There is one resource at most at the end of a route. -/
theorem Route.id_unique (wf : t.WellFormed) {names : List String} (route : t.Route names id)
    (other : t.Route names x) : id = x := by
  rw [← wf.descend_root_eq_some_iff] at route other
  exact Option.some.inj (route.symm.trans other)

/-- **Prefixes.** The way up from a resource leads over those whose routes are prefixes of its own. -/
theorem Route.below_iff_prefix (wf : t.WellFormed) {top names : List String}
    (above : t.Route top id) (route : t.Route names x) : t.Below id x ↔ top <+: names := by
  constructor
  · rintro ⟨steps, hsteps⟩
    induction steps generalizing x names with
    | zero =>
      obtain rfl : x = id := Option.some.inj hsteps
      obtain rfl := above.names_unique wf route
      exact List.prefix_refl _
    | succ steps ih =>
      obtain ⟨up, hup, hsteps⟩ := Option.bind_eq_some_iff.mp hsteps
      obtain ⟨node, hnode, hparent⟩ := parent?_eq_some_iff.mp hup
      cases route with
      | root live => exact absurd rfl (wf.ne_root_of_parent hnode hparent)
      | child upper live below =>
        obtain rfl := Option.some.inj (hnode.symm.trans live)
        obtain rfl := Option.some.inj (hparent.symm.trans below)
        exact (ih upper hsteps).trans (List.prefix_append _ _)
  · intro hprefix
    induction route with
    | root live =>
      obtain rfl := List.prefix_nil.mp hprefix
      rw [above.eq_root]
      exact t.below_self _
    | child upper live below ih =>
      rcases List.prefix_concat_iff.mp hprefix with rfl | hprefix
      · rw [above.id_unique wf (.child upper live below)]
        exact t.below_self _
      · exact (ih hprefix).of_parent (parent?_eq_some_iff.mpr ⟨_, live, below⟩)

/-! ### What is left -/

@[simp] theorem root_remove (t : Tree η) (id : ResourceId) : (t.remove id).1.root = t.root := by
  rcases remove_cases t id with heq | ⟨node, parent, -, -, heq⟩
  · rw [heq]
  · rw [heq]

/-- The root is not removed. -/
theorem remove_root (t : Tree η) : t.remove t.root = (t, false) := if_pos rfl

/-- A resource with nothing below it leaves its slot and its parent. -/
theorem remove_of_leaf {node : Node η} {parent : ResourceId} (hroot : id ≠ t.root)
    (hid : t.node? id = some node) (hparent : node.parent = some parent)
    (hleaf : node.children = .empty) :
    t.remove id =
      ({ t with
          slots := retire (t.modify parent (unlisting node.name)).slots id
          free := id.index :: t.free }, true) := by
  have hcut : nodeIn? (t.modify parent (unlisting node.name)).slots id =
      some (editAt parent (unlisting node.name) id node) :=
    node?_modify_eq_some_iff.mpr ⟨node, hid, rfl⟩
  have hnone : (editAt parent (unlisting node.name) id node).children.values = [] := by
    unfold editAt
    split
    · rw [unlisting, hleaf]
      rfl
    · rw [hleaf]
      rfl
  have hrelease : release (t.modify parent (unlisting node.name)).slots t.free [id] =
      (retire (t.modify parent (unlisting node.name)).slots id, id.index :: t.free) := by
    rw [release]
    split
    · next held hheld =>
      obtain rfl := Option.some.inj (hcut.symm.trans hheld)
      rw [hnone, List.nil_append, release]
    · next hgone => cases hcut.symm.trans hgone
  rw [remove, if_neg hroot, hid]
  simp only [hparent]
  exact congrArg (fun freed : List (Slot η) × List Nat =>
    (({ t with slots := freed.1, free := freed.2 } : Tree η), true)) hrelease

namespace WellFormed

/-- Everything there but the root can be removed. -/
theorem remove_snd (wf : t.WellFormed) (hid : t.contains id = true) (hroot : id ≠ t.root) :
    (t.remove id).2 = true := by
  obtain ⟨node, hnode⟩ := contains_iff.mp hid
  obtain ⟨parent, above, hparent, -, -⟩ := wf.parent_live hnode hroot
  rw [Tree.remove, if_neg hroot, hnode]
  simp only [hparent]

/-- **What is left.** What is not below the removed resource keeps its node, except that the parent
of that resource lists it no more. -/
theorem node?_remove (wf : t.WellFormed) (h : (t.remove id).2 = true) :
    ∃ node parent, t.node? id = some node ∧ node.parent = some parent ∧
      ∀ x, ¬ t.Below id x →
        (t.remove id).1.node? x = (t.node? x).map (editAt parent (unlisting node.name) x) := by
  obtain ⟨node, parent, hid, hparent, heq⟩ := (remove_cases t id).resolve_left fun heq => by
    rw [heq] at h
    cases h
  refine ⟨node, parent, hid, hparent, fun x hx => ?_⟩
  cases hbefore : t.node? x with
  | none =>
    refine contains_eq_false_iff.mp (Bool.eq_false_iff.mpr fun hleft => ?_)
    have hthere := ((wf.contains_remove_iff h).mp hleft).1
    rw [contains_eq_false_iff.mpr hbefore] at hthere
    cases hthere
  | some before =>
    have hthere := (wf.contains_remove_iff h).mpr ⟨contains_iff.mpr ⟨before, hbefore⟩, hx⟩
    obtain ⟨left, hleft⟩ := contains_iff.mp hthere
    rw [hleft]
    rw [heq] at hleft
    obtain ⟨before', hbefore', rfl⟩ := node?_modify_eq_some_iff.mp (nodeIn?_of_release hleft).2
    rw [Option.some.inj (hbefore.symm.trans hbefore'), Option.map_some]

/-- The children that a resource still lists are those other than the removed one. -/
theorem entries_unlisting (wf : t.WellFormed) {node before : Node η} {parent : ResourceId}
    (hid : t.node? id = some node) (hparent : node.parent = some parent)
    (hx : t.node? x = some before) :
    (editAt parent (unlisting node.name) x before).children.entries =
      before.children.entries.filter fun child => child.2 ≠ id := by
  refine OrderedMap.Ascending.eq_of_mem_iff (OrderedMap.ascending _)
    (List.Pairwise.filter _ before.children.ascending) ?_
  rintro ⟨name, child⟩
  rw [← OrderedMap.get?_eq_some_iff, get?_editAt_unlisting, List.mem_filter, decide_eq_true_iff,
    ← OrderedMap.get?_eq_some_iff, and_comm]
  refine and_congr_right fun hlists => not_congr ?_
  obtain ⟨below, hbelow, hup, rfl⟩ := wf.child_live hx hlists
  constructor
  · rintro ⟨rfl, hname⟩
    obtain ⟨above, habove, hlistsId⟩ := wf.parent_lists hid hparent
    obtain rfl := Option.some.inj (hx.symm.trans habove)
    rw [hname, hlistsId] at hlists
    exact (Option.some.inj hlists).symm
  · rintro rfl
    obtain rfl := Option.some.inj (hid.symm.trans hbelow)
    exact ⟨Option.some.inj (hup.symm.trans hparent), rfl⟩

end WellFormed

/-- A resource is left as it was, except that it does not list one that is gone. -/
structure Kept (t t' : Tree η) (gone x : ResourceId) : Prop where
  contains : t'.contains x = true
  path : t'.pathOf x = t.pathOf x
  parent : t'.parent? x = t.parent? x
  handler : t'.handler? x = t.handler? x
  attributes : t'.attributes? x = t.attributes? x
  observable : t'.isObservable x = t.isObservable x
  children : t'.children x = (t.children x).filter fun child => child.2 ≠ gone

/-- What is left keeps its route. -/
theorem Route.remove (wf : t.WellFormed) (h : (t.remove id).2 = true) {names : List String}
    (route : t.Route names x) (hx : ¬ t.Below id x) : (t.remove id).1.Route names x := by
  obtain ⟨node, parent, -, -, hleft⟩ := wf.node?_remove h
  induction route with
  | root live =>
    have hthere := (wf.contains_remove_iff h).mpr ⟨live, hx⟩
    rw [← root_remove t id] at hthere ⊢
    exact .root hthere
  | @child names up x before above live below ih =>
    have hup : ¬ t.Below id up := fun hup =>
      hx (hup.of_parent (parent?_eq_some_iff.mpr ⟨before, live, below⟩))
    have hnode := hleft x hx
    rw [live, Option.map_some] at hnode
    have hkept := editAt_kept (f := unlisting node.name) (fun _ => ⟨rfl, rfl⟩) parent x before
    rw [← hkept.1]
    exact .child (ih hup) hnode (hkept.2.trans below)

/-- A removed resource leaves its path to nobody. -/
theorem WellFormed.pathOf_remove_ne (wf : t.WellFormed) (h : (t.remove id).2 = true) {path : String}
    (hpath : t.pathOf id = some path) (other : ResourceId) :
    (t.remove id).1.pathOf other ≠ some path := by
  intro hother
  obtain ⟨names, route, rfl⟩ := (wf.remove id).pathOf_eq_some_iff.mp hother
  obtain ⟨hthere, hbelow⟩ := (wf.contains_remove_iff h).mp route.contains
  obtain ⟨before, hbefore⟩ := wf.exists_route hthere
  obtain rfl := route.names_unique (wf.remove id) (hbefore.remove wf h hbelow)
  obtain rfl := wf.pathOf_injective hthere ((hbefore.pathOf_eq wf).trans hpath.symm)
  exact hbelow ⟨0, rfl⟩

/-- What is not below the removed resource is left as it was. -/
theorem WellFormed.kept_remove (wf : t.WellFormed) (h : (t.remove id).2 = true)
    (hx : t.contains x = true) (hbelow : ¬ t.Below id x) : t.Kept (t.remove id).1 id x := by
  obtain ⟨node, parent, hid, hparent, hleft⟩ := wf.node?_remove h
  obtain ⟨before, hbefore⟩ := contains_iff.mp hx
  have hnode := hleft x hbelow
  rw [hbefore, Option.map_some] at hnode
  have hedit := editAt_children (f := unlisting node.name) (fun _ => rfl) parent x before
  constructor
  case contains => exact contains_iff.mpr ⟨_, hnode⟩
  case path =>
    obtain ⟨names, route⟩ := wf.exists_route hx
    rw [route.pathOf_eq wf, (route.remove wf h hbelow).pathOf_eq (wf.remove id)]
  case parent =>
    rw [parent?, parent?, hnode, hbefore, hedit]
    rfl
  case handler =>
    rw [handler?, handler?, hnode, hbefore, hedit]
    rfl
  case attributes =>
    rw [attributes?, attributes?, hnode, hbefore, hedit]
    rfl
  case observable => rw [isObservable, isObservable, hnode, hbefore, hedit]
  case children =>
    rw [children, children, hnode, hbefore]
    exact wf.entries_unlisting hid hparent hbefore

/-- Only the parent of a resource lists it. -/
theorem WellFormed.children_of_ne_parent (wf : t.WellFormed) (h : t.parent? id ≠ some x) :
    ((t.children x).filter fun child => child.2 ≠ id) = t.children x := by
  refine List.filter_eq_self.mpr fun ⟨name, child⟩ hmem => decide_eq_true ?_
  rintro rfl
  unfold children at hmem
  cases hx : t.node? x with
  | none => simp [hx] at hmem
  | some node =>
    rw [hx] at hmem
    obtain ⟨below, hbelow, hup, -⟩ := wf.child_live hx (OrderedMap.get?_eq_some_iff.mpr hmem)
    exact h (parent?_eq_some_iff.mpr ⟨below, hbelow, hup⟩)

/-- **Removed subtrees.** In every tree there ever is, any resource but the root can be removed. What
is absent then is what was absent before and what has the path of that resource as a beginning, piece by
piece; every other resource is left as it was, but for the entry in the parent of the removed one. The
root is not removed, and neither is what is not there. -/
theorem remove_subtree_run (profile : Profile) (handler : η) (ops : List (Op η)) (id : ResourceId) :
    let t := (withRoot profile handler).run ops
    let after := t.remove id
    (id = t.root ∨ t.contains id = false → after = (t, false)) ∧
    (t.contains id = true → id ≠ t.root →
      after.2 = true ∧ (∀ x, t.contains x = false → after.1.Absent x) ∧
      ∃ top, t.pathOf id = some top ∧
        ∀ x, t.contains x = true → ∃ path, t.pathOf x = some path ∧
          (Text.pieces '/' top <+: Text.pieces '/' path → after.1.Absent x) ∧
          (¬ Text.pieces '/' top <+: Text.pieces '/' path →
            t.Kept after.1 id x ∧
            (t.parent? id ≠ some x → after.1.children x = t.children x))) := by
  intro t after
  have wf : t.WellFormed := wellFormed_run profile handler ops
  refine ⟨?_, fun hid hroot => ?_⟩
  · rintro (rfl | habsent)
    · exact t.remove_root
    · exact (absent_iff.mpr habsent).remove
  · have h : after.2 = true := wf.remove_snd hid hroot
    obtain ⟨top, above⟩ := wf.exists_route hid
    refine ⟨h, fun x hx => ?_, _, above.pathOf_eq wf, fun x hx => ?_⟩
    · refine absent_iff.mpr (Bool.eq_false_iff.mpr fun hleft => ?_)
      rw [((wf.contains_remove_iff h).mp hleft).1] at hx
      cases hx
    · obtain ⟨names, route⟩ := wf.exists_route hx
      refine ⟨_, route.pathOf_eq wf, ?_⟩
      rw [above.pieces_path wf, route.pieces_path wf, ← above.below_iff_prefix wf route]
      constructor
      · intro hbelow
        refine absent_iff.mpr (Bool.eq_false_iff.mpr fun hleft => ?_)
        exact ((wf.contains_remove_iff h).mp hleft).2 hbelow
      · intro hbelow
        have kept := wf.kept_remove h hx hbelow
        exact ⟨kept, fun hparent => kept.children.trans (wf.children_of_ne_parent hparent)⟩

/-- Without the porch there is no lamp, the root has nothing below it, and it cannot be removed. -/
theorem remove_subtree_porch :
    (porch.remove ⟨1, 0⟩).2 = true ∧ (porch.remove ⟨1, 0⟩).1.Absent ⟨2, 0⟩ ∧
      porch.Kept (porch.remove ⟨1, 0⟩).1 ⟨1, 0⟩ ⟨0, 0⟩ ∧
        porch.remove ⟨0, 0⟩ = (porch, false) := by
  have hrun := remove_subtree_run default ()
    [.add { (default : Profile) with name := "porch" } (),
      .addAt "porch" { (default : Profile) with name := "lamp" } ()]
  have hpaths : porch.pathOf ⟨0, 0⟩ = some "/" ∧ porch.pathOf ⟨1, 0⟩ = some "/porch" ∧
      porch.pathOf ⟨2, 0⟩ = some "/porch/lamp" := by decide
  obtain ⟨hremoved, -, top, htop, hrest⟩ := (hrun ⟨1, 0⟩).2 rfl (by decide)
  obtain rfl := Option.some.inj (hpaths.2.1.symm.trans htop)
  obtain ⟨path, hpath, hroot⟩ := hrest ⟨0, 0⟩ rfl
  obtain rfl := Option.some.inj (hpaths.1.symm.trans hpath)
  obtain ⟨path, hpath, hlamp⟩ := hrest ⟨2, 0⟩ rfl
  obtain rfl := Option.some.inj (hpaths.2.2.symm.trans hpath)
  exact ⟨hremoved, hlamp.1 (by decide), (hroot.2 (by decide)).1, (hrun ⟨0, 0⟩).1 (.inl rfl)⟩

end Coap.Tree
