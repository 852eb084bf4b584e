import Coap.Proofs.Tree.Issued
import Coap.Proofs.Tree.Walk

/-!
# Additions

An addition is refused, and then nothing changes, or it puts one leaf into the tree. The leaf may get the
slot of a resource that is gone, but not its id. It has a route of its own, the one to its parent with
its name behind it; all other routes are as they were, and so are all other nodes, except that the parent
lists one child more.

* `Tree.addChild_outcome` — the reasons to refuse an addition, in the order in which they are looked at.
* `Tree.WellFormed.route_withChild_iff` — the routes in a tree with one leaf more.
* `Tree.Grown` — such a tree for all who ask; by `Tree.WellFormed.grown_addChild`, an addition that is
  not refused makes one.
* `Tree.additions_run` — additions to every tree there ever is.
-/

namespace Coap.Tree

variable {η : Type u} {t : Tree η} {parent x : ResourceId} {profile : Profile} {handler : η}

/-! ### Refusals -/

theorem child?_of_node? {node : Node η} (h : t.node? parent = some node) (name : String) :
    t.child? parent name = node.children.get? name := by
  rw [child?, h, Option.bind_some]

/-- **Outcomes.** A name that no resource may have, a parent that is not there, a name that is taken, or
else one leaf more. -/
theorem addChild_outcome (t : Tree η) (parent : ResourceId) (profile : Profile) (handler : η) :
    let name := profile.name
    let result := t.addChild parent profile handler
    let leaf := Node.ofProfile profile handler (some parent)
    (validName name = false ∧ result = (t, .error (.invalidName name))) ∨
    (validName name = true ∧ t.contains parent = false ∧ result = (t, .error .removed)) ∨
    (validName name = true ∧ t.contains parent = true ∧ (∃ other, t.child? parent name = some other) ∧
      result = (t, .error (.nameTaken name))) ∨
    (validName name = true ∧ t.contains parent = true ∧ t.child? parent name = none ∧
      result = (t.withChild parent leaf, .ok (t.insert leaf).2)) := by
  intro name result leaf
  cases hname : validName name with
  | false => exact .inl ⟨rfl, by simp [result, addChild, name, hname]⟩
  | true =>
    cases hparent : t.node? parent with
    | none =>
      have habsent := contains_eq_false_iff.mpr hparent
      exact .inr (.inl ⟨rfl, habsent, (absent_iff.mpr habsent).addChild profile handler hname⟩)
    | some above =>
      have hthere := contains_iff.mpr ⟨above, hparent⟩
      rw [child?_of_node? hparent]
      cases hchild : above.children.get? name with
      | some other =>
        refine .inr (.inr (.inl ⟨rfl, hthere, ⟨other, rfl⟩, ?_⟩))
        simp [result, addChild, name, hname, hparent, OrderedMap.contains, hchild]
      | none =>
        refine .inr (.inr (.inr ⟨rfl, hthere, rfl, ?_⟩))
        simp [result, addChild, name, hname, hparent, OrderedMap.contains, hchild]
        exact ⟨rfl, rfl⟩

/-! ### Routes -/

section withChild

variable {above leaf : Node η} {names : List String}

/-- Nothing that is there has the id of the leaf. -/
theorem WellFormed.ne_insert (wf : t.WellFormed) (leaf : Node η) {node : Node η}
    (h : t.node? x = some node) : x ≠ (t.insert leaf).2 := by
  rintro rfl
  cases (node?_insert_snd wf.vacant_of_mem_free leaf).symm.trans h

/-- What was there is there, with its name and its parent. -/
theorem WellFormed.node?_withChild_of_node? (wf : t.WellFormed) (habove : t.node? parent = some above)
    (leaf : Node η) {node : Node η} (h : t.node? x = some node) :
    (t.withChild parent leaf).node? x =
      some (editAt parent (listing leaf.name (t.insert leaf).2) x node) := by
  rw [node?_withChild wf habove, if_neg (wf.ne_insert leaf h), h, Option.map_some]

/-- Routes stay. -/
theorem Route.withChild (wf : t.WellFormed) (habove : t.node? parent = some above) (leaf : Node η)
    (route : t.Route names x) : (t.withChild parent leaf).Route names x := by
  have hroot : (t.withChild parent leaf).root = t.root := root_insert leaf
  induction route with
  | root live =>
    obtain ⟨root, hlive⟩ := contains_iff.mp live
    have hstill := contains_iff.mpr ⟨_, wf.node?_withChild_of_node? habove leaf hlive⟩
    rw [← hroot] at hstill ⊢
    exact .root hstill
  | @child names up x node _ live below ih =>
    have hkept := editAt_kept (f := listing leaf.name (t.insert leaf).2) (fun _ => ⟨rfl, rfl⟩) parent
      x node
    rw [← hkept.1]
    exact .child ih (wf.node?_withChild_of_node? habove leaf live) (hkept.2.trans below)

/-- **Routes.** A leaf has the route to its parent with its name behind it, and no other route is new. -/
theorem WellFormed.route_withChild_iff (wf : t.WellFormed) (habove : t.node? parent = some above)
    (hleaf : leaf.parent = some parent) :
    (t.withChild parent leaf).Route names x ↔
      t.Route names x ∨
        x = (t.insert leaf).2 ∧ ∃ front, t.Route front parent ∧ names = front ++ [leaf.name] := by
  constructor
  · intro route
    induction route with
    | root live =>
      rw [show (t.withChild parent leaf).root = t.root from root_insert leaf]
      exact .inl wf.route_root
    | @child names up x node _ live below ih =>
      rw [node?_withChild wf habove] at live
      -- the parent was there before, whatever the route leads to, so that it has an old route
      by_cases hx : x = (t.insert leaf).2
      · rw [if_pos hx] at live
        obtain rfl := Option.some.inj live
        obtain rfl := Option.some.inj (hleaf.symm.trans below)
        rcases ih with route | ⟨hnew, -⟩
        · exact .inr ⟨hx, names, route, rfl⟩
        · exact absurd hnew (wf.ne_insert leaf habove)
      · rw [if_neg hx] at live
        obtain ⟨before, hbefore, rfl⟩ := Option.map_eq_some_iff.mp live
        have hkept := editAt_kept (f := listing leaf.name (t.insert leaf).2) (fun _ => ⟨rfl, rfl⟩)
          parent x before
        rw [hkept.2] at below
        rw [hkept.1]
        obtain ⟨node', hnode', -⟩ := wf.parent_lists hbefore below
        rcases ih with route | ⟨hnew, -⟩
        · exact .inl (.child route hbefore below)
        · exact absurd hnew (wf.ne_insert leaf hnode')
  · rintro (route | ⟨rfl, front, route, rfl⟩)
    · exact route.withChild wf habove leaf
    · refine .child (route.withChild wf habove leaf) ?_ hleaf
      rw [node?_withChild wf habove, if_pos rfl]

end withChild

/-! ### One leaf more -/

/-- **Growth.** A tree has one leaf more than another, below a parent at the end of some names. The id of
the leaf is that of no resource that is there or was in the same slot before; the nodes of all other ids
are the same, except that the parent lists the leaf; all other lookups and paths are the same, and the
walk has one entry more. -/
structure Grown (t t' : Tree η) (names : List String) (parent new : ResourceId) (leaf : Node η) :
    Prop where
  fresh : ¬ t.Known new
  node : t'.node? new = some leaf
  root : t'.root = t.root
  others : ∀ x, x ≠ new →
    t'.node? x = (t.node? x).map (editAt parent (listing leaf.name new) x)
  path : t'.pathOf new = some ("/" ++ Text.join "/" (names ++ [leaf.name]))
  paths : ∀ x, x ≠ new → t'.pathOf x = t.pathOf x
  lookups : ∀ segments, t'.findSegments segments =
    if (segments.filter fun s => !s.isEmpty) = names ++ [leaf.name] then some new
    else t.findSegments segments
  walk : ∃ front back, t.walk = front ++ back ∧
    t'.walk = front ++ entryOf new (names ++ [leaf.name]) leaf :: back

section Growth

variable {above leaf : Node η} {names : List String}

/-- A resource whose node only lists a child more is described by the same entries, if its path stays. -/
theorem describes_congr {t' : Tree η} {e : TreeEntry} {name : String} {new : ResourceId}
    (hnode : t'.node? e.id = (t.node? e.id).map (editAt parent (listing name new) e.id))
    (hpath : t'.pathOf e.id = t.pathOf e.id) : t'.Describes e ↔ t.Describes e := by
  have hsame : t'.attributes? e.id = t.attributes? e.id ∧ t'.isObservable e.id = t.isObservable e.id ∧
      (t'.node? e.id).map (·.visible) = (t.node? e.id).map (·.visible) := by
    unfold attributes? isObservable
    rw [hnode]
    cases t.node? e.id with
    | none => exact ⟨rfl, rfl, rfl⟩
    | some node =>
      rw [Option.map_some, editAt_children (f := listing name new) (fun _ => rfl)]
      exact ⟨rfl, rfl, rfl⟩
  obtain ⟨hattributes, hobservable, hvisible⟩ := hsame
  constructor
  · exact fun h => ⟨hpath ▸ h.path, hattributes ▸ h.attributes, hobservable ▸ h.observable,
      hvisible ▸ h.visible⟩
  · exact fun h => ⟨hpath ▸ h.path, hattributes ▸ h.attributes, hobservable ▸ h.observable,
      hvisible ▸ h.visible⟩

section

variable (wf : t.WellFormed) (habove : t.node? parent = some above)
  (hfree : above.children.get? leaf.name = none) (hname : leaf.name ≠ "" ∧ '/' ∉ leaf.name.toList)
  (hleaf : leaf.parent = some parent) (hempty : leaf.children = .empty)
  (route : t.Route names parent)

include wf habove

theorem node?_withChild_self : (t.withChild parent leaf).node? (t.insert leaf).2 = some leaf := by
  rw [node?_withChild wf habove, if_pos rfl]

theorem node?_withChild_of_ne (hx : x ≠ (t.insert leaf).2) :
    (t.withChild parent leaf).node? x =
      (t.node? x).map (editAt parent (listing leaf.name (t.insert leaf).2) x) := by
  rw [node?_withChild wf habove, if_neg hx]

include hleaf

include route in
theorem Route.withChild_self :
    (t.withChild parent leaf).Route (names ++ [leaf.name]) (t.insert leaf).2 :=
  (wf.route_withChild_iff habove hleaf).mpr (.inr ⟨rfl, names, route, rfl⟩)

include hfree hname hempty

/-- No other path is new. -/
theorem pathOf_withChild (hx : x ≠ (t.insert leaf).2) :
    (t.withChild parent leaf).pathOf x = t.pathOf x := by
  have wf' := wf.withChild habove hfree hname hleaf hempty
  cases hthere : t.contains x with
  | true =>
    obtain ⟨names, route⟩ := wf.exists_route hthere
    rw [route.pathOf_eq wf, (route.withChild wf habove leaf).pathOf_eq wf']
  | false =>
    have hnone : (t.withChild parent leaf).node? x = none := by
      rw [node?_withChild_of_ne wf habove hx, contains_eq_false_iff.mp hthere, Option.map_none]
    rw [(absent_iff.mpr hthere).path, (absent_iff.mpr (contains_eq_false_iff.mpr hnone)).path]

include route

/-- The leaf is found at the end of its route, and nothing else is found that was not found before. -/
theorem findSegments_withChild (segments : List String) :
    (t.withChild parent leaf).findSegments segments =
      if (segments.filter fun s => !s.isEmpty) = names ++ [leaf.name] then some (t.insert leaf).2
      else t.findSegments segments := by
  have wf' := wf.withChild habove hfree hname hleaf hempty
  refine Option.ext fun x => ?_
  rw [wf'.findSegments_eq_some_iff]
  split
  · next hsegments =>
    have further := route.withChild_self wf habove hleaf
    rw [hsegments, Option.some.injEq]
    exact ⟨fun other => further.id_unique wf' other, fun hx => hx ▸ further⟩
  · next hsegments =>
    rw [wf.findSegments_eq_some_iff, wf.route_withChild_iff habove hleaf, or_iff_left]
    rintro ⟨-, front, other, heq⟩
    rw [other.names_unique wf route] at heq
    exact hsegments heq

/-- The leaf is put into the walk, and all else is listed as before. -/
theorem walk_withChild :
    ∃ front back, t.walk = front ++ back ∧
      (t.withChild parent leaf).walk =
        front ++ entryOf (t.insert leaf).2 (names ++ [leaf.name]) leaf :: back := by
  have wf' := wf.withChild habove hfree hname hleaf hempty
  have hroot : (t.withChild parent leaf).root = t.root := root_insert leaf
  have hnew : (t.withChild parent leaf).node? _ = some leaf := node?_withChild_self wf habove
  have hself := (route.withChild_self wf habove hleaf).describes wf' hnew
  have hne := hroot ▸ wf'.ne_root_of_parent hnew hleaf
  have hthere : ∀ e : TreeEntry, t.Describes e → e.id ≠ (t.insert leaf).2 := by
    intro e h
    obtain ⟨node, hlive⟩ := h.exists_node
    exact wf.ne_insert leaf hlive
  refine exists_append_of_mem_iff wf.pairwise_walk wf'.pairwise_walk (fun hmem => ?_) fun e => ?_
  · exact hthere _ (wf.mem_walk_iff.mp hmem).1 rfl
  · rw [wf'.mem_walk_iff, wf.mem_walk_iff, hroot]
    by_cases he : e.id = (t.insert leaf).2
    · constructor
      · exact fun h => .inl (h.1.unique hself he)
      · rintro (rfl | h)
        · exact ⟨hself, hne⟩
        · exact absurd he (hthere e h.1)
    · rw [describes_congr (node?_withChild_of_ne wf habove he)
        (pathOf_withChild wf habove hfree hname hleaf hempty he)]
      exact ⟨.inr, fun h => h.resolve_left fun heq => he (heq ▸ rfl)⟩

/-- **Growth** is what an addition comes to if it is not refused. -/
theorem grown_withChild : t.Grown (t.withChild parent leaf) names parent (t.insert leaf).2 leaf where
  fresh := wf.not_known_insert leaf
  node := node?_withChild_self wf habove
  root := root_insert leaf
  others _ hx := node?_withChild_of_ne wf habove hx
  path := (route.withChild_self wf habove hleaf).pathOf_eq
    (wf.withChild habove hfree hname hleaf hempty)
  paths _ hx := pathOf_withChild wf habove hfree hname hleaf hempty hx
  lookups := findSegments_withChild wf habove hfree hname hleaf hempty route
  walk := walk_withChild wf habove hfree hname hleaf hempty route

end

end Growth

/-! ### Every addition -/

/-- An addition that is not refused grows the tree, and the leaf is found at the path of its parent with
its name behind it. -/
theorem WellFormed.grown_addChild (wf : t.WellFormed) {new : ResourceId}
    (h : (t.addChild parent profile handler).2 = .ok new) :
    ∃ names path, t.Route names parent ∧ t.pathOf parent = some path ∧
      t.Grown (t.addChild parent profile handler).1 names parent new
        (.ofProfile profile handler (some parent)) ∧
      (t.addChild parent profile handler).1.findPath (path ++ "/" ++ profile.name) = some new := by
  rcases addChild_cases t parent profile handler with
    ⟨e, heq⟩ | ⟨hname, above, habove, hfree, heq⟩
  · rw [heq] at h
    cases h
  · rw [heq] at h ⊢
    obtain rfl := Except.ok.inj h
    obtain ⟨names, route⟩ := wf.exists_route (contains_iff.mpr ⟨above, habove⟩)
    have grown : t.Grown _ names parent _ (.ofProfile profile handler (some parent)) :=
      grown_withChild wf habove hfree hname rfl rfl route
    have hpieces : Text.pieces '/' ("/" ++ Text.join "/" names ++ "/" ++ profile.name) =
        names ++ [profile.name] := by
      rw [Text.pieces_append_name _ hname rfl, route.pieces_path wf]
    refine ⟨names, _, route, route.pathOf_eq wf, grown, ?_⟩
    rw [findPath, grown.lookups]
    exact if_pos hpieces

/-- **Additions.** To every tree there ever is, an addition is refused for a name that is empty or holds
a slash, or else because the parent is not there, or else because it has a child of that name. A refusal
changes nothing; without one, the tree has one leaf more, at the path of the parent with the name behind
it. An addition at a path is refused if nothing is there, whatever the name, and is otherwise one below
the resource that is there. -/
theorem additions_run (profile₀ : Profile) (handler₀ : η) (ops : List (Op η)) :
    let t := (withRoot profile₀ handler₀).run ops
    (∀ (parent : ResourceId) (profile : Profile) (handler : η),
      let name := profile.name
      let result := t.addChild parent profile handler
      let valid := name ≠ "" ∧ '/' ∉ name.toList
      ((result.2 = .error (.invalidName name) ↔ name = "" ∨ '/' ∈ name.toList) ∧
        (result.2 = .error .removed ↔ valid ∧ t.contains parent = false) ∧
        (result.2 = .error (.nameTaken name) ↔
          valid ∧ t.contains parent = true ∧ ∃ other, t.child? parent name = some other) ∧
        ((∃ new, result.2 = .ok new) ↔
          valid ∧ t.contains parent = true ∧ t.child? parent name = none) ∧
        ∀ e, result.2 = .error e →
          result.1 = t ∧ (e = .invalidName name ∨ e = .removed ∨ e = .nameTaken name)) ∧
      ∀ new, result.2 = .ok new → ∃ names path,
        t.Route names parent ∧ t.pathOf parent = some path ∧
          t.Grown result.1 names parent new (.ofProfile profile handler (some parent)) ∧
          result.1.findPath (path ++ "/" ++ name) = some new) ∧
    ∀ (path : String) (profile : Profile) (handler : η),
      let result := t.addAt path profile handler
      (result.2 = .error (.pathNotFound path) ↔ t.findPath path = none) ∧
      (t.findPath path = none → result.1 = t) ∧
      ∀ parent, t.findPath path = some parent → result = t.addChild parent profile handler := by
  intro t
  have wf : t.WellFormed := wellFormed_run profile₀ handler₀ ops
  constructor
  · intro parent profile handler name result valid
    refine ⟨?_, fun new => wf.grown_addChild⟩
    have hvalid : (validName name = true ↔ valid) := validName_iff
    have hinvalid : name = "" ∨ '/' ∈ name.toList ↔ ¬ valid := by
      simp only [valid]
      tauto
    rw [hinvalid, ← hvalid]
    rcases addChild_outcome t parent profile handler with
      ⟨hname, heq⟩ | ⟨hname, hparent, heq⟩ | ⟨hname, hparent, ⟨other, hchild⟩, heq⟩ |
        ⟨hname, hparent, hchild, heq⟩ <;>
      simp [result, name, *]
  · intro path profile handler result
    cases hfound : t.findPath path with
    | none => simp [result, addAt, hfound]
    | some parent =>
      have heq : result = t.addChild parent profile handler := by simp only [result, addAt, hfound]
      have hnot : (t.addChild parent profile handler).2 ≠ .error (.pathNotFound path) := by
        rcases addChild_outcome t parent profile handler with
          ⟨-, heq⟩ | ⟨-, -, heq⟩ | ⟨-, -, -, heq⟩ | ⟨-, -, -, heq⟩ <;> simp [heq]
      rw [heq]
      simp [hnot]

/-! ### A bell for the porch -/

/-- A resource with a name and nothing else. -/
def named (name : String) : Profile := { (default : Profile) with name }

/-- The porch has a lamp already, but no bell, and there is no attic. -/
theorem additions_porch :
    (porch.addChild ⟨1, 0⟩ (named "lamp") ()).2 = .error (.nameTaken "lamp") ∧
      (porch.addChild ⟨7, 0⟩ (named "lamp") ()).2 = .error .removed ∧
      (porch.addChild ⟨7, 0⟩ (named "a/b") ()).2 = .error (.invalidName "a/b") ∧
      (porch.addAt "/attic" (named "a/b") ()).2 = .error (.pathNotFound "/attic") ∧
      (porch.addAt "/attic" (named "a/b") ()).1 = porch ∧
      ∃ names path, porch.pathOf ⟨1, 0⟩ = some path ∧
        porch.Grown (porch.addChild ⟨1, 0⟩ (named "bell") ()).1 names ⟨1, 0⟩ ⟨3, 0⟩
          (.ofProfile (named "bell") () (some ⟨1, 0⟩)) ∧
        (porch.addChild ⟨1, 0⟩ (named "bell") ()).1.findPath (path ++ "/" ++ "bell") =
          some ⟨3, 0⟩ := by
  obtain ⟨hchild, hat⟩ := additions_run default ()
    [.add { (default : Profile) with name := "porch" } (),
      .addAt "porch" { (default : Profile) with name := "lamp" } ()]
  obtain ⟨⟨-, -, htaken, -, -⟩, -⟩ := hchild ⟨1, 0⟩ (named "lamp") ()
  obtain ⟨⟨-, hremoved, -, -, -⟩, -⟩ := hchild ⟨7, 0⟩ (named "lamp") ()
  obtain ⟨⟨hinvalid, -, -, -, -⟩, -⟩ := hchild ⟨7, 0⟩ (named "a/b") ()
  obtain ⟨hpath, hsame, -⟩ := hat "/attic" (named "a/b") ()
  obtain ⟨-, hgrown⟩ := hchild ⟨1, 0⟩ (named "bell") ()
  obtain ⟨names, path, -, habove, grown, hfound⟩ := hgrown ⟨3, 0⟩ (by decide)
  exact ⟨htaken.mpr ⟨by decide, by decide, ⟨2, 0⟩, by decide⟩, hremoved.mpr (by decide),
    hinvalid.mpr (by decide), hpath.mpr (by decide), hsame (by decide), names, path, habove, grown,
    hfound⟩

end Coap.Tree
