import Coap.Proofs.Text.Pieces
import Coap.Proofs.Tree.Run
import Mathlib.Data.List.Perm.Subperm

/-!
# Paths

A path is found by climbing from a resource to the root, and a resource by descending along a path.
Both follow the same routes, and a route is known by its names, so that paths and resources stand for
each other.

* `Tree.Route` — the names on the way from the root to a resource.
* `Tree.WellFormed.exists_route`, `Tree.Route.names_unique` — each resource has one route.
* `Tree.WellFormed.pathOf_eq_some_iff`, `Tree.WellFormed.findSegments_eq_some_iff` — climbing and
  descending.
* `Tree.paths_resolve_run` — what both come to, in every tree there ever is.
-/

namespace Coap.Tree

variable {η : Type u}

/-- **Routes.** Some names lead from the root down to a resource, each to a child of the resource
before. -/
inductive Route (t : Tree η) : List String → ResourceId → Prop where
  /-- No name leads to the root. -/
  | root (live : t.contains t.root = true) : t.Route [] t.root
  /-- The name of a resource leads to it from its parent. -/
  | child {names : List String} {parent id : ResourceId} {node : Node η}
      (above : t.Route names parent) (live : t.node? id = some node)
      (below : node.parent = some parent) : t.Route (names ++ [node.name]) id

variable {t : Tree η} {id : ResourceId} {node : Node η} {names : List String}

theorem contains_iff : t.contains id = true ↔ ∃ node, t.node? id = some node :=
  Option.isSome_iff_exists

/-- Routes lead to resources that are there. -/
theorem Route.contains (route : t.Route names id) : t.contains id = true := by
  cases route with
  | root live => exact live
  | child above live below => exact contains_iff.mpr ⟨_, live⟩

theorem Route.eq_root (route : t.Route [] id) : id = t.root := by
  generalize hnames : [] = names at route
  cases route with
  | root live => rfl
  | child above live below => simp at hnames

/-! ### One route for each resource -/

namespace WellFormed

/-- What is below another resource is not the root. -/
theorem ne_root_of_parent (wf : t.WellFormed) (hid : t.node? id = some node) {parent : ResourceId}
    (hparent : node.parent = some parent) : id ≠ t.root := by
  intro hroot
  rw [(wf.parent_eq_none_iff hid).mpr hroot] at hparent
  cases hparent

/-- A parent is there, and lists its child. -/
theorem parent_lists (wf : t.WellFormed) (hid : t.node? id = some node) {parent : ResourceId}
    (hparent : node.parent = some parent) :
    ∃ above, t.node? parent = some above ∧ above.children.get? node.name = some id := by
  obtain ⟨parent', above, hparent', habove, hlists⟩ :=
    wf.parent_live hid (wf.ne_root_of_parent hid hparent)
  obtain rfl := Option.some.inj (hparent.symm.trans hparent')
  exact ⟨above, habove, hlists⟩

/-- There is a route to every resource. -/
theorem exists_route (wf : t.WellFormed) (h : t.contains id = true) : ∃ names, t.Route names id := by
  obtain ⟨steps, hsteps⟩ := wf.reaches_root h
  induction steps generalizing id with
  | zero =>
    obtain rfl : id = t.root := Option.some.inj hsteps
    exact ⟨[], .root h⟩
  | succ steps ih =>
    obtain ⟨parent, hparent, habove⟩ := Option.bind_eq_some_iff.mp hsteps
    obtain ⟨node, hid, hparent⟩ := parent?_eq_some_iff.mp hparent
    obtain ⟨above, hlive, -⟩ := wf.parent_lists hid hparent
    obtain ⟨names, route⟩ := ih (contains_iff.mpr ⟨above, hlive⟩) habove
    exact ⟨_, .child route hid hparent⟩

end WellFormed

/-- There is one route at most to a resource. -/
theorem Route.names_unique (wf : t.WellFormed) {names' : List String} (route : t.Route names id)
    (route' : t.Route names' id) : names = names' := by
  induction route generalizing names' with
  | root live =>
    cases route' with
    | root => rfl
    | child above' live' below' => exact absurd rfl (wf.ne_root_of_parent live' below')
  | child above live below ih =>
    cases route' with
    | root => exact absurd rfl (wf.ne_root_of_parent live below)
    | child above' live' below' =>
      obtain rfl := Option.some.inj (live.symm.trans live')
      obtain rfl := Option.some.inj (below.symm.trans below')
      rw [ih above']

/-- The names on a route are those that resources may have. -/
theorem Route.names_valid (wf : t.WellFormed) (route : t.Route names id) :
    ∀ name ∈ names, name ≠ "" ∧ '/' ∉ name.toList := by
  induction route with
  | root live => exact fun _ h => absurd h List.not_mem_nil
  | child above live below ih =>
    intro name hname
    rcases List.mem_append.mp hname with hname | hname
    · exact ih name hname
    · obtain rfl := List.mem_singleton.mp hname
      exact wf.name_valid live (wf.ne_root_of_parent live below)

/-! ### No route is longer than there are slots -/

/-- Resources in one slot are the same. -/
theorem eq_of_index_eq {other : ResourceId} (hid : t.contains id = true)
    (hother : t.contains other = true) (hindex : id.index = other.index) : id = other := by
  obtain ⟨node, hnode⟩ := contains_iff.mp hid
  obtain ⟨node', hnode'⟩ := contains_iff.mp hother
  have hslot := nodeIn?_eq_some_iff.mp hnode
  rw [hindex, nodeIn?_eq_some_iff.mp hnode'] at hslot
  have hgeneration := congrArg Slot.generation (Option.some.inj hslot)
  cases id
  cases other
  cases hindex
  cases hgeneration
  rfl

/-- There are no more resources than slots. -/
theorem length_le_slots {ids : List ResourceId} (hnodup : ids.Nodup)
    (hlive : ∀ id ∈ ids, t.contains id = true) : ids.length ≤ t.slots.length := by
  have hindices : (ids.map ResourceId.index).Nodup := by
    refine List.pairwise_map.mpr (hnodup.imp_of_mem ?_)
    exact fun ha hb hne heq => hne (eq_of_index_eq (hlive _ ha) (hlive _ hb) heq)
  have hrange : ids.map ResourceId.index ⊆ List.range t.slots.length := by
    intro index hindex
    obtain ⟨id, hid, rfl⟩ := List.mem_map.mp hindex
    obtain ⟨node, hnode⟩ := contains_iff.mp (hlive id hid)
    exact List.mem_range.mpr (List.getElem?_eq_some_iff.mp (nodeIn?_eq_some_iff.mp hnode)).1
  simpa using (List.subperm_of_subset hindices hrange).length_le

/-- The resources on a route, its last one included, are all different. -/
theorem Route.exists_ids (wf : t.WellFormed) (route : t.Route names id) :
    ∃ ids : List ResourceId, ids.length = names.length + 1 ∧ ids.Nodup ∧
      ∀ x ∈ ids, ∃ names', t.Route names' x ∧ names'.length ≤ names.length := by
  induction route with
  | root live =>
    refine ⟨[t.root], rfl, List.pairwise_singleton _ _, fun x hx => ?_⟩
    obtain rfl := List.mem_singleton.mp hx
    exact ⟨[], .root live, Nat.le_refl _⟩
  | @child names parent id node above live below ih =>
    obtain ⟨ids, hlength, hnodup, hroutes⟩ := ih
    refine ⟨id :: ids, ?_, List.nodup_cons.mpr ⟨fun hmem => ?_, hnodup⟩, fun x hx => ?_⟩
    · rw [List.length_cons, hlength, List.length_append, List.length_singleton]
    · -- a resource that was on the route before would have a second, shorter route
      obtain ⟨names', route', hle⟩ := hroutes id hmem
      have hsame := congrArg List.length (route'.names_unique wf (.child above live below))
      rw [List.length_append, List.length_singleton] at hsame
      omega
    · rw [List.length_append, List.length_singleton]
      rcases List.mem_cons.mp hx with rfl | hx
      · exact ⟨_, .child above live below, by simp⟩
      · obtain ⟨names', route', hle⟩ := hroutes x hx
        exact ⟨names', route', Nat.le_succ_of_le hle⟩

theorem Route.length_lt (wf : t.WellFormed) (route : t.Route names id) :
    names.length < t.slots.length := by
  obtain ⟨ids, hlength, hnodup, hroutes⟩ := route.exists_ids wf
  have hle := length_le_slots hnodup fun x hx => by
    obtain ⟨names', route', -⟩ := hroutes x hx
    exact route'.contains
  omega

/-! ### Climbing -/

theorem Route.climb_eq (wf : t.WellFormed) (route : t.Route names id) {fuel : Nat}
    (hfuel : names.length < fuel) : t.climb fuel id = some names := by
  induction route generalizing fuel with
  | root live =>
    obtain ⟨fuel, rfl⟩ := Nat.exists_eq_add_of_lt hfuel
    obtain ⟨root, hroot, hnone⟩ := wf.root_live
    simp only [climb, hroot, hnone]
  | @child names parent id node above live below ih =>
    rw [List.length_append, List.length_singleton] at hfuel
    obtain ⟨fuel, rfl⟩ : ∃ n, fuel = n + 1 := ⟨fuel - 1, by omega⟩
    simp only [climb, live, below, ih (Nat.lt_of_succ_lt_succ hfuel), Option.map_some]

/-- **Climbing.** What is met on the way up from a resource are the names on the route to it. -/
theorem Route.segmentsOf_eq (wf : t.WellFormed) (route : t.Route names id) :
    t.segmentsOf id = some names :=
  route.climb_eq wf (Nat.lt_succ_of_lt (route.length_lt wf))

/-- The path of a resource has the names on the route to it. -/
theorem Route.pathOf_eq (wf : t.WellFormed) (route : t.Route names id) :
    t.pathOf id = some ("/" ++ Text.join "/" names) := by
  rw [pathOf, route.segmentsOf_eq wf]
  rfl

theorem WellFormed.pathOf_eq_some_iff (wf : t.WellFormed) {path : String} :
    t.pathOf id = some path ↔ ∃ names, t.Route names id ∧ path = "/" ++ Text.join "/" names := by
  constructor
  · intro h
    cases hid : t.contains id with
    | true =>
      obtain ⟨names, route⟩ := wf.exists_route hid
      exact ⟨names, route, Option.some.inj (h.symm.trans (route.pathOf_eq wf))⟩
    | false =>
      have hnone : t.node? id = none := by simpa [Tree.contains] using hid
      simp [pathOf, segmentsOf, climb, hnone] at h
  · rintro ⟨names, route, rfl⟩
    exact route.pathOf_eq wf

/-! ### Descending -/

/-- Descending goes on where it has come to. -/
theorem descend_append (id : ResourceId) (front back : List String) :
    t.descend id (front ++ back) = (t.descend id front).bind fun x => t.descend x back := by
  induction front generalizing id with
  | nil => rfl
  | cons name front ih =>
    rw [List.cons_append, descend, descend, Option.bind_assoc]
    exact congrArg _ (funext ih)

/-- The child of a name is the resource of that name below the parent. -/
theorem WellFormed.child?_eq_some_iff (wf : t.WellFormed) {parent : ResourceId} {name : String} :
    t.child? parent name = some id ↔
      ∃ node, t.node? id = some node ∧ node.parent = some parent ∧ node.name = name := by
  rw [child?, Option.bind_eq_some_iff]
  constructor
  · rintro ⟨above, habove, hlists⟩
    exact wf.child_live habove hlists
  · rintro ⟨node, hid, hparent, rfl⟩
    exact wf.parent_lists hid hparent

/-- **Descending.** Names lead from the root to the resource at the end of their route. -/
theorem WellFormed.descend_root_eq_some_iff (wf : t.WellFormed) :
    t.descend t.root names = some id ↔ t.Route names id := by
  constructor
  · -- the route so far is generalised: every name that is descended makes it longer
    have hextend : ∀ (front back : List String) (x : ResourceId), t.Route front x →
        t.descend x back = some id → t.Route (front ++ back) id := by
      intro front back x route h
      induction back generalizing front x with
      | nil =>
        obtain rfl := Option.some.inj h
        rwa [List.append_nil]
      | cons name back ih =>
        obtain ⟨child, hchild, hrest⟩ := Option.bind_eq_some_iff.mp h
        obtain ⟨node, hlive, hparent, rfl⟩ := wf.child?_eq_some_iff.mp hchild
        have hnext := ih _ child (.child route hlive hparent) hrest
        rwa [List.append_assoc, List.singleton_append] at hnext
    obtain ⟨root, hroot, -⟩ := wf.root_live
    exact hextend [] names t.root (.root (contains_iff.mpr ⟨root, hroot⟩))
  · intro route
    induction route with
    | root live => rfl
    | child above live below ih =>
      rw [descend_append, ih, Option.bind_some, descend,
        wf.child?_eq_some_iff.mpr ⟨_, live, below, rfl⟩]
      rfl

theorem WellFormed.findSegments_eq_some_iff (wf : t.WellFormed) {segments : List String} :
    t.findSegments segments = some id ↔ t.Route (segments.filter fun s => !s.isEmpty) id := by
  rw [findSegments, Option.filter_eq_some_iff, wf.descend_root_eq_some_iff]
  exact ⟨fun h => h.1, fun route => ⟨route, route.contains⟩⟩

theorem WellFormed.findPath_eq_some_iff (wf : t.WellFormed) {path : String} :
    t.findPath path = some id ↔ t.Route (Text.pieces '/' path) id := wf.findSegments_eq_some_iff

/-! ### There and back -/

theorem Route.filter_names (wf : t.WellFormed) (route : t.Route names id) :
    (names.filter fun s => !s.isEmpty) = names := by
  refine List.filter_eq_self.mpr fun name hname => ?_
  rw [Bool.not_eq_true', ← Bool.not_eq_true, String.isEmpty_iff]
  exact (route.names_valid wf name hname).1

/-- The pieces of the path of a resource are the names on the route to it. -/
theorem Route.pieces_path (wf : t.WellFormed) (route : t.Route names id) :
    Text.pieces '/' ("/" ++ Text.join "/" names) = names :=
  Text.pieces_join (route.names_valid wf) rfl

namespace WellFormed

variable {path : String}

/-- The path of a resource leads to it. -/
theorem findPath_pathOf (wf : t.WellFormed) (h : t.pathOf id = some path) :
    t.findPath path = some id := by
  obtain ⟨names, route, rfl⟩ := wf.pathOf_eq_some_iff.mp h
  rw [wf.findPath_eq_some_iff, route.pieces_path wf]
  exact route

/-- A path leads to a resource if it has the same pieces as that of the resource. -/
theorem findPath_eq_some_iff_pieces (wf : t.WellFormed) (h : t.pathOf id = some path)
    (other : String) :
    t.findPath other = some id ↔ Text.pieces '/' other = Text.pieces '/' path := by
  have hpath := wf.findPath_eq_some_iff.mp (wf.findPath_pathOf h)
  rw [wf.findPath_eq_some_iff]
  constructor
  · exact fun route => route.names_unique wf hpath
  · intro hpieces
    rwa [hpieces]

/-- No segment that leads anywhere holds a slash. -/
theorem findSegments_of_slash (wf : t.WellFormed) {segments : List String} {segment : String}
    (hmem : segment ∈ segments) (hslash : '/' ∈ segment.toList) :
    t.findSegments segments = none := by
  cases h : t.findSegments segments with
  | none => rfl
  | some id =>
    have route := wf.findSegments_eq_some_iff.mp h
    have hne : segment ≠ "" := by
      rintro rfl
      cases hslash
    have hkept : segment ∈ segments.filter fun s => !s.isEmpty := by
      refine List.mem_filter.mpr ⟨hmem, ?_⟩
      rwa [Bool.not_eq_true', ← Bool.not_eq_true, String.isEmpty_iff]
    exact absurd hslash (route.names_valid wf segment hkept).2

/-- In the place of its name, nothing but the name leads to a resource. -/
theorem findSegments_last_iff (wf : t.WellFormed) {name : String}
    (route : t.Route (names ++ [name]) id) (segment : String) :
    t.findSegments (names ++ [segment]) = some id ↔ segment = name := by
  have hnames := route.filter_names wf
  rw [wf.findSegments_eq_some_iff]
  constructor
  · intro other
    have hsame := (other.names_unique wf route).trans hnames.symm
    rw [List.filter_append, List.filter_append, List.append_cancel_left_eq] at hsame
    have hkept : name ∈ [name].filter fun s => !s.isEmpty := by
      have hvalid := route.names_valid wf name (List.mem_append_right _ (List.mem_singleton_self _))
      simpa [← Bool.not_eq_true, String.isEmpty_iff] using hvalid.1
    rw [← hsame] at hkept
    exact (List.mem_singleton.mp (List.mem_of_mem_filter hkept)).symm
  · rintro rfl
    rwa [hnames]

/-- What extends the path of a resource leads to the resource if it adds slashes only. -/
theorem findPath_append_iff (wf : t.WellFormed) (h : t.pathOf id = some path) (more : String) :
    t.findPath (path ++ more) = some id ↔ ∀ c ∈ more.toList, c = '/' :=
  (wf.findPath_eq_some_iff_pieces h _).trans (Text.pieces_append_eq_iff path more)

/-- No proper beginning of the path of a resource leads to the resource, unless it is the root. -/
theorem findPath_prefix_iff (wf : t.WellFormed) {more : String} (hmore : more ≠ "")
    (h : t.pathOf id = some (path ++ more)) : t.findPath path = some id ↔ id = t.root := by
  obtain ⟨names, route, hpath⟩ := wf.pathOf_eq_some_iff.mp h
  constructor
  · intro hfound
    have hslashes := (Text.pieces_append_eq_iff path more).mp
      ((wf.findPath_eq_some_iff_pieces h path).mp hfound).symm
    by_cases hnames : names = []
    · subst hnames
      exact route.eq_root
    · exact absurd hpath.symm
        (Text.join_ne_append hnames (route.names_valid wf) rfl hmore hslashes)
  · rintro rfl
    obtain rfl := route.names_unique wf (.root route.contains)
    have hlength : path.length + more.length = 1 := by
      rw [← String.length_append, hpath]
      rfl
    have hmore' : more.length ≠ 0 := fun h => hmore (String.length_eq_zero_iff.mp h)
    obtain rfl : path = "" := String.length_eq_zero_iff.mp (by omega)
    exact wf.findPath_eq_some_iff.mpr route

end WellFormed

/-- Resources with the same path are the same. -/
theorem WellFormed.pathOf_injective (wf : t.WellFormed) {other : ResourceId}
    (hid : t.contains id = true) (h : t.pathOf id = t.pathOf other) : id = other := by
  obtain ⟨names, route⟩ := wf.exists_route hid
  have hpath := route.pathOf_eq wf
  have hfound := wf.findPath_pathOf hpath
  rw [wf.findPath_pathOf (h ▸ hpath)] at hfound
  exact (Option.some.inj hfound).symm

/-- **Paths and resources stand for each other.** Whatever was done to a tree from its root on, its
paths lead to the resources they were read off, and segments lead exactly to the resources at the end
of a route along those that are not empty. So no two resources share a path, no segment with a slash
leads anywhere, and what is shorter or longer than a name does not stand for it. Slashes at the end of
a path do not count; nothing else that is shorter or longer than the path of a resource leads to it. -/
theorem paths_resolve_run (profile : Profile) (handler : η) (ops : List (Op η)) :
    let t := (withRoot profile handler).run ops
    (∀ id, t.contains id = true → ∃ path, t.pathOf id = some path ∧ t.findPath path = some id) ∧
    (∀ segments id, t.findSegments segments = some id ↔
      t.Route (segments.filter fun s => !s.isEmpty) id) ∧
    (∀ names id, t.Route names id →
      t.contains id = true ∧ t.pathOf id = some ("/" ++ Text.join "/" names)) ∧
    (∀ id other, t.contains id = true → t.pathOf id = t.pathOf other → id = other) ∧
    (∀ segments, ∀ segment ∈ segments, '/' ∈ segment.toList → t.findSegments segments = none) ∧
    (∀ names name id segment, t.Route (names ++ [name]) id →
      (t.findSegments (names ++ [segment]) = some id ↔ segment = name)) ∧
    (∀ id path more, t.pathOf id = some path →
      (t.findPath (path ++ more) = some id ↔ ∀ c ∈ more.toList, c = '/')) ∧
    ∀ id path more, more ≠ "" → t.pathOf id = some (path ++ more) →
      (t.findPath path = some id ↔ id = t.root) := by
  intro t
  have wf : t.WellFormed := wellFormed_run profile handler ops
  refine ⟨?_, ?_, ?_, ?_, ?_, ?_, ?_, ?_⟩
  · intro id hid
    obtain ⟨names, route⟩ := wf.exists_route hid
    exact ⟨_, route.pathOf_eq wf, wf.findPath_pathOf (route.pathOf_eq wf)⟩
  · exact fun segments id => wf.findSegments_eq_some_iff
  · exact fun names id route => ⟨route.contains, route.pathOf_eq wf⟩
  · exact fun id other hid h => wf.pathOf_injective hid h
  · exact fun segments segment hmem hslash => wf.findSegments_of_slash hmem hslash
  · exact fun names name id segment route => wf.findSegments_last_iff route segment
  · exact fun id path more h => wf.findPath_append_iff h more
  · exact fun id path more hmore h => wf.findPath_prefix_iff hmore h

/-! ### A lamp in a porch -/

/-- A porch below the root, and a lamp below the porch. -/
def porch : Tree Unit :=
  (withRoot default ()).run
    [.add { (default : Profile) with name := "porch" } (),
      .addAt "porch" { (default : Profile) with name := "lamp" } ()]

/-- The lamp is found at its path, and not at what is shorter or longer. -/
theorem paths_resolve_porch :
    porch.pathOf ⟨2, 0⟩ = some "/porch/lamp" ∧ porch.findPath "/porch/lamp" = some ⟨2, 0⟩ ∧
      porch.findPath "/porch/lam" ≠ some ⟨2, 0⟩ ∧ porch.findPath "/porch/lamp/x" ≠ some ⟨2, 0⟩ := by
  obtain ⟨hfound, -, -, -, -, -, hlonger, hshorter⟩ := paths_resolve_run default ()
    [.add { (default : Profile) with name := "porch" } (),
      .addAt "porch" { (default : Profile) with name := "lamp" } ()]
  have hpath : porch.pathOf ⟨2, 0⟩ = some "/porch/lamp" := by decide
  refine ⟨hpath, ?_, ?_, ?_⟩
  · obtain ⟨path, hpath', hid⟩ := hfound ⟨2, 0⟩ rfl
    obtain rfl := Option.some.inj (hpath.symm.trans hpath')
    exact hid
  · intro h
    have hroot : (⟨2, 0⟩ : ResourceId) = ⟨0, 0⟩ :=
      (hshorter ⟨2, 0⟩ "/porch/lam" "p" (by decide) hpath).mp h
    exact absurd hroot (by decide)
  · intro h
    exact absurd ((hlonger ⟨2, 0⟩ "/porch/lamp" "/x" hpath).mp h 'x' (by decide)) (by decide)

/-- A path with a slash behind it is longer, and still leads to the resource. -/
theorem longer_path_resolves :
    ¬ ∀ path more : String, more ≠ "" → porch.pathOf ⟨2, 0⟩ = some path →
      porch.findPath (path ++ more) ≠ some ⟨2, 0⟩ := by
  intro h
  have hpath : porch.pathOf ⟨2, 0⟩ = some "/porch/lamp" := by decide
  have hfound : porch.findPath ("/porch/lamp" ++ "/") = some ⟨2, 0⟩ := by decide
  exact h "/porch/lamp" "/" (by decide) hpath hfound

end Coap.Tree
