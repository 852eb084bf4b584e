import Coap.Proofs.Text.Order
import Coap.Proofs.Tree.Removal
import Mathlib.Data.List.Nodup

/-!
# Walks

A walk lists a resource, and then what stands below each of its children, these by name. So what is
listed from a resource on are the resources below it, and they are listed in the order of their routes,
name by name and each name octet by octet: a route comes before those it is a beginning of, and where two
routes part, the smaller name comes first.

* `TreeEntry.place` — what entries are ordered by, as their paths have it.
* `Tree.Describes` — an entry says of a resource what the tree says of it.
* `Tree.Route.mem_walkFrom_iff`, `Tree.Route.pairwise_walkFrom` — what is listed from a resource on, and
  in which order.
* `Tree.Route.walkFrom_infix` — it is listed in one piece.
* `Tree.walk_run` — the walk of every tree there ever is.
-/

namespace Coap

/-! ### Places -/

namespace TreeEntry

/-- The names on the way to a resource. -/
def names (e : TreeEntry) : List String := Text.pieces '/' e.path

/-- The place of an entry among others: its names in octets. -/
def place (e : TreeEntry) : List Bytes := e.names.map Text.bytes

/-- What is left of an entry if ids do not matter. -/
def anonymous (e : TreeEntry) : TreeEntry := { e with id := default }

end TreeEntry

/-- Names come before those that they are a proper beginning of. -/
theorem map_lt_map_of_prefix {names more : List String} {name : String}
    (h : names ++ [name] <+: more) : names.map Text.bytes < more.map Text.bytes := by
  obtain ⟨rest, rfl⟩ := h
  rw [List.append_assoc, List.map_append]
  nth_rewrite 1 [← List.append_nil (names.map Text.bytes)]
  exact List.append_left_lt (List.nil_lt_cons _ _)

/-- Names come before others if the first name that is not shared does. -/
theorem map_lt_map_of_lt {names front back : List String} {name name' : String}
    (hlt : name < name') (hfront : names ++ [name] <+: front) (hback : names ++ [name'] <+: back) :
    front.map Text.bytes < back.map Text.bytes := by
  obtain ⟨rest, rfl⟩ := hfront
  obtain ⟨rest', rfl⟩ := hback
  simp only [List.append_assoc, List.map_append, List.singleton_append, List.map_cons]
  exact List.append_left_lt (List.cons_lt_cons_iff.mpr (.inl (Text.bytes_lt_bytes_iff.mpr hlt)))

namespace Tree

variable {η : Type u} {t : Tree η} {id : ResourceId} {node : Node η} {names : List String}
  {e : TreeEntry}

/-! ### Entries -/

/-- **Entries.** An entry says of a resource what the tree says of it. -/
structure Describes (t : Tree η) (e : TreeEntry) : Prop where
  path : t.pathOf e.id = some e.path
  attributes : t.attributes? e.id = some e.attributes
  observable : t.isObservable e.id = e.observable
  visible : (t.node? e.id).map (·.visible) = some e.visible

/-- The entry of a resource at the end of some names. -/
def entryOf (id : ResourceId) (names : List String) (node : Node η) : TreeEntry :=
  ⟨id, "/" ++ Text.join "/" names, node.attributes, node.observable, node.visible⟩

/-- The entry of a resource has the names on the route to it. -/
theorem Route.names_entryOf (wf : t.WellFormed) (route : t.Route names id) (node : Node η) :
    (entryOf id names node).names = names := route.pieces_path wf

theorem Route.describes (wf : t.WellFormed) (route : t.Route names id)
    (hid : t.node? id = some node) : t.Describes (entryOf id names node) where
  path := route.pathOf_eq wf
  attributes := congrArg (Option.map _) hid
  observable := by rw [isObservable, entryOf, hid]
  visible := congrArg (Option.map _) hid

/-- There is one entry at most for a resource. -/
theorem Describes.unique {e' : TreeEntry} (h : t.Describes e) (h' : t.Describes e')
    (hid : e.id = e'.id) : e = e' := by
  have hpath := h.path
  have hattributes := h.attributes
  have hobservable := h.observable
  have hvisible := h.visible
  rw [hid, h'.path] at hpath
  rw [hid, h'.attributes] at hattributes
  rw [hid, h'.observable] at hobservable
  rw [hid, h'.visible] at hvisible
  cases e
  cases e'
  cases hid
  cases hpath
  cases hattributes
  cases hobservable
  cases hvisible
  rfl

theorem Describes.exists_node (h : t.Describes e) : ∃ node, t.node? e.id = some node := by
  obtain ⟨node, hnode, -⟩ := Option.map_eq_some_iff.mp h.visible
  exact ⟨node, hnode⟩

/-- An entry has the names on the route to its resource. -/
theorem Describes.route (wf : t.WellFormed) (h : t.Describes e) : t.Route e.names e.id := by
  obtain ⟨names, route, hpath⟩ := wf.pathOf_eq_some_iff.mp h.path
  rwa [TreeEntry.names, hpath, route.pieces_path wf]

/-! ### What is listed -/

/-- A walk begins with the resource where it begins. -/
theorem Route.walkFrom_succ (wf : t.WellFormed) (route : t.Route names id)
    (hid : t.node? id = some node) (fuel : Nat) :
    t.walkFrom (fuel + 1) id =
      entryOf id names node :: node.children.values.flatMap (t.walkFrom fuel) := by
  simp only [walkFrom, hid, route.pathOf_eq wf]
  rfl

/-- A child that is listed is at the end of a route with one name more. -/
theorem Route.of_listed (wf : t.WellFormed) (route : t.Route names id)
    (hid : t.node? id = some node) {name : String} {child : ResourceId}
    (hchild : node.children.get? name = some child) :
    t.Route (names ++ [name]) child ∧ t.parent? child = some id := by
  obtain ⟨below, hbelow, hparent, rfl⟩ := wf.child_live hid hchild
  exact ⟨.child route hbelow hparent, parent?_eq_some_iff.mpr ⟨below, hbelow, hparent⟩⟩

/-- What is below a resource is that resource, or below one of its children. -/
theorem Below.eq_or_child {top x : ResourceId} (h : t.Below top x) :
    x = top ∨ ∃ child, t.parent? child = some top ∧ t.Below child x := by
  obtain ⟨steps, hsteps⟩ := h
  induction steps generalizing x with
  | zero => exact .inl (Option.some.inj hsteps)
  | succ steps ih =>
    obtain ⟨up, hup, habove⟩ := Option.bind_eq_some_iff.mp hsteps
    rcases ih habove with rfl | ⟨child, hchild, hbelow⟩
    · exact .inr ⟨x, hup, t.below_self x⟩
    · exact .inr ⟨child, hchild, hbelow.of_parent hup⟩

/-- Whatever a walk lists is described by its entry, and below the resource where the walk begins. -/
theorem Route.of_mem_walkFrom (wf : t.WellFormed) (route : t.Route names id) {fuel : Nat}
    (h : e ∈ t.walkFrom fuel id) : t.Describes e ∧ t.Below id e.id := by
  induction fuel generalizing id names with
  | zero => cases h
  | succ fuel ih =>
    obtain ⟨node, hid⟩ := contains_iff.mp route.contains
    rw [route.walkFrom_succ wf hid] at h
    rcases List.mem_cons.mp h with rfl | h
    · exact ⟨route.describes wf hid, t.below_self id⟩
    · obtain ⟨child, hchild, hmem⟩ := List.mem_flatMap.mp h
      obtain ⟨name, hlisted⟩ := OrderedMap.mem_values_iff.mp hchild
      obtain ⟨further, hup⟩ := route.of_listed wf hid hlisted
      obtain ⟨hdescribes, hbelow⟩ := ih further hmem
      exact ⟨hdescribes, hbelow.parent hup⟩

/-- **What a walk lists** from a resource on: everything below it, if the walk may go as deep as there
are slots. -/
theorem Route.mem_walkFrom_iff (wf : t.WellFormed) (route : t.Route names id) {fuel : Nat}
    (hfuel : t.slots.length ≤ fuel + names.length) :
    e ∈ t.walkFrom fuel id ↔ t.Describes e ∧ t.Below id e.id := by
  refine ⟨route.of_mem_walkFrom wf, ?_⟩
  rintro ⟨hdescribes, hbelow⟩
  induction fuel generalizing id names with
  | zero =>
    -- no route is as long as there are slots
    have hlength := route.length_lt wf
    omega
  | succ fuel ih =>
    obtain ⟨node, hid⟩ := contains_iff.mp route.contains
    rw [route.walkFrom_succ wf hid]
    rcases hbelow.eq_or_child with hself | ⟨child, hparent, hbelow⟩
    · rw [hdescribes.unique (route.describes wf hid) hself]
      exact List.mem_cons_self
    · obtain ⟨below, hchild, hup⟩ := parent?_eq_some_iff.mp hparent
      obtain ⟨above, habove, hlisted⟩ := wf.parent_lists hchild hup
      obtain rfl := Option.some.inj (hid.symm.trans habove)
      have further := (route.of_listed wf hid hlisted).1
      refine List.mem_cons_of_mem _ (List.mem_flatMap.mpr
        ⟨child, OrderedMap.mem_values_iff.mpr ⟨_, hlisted⟩, ih further ?_ hbelow⟩)
      rw [List.length_append, List.length_singleton]
      omega

/-! ### In which order -/

/-- What is listed from a resource on has the names of that resource as a beginning. -/
theorem Route.prefix_of_mem_walkFrom (wf : t.WellFormed) (route : t.Route names id) {fuel : Nat}
    (h : e ∈ t.walkFrom fuel id) : names <+: e.names := by
  obtain ⟨hdescribes, hbelow⟩ := route.of_mem_walkFrom wf h
  exact (route.below_iff_prefix wf (hdescribes.route wf)).mp hbelow

/-- **Order.** A walk lists resources in the order of their places. -/
theorem Route.pairwise_walkFrom (wf : t.WellFormed) (route : t.Route names id) (fuel : Nat) :
    (t.walkFrom fuel id).Pairwise fun a b => a.place < b.place := by
  induction fuel generalizing id names with
  | zero => exact .nil
  | succ fuel ih =>
    obtain ⟨node, hid⟩ := contains_iff.mp route.contains
    have further : ∀ {name child}, (name, child) ∈ node.children.entries →
        t.Route (names ++ [name]) child := fun hmem =>
      (route.of_listed wf hid (OrderedMap.get?_eq_some_iff.mpr hmem)).1
    rw [route.walkFrom_succ wf hid]
    refine List.pairwise_cons.mpr ⟨fun x hx => ?_, List.pairwise_flatMap.mpr ⟨?_, ?_⟩⟩
    · obtain ⟨child, hchild, hmem⟩ := List.mem_flatMap.mp hx
      obtain ⟨⟨name, _⟩, hentry, rfl⟩ := List.mem_map.mp hchild
      have hprefix := (further hentry).prefix_of_mem_walkFrom wf hmem
      rw [TreeEntry.place, route.names_entryOf wf]
      exact map_lt_map_of_prefix hprefix
    · intro child hchild
      obtain ⟨⟨name, _⟩, hentry, rfl⟩ := List.mem_map.mp hchild
      exact ih (further hentry)
    · -- where two routes part, the children are in the order of their names
      refine List.pairwise_map.mpr (node.children.ascending.imp_of_mem ?_)
      rintro ⟨name, child⟩ ⟨name', child'⟩ hentry hentry' hlt x hx y hy
      exact map_lt_map_of_lt (compareOfLessAndEq_eq_lt.mp hlt)
        ((further hentry).prefix_of_mem_walkFrom wf hx)
        ((further hentry').prefix_of_mem_walkFrom wf hy)

/-! ### In one piece -/

/-- **Subtrees.** What is listed from a resource on is listed in one piece from the root on. -/
theorem Route.walkFrom_infix (wf : t.WellFormed) (route : t.Route names id) :
    ∃ fuel, fuel + names.length = t.slots.length ∧
      t.walkFrom (fuel + 1) id <:+: t.walkFrom (t.slots.length + 1) t.root := by
  induction route with
  | root live => exact ⟨t.slots.length, rfl, List.infix_refl _⟩
  | @child names parent id node above live below ih =>
    obtain ⟨fuel, hfuel, hinfix⟩ := ih
    obtain ⟨before, hbefore, hlisted⟩ := wf.parent_lists live below
    have hlength := (Route.child above live below).length_lt wf
    rw [List.length_append, List.length_singleton] at hlength ⊢
    obtain ⟨fuel, rfl⟩ : ∃ n, fuel = n + 1 := ⟨fuel - 1, by omega⟩
    refine ⟨fuel, by omega, List.IsInfix.trans ?_ hinfix⟩
    rw [above.walkFrom_succ wf hbefore]
    obtain ⟨front, back, hsplit⟩ :=
      List.append_of_mem (OrderedMap.mem_values_iff.mpr ⟨_, hlisted⟩)
    rw [hsplit, List.flatMap_append, List.flatMap_cons]
    exact ⟨entryOf parent names before :: front.flatMap (t.walkFrom (fuel + 1)),
      back.flatMap (t.walkFrom (fuel + 1)), by simp⟩

/-! ### Walks from the root -/

namespace WellFormed

theorem route_root (wf : t.WellFormed) : t.Route [] t.root := by
  obtain ⟨root, hroot, -⟩ := wf.root_live
  exact .root (contains_iff.mpr ⟨root, hroot⟩)

/-- A walk is what is listed from the root on, without the root. -/
theorem walkFrom_root (wf : t.WellFormed) :
    ∃ root, t.node? t.root = some root ∧
      t.walkFrom (t.slots.length + 1) t.root = entryOf t.root [] root :: t.walk := by
  obtain ⟨root, hroot, -⟩ := wf.root_live
  refine ⟨root, hroot, ?_⟩
  rw [wf.route_root.walkFrom_succ wf hroot, walk, hroot]

/-- Everything hangs below the root. -/
theorem below_root (wf : t.WellFormed) (h : t.contains id = true) : t.Below t.root id :=
  wf.reaches_root h

theorem pairwise_walk (wf : t.WellFormed) : t.walk.Pairwise fun a b => a.place < b.place := by
  obtain ⟨root, -, hwalk⟩ := wf.walkFrom_root
  have hpairwise := wf.route_root.pairwise_walkFrom wf (t.slots.length + 1)
  rw [hwalk] at hpairwise
  exact (List.pairwise_cons.mp hpairwise).2

/-- **What is listed**: everything but the root. -/
theorem mem_walk_iff (wf : t.WellFormed) : e ∈ t.walk ↔ t.Describes e ∧ e.id ≠ t.root := by
  obtain ⟨root, hroot, hwalk⟩ := wf.walkFrom_root
  have hmem : e ∈ t.walkFrom (t.slots.length + 1) t.root ↔ t.Describes e ∧ t.Below t.root e.id :=
    wf.route_root.mem_walkFrom_iff wf (by simp)
  have hfirst := List.pairwise_cons.mp (hwalk ▸ wf.route_root.pairwise_walkFrom wf _)
  rw [hwalk, List.mem_cons] at hmem
  constructor
  · intro h
    refine ⟨(hmem.mp (.inr h)).1, fun he => ?_⟩
    -- the entry of the root comes before all others
    have hself := (hmem.mp (.inr h)).1.unique (wf.route_root.describes wf hroot) he
    exact List.lt_irrefl _ (hself ▸ hfirst.1 e h)
  · rintro ⟨hdescribes, hne⟩
    obtain ⟨node, hnode⟩ := hdescribes.exists_node
    have hbelow := wf.below_root (contains_iff.mpr ⟨node, hnode⟩)
    rcases hmem.mpr ⟨hdescribes, hbelow⟩ with rfl | h
    · exact absurd rfl hne
    · exact h

/-- No resource is listed twice. -/
theorem nodup_walk (wf : t.WellFormed) : (t.walk.map (·.id)).Nodup := by
  refine List.pairwise_map.mpr (wf.pairwise_walk.imp_of_mem fun {a b} ha hb hlt hid => ?_)
  obtain rfl := (wf.mem_walk_iff.mp ha).1.unique (wf.mem_walk_iff.mp hb).1 hid
  exact List.lt_irrefl _ hlt

/-- Every resource but the root is listed once, and nothing else is. -/
theorem count_walk (wf : t.WellFormed) (id : ResourceId) :
    (t.walk.map (·.id)).count id = if t.contains id = true ∧ id ≠ t.root then 1 else 0 := by
  split
  · next h =>
    obtain ⟨node, hid⟩ := contains_iff.mp h.1
    obtain ⟨names, route⟩ := wf.exists_route h.1
    refine List.count_eq_one_of_mem wf.nodup_walk (List.mem_map.mpr
      ⟨entryOf id names node, wf.mem_walk_iff.mpr ⟨route.describes wf hid, h.2⟩, rfl⟩)
  · next h =>
    refine List.count_eq_zero.mpr fun hmem => h ?_
    obtain ⟨e, he, rfl⟩ := List.mem_map.mp hmem
    obtain ⟨hdescribes, hne⟩ := wf.mem_walk_iff.mp he
    exact ⟨contains_iff.mpr hdescribes.exists_node, hne⟩

/-- **One piece.** A resource is listed right before what stands below it. -/
theorem walk_eq_append (wf : t.WellFormed) (h : e ∈ t.walk) :
    ∃ front below back, t.walk = front ++ e :: below ++ back ∧
      ∀ x ∈ t.walk, x ∈ e :: below ↔ t.Below e.id x.id := by
  obtain ⟨hdescribes, hne⟩ := wf.mem_walk_iff.mp h
  obtain ⟨node, hid⟩ := hdescribes.exists_node
  obtain ⟨root, hroot, hwalk⟩ := wf.walkFrom_root
  have route := hdescribes.route wf
  obtain ⟨fuel, hfuel, front, back, hsplit⟩ := route.walkFrom_infix wf
  have hlisted : ∀ x, x ∈ t.walkFrom (fuel + 1) e.id ↔ t.Describes x ∧ t.Below e.id x.id :=
    fun x => route.mem_walkFrom_iff wf (by omega)
  have hself := (route.describes wf hid).unique hdescribes rfl
  rw [route.walkFrom_succ wf hid, hself] at hlisted
  rw [hwalk, route.walkFrom_succ wf hid, hself] at hsplit
  cases front with
  | nil =>
    -- the walk does not begin here, because it begins with the root
    rw [List.nil_append, List.cons_append] at hsplit
    exact absurd (congrArg TreeEntry.id (List.cons.inj hsplit).1) hne
  | cons first front =>
    refine ⟨front, _, back, (List.cons.inj hsplit).2.symm, fun x hx => ?_⟩
    rw [hlisted]
    exact ⟨fun hx => hx.2, fun hbelow => ⟨(wf.mem_walk_iff.mp hx).1, hbelow⟩⟩

/-- Nothing stands above itself. -/
theorem parent?_ne (wf : t.WellFormed) (id : ResourceId) : t.parent? id ≠ some id := by
  intro hparent
  obtain ⟨node, hnode, hup⟩ := parent?_eq_some_iff.mp hparent
  obtain ⟨names, route⟩ := wf.exists_route (contains_iff.mpr ⟨node, hnode⟩)
  exact absurd (route.names_unique wf (.child route hnode hup)) (by simp)

/-- A resource is listed after the one above it. -/
theorem sublist_walk_of_parent (wf : t.WellFormed) {above : TreeEntry} (habove : above ∈ t.walk)
    (h : e ∈ t.walk) (hparent : t.parent? e.id = some above.id) : [above, e].Sublist t.walk := by
  obtain ⟨front, below, back, hsplit, hbelow⟩ := wf.walk_eq_append habove
  have hmem : e ∈ above :: below := (hbelow e h).mpr ⟨1, by simp [ancestor?, hparent]⟩
  rcases List.mem_cons.mp hmem with rfl | hmem
  · exact absurd hparent (wf.parent?_ne _)
  · rw [hsplit, List.append_assoc]
    have hpair : [above, e].Sublist (above :: below) := (List.singleton_sublist.mpr hmem).cons_cons above
    exact (hpair.trans (List.sublist_append_left _ back)).trans (List.sublist_append_right front _)

end WellFormed

/-! ### Nothing but places and data -/

section Places

variable {l l' : List TreeEntry} (h : l.Pairwise fun a b => a.place < b.place)
  (h' : l'.Pairwise fun a b => a.place < b.place)

include h in
theorem nodup_of_pairwise_place : l.Nodup := by
  refine h.imp ?_
  rintro a _ hlt rfl
  exact List.lt_irrefl _ hlt

include h h' in
/-- Lists of entries in the order of their places are equal if they have the same entries. -/
theorem eq_of_mem_iff_of_pairwise (hmem : ∀ e, e ∈ l ↔ e ∈ l') : l = l' := by
  refine List.Perm.eq_of_pairwise (fun a b _ _ hab hba => ?_) h h'
    ((List.perm_ext_iff_of_nodup (nodup_of_pairwise_place h) (nodup_of_pairwise_place h')).mpr hmem)
  exact absurd (List.lt_trans hab hba) (List.lt_irrefl _)

include h h' in
/-- If one has one entry more than the other, that entry is put in, and all others keep their places. -/
theorem exists_append_of_mem_iff (hnew : e ∉ l) (hmem : ∀ x, x ∈ l' ↔ x = e ∨ x ∈ l) :
    ∃ front back, l = front ++ back ∧ l' = front ++ e :: back := by
  obtain ⟨front, back, rfl⟩ := List.append_of_mem ((hmem e).mpr (.inl rfl))
  have hsublist : (front ++ back).Sublist (front ++ e :: back) :=
    (List.sublist_cons_self e back).append_left front
  have hout := (List.nodup_cons.mp (List.nodup_middle.mp (nodup_of_pairwise_place h'))).1
  refine ⟨front, back, eq_of_mem_iff_of_pairwise h (h'.sublist hsublist) fun x => ?_, rfl⟩
  constructor
  · intro hx
    have hmore := (hmem x).mpr (.inr hx)
    rw [List.mem_append, List.mem_cons] at hmore
    rw [List.mem_append]
    exact hmore.imp_right fun hback => hback.resolve_left fun heq => hnew (heq ▸ hx)
  · intro hx
    exact ((hmem x).mp (hsublist.subset hx)).resolve_left fun heq => hout (heq ▸ hx)

end Places

/-- What is left of some entries if ids do not matter. -/
theorem mem_map_anonymous_iff {l : List TreeEntry} :
    e ∈ l.map TreeEntry.anonymous ↔ e.id = default ∧ ∃ id, { e with id } ∈ l := by
  rw [List.mem_map]
  constructor
  · rintro ⟨x, hx, rfl⟩
    exact ⟨rfl, x.id, hx⟩
  · rintro ⟨hid, id, h⟩
    refine ⟨_, h, ?_⟩
    rw [TreeEntry.anonymous, ← hid]

/-- Below its root, a tree has a resource that an entry describes, whatever the id. -/
def Shows (t : Tree η) (e : TreeEntry) : Prop := ∃ id, id ≠ t.root ∧ t.Describes { e with id }

theorem WellFormed.shows_iff (wf : t.WellFormed) : t.Shows e ↔ ∃ id, { e with id } ∈ t.walk :=
  exists_congr fun _ => and_comm.trans wf.mem_walk_iff.symm

/-- **Data.** Two trees have the same walk, ids aside, exactly if they have the same resources at the
same paths. -/
theorem WellFormed.map_anonymous_walk_eq_iff {η' : Type v} {t' : Tree η'} (wf : t.WellFormed)
    (wf' : t'.WellFormed) :
    t.walk.map TreeEntry.anonymous = t'.walk.map TreeEntry.anonymous ↔
      ∀ e, t.Shows e ↔ t'.Shows e := by
  constructor
  · intro h e
    have hsame : e.anonymous ∈ t.walk.map TreeEntry.anonymous ↔
        e.anonymous ∈ t'.walk.map TreeEntry.anonymous := by rw [h]
    rw [wf.shows_iff, wf'.shows_iff]
    simpa only [mem_map_anonymous_iff, TreeEntry.anonymous, true_and] using hsame
  · intro h
    refine eq_of_mem_iff_of_pairwise (List.pairwise_map.mpr wf.pairwise_walk)
      (List.pairwise_map.mpr wf'.pairwise_walk) fun e => ?_
    rw [mem_map_anonymous_iff, mem_map_anonymous_iff, ← wf.shows_iff, ← wf'.shows_iff, h]

/-- **Walks.** The walk of every tree there ever is lists each resource but the root once, and says of it
what the tree says. Resources are in the order of the names on their routes, compared octet by octet, so
that each comes after the one above it, right before what stands below it. Another tree, whatever was
done to it, has the same walk, ids aside, exactly if it has the same resources at the same paths. -/
theorem walk_run {η' : Type v} (profile : Profile) (handler : η) (ops : List (Op η))
    (profile' : Profile) (handler' : η') (ops' : List (Op η')) :
    let t := (withRoot profile handler).run ops
    let t' := (withRoot profile' handler').run ops'
    ((∀ e, e ∈ t.walk ↔ t.Describes e ∧ e.id ≠ t.root) ∧
      ∀ id, (t.walk.map (·.id)).count id = if t.contains id = true ∧ id ≠ t.root then 1 else 0) ∧
    ((∀ e ∈ t.walk, t.Route e.names e.id) ∧ t.walk.Pairwise fun a b => a.place < b.place) ∧
    (∀ above ∈ t.walk, ∀ e ∈ t.walk, t.parent? e.id = some above.id →
      [above, e].Sublist t.walk) ∧
    (∀ e ∈ t.walk, ∃ front below back, t.walk = front ++ e :: below ++ back ∧
      ∀ x ∈ t.walk, x ∈ e :: below ↔ t.Below e.id x.id) ∧
    (t.walk.map TreeEntry.anonymous = t'.walk.map TreeEntry.anonymous ↔
      ∀ e, t.Shows e ↔ t'.Shows e) := by
  intro t t'
  have wf : t.WellFormed := wellFormed_run profile handler ops
  have wf' : t'.WellFormed := wellFormed_run profile' handler' ops'
  refine ⟨⟨fun e => wf.mem_walk_iff, wf.count_walk⟩, ⟨fun e he => ?_, wf.pairwise_walk⟩, ?_, ?_, ?_⟩
  · exact (wf.mem_walk_iff.mp he).1.route wf
  · exact fun above habove e he => wf.sublist_walk_of_parent habove he
  · exact fun e he => wf.walk_eq_append he
  · exact wf.map_anonymous_walk_eq_iff wf'

/-! ### A house that was built twice -/

/-- How a house is built: the porch first, with its lamp, and then the attic. -/
def porchFirst : List (Op Unit) :=
  [.add { (default : Profile) with name := "porch" } (),
    .addAt "porch" { (default : Profile) with name := "lamp" } (),
    .add { (default : Profile) with name := "attic" } ()]

/-- How the same house is built from the attic on. -/
def atticFirst : List (Op Unit) :=
  [.add { (default : Profile) with name := "attic" } (),
    .add { (default : Profile) with name := "porch" } (),
    .addAt "porch" { (default : Profile) with name := "lamp" } ()]

/-- The porch is listed right before its lamp, and it does not matter how the house was built. -/
theorem walk_run_house :
    let t := (withRoot default ()).run porchFirst
    let t' := (withRoot default ()).run atticFirst
    let porch : TreeEntry := ⟨⟨1, 0⟩, "/porch", default, default, default⟩
    let lamp : TreeEntry := ⟨⟨2, 0⟩, "/porch/lamp", default, default, default⟩
    porch ∈ t.walk ∧ lamp ∈ t.walk ∧ [porch, lamp].Sublist t.walk ∧
      (∃ front below back, t.walk = front ++ porch :: below ++ back) ∧
        t.walk ≠ t'.walk ∧ ∀ e, t.Shows e ↔ t'.Shows e := by
  intro t t' porch lamp
  obtain ⟨-, -, habove, hpiece, hdata⟩ := walk_run default () porchFirst default () atticFirst
  have hporch : porch ∈ t.walk := by decide
  have hlamp : lamp ∈ t.walk := by decide
  obtain ⟨front, below, back, hsplit, -⟩ := hpiece porch hporch
  exact ⟨hporch, hlamp, habove porch hporch lamp hlamp (by decide), ⟨front, below, back, hsplit⟩,
    by decide, hdata.mp (by decide)⟩

end Tree

end Coap
