import Coap.Proofs.Delivery.Identity
import Coap.Proofs.Tree.Addition

/-!
# The list of resources in its place

A server puts the list of resources into the tree that it is made with, and first the resource above it,
as far as they are not there. Neither addition can be refused: the names are ones that resources may have,
and what is added is missing. So the tree is extended by two resources at most, and a tree that had been
extended before is left as it is.

* `Tree.Extends` — a tree has everything that another has, and some resources more.
* `Tree.Grown.extends` — so does a tree with one leaf more.
* `Tree.WellFormed.withCore_outcome` — what is added for the list of resources.
* `Server.core_mounted` — so the trees of servers.
-/

namespace Coap

namespace Tree

variable {η : Type u} {t t' t'' : Tree η} {added : List ResourceId} {x parent new : ResourceId}
  {names : List String} {leaf : Node η}

/-! ### Extensions -/

/-- **Extension.** Everything that is in a tree is in another under the same id, at the same path and as it
was, but perhaps with more children, and some resources were added. -/
structure Extends (t t' : Tree η) (added : List ResourceId) : Prop where
  root : t'.root = t.root
  kept : ∀ {x node}, t.node? x = some node → ∃ children, t'.node? x = some { node with children }
  child : ∀ {x name child}, t.child? x name = some child → t'.child? x name = some child
  path : ∀ {x}, t.contains x = true → t'.pathOf x = t.pathOf x
  found : ∀ {segments x}, t.findSegments segments = some x → t'.findSegments segments = some x
  contains : ∀ {x}, t'.contains x = true ↔ t.contains x = true ∨ x ∈ added
  fresh : ∀ x ∈ added, t.contains x = false

theorem Extends.refl (t : Tree η) : t.Extends t [] where
  root := rfl
  kept h := ⟨_, h⟩
  child h := h
  path _ := rfl
  found h := h
  contains := by simp
  fresh := by simp

theorem Extends.trans {added' : List ResourceId} (h : t.Extends t' added) (h' : t'.Extends t'' added') :
    t.Extends t'' (added ++ added') where
  root := h'.root.trans h.root
  kept hnode := by
    obtain ⟨_, hnode'⟩ := h.kept hnode
    obtain ⟨children, hnode''⟩ := h'.kept hnode'
    exact ⟨children, hnode''⟩
  child hchild := h'.child (h.child hchild)
  path hthere := (h'.path (h.contains.mpr (.inl hthere))).trans (h.path hthere)
  found hfound := h'.found (h.found hfound)
  contains {x} := by rw [h'.contains, h.contains, or_assoc, List.mem_append]
  fresh x hx := by
    rcases List.mem_append.mp hx with hx | hx
    · exact h.fresh x hx
    · -- what was there before is there in between
      have habsent := h'.fresh x hx
      cases hthere : t.contains x with
      | false => rfl
      | true => cases habsent.symm.trans (h.contains.mpr (.inl hthere))

/-- Routes stay if nodes do, but for their children. -/
theorem Route.of_kept (hroot : t'.root = t.root)
    (hkept : ∀ {x node}, t.node? x = some node → ∃ children, t'.node? x = some { node with children })
    (route : t.Route names x) : t'.Route names x := by
  induction route with
  | root live =>
    obtain ⟨root, hlive⟩ := contains_iff.mp live
    obtain ⟨children, hlive'⟩ := hkept hlive
    rw [← hroot] at hlive' ⊢
    exact .root (contains_iff.mpr ⟨_, hlive'⟩)
  | child _ live below ih =>
    obtain ⟨children, live'⟩ := hkept live
    have further := Route.child ih live' below
    exact further

/-- **Leaves.** One leaf more is an extension. -/
theorem Grown.extends (wf : t.WellFormed) (wf' : t'.WellFormed)
    (grown : t.Grown t' names parent new leaf) : t.Extends t' [new] := by
  have habsent : t.contains new = false := by
    cases hthere : t.contains new with
    | false => rfl
    | true => exact absurd (.inl hthere) grown.fresh
  have hne : ∀ {x node}, t.node? x = some node → x ≠ new := by
    rintro x node hnode rfl
    cases (contains_iff.mpr ⟨node, hnode⟩).symm.trans habsent
  have hkept : ∀ {x node}, t.node? x = some node →
      ∃ children, t'.node? x = some { node with children } := by
    intro x node hnode
    rw [grown.others x (hne hnode), hnode, Option.map_some,
      editAt_children (f := listing leaf.name new) (fun _ => rfl)]
    exact ⟨_, rfl⟩
  constructor
  case root => exact grown.root
  case kept => exact hkept
  case child =>
    intro x name child hchild
    obtain ⟨node, hnode, hparent, hname⟩ := wf.child?_eq_some_iff.mp hchild
    obtain ⟨children, hnode'⟩ := hkept hnode
    exact wf'.child?_eq_some_iff.mpr ⟨_, hnode', hparent, hname⟩
  case path =>
    intro x hthere
    obtain ⟨node, hnode⟩ := contains_iff.mp hthere
    exact grown.paths x (hne hnode)
  case found =>
    intro segments x hfound
    rw [wf.findSegments_eq_some_iff] at hfound
    exact wf'.findSegments_eq_some_iff.mpr (hfound.of_kept grown.root hkept)
  case contains =>
    intro x
    rw [List.mem_singleton]
    by_cases hx : x = new
    · subst hx
      exact iff_of_true (contains_iff.mpr ⟨leaf, grown.node⟩) (.inr rfl)
    · simp only [contains, grown.others x hx, Option.isSome_map, hx, or_false]
  case fresh =>
    intro x hx
    rwa [List.mem_singleton.mp hx]

theorem Extends.handler (h : t.Extends t' added) {handler : η} (hhandler : t.handler? x = some handler) :
    t'.handler? x = some handler := by
  obtain ⟨node, hnode, rfl⟩ := Option.map_eq_some_iff.mp hhandler
  obtain ⟨children, hnode'⟩ := h.kept hnode
  exact congrArg (Option.map _) hnode'

/-- An addition below a resource that is there, under a name that it may have and that is not taken, is not
refused. -/
theorem WellFormed.exists_grown (wf : t.WellFormed) (route : t.Route names parent) (profile : Profile)
    (hname : validName profile.name = true) (hfree : t.child? parent profile.name = none) (handler : η) :
    ∃ new, (t.addChild parent profile handler).2 = .ok new ∧
      t.Grown (t.addChild parent profile handler).1 names parent new
        (.ofProfile profile handler (some parent)) := by
  have hadded : (t.addChild parent profile handler).2 = .ok (t.insert (.ofProfile profile handler
      (some parent))).2 := by
    rcases addChild_outcome t parent profile handler with
      ⟨hinvalid, -⟩ | ⟨-, habsent, -⟩ | ⟨-, -, ⟨other, htaken⟩, -⟩ | ⟨-, -, -, heq⟩
    · cases hinvalid.symm.trans hname
    · cases habsent.symm.trans route.contains
    · cases htaken.symm.trans hfree
    · rw [heq]
  obtain ⟨names', path, route', -, grown, -⟩ := wf.grown_addChild hadded
  obtain rfl := route'.names_unique wf route
  exact ⟨_, hadded, grown⟩

end Tree

/-! ### The list and the resource above it -/

namespace Tree

variable {ν : Type} {t t' : Tree (Resource ν)} {parent x : ResourceId}

/-- The resource above the list of resources. -/
def coreDirectory : Resource ν := .container ".well-known" false

/-- A resource that was missing on the way to the list of resources is there. -/
inductive Supplied (t t' : Tree (Resource ν)) (x : ResourceId) : Prop where
  | directory (hmissing : t.findSegments [".well-known"] = none)
      (hpath : t'.pathOf x = some "/.well-known") (hhandler : t'.handler? x = some coreDirectory)
  | list (hmissing : t.findSegments Resource.corePath = none)
      (hpath : t'.pathOf x = some "/.well-known/core") (hhandler : t'.handler? x = some .core)

/-- A name below the root leads to the child of that name. -/
theorem WellFormed.route_of_child? (wf : t.WellFormed) {name : String}
    (h : t.child? t.root name = some x) : t.Route [name] x := by
  obtain ⟨node, hnode, hparent, rfl⟩ := wf.child?_eq_some_iff.mp h
  exact .child wf.route_root hnode hparent

/-- The list of resources is not there if it is not found. -/
theorem WellFormed.child?_core_eq_none (wf : t.WellFormed) (route : t.Route [".well-known"] parent)
    (hmissing : t.findSegments Resource.corePath = none) : t.child? parent "core" = none := by
  cases hchild : t.child? parent "core" with
  | none => rfl
  | some x =>
    obtain ⟨node, hnode, hparent, hname⟩ := wf.child?_eq_some_iff.mp hchild
    have further := Route.child route hnode hparent
    rw [hname] at further
    have hfound : t.findSegments Resource.corePath = some x := wf.findSegments_eq_some_iff.mpr further
    cases hfound.symm.trans hmissing

/-- **The resource above.** It is there afterwards, whether it was before or not, and the list is still
missing. -/
theorem WellFormed.withCoreParent_outcome (wf : t.WellFormed)
    (hmissing : t.findSegments Resource.corePath = none) :
    ∃ (t' : Tree (Resource ν)) (parent : ResourceId) (added : List ResourceId),
      t.withCoreParent = (t', .ok parent) ∧ t'.WellFormed ∧ t'.Route [".well-known"] parent ∧
      t'.findSegments Resource.corePath = none ∧ t.Extends t' added ∧ added.length ≤ 1 ∧
      ∀ x ∈ added, t.findSegments [".well-known"] = none ∧ t'.pathOf x = some "/.well-known" ∧
        t'.handler? x = some coreDirectory := by
  unfold withCoreParent
  cases hchild : t.child? t.root ".well-known" with
  | some parent =>
    exact ⟨t, parent, [], rfl, wf, wf.route_of_child? hchild, hmissing, .refl t, Nat.zero_le _, nofun⟩
  | none =>
    have hnone : t.findSegments [".well-known"] = none := by
      show ((t.child? t.root ".well-known").bind some).filter t.contains = none
      rw [hchild]
      rfl
    let directory : Resource ν := coreDirectory
    obtain ⟨new, hadded, grown⟩ := wf.exists_grown wf.route_root directory.profile
      (show validName ".well-known" = true by decide) hchild directory
    have wf' := wf.addChild t.root directory.profile directory
    have hfound : (t.addChild t.root directory.profile directory).1.findSegments [".well-known"] =
        some new := by
      rw [grown.lookups]
      rfl
    refine ⟨(t.addChild t.root directory.profile directory).1, new, [new], Prod.ext rfl hadded, wf',
      wf'.findSegments_eq_some_iff.mp hfound, ?_, grown.extends wf wf', Nat.le_refl _, fun x hx => ?_⟩
    · have hother : Resource.corePath ≠ [".well-known"] := by decide
      exact (grown.lookups _).trans ((if_neg hother).trans hmissing)
    · obtain rfl := List.mem_singleton.mp hx
      have hpath : "/" ++ Text.join "/" ([] ++ [".well-known"]) = "/.well-known" := by decide
      exact ⟨hnone, grown.path.trans (congrArg some hpath), by rw [handler?, grown.node]; rfl⟩

/-- **The list in its place.** What is missing is added, and nothing else. -/
theorem WellFormed.withCore_outcome (wf : t.WellFormed) :
    t.withCore.2 = .ok () ∧ (∃ x, t.withCore.1.findSegments Resource.corePath = some x) ∧
      ∃ added, t.Extends t.withCore.1 added ∧ added.length ≤ 2 ∧
        ∀ x ∈ added, t.Supplied t.withCore.1 x := by
  unfold withCore
  cases hfound : t.findSegments Resource.corePath with
  | some x => exact ⟨rfl, ⟨x, hfound⟩, [], .refl t, Nat.zero_le _, nofun⟩
  | none =>
    obtain ⟨t', parent, added, heq, wf', route, hmissing, hextends, hlength, hsupplied⟩ :=
      wf.withCoreParent_outcome hfound
    obtain ⟨new, hadded, grown⟩ := wf'.exists_grown route (Resource.core (ν := ν)).profile
      (show validName "core" = true by decide) (wf'.child?_core_eq_none route hmissing) .core
    have hmounted : t'.mountBelow parent .core = ((t'.addChild parent _ .core).1, .ok new) :=
      Prod.ext rfl hadded
    have hmore := grown.extends wf' (wf'.addChild parent _ _)
    have hresult : (t'.addChild parent (Resource.core (ν := ν)).profile .core).1.findSegments
        Resource.corePath = some new := by
      rw [grown.lookups]
      rfl
    simp only [Option.isSome_none, Bool.false_eq_true, if_false, heq, hmounted]
    refine ⟨trivial, ⟨new, hresult⟩, added ++ [new], hextends.trans hmore, ?_, fun x hx => ?_⟩
    · rw [List.length_append, List.length_singleton]
      omega
    · rcases List.mem_append.mp hx with hx | hx
      · obtain ⟨hnone, hpath, hhandler⟩ := hsupplied x hx
        refine .directory hnone ?_ (hmore.handler hhandler)
        rw [hmore.path (hextends.contains.mpr (.inr hx)), hpath]
      · obtain rfl := List.mem_singleton.mp hx
        have hpath : "/" ++ Text.join "/" ([".well-known"] ++ ["core"]) = "/.well-known/core" := by decide
        exact .list hfound (grown.path.trans (congrArg some hpath)) (by rw [handler?, grown.node]; rfl)

end Tree

/-! ### Servers -/

namespace Server

variable {ν : Type}

/-- A server is made with the tree that has the list of resources, and nothing is reported. -/
theorem site_of_new? {config : Config} {t : Tree (Resource ν)} {nonces : Nat → Nonce}
    {network : Udp.Network} {s : Server ν} (h : new? config t nonces network = some s)
    (hok : t.withCore.2 = .ok ()) : s.site.tree = t.withCore.1 ∧ s.site.events = [] := by
  obtain ⟨dedup, -, rfl⟩ := Option.map_eq_some_iff.mp h
  exact ⟨rfl, by simp only [hok]⟩

/-- **The trees of servers.** A server for any tree there ever is has the list of resources in its place.
All that was in the tree is there still, under the same ids and at the same paths, and what was missing on
the way to the list was added, and nothing else. A further server for the same tree leaves it as it is. -/
theorem core_mounted (profile : Profile) (handler : Resource ν) (ops : List (Tree.Op (Resource ν)))
    (config : Config) {dedup : Deduplicator Exchange} (hconfig : Deduplicator.ofConfig? config = some dedup)
    (nonces : Nat → Nonce) (network : Udp.Network) :
    let t := (Tree.withRoot profile handler).run ops
    ∃ s : Server ν, new? config t nonces network = some s ∧
      (∃ x, s.site.tree.findSegments Resource.corePath = some x) ∧
      (∃ added, t.Extends s.site.tree added ∧ added.length ≤ 2 ∧
        ∀ x ∈ added, t.Supplied s.site.tree x) ∧
      s.site.events = [] ∧
      ∀ config nonces network further, new? config s.site.tree nonces network = some further →
        further.site.tree = s.site.tree ∧ further.site.events = [] := by
  intro t
  have wf : t.WellFormed := Tree.wellFormed_run profile handler ops
  obtain ⟨hok, ⟨x, hfound⟩, hadded⟩ := wf.withCore_outcome
  have hagain : t.withCore.1.withCore = (t.withCore.1, .ok ()) := by
    rw [Tree.withCore, hfound]
    rfl
  obtain ⟨s, hs⟩ : ∃ s : Server ν, new? config t nonces network = some s :=
    ⟨_, by rw [new?, hconfig, Option.map_some]⟩
  obtain ⟨htree, hevents⟩ := site_of_new? hs hok
  refine ⟨s, hs, ?_⟩
  rw [htree]
  refine ⟨⟨x, hfound⟩, hadded, hevents, fun config nonces network further hfurther => ?_⟩
  have hsame := site_of_new? hfurther (hagain ▸ rfl)
  rwa [hagain] at hsame

/-- A resource that is listed has the name of the directory, and nothing is below it. -/
def signpost : Tree (Resource Unit) :=
  (Tree.withRoot (Resource.root (ν := Unit)).profile .root).run
    [.add (Resource.container (ν := Unit) ".well-known" true).profile (.container ".well-known" true)]

/-- The resource stays what it was, and gets the list of resources below it. -/
theorem core_mounted_signpost :
    ∃ s : Server Unit,
      new? { Config.standard with lifetimeOverride := some (.ofSeconds 60) } signpost (fun _ => default)
        ⟨[], true⟩ = some s ∧
      (∃ x, s.site.tree.findSegments Resource.corePath = some x) ∧
      s.site.tree.handler? ⟨1, 0⟩ = some (.container ".well-known" true) ∧
      s.site.tree.pathOf ⟨1, 0⟩ = some "/.well-known" := by
  obtain ⟨s, hs, hfound, ⟨added, hextends, -, -⟩, -, -⟩ :=
    core_mounted (Resource.root (ν := Unit)).profile .root
      [.add (Resource.container (ν := Unit) ".well-known" true).profile (.container ".well-known" true)]
      { Config.standard with lifetimeOverride := some (.ofSeconds 60) } rfl
      (fun _ => default) ⟨[], true⟩
  refine ⟨s, hs, hfound, hextends.handler rfl, ?_⟩
  have hpath : signpost.pathOf ⟨1, 0⟩ = some "/.well-known" := by decide
  exact (hextends.path rfl).trans hpath

end Server

end Coap
