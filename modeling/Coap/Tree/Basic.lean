import Coap.OrderedMap
import Coap.Resource.Attributes
import Coap.Resource.Id
import Coap.Text.Quoted
import Coap.Text.Split

/-!
# Resource trees

The resources of a server form a tree. Each stands in a slot; a freed slot is used again under a new
generation, the last one freed first, so that ids of removed resources stay without a resource.

* `Tree.node?` — the resource an id names, if it is there; `Tree.contains`.
* `Tree.addChild`, `Tree.addAt`, `Tree.remove` — grow and shrink the tree.
* `Tree.findSegments`, `Tree.pathOf` — from a path to a resource, and back.
* `Tree.walk` — all resources but the root, each before its children, siblings by name.

`η` is the type of what handles the requests for a resource.
-/

namespace Coap

/-- A resource in its place. -/
structure Node (η : Type u) where
  /-- Its name among its siblings; the root has none. -/
  name : String
  /-- What handles its requests. -/
  handler : η
  /-- The resource above. -/
  parent : Option ResourceId
  /-- The resources below, by name. -/
  children : OrderedMap String ResourceId
  /-- What it says about itself. -/
  attributes : Attributes
  /-- Does it accept observe relations? -/
  observable : Bool
  /-- Is it listed? -/
  visible : Bool

/-- A place for a resource. -/
structure Slot (η : Type u) where
  /-- Number of times the slot was freed, in 64 bits. -/
  generation : UInt64
  /-- The resource in it. -/
  node : Option (Node η)

/-- A tree of resources. -/
structure Tree (η : Type u) where
  /-- The slots by index. -/
  slots : List (Slot η)
  /-- The indices of the slots without a resource, the last one freed first. -/
  free : List Nat
  /-- The resource at the top. -/
  root : ResourceId

/-- Why a tree could not be changed. -/
inductive TreeError where
  /-- No resource stands at the path. -/
  | pathNotFound (path : String)
  /-- Another child of the parent has the name. -/
  | nameTaken (name : String)
  /-- The name is empty or holds a slash. -/
  | invalidName (name : String)
  /-- The id names no resource any more. -/
  | removed
deriving DecidableEq, Repr

/-- What went wrong, for people. -/
def TreeError.message : TreeError → String
  | .pathNotFound path => s!"no resource at path {Text.quoted path}"
  | .nameTaken name => s!"a sibling is already named {Text.quoted name}"
  | .invalidName name => s!"{Text.quoted name} is not a valid resource name"
  | .removed => "resource was removed"

/-- A resource as a walk finds it. -/
structure TreeEntry where
  /-- Its id. -/
  id : ResourceId
  /-- Its absolute path. -/
  path : String
  /-- What it says about itself. -/
  attributes : Attributes
  /-- Does it accept observe relations? -/
  observable : Bool
  /-- Is it listed? -/
  visible : Bool
deriving DecidableEq

namespace Node

/-- A resource with the given profile, without children. -/
def ofProfile (profile : Profile) (handler : η) (parent : Option ResourceId) : Node η :=
  { name := profile.name, handler, parent, children := .empty, attributes := profile.attributes,
    observable := profile.observable, visible := profile.visible }

end Node

namespace Tree

variable {η : Type u}

/-- A tree of one resource, whose name does not matter. -/
def withRoot (profile : Profile) (handler : η) : Tree η :=
  { slots := [⟨0, some { Node.ofProfile profile handler none with name := "" }⟩]
    free := []
    root := ⟨0, 0⟩ }

/-! ## Looking up ids -/

/-- The resource in the slot of an id, if the generations agree. -/
def nodeIn? (slots : List (Slot η)) (id : ResourceId) : Option (Node η) :=
  match slots[id.index]? with
  | some slot => if slot.generation = id.generation then slot.node else none
  | none => none

/-- The resource that an id names. -/
def node? (t : Tree η) (id : ResourceId) : Option (Node η) := nodeIn? t.slots id

/-- Does the id name a resource? -/
def contains (t : Tree η) (id : ResourceId) : Bool := (t.node? id).isSome

/-- Change the resource an id names, if it is there. -/
def modify (t : Tree η) (id : ResourceId) (f : Node η → Node η) : Tree η :=
  { t with slots := t.slots.modify id.index fun slot =>
      if slot.generation = id.generation then { slot with node := slot.node.map f } else slot }

/-- The child of a resource with a given name. -/
def child? (t : Tree η) (id : ResourceId) (name : String) : Option ResourceId :=
  (t.node? id).bind fun node => node.children.get? name

/-- Names and ids of the children of a resource, by name. -/
def children (t : Tree η) (id : ResourceId) : List (String × ResourceId) :=
  match t.node? id with
  | some node => node.children.entries
  | none => []

/-- The resource above another. -/
def parent? (t : Tree η) (id : ResourceId) : Option ResourceId :=
  (t.node? id).bind (·.parent)

/-- What handles the requests of a resource. -/
def handler? (t : Tree η) (id : ResourceId) : Option η := (t.node? id).map (·.handler)

/-- What a resource says about itself. -/
def attributes? (t : Tree η) (id : ResourceId) : Option Attributes :=
  (t.node? id).map (·.attributes)

/-- Does the resource accept observe relations? -/
def isObservable (t : Tree η) (id : ResourceId) : Bool :=
  match t.node? id with
  | some node => node.observable
  | none => false

/-! ## Paths -/

/-- The names from below the root down to a resource, climbing at most `fuel` steps. -/
def climb (t : Tree η) : Nat → ResourceId → Option (List String)
  | 0, _ => none
  | fuel + 1, id =>
    match t.node? id with
    | none => none
    | some node =>
      match node.parent with
      | none => some []
      | some parent => (t.climb fuel parent).map fun names => names ++ [node.name]

/-- The names from below the root down to a resource. No way up is longer than there are slots. -/
def segmentsOf (t : Tree η) (id : ResourceId) : Option (List String) :=
  t.climb (t.slots.length + 1) id

/-- The absolute path of a resource. -/
def pathOf (t : Tree η) (id : ResourceId) : Option String :=
  (t.segmentsOf id).map fun names => "/" ++ Text.join "/" names

/-- The resource below `id` along some names. -/
def descend (t : Tree η) (id : ResourceId) : List String → Option ResourceId
  | [] => some id
  | name :: names => (t.child? id name).bind fun child => t.descend child names

/-- The resource at the end of some segments from the root on; empty segments are passed over. -/
def findSegments (t : Tree η) (segments : List String) : Option ResourceId :=
  (t.descend t.root (segments.filter fun s => !s.isEmpty)).filter t.contains

/-- The resource at a path; empty segments are passed over. -/
def findPath (t : Tree η) (path : String) : Option ResourceId :=
  t.findSegments (Text.split '/' path)

/-! ## Change -/

/-- Put a resource into a slot, the one freed last if there is one. -/
def insert (t : Tree η) (node : Node η) : Tree η × ResourceId :=
  match t.free with
  | index :: free =>
    match t.slots[index]? with
    | some slot =>
      ({ t with slots := t.slots.set index { slot with node := some node }, free },
        ⟨index, slot.generation⟩)
    | none => ({ t with slots := t.slots ++ [⟨0, some node⟩], free }, ⟨t.slots.length, 0⟩)
  | [] => ({ t with slots := t.slots ++ [⟨0, some node⟩] }, ⟨t.slots.length, 0⟩)

/-- May a resource have this name? -/
def validName (name : String) : Bool := !name.isEmpty && !name.toList.contains '/'

/-- Add a resource below another. -/
def addChild (t : Tree η) (parent : ResourceId) (profile : Profile) (handler : η) :
    Tree η × Except TreeError ResourceId :=
  if !validName profile.name then (t, .error (.invalidName profile.name))
  else
    match t.node? parent with
    | none => (t, .error .removed)
    | some node =>
      if node.children.contains profile.name then (t, .error (.nameTaken profile.name))
      else
        let (t, id) := t.insert (.ofProfile profile handler (some parent))
        (t.modify parent fun n => { n with children := n.children.insert profile.name id }, .ok id)

/-- Add a resource below the root. -/
def add (t : Tree η) (profile : Profile) (handler : η) : Tree η × Except TreeError ResourceId :=
  t.addChild t.root profile handler

/-- Add a resource below the one at a path. -/
def addAt (t : Tree η) (path : String) (profile : Profile) (handler : η) :
    Tree η × Except TreeError ResourceId :=
  match t.findPath path with
  | none => (t, .error (.pathNotFound path))
  | some parent => t.addChild parent profile handler

/-- Number of slots with a resource. -/
def occupied (slots : List (Slot η)) : Nat := slots.countP fun s => s.node.isSome

/-- Empty the slot of an id, if the generations agree, and begin its next generation. -/
def retire (slots : List (Slot η)) (id : ResourceId) : List (Slot η) :=
  slots.modify id.index fun slot =>
    if slot.generation = id.generation then ⟨slot.generation + 1, none⟩ else slot

/-- Emptying a slot adds no resource. -/
theorem occupied_retire_le (slots : List (Slot η)) (id : ResourceId) :
    occupied (retire slots id) ≤ occupied slots := by
  obtain ⟨index, generation⟩ := id
  induction slots generalizing index with
  | nil => simp [retire]
  | cons head rest ih =>
    cases index with
    | zero =>
      simp only [retire, occupied, List.modify_zero_cons, List.countP_cons]
      split <;> simp
    | succ index =>
      have := ih index
      simp only [retire, occupied, List.modify_succ_cons, List.countP_cons] at this ⊢
      omega

/-- Emptying the slot of a resource leaves one resource fewer. -/
theorem occupied_retire_lt {slots : List (Slot η)} {id : ResourceId} {node : Node η}
    (h : nodeIn? slots id = some node) : occupied (retire slots id) < occupied slots := by
  obtain ⟨index, generation⟩ := id
  induction slots generalizing index with
  | nil => simp [nodeIn?] at h
  | cons head rest ih =>
    cases index with
    | zero =>
      simp only [nodeIn?, List.getElem?_cons_zero] at h
      split at h
      · next hg => simp [retire, occupied, hg, h]
      · cases h
    | succ index =>
      have := ih index (by simpa [nodeIn?] using h)
      simp only [retire, occupied, List.modify_succ_cons, List.countP_cons] at this ⊢
      omega

/-- Free the slots of some resources and of everything below them, each resource before its
children and these by name. -/
def release (slots : List (Slot η)) (free : List Nat) :
    List ResourceId → List (Slot η) × List Nat
  | [] => (slots, free)
  | id :: pending =>
    match _h : nodeIn? slots id with
    | some node =>
      release (retire slots id) (id.index :: free) (node.children.values ++ pending)
    | none => release (retire slots id) free pending
termination_by pending => (occupied slots, pending.length)
decreasing_by
  · exact Prod.Lex.left _ _ (occupied_retire_lt ‹_›)
  · exact Prod.Lex.right' _ (occupied_retire_le slots id) (Nat.lt_succ_self _)

/-- Remove a resource and everything below it. The root stays, and so does a tree that does not hold
the resource. -/
def remove (t : Tree η) (id : ResourceId) : Tree η × Bool :=
  if id = t.root then (t, false)
  else
    match t.node? id with
    | none => (t, false)
    | some node =>
      match node.parent with
      | none => (t, false)
      | some parent =>
        let t := t.modify parent fun n => { n with children := n.children.erase node.name }
        let (slots, free) := release t.slots t.free [id]
        ({ t with slots, free }, true)

/-- Change what a resource says about itself. -/
def setAttributes (t : Tree η) (id : ResourceId) (attributes : Attributes) :
    Tree η × Except TreeError Unit :=
  if t.contains id then (t.modify id fun n => { n with attributes }, .ok ())
  else (t, .error .removed)

/-- Change whether a resource accepts observe relations. -/
def setObservable (t : Tree η) (id : ResourceId) (observable : Bool) :
    Tree η × Except TreeError Unit :=
  if t.contains id then (t.modify id fun n => { n with observable }, .ok ())
  else (t, .error .removed)

/-! ## Walks -/

/-- A resource and those below it, at most `fuel` levels deep. -/
def walkFrom (t : Tree η) : Nat → ResourceId → List TreeEntry
  | 0, _ => []
  | fuel + 1, id =>
    match t.node? id with
    | none => []
    | some node =>
      let here := (t.pathOf id).map fun path =>
        { id, path, attributes := node.attributes, observable := node.observable,
          visible := node.visible }
      here.toList ++ node.children.values.flatMap (t.walkFrom fuel)

/-- All resources but the root, each before its children, siblings by name. -/
def walk (t : Tree η) : List TreeEntry :=
  match t.node? t.root with
  | none => []
  | some root => root.children.values.flatMap (t.walkFrom t.slots.length)

end Tree

end Coap
