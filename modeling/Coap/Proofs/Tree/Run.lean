import Coap.Proofs.Tree.Release

/-!
# Histories of a tree

A tree begins with its root and changes by single operations, whose arguments need not make sense:
ids may be stale, names taken, paths empty.

* `Tree.Op`, `Tree.apply`, `Tree.run` — an operation, what it does, and a history of them.
* `Tree.WellFormed.apply` — no operation breaks a well-formed tree.
* `Tree.wellFormed_run` — so every tree there ever is is well formed.
-/

namespace Coap.Tree

variable {η : Type u}

/-- An operation that may change a tree. -/
inductive Op (η : Type u) where
  /-- Add a resource below the root. -/
  | add (profile : Profile) (handler : η)
  /-- Add a resource below another. -/
  | addChild (parent : ResourceId) (profile : Profile) (handler : η)
  /-- Add a resource below the one at a path. -/
  | addAt (path : String) (profile : Profile) (handler : η)
  /-- Remove a resource and everything below it. -/
  | remove (id : ResourceId)
  /-- Change what a resource says about itself. -/
  | setAttributes (id : ResourceId) (attributes : Attributes)
  /-- Change whether a resource accepts observe relations. -/
  | setObservable (id : ResourceId) (observable : Bool)

/-- The tree after an operation, whatever the operation answers. -/
def apply (t : Tree η) : Op η → Tree η
  | .add profile handler => (t.add profile handler).1
  | .addChild parent profile handler => (t.addChild parent profile handler).1
  | .addAt path profile handler => (t.addAt path profile handler).1
  | .remove id => (t.remove id).1
  | .setAttributes id attributes => (t.setAttributes id attributes).1
  | .setObservable id observable => (t.setObservable id observable).1

/-- The tree after some operations, one after the other. -/
def run (t : Tree η) (ops : List (Op η)) : Tree η := ops.foldl apply t

namespace WellFormed

variable {t : Tree η}

theorem addAt (wf : t.WellFormed) (path : String) (profile : Profile) (handler : η) :
    (t.addAt path profile handler).1.WellFormed := by
  unfold Tree.addAt
  cases t.findPath path with
  | none => exact wf
  | some parent => exact wf.addChild parent profile handler

theorem setAttributes (wf : t.WellFormed) (id : ResourceId) (attributes : Attributes) :
    (t.setAttributes id attributes).1.WellFormed := by
  unfold Tree.setAttributes
  by_cases h : t.contains id = true
  · rw [if_pos h]
    exact wf.relabel id (fun _ => ⟨rfl, rfl⟩) (fun _ => rfl)
  · rw [if_neg h]
    exact wf

theorem setObservable (wf : t.WellFormed) (id : ResourceId) (observable : Bool) :
    (t.setObservable id observable).1.WellFormed := by
  unfold Tree.setObservable
  by_cases h : t.contains id = true
  · rw [if_pos h]
    exact wf.relabel id (fun _ => ⟨rfl, rfl⟩) (fun _ => rfl)
  · rw [if_neg h]
    exact wf

/-- No operation breaks a well-formed tree. -/
theorem apply (wf : t.WellFormed) (op : Op η) : (t.apply op).WellFormed := by
  cases op with
  | add profile handler => exact wf.addChild t.root profile handler
  | addChild parent profile handler => exact wf.addChild parent profile handler
  | addAt path profile handler => exact wf.addAt path profile handler
  | remove id => exact wf.remove id
  | setAttributes id attributes => exact wf.setAttributes id attributes
  | setObservable id observable => exact wf.setObservable id observable

theorem run (wf : t.WellFormed) (ops : List (Op η)) : (t.run ops).WellFormed := by
  induction ops generalizing t with
  | nil => exact wf
  | cons op ops ih => exact ih (wf.apply op)

end WellFormed

/-- **All trees are well formed.** Whatever is done to a tree from its root on, its parents,
children, names and free slots agree, and every node hangs below the root. -/
theorem wellFormed_run (profile : Profile) (handler : η) (ops : List (Op η)) :
    ((withRoot profile handler).run ops).WellFormed :=
  (wellFormed_withRoot profile handler).run ops

end Coap.Tree
