import Coap.Proofs.Dedup.Generations
import Coap.Proofs.Observers.Removal
import Mathlib.Algebra.BigOperators.Group.Finset.Basic
import Mathlib.Data.List.DropRight

/-!
# What is on record

What is known of a resource is what its own history says: the relations that were registered last and
not ended since, and the number of changes since the resource was forgotten last, in 24 bits.

* `Observers.Op`, `Observers.apply`, `Observers.run` — what can be done, and a history of it.
* `Observers.observed_apply` — what an operation does to one resource; all else follows from it.
* `Observers.Latest`, `Observers.changes` — what a history says of a relation and of a number.
* `Observers.record_run` — relations, numbers and their count after any history.
-/

namespace Coap.Observers

/-! ### Operations -/

/-- Something that is done to the relations of a resource. -/
inductive Op where
  /-- Add a relation, or refresh it. -/
  | register (resource : ResourceId) (relation : Relation)
  /-- Remove a relation, if it is there. -/
  | cancel (resource : ResourceId) (key : Key)
  /-- Note a change. -/
  | changed (resource : ResourceId)
  /-- Forget everything about a resource. -/
  | forget (resource : ResourceId)
deriving DecidableEq

/-- The resource that an operation is about. -/
def Op.resource : Op → ResourceId
  | .register r _ => r
  | .cancel r _ => r
  | .changed r => r
  | .forget r => r

/-- What an operation does to what is known of its resource. -/
def Op.effect (known : Observed) : Op → Observed
  | .register _ relation => { known with relations := known.relations.insert relation.key relation }
  | .cancel _ key => { known with relations := known.relations.erase key }
  | .changed _ => { known with sequence := (known.sequence + 1) &&& sequenceMask }
  | .forget _ => ⟨0, .empty⟩

/-- The relations after an operation, whatever the operation answers. -/
def apply (o : Observers) : Op → Observers
  | .register r relation => (o.register r relation).1
  | .cancel r key => (o.cancel r key).1
  | .changed r => (o.changed r).1
  | .forget r => o.forget r

/-- The relations after some operations, one after the other. -/
def run (o : Observers) (ops : List Op) : Observers := ops.foldl apply o

variable {o o' : Observers} {op : Op} {ops : List Op} {r : ResourceId} {key : Key}
  {relation : Relation}

theorem run_concat (o : Observers) (ops : List Op) (op : Op) :
    o.run (ops ++ [op]) = (o.run ops).apply op := by
  rw [run, List.foldl_append]
  rfl

/-- **Steps.** An operation has an effect on its own resource and on no other, and the effect depends
on what is known of this resource only. -/
theorem observed_apply (o : Observers) (op : Op) (r : ResourceId) :
    (o.apply op).observed r = if r = op.resource then op.effect (o.observed r) else o.observed r := by
  by_cases h : r = op.resource
  · subst h
    rw [if_pos rfl]
    cases op with
    | register id relation => exact (observed_register relation).trans (if_pos rfl)
    | cancel id key => exact observed_cancel.trans (if_pos rfl)
    | changed id => exact observed_changed.trans (if_pos rfl)
    | forget id => exact observed_forget.trans (if_pos rfl)
  · rw [if_neg h]
    cases op with
    | register id relation => exact (observed_register relation).trans (if_neg h)
    | cancel id key => exact observed_cancel.trans (if_neg h)
    | changed id => exact observed_changed.trans (if_neg h)
    | forget id => exact observed_forget.trans (if_neg h)

theorem observed_apply_of_ne (o : Observers) (h : op.resource ≠ r) :
    (o.apply op).observed r = o.observed r := by
  rw [observed_apply, if_neg (Ne.symm h)]

/-- What is known of a resource is what its own operations made of it. -/
theorem observed_run_filter (o : Observers) (ops : List Op) (r : ResourceId) :
    (o.run ops).observed r = (o.run (ops.filter fun op => op.resource = r)).observed r := by
  induction ops using List.reverseRecOn with
  | nil => rfl
  | append_singleton ops op ih =>
    rw [run_concat, List.filter_append, List.filter_singleton]
    by_cases h : op.resource = r
    · rw [decide_eq_true h, cond_true, run_concat, observed_apply, observed_apply, ih]
    · rw [decide_eq_false h, cond_false, List.append_nil, observed_apply_of_ne _ h, ih]

/-! ### Relations -/

/-- What is done to the relation of a resource under a key: another one is registered under the key, or
it is cancelled, or the resource is forgotten. -/
def Op.Ends (op : Op) (r : ResourceId) (key : Key) : Prop :=
  (∃ other, op = .register r other ∧ other.key = key) ∨ op = .cancel r key ∨ op = .forget r

/-- A relation was registered with a resource under a key, and nothing was done to it since. -/
def Latest (r : ResourceId) (key : Key) (relation : Relation) (ops : List Op) : Prop :=
  ∃ before after, ops = before ++ .register r relation :: after ∧ relation.key = key ∧
    ∀ op ∈ after, ¬ op.Ends r key

/-- Whether a history with one operation more leaves a relation. -/
theorem latest_concat_iff :
    Latest r key relation (ops ++ [op]) ↔
      op = .register r relation ∧ relation.key = key ∨ ¬ op.Ends r key ∧ Latest r key relation ops := by
  constructor
  · rintro ⟨before, after, heq, hkey, hafter⟩
    rcases concat_eq_append_cons_iff.mp heq with ⟨-, hlast, -⟩ | ⟨rest, rfl, rfl⟩
    · exact .inl ⟨hlast, hkey⟩
    · exact .inr ⟨hafter op (List.mem_append_right rest List.mem_cons_self), before, rest, rfl, hkey,
        fun op hop => hafter op (List.mem_append_left _ hop)⟩
  · rintro (⟨rfl, hkey⟩ | ⟨hop, before, after, rfl, hkey, hafter⟩)
    · exact ⟨ops, [], rfl, hkey, fun op hop => absurd hop List.not_mem_nil⟩
    · refine ⟨before, after ++ [op], by rw [List.append_assoc, List.cons_append], hkey, ?_⟩
      exact List.forall_mem_append.mpr ⟨hafter, List.forall_mem_singleton.mpr hop⟩

theorem relation?_apply_of_not_ends (h : ¬ op.Ends r key) :
    (o.apply op).relation? r key = o.relation? r key := by
  rw [Op.Ends, not_or, not_or, not_exists] at h
  obtain ⟨hregister, hcancel, hforget⟩ := h
  by_cases hr : r = op.resource
  · subst hr
    rw [relation?, observed_apply, if_pos rfl]
    cases op with
    | register id other =>
      exact (OrderedMap.get?_insert ..).trans (if_neg fun h => hregister other ⟨rfl, h.symm⟩)
    | cancel id gone =>
      exact (OrderedMap.get?_erase ..).trans (if_neg fun h => hcancel (congrArg (Op.cancel id) h.symm))
    | changed id => rfl
    | forget id => exact absurd rfl hforget
  · rw [relation?, observed_apply, if_neg hr, relation?]

/-- **Relations.** After any operations, the relation of a resource under a key is the one that was
registered last and not ended since. -/
theorem relation?_run_iff :
    (none.run ops).relation? r key = some relation ↔ Latest r key relation ops := by
  induction ops using List.reverseRecOn with
  | nil =>
    constructor
    · intro h
      cases h
    · rintro ⟨before, after, heq, -⟩
      simp at heq
  | append_singleton ops op ih =>
    rw [run_concat, latest_concat_iff]
    by_cases hends : op.Ends r key
    · rw [or_iff_left fun h => h.1 hends]
      rcases hends with ⟨other, rfl, hkey⟩ | rfl | rfl
      · rw [apply, relation?_register, if_pos ⟨rfl, hkey.symm⟩, Option.some.injEq, Op.register.injEq]
        constructor
        · rintro rfl
          exact ⟨⟨rfl, rfl⟩, hkey⟩
        · exact fun h => h.1.2
      · simp [apply, relation?_cancel]
      · simp [apply, relation?, observed_forget]
    · rw [relation?_apply_of_not_ends hends, ih]
      constructor
      · exact fun h => .inr ⟨hends, h⟩
      · rintro (⟨rfl, hkey⟩ | ⟨-, h⟩)
        · exact absurd (.inl ⟨relation, rfl, hkey⟩) hends
        · exact h

/-- Relations are on record under their own keys. -/
theorem key_of_relation?_run (h : (none.run ops).relation? r key = some relation) :
    relation.key = key := by
  obtain ⟨-, -, -, hkey, -⟩ := relation?_run_iff.mp h
  exact hkey

theorem mem_relations_run_iff :
    relation ∈ (none.run ops).relations r ↔
      (none.run ops).relation? r relation.key = some relation := by
  rw [relations, OrderedMap.mem_values_iff]
  constructor
  · rintro ⟨key, h⟩
    rw [key_of_relation?_run h]
    exact h
  · exact fun h => ⟨relation.key, h⟩

/-- No two relations of a resource have the same peer and token. -/
theorem nodup_relations_run (ops : List Op) (r : ResourceId) :
    (((none.run ops).relations r).map fun rel => (rel.peer, rel.token)).Nodup := by
  have hkeys : ((none.run ops).relations r).map Relation.key =
      ((none.run ops).observed r).relations.keys := by
    rw [relations, OrderedMap.values, OrderedMap.keys, List.map_map]
    refine List.map_congr_left fun e he => ?_
    exact key_of_relation?_run (OrderedMap.get?_eq_some_iff.mpr he)
  have hnodup := OrderedMap.nodup_keys ((none.run ops).observed r).relations
  rw [← hkeys] at hnodup
  refine List.Nodup.of_map (fun p => Key.token p.1 p.2) ?_
  rwa [List.map_map]

/-! ### Numbers -/

/-- How often a resource changed since it was forgotten last, or since the beginning. -/
def changes (r : ResourceId) (ops : List Op) : Nat :=
  (ops.rtakeWhile fun op => op ≠ .forget r).count (.changed r)

theorem changes_concat (r : ResourceId) (ops : List Op) (op : Op) :
    changes r (ops ++ [op]) =
      if op = .forget r then 0
      else if op = .changed r then changes r ops + 1 else changes r ops := by
  rw [changes, List.rtakeWhile_concat]
  by_cases hforget : op = .forget r
  · simp [hforget]
  · by_cases hchanged : op = .changed r <;> simp [hforget, hchanged, changes]

/-- Numbers have 24 bits and wrap. -/
theorem toNat_next {sequence : UInt32} {n : Nat} (h : sequence.toNat = n % 2 ^ 24) :
    ((sequence + 1) &&& sequenceMask).toNat = (n + 1) % 2 ^ 24 := by
  have hmask : sequenceMask.toNat = 2 ^ 24 - 1 := rfl
  rw [UInt32.toNat_and, hmask, Nat.and_two_pow_sub_one_eq_mod, UInt32.toNat_add, h]
  simp only [UInt32.toNat_one]
  omega

theorem sequence_apply (o : Observers) (op : Op) (r : ResourceId) :
    (o.apply op).sequence r =
      if op = .forget r then 0
      else if op = .changed r then (o.sequence r + 1) &&& sequenceMask else o.sequence r := by
  by_cases hforget : op = .forget r
  · subst hforget
    rw [if_pos rfl]
    exact (sequence_forget r).trans (if_pos rfl)
  · by_cases hchanged : op = .changed r
    · subst hchanged
      rw [if_neg hforget, if_pos rfl]
      exact congrArg Observed.sequence (observed_changed.trans (if_pos rfl))
    · rw [if_neg hforget, if_neg hchanged, sequence, observed_apply]
      split
      · next hr =>
        subst hr
        cases op with
        | register id relation => rfl
        | cancel id key => rfl
        | changed id => exact absurd rfl hchanged
        | forget id => exact absurd rfl hforget
      · rfl

/-- **Numbers.** After any operations, the number of a resource says how often it changed since it was
forgotten last, in 24 bits. -/
theorem sequence_run (ops : List Op) (r : ResourceId) :
    ((none.run ops).sequence r).toNat = changes r ops % 2 ^ 24 := by
  induction ops using List.reverseRecOn with
  | nil => rfl
  | append_singleton ops op ih =>
    rw [run_concat, changes_concat, sequence_apply]
    split
    · rfl
    · split
      · exact toNat_next ih
      · exact ih

/-! ### Counts -/

/-- Relations are counted resource by resource. -/
theorem size_eq_sum {S : Finset ResourceId} (h : ∀ r, r ∉ S → o.relations r = []) :
    o.size = ∑ r ∈ S, (o.relations r).length := by
  have hsum : o.size = (o.resources.keys.map fun r => (o.relations r).length).sum := by
    have hlengths : (o.resources.keys.map fun r => (o.relations r).length) =
        o.resources.entries.map fun e => e.2.relations.size := by
      rw [OrderedMap.keys, List.map_map]
      refine List.map_congr_left fun e he => ?_
      rw [Function.comp_apply, length_relations, OrderedMap.get?_eq_some_iff.mpr he]
      rfl
    rw [hlengths, List.sum_eq_foldr, List.foldr_map, size_eq]
    rfl
  rw [hsum, ← List.sum_toFinset _ o.resources.nodup_keys]
  -- both sums are over all resources with relations, and over some without
  refine Finset.sum_congr_of_eq_on_inter (fun r _ hr => ?_) (fun r _ hr => ?_) fun r _ _ => rfl
  · rw [h r hr, List.length_nil]
  · rw [List.mem_toFinset, OrderedMap.mem_keys_iff, Option.not_isSome_iff_eq_none] at hr
    rw [length_relations, hr, Option.map_none, Option.getD_none]

/-- Nothing is known of a resource that no operation was about. -/
theorem relations_run_of_notMem (h : r ∉ ops.map Op.resource) : (none.run ops).relations r = [] := by
  have hnone : (ops.filter fun op => op.resource = r) = [] :=
    List.filter_eq_nil_iff.mpr fun op hop hr =>
      h (List.mem_map.mpr ⟨op, hop, of_decide_eq_true hr⟩)
  rw [relations, observed_run_filter, hnone]
  rfl

/-! ### Every history -/

/-- What a change answers is what is on record after it. -/
theorem changed_answer (o : Observers) (r : ResourceId) :
    (o.changed r).2 = ((o.changed r).1.sequence r, o.relations r) ∧
      (o.changed r).1.relations r = o.relations r := by
  have hobserved := (observed_changed (o := o) (r := r)).trans (if_pos rfl)
  exact ⟨Prod.ext (congrArg Observed.sequence hobserved).symm rfl,
    congrArg (fun known => known.relations.values) hobserved⟩

/-- **Records.** After any operations, a resource has one relation for each peer and token at most,
under its own key, and it is the one that was registered last and not ended since. Its number says how
often it changed since it was forgotten last, in 24 bits; a change answers the next number, and the
relations as they are. All relations together are those of all resources. An operation says and does
nothing about another resource than its own, and so each resource is as if there were no others. -/
theorem record_run (ops : List Op) :
    let o := none.run ops
    (∀ r, ((o.relations r).map fun relation => (relation.peer, relation.token)).Nodup ∧
      ∀ relation, relation ∈ o.relations r ↔ o.relation? r relation.key = some relation) ∧
    (∀ r key relation, o.relation? r key = some relation ↔ Latest r key relation ops) ∧
    (∀ r, (o.sequence r).toNat = changes r ops % 2 ^ 24) ∧
    (∀ r, let answer := (o.changed r).2
      answer.1.toNat = (changes r ops + 1) % 2 ^ 24 ∧
        answer = ((o.changed r).1.sequence r, o.relations r) ∧
        (o.changed r).1.relations r = o.relations r) ∧
    (o.size = ∑ r ∈ (ops.map Op.resource).toFinset, (o.relations r).length ∧
      ∀ r, r ∉ ops.map Op.resource → o.relations r = []) ∧
    (∀ r relation key, (o.register r relation).2 = o.sequence r ∧
      (o.cancel r key).2 = (o.relation? r key).isSome) ∧
    (∀ op r, op.resource ≠ r → (o.apply op).observed r = o.observed r) ∧
    ∀ r, o.observed r = (none.run (ops.filter fun op => op.resource = r)).observed r := by
  intro o
  refine ⟨fun r => ⟨nodup_relations_run ops r, fun relation => mem_relations_run_iff⟩, ?_,
    sequence_run ops, fun r => ⟨toNat_next (sequence_run ops r), o.changed_answer r⟩, ⟨?_, ?_⟩,
    fun r relation key => ⟨rfl, rfl⟩, fun op r h => o.observed_apply_of_ne h,
    none.observed_run_filter ops⟩
  · exact fun r key relation => relation?_run_iff
  · exact size_eq_sum fun r hr => relations_run_of_notMem fun h => hr (List.mem_toFinset.mpr h)
  · exact fun r hr => relations_run_of_notMem hr

/-! ### An evening with a lamp -/

/-- Somebody who wants to be told of changes, and asks for it in a message with a given id. -/
def watcher (id : UInt16) : Relation := ⟨⟨.v4 0, 5683⟩, .empty, ⟨.new .con .get id .empty, 0⟩⟩

/-- A lamp is watched and changes, the watcher asks again, and the porch changes. -/
def evening : List Op :=
  [.register ⟨2, 0⟩ (watcher 7), .changed ⟨2, 0⟩, .register ⟨2, 0⟩ (watcher 8), .changed ⟨1, 0⟩]

/-- The lamp has one watcher, who asked twice, and it does not matter to the lamp if the porch is
forgotten. -/
theorem record_run_evening :
    let o := none.run evening
    o.relation? ⟨2, 0⟩ (watcher 7).key = some (watcher 8) ∧ (o.sequence ⟨2, 0⟩).toNat = 1 ∧
      o.relations ⟨0, 0⟩ = [] ∧ (o.apply (.forget ⟨1, 0⟩)).observed ⟨2, 0⟩ = o.observed ⟨2, 0⟩ := by
  intro o
  obtain ⟨-, hlatest, hnumber, -, ⟨-, hnothing⟩, -, hother, -⟩ := record_run evening
  refine ⟨(hlatest _ _ _).mpr ?_, (hnumber ⟨2, 0⟩).trans (by decide), hnothing ⟨0, 0⟩ (by decide),
    hother (.forget ⟨1, 0⟩) ⟨2, 0⟩ (by decide)⟩
  exact ⟨[.register ⟨2, 0⟩ (watcher 7), .changed ⟨2, 0⟩], [.changed ⟨1, 0⟩], rfl, rfl,
    by simp [Op.Ends]⟩

end Coap.Observers
