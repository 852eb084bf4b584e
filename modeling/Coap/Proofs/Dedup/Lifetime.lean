import Coap.Exchange
import Coap.Proofs.Dedup.Generations
import Coap.Proofs.Wire.Instances

/-!
# Lifetimes

An exchange that was stored is retained, whatever is offered under its key, until everything is cleared
or a sweep takes place when it has expired. A sweep goes by the clock at that time alone, which need not
be later than at the sweep before.

* `Exchange.isExpired_iff` — more than a lifetime has passed since the request arrived.
* `Dedup.Sweep.Dated.find?_apply_eq_some_iff` — what is found after an operation was found before and is
  kept by it, or is what it stores.
* `Dedup.Sweep.StoredLast`, `Dedup.Sweep.Kept` — the last offer that stored anything under a key, and
  operations that keep what it stored.
* `Dedup.Sweep.storedLast_of_find?_run` — what is found was stored by that offer, and kept since.
* `Dedup.Sweep.found_run` — so what is looked up, offered, counted and swept after any operations.
-/

namespace Coap

/-- An exchange has expired when more than the lifetime has passed since its request arrived. -/
theorem Exchange.isExpired_iff {e : Exchange} {now : Instant} {lifetime : Duration} :
    e.isExpired now lifetime = true ↔ e.created + lifetime.nanos < now := by
  rw [isExpired, decide_eq_true_iff]
  exact Nat.lt_sub_iff_add_lt'

namespace Dedup.Sweep

/-! ### Operations -/

/-- Something that is asked of the retained exchanges, or done to them. -/
inductive Op where
  /-- Ask for what is retained for a key, or else retain an exchange for it. -/
  | offer (key : Key) (e : Exchange)
  /-- Ask for what is retained for a key. -/
  | find (key : Key)
  /-- Ask for how many keys something is retained. -/
  | size
  /-- Drop what has expired. -/
  | sweep (now : Instant)
  /-- Retain nothing. -/
  | clear

variable {d : Sweep Exchange} {key : Key} {e : Exchange} {op : Op} {ops : List Op}

/-- What is retained after an operation, whatever the operation answers. -/
def apply (d : Sweep Exchange) : Op → Sweep Exchange
  | .offer key e => (d.offer key e e.created).1
  | .find _ => d
  | .size => d
  | .sweep now => d.sweep now
  | .clear => d.clear

/-- What is retained after some operations, one after the other. -/
def run (d : Sweep Exchange) (ops : List Op) : Sweep Exchange := ops.foldl apply d

theorem run_concat (d : Sweep Exchange) (ops : List Op) (op : Op) :
    d.run (ops ++ [op]) = (d.run ops).apply op := by
  rw [run, List.foldl_append]
  rfl

theorem run_append_cons (d : Sweep Exchange) (before after : List Op) (op : Op) :
    d.run (before ++ op :: after) = ((d.run before).apply op).run after := by
  simp only [run, List.foldl_append, List.foldl_cons]

/-- Does the operation keep an exchange that is retained? -/
def Op.Keeps (lifetime : Duration) (e : Exchange) : Op → Prop
  | .sweep now => now ≤ e.created + lifetime.nanos
  | .clear => False
  | _ => True

/-! ### One operation -/

/-- Each exchange is retained with the time at which its request arrived. -/
def Dated (d : Sweep Exchange) : Prop :=
  ∀ key v, d.retained.get? key = some v → v.time = v.data.created

theorem dated_new (lifetime interval : Duration) : (new lifetime interval : Sweep Exchange).Dated :=
  fun _ _ h => nomatch h

/-- An offer gets what is retained. -/
theorem offer_snd (d : Sweep Exchange) (key : Key) (e : Exchange) :
    (d.offer key e e.created).2 = d.find? key := by
  unfold offer find?
  cases d.retained.get? key <;> rfl

/-- An offer stores an exchange under its key if nothing is retained there. -/
theorem get?_offer (d : Sweep Exchange) (key other : Key) (e : Exchange) :
    (d.offer key e e.created).1.retained.get? other =
      if other = key then some ((d.retained.get? key).getD ⟨e, e.created⟩)
      else d.retained.get? other := by
  unfold offer
  cases hget : d.retained.get? key with
  | none => exact OrderedMap.get?_insert _ _ _ _
  | some v =>
    by_cases h : other = key
    · rw [if_pos h, h, hget, Option.getD_some]
    · rw [if_neg h]

theorem Dated.apply (dated : d.Dated) (op : Op) : (d.apply op).Dated := by
  intro key v hget
  cases op with
  | offer other e =>
    rw [Sweep.apply, get?_offer] at hget
    by_cases h : key = other
    · rw [if_pos h] at hget
      cases hother : d.retained.get? other with
      | none =>
        rw [hother] at hget
        cases hget
        rfl
      | some w =>
        rw [hother] at hget
        cases hget
        exact dated other w hother
    · exact dated key v ((if_neg h).symm.trans hget)
  | find other => exact dated key v hget
  | size => exact dated key v hget
  | sweep now =>
    rw [Sweep.apply, sweep, OrderedMap.get?_filter] at hget
    exact dated key v (Option.filter_eq_some_iff.mp hget).1
  | clear => cases hget

theorem lifetime_apply (d : Sweep Exchange) (op : Op) : (d.apply op).lifetime = d.lifetime := by
  cases op with
  | offer key e =>
    simp only [apply, offer]
    cases d.retained.get? key <;> rfl
  | _ => rfl

/-- By its stamp, a value is too old when its exchange has expired. -/
theorem Dated.isExpired_iff (dated : d.Dated) {v : Stamped Exchange}
    (hget : d.retained.get? key = some v) {now : Instant} :
    d.isExpired now v.time = true ↔ v.data.created + d.lifetime.nanos < now := by
  rw [dated key v hget]
  exact Exchange.isExpired_iff

/-- A sweep drops what has expired. -/
theorem Dated.find?_sweep_eq_some_iff (dated : d.Dated) {now : Instant} :
    (d.sweep now).find? key = some e ↔
      d.find? key = some e ∧ now ≤ e.created + d.lifetime.nanos := by
  have hkept (v : Stamped Exchange) (hget : d.retained.get? key = some v) :
      (!d.isExpired now v.time) = true ↔ now ≤ v.data.created + d.lifetime.nanos := by
    rw [Bool.not_eq_true', ← Bool.not_eq_true, dated.isExpired_iff hget, Nat.not_lt]
  simp only [find?, sweep, OrderedMap.get?_filter, Option.map_eq_some_iff,
    Option.filter_eq_some_iff]
  constructor
  · rintro ⟨v, ⟨hget, hage⟩, rfl⟩
    exact ⟨⟨v, hget, rfl⟩, (hkept v hget).mp hage⟩
  · rintro ⟨⟨v, hget, rfl⟩, hage⟩
    exact ⟨v, ⟨hget, (hkept v hget).mpr hage⟩, rfl⟩

/-- What is found after an operation was found before and is kept by it, or is what it stores. -/
theorem Dated.find?_apply_eq_some_iff (dated : d.Dated) :
    (d.apply op).find? key = some e ↔
      d.find? key = some e ∧ op.Keeps d.lifetime e ∨ d.find? key = none ∧ op = .offer key e := by
  cases op with
  | offer other e' =>
    rw [Sweep.apply, find?, get?_offer]
    by_cases h : key = other
    · subst h
      rw [if_pos rfl, find?]
      cases d.retained.get? key <;> simp [Op.Keeps]
    · rw [if_neg h]
      simp [Op.Keeps, find?, Ne.symm h]
  | find other => simp [Sweep.apply, Op.Keeps]
  | size => simp [Sweep.apply, Op.Keeps]
  | sweep now =>
    rw [Sweep.apply, dated.find?_sweep_eq_some_iff]
    simp [Op.Keeps]
  | clear => simp [Sweep.apply, clear, find?, Op.Keeps]

/-! ### Histories -/

/-- Each of some operations keeps an exchange that is retained. -/
def Kept (lifetime : Duration) (e : Exchange) (ops : List Op) : Prop :=
  ∀ op ∈ ops, op.Keeps lifetime e

/-- The last offer that stored anything under a key, between the operations before and after it: nothing
was retained there, and at every later offer something was. -/
structure StoredLast (d : Sweep Exchange) (key : Key) (e : Exchange) (before after : List Op) :
    Prop where
  stored : ((d.run before).offer key e e.created).2 = none
  last : ∀ between other rest, after = between ++ .offer key other :: rest →
    ((d.run (before ++ .offer key e :: between)).offer key other other.created).2 ≠ none

theorem Dated.run (dated : d.Dated) (ops : List Op) : (d.run ops).Dated := by
  induction ops using List.reverseRecOn with
  | nil => exact dated
  | append_singleton ops op ih =>
    rw [run_concat]
    exact ih.apply op

theorem lifetime_run (d : Sweep Exchange) (ops : List Op) : (d.run ops).lifetime = d.lifetime := by
  induction ops using List.reverseRecOn with
  | nil => rfl
  | append_singleton ops op ih => rw [run_concat, lifetime_apply, ih]

theorem kept_concat_iff {lifetime : Duration} :
    Kept lifetime e (ops ++ [op]) ↔ Kept lifetime e ops ∧ op.Keeps lifetime e := by
  rw [Kept, List.forall_mem_append, List.forall_mem_singleton]
  rfl

/-- What is found is found still after operations that keep it. -/
theorem Dated.find?_run_of_kept (dated : d.Dated) (hfound : d.find? key = some e)
    (kept : Kept d.lifetime e ops) : (d.run ops).find? key = some e := by
  induction ops using List.reverseRecOn with
  | nil => exact hfound
  | append_singleton ops op ih =>
    obtain ⟨hbefore, hop⟩ := kept_concat_iff.mp kept
    rw [run_concat, (dated.run ops).find?_apply_eq_some_iff, lifetime_run]
    exact .inl ⟨ih hbefore, hop⟩

/-- After operations that do not keep it, nothing is found if no offer of its key stored anything. -/
theorem Dated.find?_run_of_not_kept (dated : d.Dated) (hfound : d.find? key = some e)
    (hoffers : ∀ between other rest, ops = between ++ .offer key other :: rest →
      (d.run between).find? key ≠ none)
    (hops : ¬ Kept d.lifetime e ops) : (d.run ops).find? key = none := by
  induction ops using List.reverseRecOn with
  | nil => exact absurd (fun _ h => absurd h List.not_mem_nil) hops
  | append_singleton ops op ih =>
    rw [Option.eq_none_iff_forall_ne_some]
    intro e' hfound'
    rw [run_concat, (dated.run ops).find?_apply_eq_some_iff, lifetime_run] at hfound'
    rcases hfound' with ⟨hfound', hop⟩ | ⟨hnone, rfl⟩
    · by_cases hbefore : Kept d.lifetime e ops
      · obtain rfl : e = e' :=
          Option.some_inj.mp ((dated.find?_run_of_kept hfound hbefore).symm.trans hfound')
        exact hops (kept_concat_iff.mpr ⟨hbefore, hop⟩)
      · have hnone := ih (fun between other rest heq => hoffers between other (rest ++ [op])
          (by rw [heq, List.append_assoc, List.cons_append])) hbefore
        exact nomatch hnone.symm.trans hfound'
    · exact hoffers ops e' [] rfl hnone

theorem StoredLast.concat {before after : List Op} (h : d.StoredLast key e before after)
    (hop : ∀ other, op = .offer key other →
      (d.run (before ++ .offer key e :: after)).find? key ≠ none) :
    d.StoredLast key e before (after ++ [op]) := by
  refine ⟨h.stored, fun between other rest heq => ?_⟩
  rcases concat_eq_append_cons_iff.mp heq with ⟨rfl, hlast, -⟩ | ⟨rest, -, hafter⟩
  · rw [offer_snd]
    exact hop other hlast
  · exact h.last between other rest hafter

/-- What is found was stored by the last offer that stored anything under its key, and kept since. -/
theorem Dated.storedLast_of_find?_run (dated : d.Dated) (hnew : d.find? key = none)
    (hfound : (d.run ops).find? key = some e) :
    ∃ before after, ops = before ++ .offer key e :: after ∧ d.StoredLast key e before after ∧
      Kept d.lifetime e after := by
  induction ops using List.reverseRecOn with
  | nil => exact nomatch hnew.symm.trans hfound
  | append_singleton ops op ih =>
    rw [run_concat, (dated.run ops).find?_apply_eq_some_iff, lifetime_run] at hfound
    rcases hfound with ⟨hfound, hop⟩ | ⟨hnone, rfl⟩
    · obtain ⟨before, after, rfl, storedLast, kept⟩ := ih hfound
      refine ⟨before, after ++ [op], by simp, storedLast.concat fun other _ hnone => ?_,
        kept_concat_iff.mpr ⟨kept, hop⟩⟩
      exact nomatch hnone.symm.trans hfound
    · refine ⟨ops, [], rfl, ⟨(offer_snd _ _ _).trans hnone, ?_⟩,
        fun _ h => absurd h List.not_mem_nil⟩
      intro between other rest heq
      simp at heq

/-- What the last offer that stored anything stored is found as long as it is kept, and nothing is found
after that. -/
theorem Dated.find?_run_of_storedLast (dated : d.Dated) {before after : List Op}
    (storedLast : d.StoredLast key e before after) :
    (Kept d.lifetime e after → (d.run (before ++ .offer key e :: after)).find? key = some e) ∧
      (¬ Kept d.lifetime e after → (d.run (before ++ .offer key e :: after)).find? key = none) := by
  obtain ⟨hstored, hlast⟩ := storedLast
  simp only [offer_snd, run_append_cons] at hstored hlast
  have hlifetime : ((d.run before).apply (.offer key e)).lifetime = d.lifetime := by
    rw [lifetime_apply, lifetime_run]
  have hfound : ((d.run before).apply (.offer key e)).find? key = some e :=
    (dated.run before).find?_apply_eq_some_iff.mpr (.inr ⟨hstored, rfl⟩)
  rw [run_append_cons, ← hlifetime]
  exact ⟨((dated.run before).apply _).find?_run_of_kept hfound,
    ((dated.run before).apply _).find?_run_of_not_kept hfound hlast⟩

/-! ### Counts -/

/-- The size is the number of keys for which something is retained. -/
theorem size_eq_length (d : Sweep Exchange) :
    ∃ keys : List Key, keys.Nodup ∧ (∀ key, key ∈ keys ↔ (d.find? key).isSome = true) ∧
      d.size = keys.length := by
  refine ⟨d.retained.keys, d.retained.nodup_keys, fun key => ?_, (List.length_map _).symm⟩
  rw [OrderedMap.mem_keys_iff, find?, Option.isSome_map]

/-- A sweep counts the keys whose exchanges have expired. -/
theorem Dated.sweepCount_eq_length (dated : d.Dated) (now : Instant) :
    ∃ keys : List Key, keys.Nodup ∧
      (∀ key, key ∈ keys ↔ ∃ e, d.find? key = some e ∧ e.created + d.lifetime.nanos < now) ∧
      d.sweepCount now = keys.length := by
  let expired := d.retained.filter fun _ v => d.isExpired now v.time
  refine ⟨expired.keys, expired.nodup_keys, fun key => ?_, ?_⟩
  · simp only [OrderedMap.mem_keys_iff, Option.isSome_iff_exists, expired, OrderedMap.get?_filter,
      Option.filter_eq_some_iff, find?, Option.map_eq_some_iff]
    constructor
    · rintro ⟨v, hget, hage⟩
      exact ⟨v.data, ⟨v, hget, rfl⟩, (dated.isExpired_iff hget).mp hage⟩
    · rintro ⟨_, ⟨v, hget, rfl⟩, hage⟩
      exact ⟨v, hget, (dated.isExpired_iff hget).mpr hage⟩
  · -- what is retained divides into what has expired and what the sweep leaves
    have hsplit : d.retained.entries.length =
        (d.sweep now).retained.entries.length + expired.entries.length := by
      rw [List.length_eq_countP_add_countP fun v : Key × Stamped Exchange => !d.isExpired now v.2.time]
      simp only [sweep, OrderedMap.filter, expired, List.countP_eq_length_filter, Bool.not_eq_true',
        Bool.not_eq_false, Bool.decide_eq_true]
    rw [sweepCount, OrderedMap.size, OrderedMap.size, hsplit, Nat.add_sub_cancel_left]
    exact (List.length_map _).symm

/-- After a sweep, one at the same time has nothing to drop. -/
theorem sweep_sweep (d : Sweep Exchange) (now : Instant) : (d.sweep now).sweep now = d.sweep now := by
  have hretained : ((d.sweep now).sweep now).retained = (d.sweep now).retained := by
    apply OrderedMap.ext
    exact List.filter_eq_self.mpr fun _ h => (List.mem_filter.mp h).2
  exact congrArg (Sweep.mk d.lifetime d.interval) hretained

theorem sweepCount_sweep (d : Sweep Exchange) (now : Instant) : (d.sweep now).sweepCount now = 0 := by
  rw [sweepCount, sweep_sweep, Nat.sub_self]

/-- **Lifetimes.** After any operations, what is found under a key is what was stored there by the last
offer that stored anything, as long as it was kept since; otherwise it is nothing. An offer finds the
same, and the size is the number of keys under which something is found. A sweep drops what has expired
and nothing else, tells how much that is, and leaves nothing to drop to another one at the same time. -/
theorem found_run (lifetime interval : Duration) (ops : List Op) :
    let d := (new lifetime interval).run ops
    (∀ key before e after, ops = before ++ .offer key e :: after →
      (new lifetime interval).StoredLast key e before after →
        (Kept lifetime e after → d.find? key = some e) ∧
        (¬ Kept lifetime e after → d.find? key = none)) ∧
    (∀ key, (¬ ∃ before e after, ops = before ++ .offer key e :: after ∧
      (new lifetime interval).StoredLast key e before after) → d.find? key = none) ∧
    (∀ key e, (d.offer key e e.created).2 = d.find? key) ∧
    (∃ keys : List Key, keys.Nodup ∧ (∀ key, key ∈ keys ↔ (d.find? key).isSome = true) ∧
      d.size = keys.length) ∧
    ∀ now,
      (∀ key e, (d.sweep now).find? key = some e ↔
        d.find? key = some e ∧ now ≤ e.created + lifetime.nanos) ∧
      (∃ keys : List Key, keys.Nodup ∧
        (∀ key, key ∈ keys ↔ ∃ e, d.find? key = some e ∧ e.created + lifetime.nanos < now) ∧
        d.sweepCount now = keys.length) ∧
      (d.sweep now).sweep now = d.sweep now ∧ (d.sweep now).sweepCount now = 0 := by
  intro d
  have hnew : (new lifetime interval : Sweep Exchange).Dated := dated_new lifetime interval
  have dated : d.Dated := hnew.run ops
  have hlifetime : d.lifetime = lifetime := lifetime_run _ ops
  refine ⟨fun key before e after heq storedLast => ?_, fun key hnever => ?_, d.offer_snd,
    d.size_eq_length, fun now => ⟨fun key e => ?_, ?_, d.sweep_sweep now, d.sweepCount_sweep now⟩⟩
  · subst heq
    exact hnew.find?_run_of_storedLast storedLast
  · rw [Option.eq_none_iff_forall_ne_some]
    intro e hfound
    obtain ⟨before, after, heq, storedLast, -⟩ := hnew.storedLast_of_find?_run rfl hfound
    exact hnever ⟨before, e, after, heq, storedLast⟩
  · rw [← hlifetime]
    exact dated.find?_sweep_eq_some_iff
  · rw [← hlifetime]
    exact dated.sweepCount_eq_length now

/-- An exchange that is offered again and swept at the very end of its lifetime is found still, and is
dropped by a sweep right after that. -/
theorem found_run_aged :
    let k := Key.mid ⟨.v4 0, 5683⟩ 7
    let e (now : Instant) := Exchange.new ⟨.new .con .get 7 .empty, ⟨.v4 0, 5683⟩⟩ none now
    let after := [.offer k (e 12), .sweep 15]
    let d := (new ⟨10⟩ ⟨1⟩).run (.offer k (e 5) :: after)
    (new ⟨10⟩ ⟨1⟩).StoredLast k (e 5) [] after ∧ Kept ⟨10⟩ (e 5) after ∧
      d.find? k = some (e 5) ∧ (d.sweep 16).find? k ≠ some (e 5) := by
  intro k e after d
  have storedLast : (new ⟨10⟩ ⟨1⟩).StoredLast k (e 5) [] after := by
    refine ⟨rfl, fun between other rest heq => ?_⟩
    obtain ⟨rfl, rfl, -⟩ : between = [] ∧ other = e 12 ∧ rest = [.sweep 15] := by
      simpa [after, List.cons_eq_append_iff] using heq
    decide
  have kept : Kept ⟨10⟩ (e 5) after := by
    simp [Kept, after, Op.Keeps, e, Exchange.new]
  obtain ⟨hfound, -, -, -, hsweep⟩ := found_run ⟨10⟩ ⟨1⟩ (.offer k (e 5) :: after)
  refine ⟨storedLast, kept, (hfound k [] (e 5) after rfl storedLast).1 kept, fun h => ?_⟩
  exact absurd (((hsweep 16).1 k (e 5)).mp h).2 (by decide)

end Dedup.Sweep

end Coap
