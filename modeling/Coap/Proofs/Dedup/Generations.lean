import Coap.Proofs.Dedup.Retained
import Mathlib.Data.List.Induction

/-!
# Generations

The ring of buckets is an age counter for every key: a value is retained while at most one rotation
has taken place since its key was offered last, whoever offered it then and whatever was offered.

* `Dedup.Rotation.aged?` — the counter, read off the buckets, with the value.
* `Dedup.Rotation.Ring` — where the buckets stand; the third one is empty.
* `Dedup.Rotation.aged?_apply` — what each operation does to the counter.
* `Dedup.Rotation.aged?_run` — the counter after any operations, in terms of these operations.
* `Dedup.Rotation.retained_run` — so what is looked up, offered and counted.
-/

namespace Coap

/-! ### Last elements -/

/-- A list with one element more at its end is divided before that element or before another one. -/
theorem concat_eq_append_cons_iff {α : Type u} {l before after : List α} {a b : α} :
    l ++ [a] = before ++ b :: after ↔
      l = before ∧ a = b ∧ after = [] ∨ ∃ rest, after = rest ++ [a] ∧ l = before ++ b :: rest := by
  constructor
  · intro heq
    rcases List.eq_nil_or_concat after with rfl | ⟨rest, last, rfl⟩
    · obtain ⟨hl, ha⟩ := List.append_inj' heq rfl
      exact .inl ⟨hl, List.singleton_inj.mp ha, rfl⟩
    · rw [List.concat_eq_append, ← List.cons_append, ← List.append_assoc] at heq
      obtain ⟨hl, ha⟩ := List.append_inj' heq rfl
      exact .inr ⟨rest, by rw [List.concat_eq_append, ha], hl⟩
  · rintro (⟨rfl, rfl, rfl⟩ | ⟨rest, rfl, rfl⟩)
    · rfl
    · rw [List.append_assoc, List.cons_append]

/-! ### Keys of maps -/

namespace OrderedMap

variable {κ : Type u} {α : Type v} [Ord κ] [Std.TransOrd κ]

theorem nodup_keys (m : OrderedMap κ α) : m.keys.Nodup := by
  refine List.pairwise_map.mpr (m.ascending.imp ?_)
  intro a b hlt heq
  simp [heq] at hlt

/-- The keys of a map are those under which something is found. -/
theorem mem_keys_iff [Std.LawfulEqOrd κ] {m : OrderedMap κ α} {k : κ} :
    k ∈ m.keys ↔ (m.get? k).isSome = true := by
  rw [keys, List.mem_map, Option.isSome_iff_exists]
  constructor
  · rintro ⟨⟨k', a⟩, hmem, rfl⟩
    exact ⟨a, get?_eq_some_iff.mpr hmem⟩
  · rintro ⟨a, h⟩
    exact ⟨(k, a), get?_eq_some_iff.mp h, rfl⟩

end OrderedMap

namespace Dedup.Rotation

variable {α : Type u} {d : Rotation α} {key : Key}

/-! ### Operations -/

/-- Something that is asked of the retained values, or done to them. -/
inductive Op (α : Type u) where
  /-- Ask for what is retained for a key, or else retain a value for it. -/
  | offer (key : Key) (value : α)
  /-- Ask for what is retained for a key. -/
  | find (key : Key)
  /-- Ask for how many keys something is retained. -/
  | size
  /-- Begin a new generation. -/
  | rotate
  /-- Retain nothing. -/
  | clear

/-- Does the operation begin a new generation? -/
def Op.isRotate : Op α → Bool
  | .rotate => true
  | _ => false

/-- What is retained after an operation, whatever the operation answers. -/
def apply (d : Rotation α) : Op α → Rotation α
  | .offer key value => (d.offer key value).1
  | .find _ => d
  | .size => d
  | .rotate => d.rotate
  | .clear => d.clear

/-- What is retained after some operations, one after the other. -/
def run (d : Rotation α) (ops : List (Op α)) : Rotation α := ops.foldl apply d

theorem run_concat (d : Rotation α) (ops : List (Op α)) (op : Op α) :
    d.run (ops ++ [op]) = (d.run ops).apply op := by
  rw [run, List.foldl_append]
  rfl

/-! ### Places of the buckets -/

/-- The previous bucket is the one before the current one, or the current one itself as long as
there was no rotation; the others are empty. -/
structure Ring (d : Rotation α) : Prop where
  places : d.previous = d.current ∨ d.previous = d.current + 2
  spare : ∀ i, i ≠ d.current → i ≠ d.previous → d.bucket i = .empty

theorem bucket_new (period : Duration) (i : Fin 3) :
    (new period : Rotation α).bucket i = .empty := by simp [new, bucket]

theorem bucket_clear (d : Rotation α) (i : Fin 3) : d.clear.bucket i = .empty := by
  simp [clear, bucket]

theorem bucket_rotate (d : Rotation α) (i : Fin 3) :
    d.rotate.bucket i = if i = d.current + 1 + 1 then .empty else d.bucket i :=
  d.bucket_setBucket _ i .empty

theorem ring_new (period : Duration) : (new period : Rotation α).Ring :=
  ⟨.inl rfl, fun i _ _ => bucket_new period i⟩

namespace Ring

theorem offer (ring : d.Ring) (key : Key) (a : α) : (d.offer key a).1.Ring := by
  obtain ⟨hcurrent, hprevious⟩ := d.places_offer key a
  constructor
  · rw [hcurrent, hprevious]
    exact ring.places
  · rw [hcurrent, hprevious]
    intro i hi hi'
    rw [← ring.spare i hi hi']
    rcases d.offer_cases key a with heq | ⟨b, heq⟩
    · rw [heq]
    · rw [heq, bucket_setBucket, if_neg hi]

/-- Three places are the current one, the one before it, and the one that a rotation empties. -/
theorem rotate (_ : d.Ring) : d.rotate.Ring := by
  have hbefore : ∀ c : Fin 3, c = c + 1 + 2 := by decide
  have hthird : ∀ c i : Fin 3, i ≠ c + 1 → i ≠ c → i = c + 1 + 1 := by decide
  constructor
  · exact .inr (hbefore d.current)
  · intro i hi hi'
    rw [bucket_rotate, if_pos (hthird d.current i hi hi')]

theorem clear (ring : d.Ring) : d.clear.Ring := ⟨ring.places, fun i _ _ => d.bucket_clear i⟩

theorem apply (ring : d.Ring) (op : Op α) : (d.apply op).Ring := by
  cases op with
  | offer key a => exact ring.offer key a
  | find key => exact ring
  | size => exact ring
  | rotate => exact ring.rotate
  | clear => exact ring.clear

theorem run (ring : d.Ring) (ops : List (Op α)) : (d.run ops).Ring := by
  induction ops generalizing d with
  | nil => exact ring
  | cons op ops ih => exact ih (ring.apply op)

end Ring

/-! ### Ages -/

/-- What is retained for a key, and the number of rotations since the key was offered last. -/
def aged? (d : Rotation α) (key : Key) : Option (Nat × α) :=
  match (d.bucket d.current).get? key with
  | some a => some (0, a)
  | none =>
    if d.previous = d.current then none else ((d.bucket d.previous).get? key).map fun a => (1, a)

/-- One generation later. -/
def older : Nat × α → Option (Nat × α)
  | (0, a) => some (1, a)
  | (_ + 1, _) => none

theorem find?_eq_aged? (d : Rotation α) (key : Key) :
    d.find? key = (d.aged? key).map fun p => p.2 := by
  unfold find? aged?
  cases hcurrent : (d.bucket d.current).get? key with
  | some a => rfl
  | none =>
    by_cases hp : d.previous = d.current
    · simp [hp, hcurrent]
    · simp [hp, Function.comp_def]

/-- An offer of a key that is not in the current bucket puts it there, with what is retained or else
with what is offered. -/
theorem offer_of_get?_eq_none (h : (d.bucket d.current).get? key = none) (a : α) :
    d.offer key a =
      (d.setBucket d.current ((d.bucket d.current).insert key ((d.find? key).getD a)),
        d.find? key) := by
  by_cases hp : d.previous = d.current
  · simp [offer, find?, h, hp]
  · cases hprevious : (d.bucket d.previous).get? key <;> simp [offer, find?, h, hp, hprevious]

/-- An offer gets what is retained. -/
theorem offer_snd (d : Rotation α) (key : Key) (a : α) : (d.offer key a).2 = d.find? key := by
  cases h : (d.bucket d.current).get? key with
  | some b => simp [offer, find?, h]
  | none => rw [offer_of_get?_eq_none h]

/-- An offer makes its key new again, with what was retained if anything was. -/
theorem aged?_offer (d : Rotation α) (key : Key) (a : α) :
    (d.offer key a).1.aged? key = some (0, (d.find? key).getD a) := by
  cases h : (d.bucket d.current).get? key with
  | some b => simp [offer, find?, aged?, h]
  | none =>
    have hcurrent : ((d.offer key a).1.bucket d.current).get? key =
        some ((d.find? key).getD a) := by
      rw [offer_of_get?_eq_none h, bucket_setBucket, if_pos rfl, OrderedMap.get?_insert, if_pos rfl]
    rw [aged?, (d.places_offer key a).1, hcurrent]

theorem aged?_offer_of_ne {other : Key} (h : other ≠ key) (a : α) :
    (d.offer key a).1.aged? other = d.aged? other := by
  unfold aged?
  rw [(d.places_offer key a).1, (d.places_offer key a).2, get?_offer_of_ne d h,
    get?_offer_of_ne d h]

/-- A rotation makes every key older, and drops what is two generations old. -/
theorem Ring.aged?_rotate (ring : d.Ring) (key : Key) :
    d.rotate.aged? key = (d.aged? key).bind older := by
  have hnext : ∀ c : Fin 3,
      c + 1 ≠ c ∧ c + 1 ≠ c + 2 ∧ c + 1 ≠ c + 1 + 1 ∧ c ≠ c + 1 + 1 := by decide
  obtain ⟨hcurrent, hbefore, hcleared, hkept⟩ := hnext d.current
  -- the bucket that becomes the current one was neither the current nor the previous one
  have hempty : d.rotate.bucket d.rotate.current = .empty := by
    show d.rotate.bucket (d.current + 1) = _
    rw [bucket_rotate, if_neg hcleared]
    refine ring.spare _ hcurrent fun hprevious => ?_
    rcases ring.places with h | h
    · exact hcurrent (hprevious.trans h)
    · exact hbefore (hprevious.trans h)
  have hprevious : d.rotate.bucket d.rotate.previous = d.bucket d.current := by
    show d.rotate.bucket d.current = _
    rw [bucket_rotate, if_neg hkept]
  have hne : d.rotate.previous ≠ d.rotate.current := Ne.symm hcurrent
  rw [aged?, hempty, hprevious, OrderedMap.get?_empty]
  simp only [if_neg hne, aged?]
  cases (d.bucket d.current).get? key with
  | some a => rfl
  | none =>
    by_cases hp : d.previous = d.current
    · simp [hp]
    · cases (d.bucket d.previous).get? key <;> simp [hp, older]

theorem aged?_clear (d : Rotation α) (key : Key) : d.clear.aged? key = none := by
  simp [aged?, bucket_clear]

/-- **Ages.** What an operation does to the age of a key. -/
theorem Ring.aged?_apply (ring : d.Ring) (op : Op α) (key : Key) :
    (d.apply op).aged? key =
      match op with
      | .offer other a =>
        if other = key then some (0, (d.find? key).getD a) else d.aged? key
      | .find _ => d.aged? key
      | .size => d.aged? key
      | .rotate => (d.aged? key).bind older
      | .clear => none := by
  cases op with
  | offer other a =>
    by_cases h : other = key
    · subst h
      simpa [Rotation.apply] using d.aged?_offer other a
    · simpa [Rotation.apply, h] using aged?_offer_of_ne (Ne.symm h) a
  | find other => rfl
  | size => rfl
  | rotate => exact ring.aged?_rotate key
  | clear => exact d.aged?_clear key

/-! ### Histories -/

/-- A key was offered, and since it was offered last, nothing was cleared and `n` rotations took
place. -/
def Since (key : Key) (n : Nat) (ops : List (Op α)) : Prop :=
  ∃ before value after, ops = before ++ .offer key value :: after ∧
    (∀ other, .offer key other ∉ after) ∧ .clear ∉ after ∧ after.countP Op.isRotate = n

/-- The value that an operation stores under a key: one that is offered when nothing is retained. -/
def stores? (d : Rotation α) (key : Key) : Op α → Option α
  | .offer other a => if other = key && (d.offer key a).2.isNone then some a else none
  | _ => none

/-- The value that was stored last under a key in some operations, or else `found`. -/
def lastStored (key : Key) : Rotation α → Option α → List (Op α) → Option α
  | _, found, [] => found
  | d, found, op :: ops => lastStored key (d.apply op) ((d.stores? key op).or found) ops

/-- The value that was stored last under a key since the beginning. -/
def canonical? (period : Duration) (key : Key) (ops : List (Op α)) : Option α :=
  lastStored key (new period) none ops

theorem lastStored_concat (key : Key) (d : Rotation α) (found : Option α) (ops : List (Op α))
    (op : Op α) : lastStored key d found (ops ++ [op]) =
      ((d.run ops).stores? key op).or (lastStored key d found ops) := by
  induction ops generalizing d found with
  | nil => rfl
  | cons first ops ih => exact ih (d.apply first) _

/-- Whether a history with one operation more ends so long after the last offer of a key. -/
theorem since_concat_iff {n : Nat} {ops : List (Op α)} {op : Op α} :
    Since key n (ops ++ [op]) ↔
      (∃ a, op = .offer key a) ∧ n = 0 ∨
        (∀ a, op ≠ .offer key a) ∧ op ≠ .clear ∧
          ∃ m, Since key m ops ∧ n = m + if op.isRotate then 1 else 0 := by
  constructor
  · rintro ⟨before, value, after, heq, hoffer, hclear, rfl⟩
    rcases concat_eq_append_cons_iff.mp heq with ⟨-, hlast, rfl⟩ | ⟨rest, rfl, rfl⟩
    · exact .inl ⟨⟨value, hlast⟩, rfl⟩
    · simp only [List.mem_append, List.mem_singleton, not_or] at hoffer hclear
      refine .inr ⟨fun a h => (hoffer a).2 h.symm, fun h => hclear.2 h.symm, _,
        ⟨before, value, rest, rfl, fun a => (hoffer a).1, hclear.1, rfl⟩, ?_⟩
      rw [List.countP_append, List.countP_singleton]
  · rintro (⟨⟨a, rfl⟩, rfl⟩ | ⟨hoffer, hclear, m, since, rfl⟩)
    · exact ⟨ops, a, [], rfl, fun _ => List.not_mem_nil, List.not_mem_nil, rfl⟩
    · obtain ⟨before, value, after, rfl, hoffers, hclears, rfl⟩ := since
      refine ⟨before, value, after ++ [op], by simp, fun a h => ?_, fun h => ?_, ?_⟩
      · rcases List.mem_append.mp h with h | h
        · exact hoffers a h
        · exact hoffer a (List.mem_singleton.mp h).symm
      · rcases List.mem_append.mp h with h | h
        · exact hclears h
        · exact hclear (List.mem_singleton.mp h).symm
      · rw [List.countP_append, List.countP_singleton]

theorem older_eq_some_iff {p : Nat × α} {n : Nat} {a : α} :
    older p = some (n, a) ↔ p = (0, a) ∧ n = 1 := by
  obtain ⟨m, b⟩ := p
  cases m with
  | zero => simp [older, eq_comm, and_comm]
  | succ m => simp [older]

/-- **Age counter.** After any operations, a key has the age that its history gives it, as long as
that is one rotation at most, and the value that was stored last under it. -/
theorem aged?_run (period : Duration) (ops : List (Op α)) (key : Key) (n : Nat) (a : α) :
    ((new period).run ops).aged? key = some (n, a) ↔
      n ≤ 1 ∧ Since key n ops ∧ canonical? period key ops = some a := by
  induction ops using List.reverseRecOn generalizing n a with
  | nil =>
    have hnone : (new period : Rotation α).aged? key = none := by simp [aged?, bucket_new]
    simp [run, hnone, Since]
  | append_singleton ops op ih =>
    have ring : ((new period : Rotation α).run ops).Ring := (ring_new period).run ops
    rw [run_concat, ring.aged?_apply, since_concat_iff, canonical?, lastStored_concat,
      ← canonical?]
    generalize (new period : Rotation α).run ops = d at ih ring
    cases op with
    | offer other b =>
      by_cases hother : other = key
      · subst hother
        -- what was retained was stored last, and `b` is stored if nothing was
        have hlast : (d.stores? other (.offer other b)).or (canonical? period other ops) =
            some ((d.find? other).getD b) := by
          rw [find?_eq_aged?]
          cases haged : d.aged? other with
          | none => simp [stores?, offer_snd, find?_eq_aged?, haged]
          | some p =>
            simp [stores?, offer_snd, find?_eq_aged?, haged, ((ih p.1 p.2).mp haged).2.2]
        rw [hlast]
        simp only [↓reduceIte, Option.some.injEq, Prod.mk.injEq]
        constructor
        · rintro ⟨rfl, hvalue⟩
          exact ⟨Nat.zero_le 1, .inl ⟨⟨b, rfl⟩, rfl⟩, hvalue⟩
        · rintro ⟨-, ⟨-, hn⟩ | ⟨hne, -⟩, hvalue⟩
          · exact ⟨hn.symm, hvalue⟩
          · exact absurd rfl (hne b)
      · simp [stores?, hother, ih, Op.isRotate]
    | find other => simp [stores?, ih, Op.isRotate]
    | size => simp [stores?, ih, Op.isRotate]
    | rotate =>
      rw [Option.bind_eq_some_iff]
      simp only [older_eq_some_iff, stores?, Op.isRotate, Option.none_or]
      constructor
      · rintro ⟨p, haged, rfl, rfl⟩
        obtain ⟨-, hsince, hlast⟩ := (ih 0 a).mp haged
        exact ⟨Nat.le_refl 1, .inr ⟨by simp, by simp, 0, hsince, rfl⟩, hlast⟩
      · rintro ⟨hn, ⟨⟨b, hb⟩, -⟩ | ⟨-, -, m, hsince, hm⟩, hlast⟩
        · cases hb
        · obtain ⟨rfl, rfl⟩ : m = 0 ∧ n = 1 := by simp at hm; omega
          exact ⟨(0, a), (ih 0 a).mpr ⟨Nat.zero_le 1, hsince, hlast⟩, rfl, rfl⟩
    | clear => simp [stores?]

/-- Some value was stored under a key that was offered. -/
theorem Since.exists_canonical {n : Nat} {ops : List (Op α)} (since : Since key n ops)
    (period : Duration) : ∃ a, canonical? period key ops = some a := by
  induction ops using List.reverseRecOn generalizing n with
  | nil =>
    obtain ⟨before, value, after, heq, -⟩ := since
    simp at heq
  | append_singleton ops op ih =>
    rw [canonical?, lastStored_concat, ← canonical?]
    rcases since_concat_iff.mp since with ⟨⟨b, rfl⟩, -⟩ | ⟨-, -, m, hsince, -⟩
    · -- either nothing was retained, so that `b` is stored, or what was retained had been stored
      cases haged : ((new period).run ops).aged? key with
      | none => exact ⟨b, by simp [stores?, offer_snd, find?_eq_aged?, haged]⟩
      | some p =>
        have hlast := ((aged?_run period ops key p.1 p.2).mp haged).2.2
        exact ⟨p.2, by simp [stores?, offer_snd, find?_eq_aged?, haged, hlast]⟩
    · obtain ⟨a, hlast⟩ := ih hsince
      cases hstores : ((new period).run ops).stores? key op with
      | none => exact ⟨a, by rw [hlast, Option.none_or]⟩
      | some b => exact ⟨b, by rw [Option.some_or]⟩

/-! ### What is retained -/

/-- A key was offered, and since it was offered last, nothing was cleared and there was one rotation
at most. -/
def Recent (key : Key) (ops : List (Op α)) : Prop := ∃ n, n ≤ 1 ∧ Since key n ops

/-- What is retained for a key that was offered recently is what was stored last under it. -/
theorem find?_run_of_recent {ops : List (Op α)} (recent : Recent key ops) (period : Duration) :
    ∃ a, canonical? period key ops = some a ∧ ((new period).run ops).find? key = some a := by
  obtain ⟨n, hn, since⟩ := recent
  obtain ⟨a, hlast⟩ := since.exists_canonical period
  have haged := (aged?_run period ops key n a).mpr ⟨hn, since, hlast⟩
  exact ⟨a, hlast, by rw [find?_eq_aged?, haged, Option.map_some]⟩

/-- Nothing is retained for any other key. -/
theorem find?_run_of_not_recent {ops : List (Op α)} (h : ¬ Recent key ops) (period : Duration) :
    ((new period).run ops).find? key = none := by
  rw [find?_eq_aged?, Option.map_eq_none_iff]
  cases haged : ((new period).run ops).aged? key with
  | none => rfl
  | some p =>
    obtain ⟨hn, since, -⟩ := (aged?_run period ops key p.1 p.2).mp haged
    exact absurd ⟨p.1, hn, since⟩ h

/-- The size is the number of keys for which something is retained: those in the current bucket, and
those in the previous one alone. -/
theorem size_eq_length (d : Rotation α) :
    ∃ keys : List Key, keys.Nodup ∧ (∀ key, key ∈ keys ↔ (d.find? key).isSome = true) ∧
      d.size = keys.length := by
  let current := d.bucket d.current
  by_cases hp : d.current = d.previous
  · refine ⟨current.keys, current.nodup_keys, fun key => ?_, ?_⟩
    · rw [OrderedMap.mem_keys_iff, find?, ← hp, Option.or_self]
    · simp [size, hp, current, OrderedMap.keys, OrderedMap.size]
  · let only := (d.bucket d.previous).keys.filter fun key => !current.contains key
    refine ⟨current.keys ++ only, List.nodup_append.mpr ⟨current.nodup_keys,
      (d.bucket d.previous).nodup_keys.filter _, ?_⟩, fun key => ?_, ?_⟩
    · rintro key hkey _ honly rfl
      have hnot := (List.mem_filter.mp honly).2
      rw [OrderedMap.contains, OrderedMap.mem_keys_iff.mp hkey] at hnot
      cases hnot
    · rw [List.mem_append, List.mem_filter, OrderedMap.mem_keys_iff, OrderedMap.mem_keys_iff,
        OrderedMap.contains, find?, Option.isSome_or, Bool.or_eq_true]
      cases (current.get? key).isSome <;> simp
    · rw [List.length_append, ← List.countP_eq_length_filter]
      simp [size, hp, current, OrderedMap.keys, OrderedMap.size]

/-- **Generations.** After any operations, what is retained for a key that was offered recently is
what was stored last under it, looked up or offered; for any other key it is nothing, and what is
offered is stored. The size is the number of keys for which something is retained, and the third
bucket is empty. -/
theorem retained_run (period : Duration) (ops : List (Op α)) :
    let d := (new period).run ops
    (∀ key, Recent key ops → ∃ a, canonical? period key ops = some a ∧ d.find? key = some a ∧
      ∀ b, (d.offer key b).2 = some a) ∧
    (∀ key, ¬ Recent key ops → d.find? key = none ∧
      ∀ b, (d.offer key b).2 = none ∧ canonical? period key (ops ++ [.offer key b]) = some b) ∧
    (∃ keys : List Key, keys.Nodup ∧ (∀ key, key ∈ keys ↔ (d.find? key).isSome = true) ∧
      d.size = keys.length) ∧
    ∀ i, i ≠ d.current → i ≠ d.previous → d.bucket i = .empty := by
  intro d
  refine ⟨fun key recent => ?_, fun key hnot => ?_, d.size_eq_length,
    ((ring_new period).run ops).spare⟩
  · obtain ⟨a, hlast, hfound⟩ := find?_run_of_recent recent period
    exact ⟨a, hlast, hfound, fun b => (d.offer_snd key b).trans hfound⟩
  · have hnone : d.find? key = none := find?_run_of_not_recent hnot period
    refine ⟨hnone, fun b => ⟨(d.offer_snd key b).trans hnone, ?_⟩⟩
    rw [canonical?, lastStored_concat]
    simp [stores?, offer_snd, d, hnone]

/-- A key that is offered in every generation keeps its first value, until two rotations pass. -/
example :
    let k := Key.mid ⟨.v4 0, 5683⟩ 7
    let kept := (new (.ofSeconds 1)).run [.offer k 1, .rotate, .offer k 2, .rotate]
    kept.find? k = some 1 ∧ (kept.run [.rotate]).find? k = none := by
  decide

end Dedup.Rotation

end Coap
