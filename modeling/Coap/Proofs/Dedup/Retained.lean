import Coap.Dedup.Basic

/-!
# What is retained

Lookups after each operation of a deduplicator, for both ways to retain values. As long as nothing is
dropped, a value that was offered once is current: it answers all later offers of its key, which then
change nothing.

* `Deduplicator.current?` — what is retained for a key without the generation before.
* `Deduplicator.offer_of_current?`, `Deduplicator.offer_of_find?_eq_none` — an offer of a known key, and
  of a new one.
* `Deduplicator.find?_offer_of_ne`, `Deduplicator.find?_amend` — what they leave of the other keys.
-/

namespace Coap

/-! ### By generations -/

namespace Dedup.Rotation

variable {α : Type u}

theorem bucket_setBucket (d : Rotation α) (i j : Fin 3) (b : OrderedMap Key α) :
    (d.setBucket i b).bucket j = if j = i then b else d.bucket j := by
  show (d.buckets.set i b)[j] = _
  rw [Fin.getElem_fin, Vector.getElem_set]
  by_cases h : j = i
  · simp [h]
  · have hne : (i : Nat) ≠ j := fun he => h (Fin.ext he.symm)
    simp [h, hne, bucket]

/-- A value that comes into the current bucket is not seen under other keys. -/
theorem get?_bucket_insert_of_ne (d : Rotation α) {key other : Key} (h : other ≠ key) (a : α)
    (i : Fin 3) :
    ((d.setBucket d.current ((d.bucket d.current).insert key a)).bucket i).get? other =
      (d.bucket i).get? other := by
  rw [bucket_setBucket]
  by_cases hi : i = d.current
  · rw [if_pos hi, OrderedMap.get?_insert, if_neg h, hi]
  · rw [if_neg hi]

theorem bucket_amend (d : Rotation α) (key : Key) (f : α → α) (i : Fin 3) :
    (d.amend key f).bucket i = (d.bucket i).modify key f := by
  simp [bucket, amend]

/-- An offer changes nothing or puts one value into the current bucket. -/
theorem offer_cases (d : Rotation α) (key : Key) (a : α) :
    (d.offer key a).1 = d ∨
      ∃ b, (d.offer key a).1 = d.setBucket d.current ((d.bucket d.current).insert key b) := by
  simp only [offer]
  split
  · exact .inl rfl
  · split
    · exact .inr ⟨_, rfl⟩
    · exact .inr ⟨_, rfl⟩

/-- Each bucket says of another key after an offer what it said before. -/
theorem get?_offer_of_ne (d : Rotation α) {key other : Key} (h : other ≠ key) (a : α) (i : Fin 3) :
    ((d.offer key a).1.bucket i).get? other = (d.bucket i).get? other := by
  rcases d.offer_cases key a with heq | ⟨b, heq⟩
  · rw [heq]
  · rw [heq, get?_bucket_insert_of_ne d h]

/-- The buckets keep their places in an offer. -/
theorem places_offer (d : Rotation α) (key : Key) (a : α) :
    (d.offer key a).1.current = d.current ∧ (d.offer key a).1.previous = d.previous := by
  rcases d.offer_cases key a with heq | ⟨b, heq⟩
  · rw [heq]
    exact ⟨rfl, rfl⟩
  · rw [heq]
    exact ⟨rfl, rfl⟩

end Dedup.Rotation

/-! ### Either way -/

namespace Deduplicator

variable {α : Type u} {d : Deduplicator α} {key other : Key}

/-- What is retained for a key, in the current generation if there are generations. -/
def current? (d : Deduplicator α) (key : Key) : Option α :=
  match d.retention with
  | .sweep s => s.find? key
  | .rotation r => (r.bucket r.current).get? key

/-- What is current is retained. -/
theorem find?_of_current? {a : α} (h : d.current? key = some a) : d.find? key = some a := by
  obtain ⟨retention, running⟩ := d
  cases retention with
  | sweep s => exact h
  | rotation r =>
    show ((r.bucket r.current).get? key).or _ = some a
    rw [show (r.bucket r.current).get? key = some a from h, Option.some_or]

/-- A key with a current value gets it, and nothing changes. -/
theorem offer_of_current? {a : α} (h : d.current? key = some a) (b : α) (created : Instant) :
    d.offer key b created = (d, some a) := by
  obtain ⟨retention, running⟩ := d
  cases retention with
  | sweep s =>
    obtain ⟨stamped, hget, rfl⟩ := Option.map_eq_some_iff.mp h
    simp only [offer, Dedup.Sweep.offer, hget]
  | rotation r =>
    have hget : (r.bucket r.current).get? key = some a := h
    simp only [offer, Dedup.Rotation.offer, hget]

/-- A key without a value gets none, and what is offered becomes current. -/
theorem offer_of_find?_eq_none (h : d.find? key = none) (a : α) (created : Instant) :
    ∃ d', d.offer key a created = (d', none) ∧ d'.current? key = some a := by
  obtain ⟨retention, running⟩ := d
  cases retention with
  | sweep s =>
    have hget : s.retained.get? key = none := Option.map_eq_none_iff.mp h
    refine ⟨_, by simp only [offer, Dedup.Sweep.offer, hget]; rfl, ?_⟩
    simp [current?, Dedup.Sweep.find?, OrderedMap.get?_insert]
  | rotation r =>
    obtain ⟨hcurrent, hprevious⟩ := Option.or_eq_none_iff.mp h
    -- whether or not there is a generation before, nothing comes from it
    have hpromoted : (if r.previous = r.current then none
        else (r.bucket r.previous).get? key) = none := by
      by_cases hp : r.previous = r.current
      · exact if_pos hp
      · rw [if_neg hp, hprevious]
    refine ⟨_, by simp only [offer, Dedup.Rotation.offer, hcurrent, hpromoted]; rfl, ?_⟩
    show ((r.setBucket r.current _).bucket r.current).get? key = some a
    rw [Dedup.Rotation.bucket_setBucket, if_pos rfl, OrderedMap.get?_insert, if_pos rfl]

/-- Offers of one key do not touch what is retained for others. -/
theorem find?_offer_of_ne (h : other ≠ key) (a : α) (created : Instant) :
    (d.offer key a created).1.find? other = d.find? other := by
  obtain ⟨retention, running⟩ := d
  cases retention with
  | sweep s =>
    show ((s.offer key a created).1.retained.get? other).map _ = (s.retained.get? other).map _
    unfold Dedup.Sweep.offer
    cases s.retained.get? key with
    | some previous => rfl
    | none =>
      simp only
      rw [OrderedMap.get?_insert, if_neg h]
  | rotation r =>
    show (((r.offer key a).1.bucket (r.offer key a).1.current).get? other).or
      (((r.offer key a).1.bucket (r.offer key a).1.previous).get? other) = _
    rw [(r.places_offer key a).1, (r.places_offer key a).2, r.get?_offer_of_ne h,
      r.get?_offer_of_ne h]
    rfl

theorem current?_offer_of_ne (h : other ≠ key) (a : α) (created : Instant) :
    (d.offer key a created).1.current? other = d.current? other := by
  obtain ⟨retention, running⟩ := d
  cases retention with
  | sweep s => exact find?_offer_of_ne (d := ⟨.sweep s, running⟩) h a created
  | rotation r =>
    show ((r.offer key a).1.bucket (r.offer key a).1.current).get? other = _
    rw [(r.places_offer key a).1, r.get?_offer_of_ne h]
    rfl

/-- A change is seen under its own key and under no other. -/
theorem current?_amend (d : Deduplicator α) (key other : Key) (f : α → α) :
    (d.amend key f).current? other =
      if other = key then (d.current? key).map f else d.current? other := by
  obtain ⟨retention, running⟩ := d
  cases retention with
  | sweep s =>
    show ((s.retained.modify key _).get? other).map _ = _
    rw [OrderedMap.get?_modify]
    by_cases h : other = key
    · simp only [if_pos h, current?, Dedup.Sweep.find?, Option.map_map]
      rfl
    · simp only [if_neg h]
      rfl
  | rotation r =>
    show ((r.amend key f).bucket r.current).get? other = _
    rw [Dedup.Rotation.bucket_amend, OrderedMap.get?_modify]
    rfl

theorem find?_amend_of_ne (h : other ≠ key) (f : α → α) :
    (d.amend key f).find? other = d.find? other := by
  obtain ⟨retention, running⟩ := d
  cases retention with
  | sweep s =>
    have hcurrent := current?_amend ⟨.sweep s, running⟩ key other f
    rw [if_neg h] at hcurrent
    exact hcurrent
  | rotation r =>
    show (((r.amend key f).bucket r.current).get? other).or
      (((r.amend key f).bucket r.previous).get? other) = _
    rw [Dedup.Rotation.bucket_amend, Dedup.Rotation.bucket_amend, OrderedMap.get?_modify,
      OrderedMap.get?_modify, if_neg h, if_neg h]
    rfl

end Deduplicator

end Coap
