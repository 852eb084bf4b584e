import Coap.Proofs.Dedup.Generations
import Coap.Proofs.Wire.Instances

/-!
# What a deduplicator holds

Beside what it answers with, a deduplicator may hold values that only wait to be dropped. A property of
everything that it holds is kept by all operations, if the values that are offered have it.

* `Deduplicator.Holds` — everything that is held has a property, and generations stand in their ring.
* `Deduplicator.offer_snd`, `Deduplicator.current?_offer` — an offer of any key, known or not.
* `Deduplicator.find?_tick_of_keeps` — what the worker leaves when its period is over.
-/

namespace Coap.Deduplicator

variable {α : Type u} {P : Key → α → Prop} {d : Deduplicator α} {key : Key}

/-! ### Everything that is held -/

/-- Everything that is held, under whatever key, has the property `P`. -/
def Holds (P : Key → α → Prop) (d : Deduplicator α) : Prop :=
  match d.retention with
  | .sweep s => ∀ key v, s.retained.get? key = some v → P key v.data
  | .rotation r => r.Ring ∧ ∀ i key a, (r.bucket i).get? key = some a → P key a

/-- Nothing is held, under no key. -/
def Blank (d : Deduplicator α) : Prop := d.Holds fun _ _ => False

/-- A deduplicator holds nothing at first, whatever it was told. -/
theorem blank_ofConfig? {config : Config} (h : ofConfig? config = some d) : d.Blank := by
  unfold ofConfig? at h
  split at h
  · obtain ⟨lifetime, -, rfl⟩ := Option.map_eq_some_iff.mp h
    intro key v hget
    simp [Dedup.Sweep.new] at hget
  · obtain ⟨period, -, rfl⟩ := Option.map_eq_some_iff.mp h
    refine ⟨Dedup.Rotation.ring_new period, fun i key a hget => ?_⟩
    simp [Dedup.Rotation.bucket_new] at hget

namespace Holds

theorem mono {Q : Key → α → Prop} (h : d.Holds P) (hPQ : ∀ key a, P key a → Q key a) :
    d.Holds Q := by
  obtain ⟨retention, running⟩ := d
  cases retention with
  | sweep s => exact fun key v hget => hPQ key _ (h key v hget)
  | rotation r => exact ⟨h.1, fun i key a hget => hPQ key a (h.2 i key a hget)⟩

/-- What is retained has the property. -/
theorem find? (h : d.Holds P) {a : α} (hfind : d.find? key = some a) : P key a := by
  obtain ⟨retention, running⟩ := d
  cases retention with
  | sweep s =>
    obtain ⟨v, hget, rfl⟩ := Option.map_eq_some_iff.mp hfind
    exact h key v hget
  | rotation r =>
    rcases Option.or_eq_some_iff.mp hfind with hget | ⟨-, hget⟩
    · exact h.2 r.current key a hget
    · exact h.2 r.previous key a hget

theorem offer (h : d.Holds P) {a : α} (ha : d.find? key = none → P key a) (created : Instant) :
    (d.offer key a created).1.Holds P := by
  obtain ⟨retention, running⟩ := d
  cases retention with
  | sweep s =>
    show ∀ other v, (s.offer key a created).1.retained.get? other = some v → P other v.data
    intro other v hget
    unfold Dedup.Sweep.offer at hget
    split at hget
    · exact h other v hget
    · next hnone =>
      simp only [OrderedMap.get?_insert] at hget
      split at hget
      · next hother =>
        cases hget
        exact hother ▸ ha (Option.map_eq_none_iff.mpr hnone)
      · exact h other v hget
  | rotation r =>
    refine ⟨h.1.offer key a, fun i other b hget => ?_⟩
    change ((r.offer key a).1.bucket i).get? other = some b at hget
    cases hcurrent : (r.bucket r.current).get? key with
    | some found =>
      have hsame : r.offer key a = (r, some found) := by simp [Dedup.Rotation.offer, hcurrent]
      rw [hsame] at hget
      exact h.2 i other b hget
    | none =>
      rw [Dedup.Rotation.offer_of_get?_eq_none hcurrent, Dedup.Rotation.bucket_setBucket] at hget
      split at hget
      · rw [OrderedMap.get?_insert] at hget
        split at hget
        · next hother =>
          -- what comes into the current bucket was offered, or is found in the one before
          cases hget
          subst hother
          cases hfind : r.find? other with
          | none => exact ha hfind
          | some found => exact find? (d := ⟨.rotation r, running⟩) h hfind
        · exact h.2 r.current other b hget
      · exact h.2 i other b hget

/-- A change of what is held under one key may give it a property that all other keys have. -/
theorem amend {Q : Key → α → Prop} (h : d.Holds Q) {f : α → α}
    (hkey : ∀ a, Q key a → P key (f a)) (hother : ∀ other a, other ≠ key → Q other a → P other a) :
    (d.amend key f).Holds P := by
  obtain ⟨retention, running⟩ := d
  cases retention with
  | sweep s =>
    show ∀ other v, (s.amend key f).retained.get? other = some v → P other v.data
    intro other v hget
    simp only [Dedup.Sweep.amend, OrderedMap.get?_modify] at hget
    split at hget
    · next hsame =>
      obtain ⟨before, hbefore, rfl⟩ := Option.map_eq_some_iff.mp hget
      subst hsame
      exact hkey _ (h other before hbefore)
    · next hne => exact hother other _ hne (h other v hget)
  | rotation r =>
    refine ⟨⟨h.1.places, fun i hi hi' => ?_⟩, fun i other b hget => ?_⟩
    · apply OrderedMap.ext_get?
      intro k
      rw [Dedup.Rotation.bucket_amend, h.1.spare i hi hi', OrderedMap.get?_modify]
      simp
    · rw [Dedup.Rotation.bucket_amend, OrderedMap.get?_modify] at hget
      split at hget
      · next hsame =>
        obtain ⟨before, hbefore, rfl⟩ := Option.map_eq_some_iff.mp hget
        subst hsame
        exact hkey _ (h.2 i other before hbefore)
      · next hne => exact hother other b hne (h.2 i other b hget)

/-- What is offered counts for nothing once it is replaced. -/
theorem offer_amend (h : d.Holds P) (a : α) (created : Instant) {b : α} (hb : P key b) :
    ((d.offer key a created).1.amend key fun _ => b).Holds P := by
  have hoffered : (d.offer key a created).1.Holds fun other c => other = key ∨ P other c :=
    offer (mono h fun _ _ => .inr) (fun _ => .inl rfl) created
  exact hoffered.amend (fun _ _ => hb) fun _ _ hne hc => hc.resolve_left hne

theorem tick (h : d.Holds P) (now : Instant) : (d.tick now).Holds P := by
  obtain ⟨retention, running⟩ := d
  cases retention with
  | sweep s =>
    show ∀ other v, (s.sweep now).retained.get? other = some v → P other v.data
    intro other v hget
    rw [Dedup.Sweep.sweep, OrderedMap.get?_filter] at hget
    exact h other v (Option.filter_eq_some_iff.mp hget).1
  | rotation r =>
    refine ⟨h.1.rotate, fun i other b hget => ?_⟩
    change (r.rotate.bucket i).get? other = some b at hget
    rw [Dedup.Rotation.bucket_rotate] at hget
    split at hget
    · simp at hget
    · exact h.2 i other b hget

theorem start (h : d.Holds P) : d.start.Holds P := h

theorem stop (h : d.Holds P) : d.stop.Holds P := by
  obtain ⟨retention, running⟩ := d
  cases retention with
  | sweep s =>
    show ∀ other v, s.clear.retained.get? other = some v → P other v.data
    intro other v hget
    simp [Dedup.Sweep.clear] at hget
  | rotation r =>
    refine ⟨h.1.clear, fun i other b hget => ?_⟩
    change (r.clear.bucket i).get? other = some b at hget
    simp [Dedup.Rotation.bucket_clear] at hget

end Holds

/-! ### Offers of any key -/

/-- An offer gets what is retained. -/
theorem offer_snd (d : Deduplicator α) (key : Key) (a : α) (created : Instant) :
    (d.offer key a created).2 = d.find? key := by
  obtain ⟨retention, running⟩ := d
  cases retention with
  | sweep s =>
    show (s.offer key a created).2 = s.find? key
    unfold Dedup.Sweep.offer Dedup.Sweep.find?
    cases s.retained.get? key <;> rfl
  | rotation r => exact r.offer_snd key a

/-- An offer makes what is retained current. -/
theorem current?_offer {a : α} (h : d.find? key = some a) (b : α) (created : Instant) :
    (d.offer key b created).1.current? key = some a := by
  obtain ⟨retention, running⟩ := d
  cases retention with
  | sweep s =>
    rw [offer_of_current? (d := ⟨.sweep s, running⟩) h]
    exact h
  | rotation r =>
    have hage := r.aged?_offer key b
    rw [show r.find? key = some a from h] at hage
    unfold Dedup.Rotation.aged? at hage
    show (((r.offer key b).1.bucket (r.offer key b).1.current).get? key) = some a
    split at hage
    · next found hfound =>
      cases hage
      exact hfound
    · split at hage
      · cases hage
      · obtain ⟨_, -, hage⟩ := Option.map_eq_some_iff.mp hage
        cases hage

/-! ### Starting, stopping and the worker -/

theorem running_offer (d : Deduplicator α) (key : Key) (a : α) (created : Instant) :
    (d.offer key a created).1.running = d.running := by
  obtain ⟨retention, running⟩ := d
  cases retention <;> rfl

theorem running_amend (d : Deduplicator α) (key : Key) (f : α → α) :
    (d.amend key f).running = d.running := by
  obtain ⟨retention, running⟩ := d
  cases retention <;> rfl

theorem running_tick (d : Deduplicator α) (now : Instant) : (d.tick now).running = d.running := by
  obtain ⟨retention, running⟩ := d
  cases retention <;> rfl

/-- After a stop nothing is retained. -/
theorem find?_stop (d : Deduplicator α) (key : Key) : d.stop.find? key = none := by
  obtain ⟨retention, running⟩ := d
  cases retention with
  | sweep s => rfl
  | rotation r =>
    show r.clear.find? key = none
    rw [Dedup.Rotation.find?_eq_aged?, Dedup.Rotation.aged?_clear]
    rfl

/-- A start makes no difference to a stop. -/
theorem stop_start (d : Deduplicator α) : d.start.stop = d.stop := by
  obtain ⟨retention, running⟩ := d
  cases retention <;> rfl

/-- Does the worker keep what is retained for a key if its period is over now? By age it does until
the lifetime has passed, and by generations if the key was asked for in the current one. -/
def keeps (d : Deduplicator α) (now : Instant) (key : Key) : Bool :=
  match d.retention with
  | .sweep s => (s.retained.get? key).all fun v => !s.isExpired now v.time
  | .rotation r => (r.bucket r.current).contains key

theorem find?_tick_of_keeps (h : d.Holds P) {now : Instant} (hkeeps : d.keeps now key = true) :
    (d.tick now).find? key = d.find? key := by
  obtain ⟨retention, running⟩ := d
  cases retention with
  | sweep s =>
    show ((s.sweep now).retained.get? key).map _ = (s.retained.get? key).map _
    rw [Dedup.Sweep.sweep, OrderedMap.get?_filter]
    change (s.retained.get? key).all _ = true at hkeeps
    cases hget : s.retained.get? key with
    | none => rfl
    | some v =>
      rw [hget] at hkeeps
      simp only [Option.all_some] at hkeeps
      simp [Option.filter, hkeeps]
  | rotation r =>
    obtain ⟨a, hcurrent⟩ := Option.isSome_iff_exists.mp hkeeps
    show r.rotate.find? key = r.find? key
    rw [r.rotate.find?_eq_aged?, h.1.aged?_rotate, r.find?_eq_aged?, Dedup.Rotation.aged?, hcurrent]
    rfl

end Coap.Deduplicator
