import Coap.Exchange
import Coap.Proofs.Dedup.Generations

/-!
# Retention windows

A value that was stored is retained until two rotations take place between which its key is not
offered. An offer thus begins the window of its key anew, while a look-up does not. What is found after
the window was stored since.

* `Dedup.Rotation.Lapsed` — the operations that end the window of a key.
* `Dedup.Rotation.aged?_run_of_not_lapsed` — until they do, a value is retained.
* `Dedup.Rotation.storedIn_of_lapsed` — from then on, what is found was stored later.
* `Dedup.Rotation.window_run` — so how long a value is retained; by `Dedup.Rotation.window_extended`
  that may be longer than two rotations.
-/

namespace Coap.Dedup.Rotation

variable {α : Type u} {d : Rotation α} {key : Key} {a : α} {ops : List (Op α)} {op : Op α}

/-! ### Windows -/

/-- A rotation took place, and the key was not offered since. -/
def Unattended (key : Key) (ops : List (Op α)) : Prop :=
  ∃ before after, ops = before ++ .rotate :: after ∧ ∀ a, .offer key a ∉ after

/-- The window of a key is over: everything was cleared, or two rotations took place between which the
key was not offered. -/
def Lapsed (key : Key) (ops : List (Op α)) : Prop :=
  .clear ∈ ops ∨ ∃ before between after,
    ops = before ++ .rotate :: between ++ .rotate :: after ∧ ∀ a, .offer key a ∉ between

theorem Unattended.rotate (key : Key) (ops : List (Op α)) : Unattended key (ops ++ [.rotate]) :=
  ⟨ops, [], rfl, fun _ => List.not_mem_nil⟩

theorem Unattended.concat (h : Unattended key ops) (hop : ∀ a, op ≠ .offer key a) :
    Unattended key (ops ++ [op]) := by
  obtain ⟨before, after, rfl, hoffers⟩ := h
  refine ⟨before, after ++ [op], by simp, fun a hmem => ?_⟩
  rcases List.mem_append.mp hmem with hmem | hmem
  · exact hoffers a hmem
  · exact hop a (List.mem_singleton.mp hmem).symm

/-- After a last operation that is no rotation, the key was unattended before, and the operation does
not offer it. -/
theorem Unattended.of_concat (h : Unattended key (ops ++ [op])) :
    op = .rotate ∨ Unattended key ops ∧ ∀ a, op ≠ .offer key a := by
  obtain ⟨before, after, heq, hoffers⟩ := h
  rcases concat_eq_append_cons_iff.mp heq with ⟨-, hlast, -⟩ | ⟨rest, rfl, rfl⟩
  · exact .inl hlast
  · simp only [List.mem_append, List.mem_singleton, not_or] at hoffers
    exact .inr ⟨⟨before, rest, rfl, fun a => (hoffers a).1⟩, fun a heq => (hoffers a).2 heq.symm⟩

/-- What one more operation does to the window of a key. -/
theorem lapsed_concat_iff :
    Lapsed key (ops ++ [op]) ↔ Lapsed key ops ∨ op = .clear ∨ op = .rotate ∧ Unattended key ops := by
  constructor
  · rintro (hclear | ⟨before, between, after, heq, hoffers⟩)
    · rcases List.mem_append.mp hclear with hclear | hclear
      · exact .inl (.inl hclear)
      · exact .inr (.inl (List.mem_singleton.mp hclear).symm)
    · rcases concat_eq_append_cons_iff.mp heq with ⟨rfl, hlast, -⟩ | ⟨rest, -, rfl⟩
      · exact .inr (.inr ⟨hlast, before, between, rfl, hoffers⟩)
      · exact .inl (.inr ⟨before, between, rest, rfl, hoffers⟩)
  · rintro ((hclear | ⟨before, between, after, rfl, hoffers⟩) | rfl |
      ⟨rfl, before, between, rfl, hoffers⟩)
    · exact .inl (List.mem_append_left _ hclear)
    · exact .inr ⟨before, between, after ++ [op], by simp, hoffers⟩
    · exact .inl (List.mem_append_right _ (List.mem_singleton_self _))
    · exact .inr ⟨before, between, [], rfl, hoffers⟩

/-- A single rotation ends no window. -/
theorem not_lapsed_of_countP (hclear : .clear ∉ ops) (hcount : ops.countP Op.isRotate ≤ 1) :
    ¬ Lapsed key ops := by
  rintro (hmem | ⟨before, between, after, rfl, -⟩)
  · exact hclear hmem
  · simp only [List.countP_append, List.countP_cons, Op.isRotate, if_true] at hcount
    omega

/-! ### Inside the window -/

/-- A value that is new at first is retained as long as the window of its key is not over. It is still
new unless the key is unattended. -/
theorem aged?_run_of_not_lapsed (ring : d.Ring) (hnew : d.aged? key = some (0, a))
    (hops : ¬ Lapsed key ops) :
    ∃ n, (d.run ops).aged? key = some (n, a) ∧ (n = 0 ∨ Unattended key ops) := by
  induction ops using List.reverseRecOn with
  | nil => exact ⟨0, hnew, .inl rfl⟩
  | append_singleton ops op ih =>
    rw [lapsed_concat_iff, not_or, not_or] at hops
    obtain ⟨hbefore, hclear, hrotate⟩ := hops
    obtain ⟨n, haged, hn⟩ := ih hbefore
    have hstays (hop : ∀ b, op ≠ .offer key b) : n = 0 ∨ Unattended key (ops ++ [op]) :=
      hn.imp_right fun h => h.concat hop
    rw [run_concat, (ring.run ops).aged?_apply]
    cases op with
    | offer other b =>
      by_cases hother : other = key
      · refine ⟨0, (if_pos hother).trans ?_, .inl rfl⟩
        rw [find?_eq_aged?, haged]
        rfl
      · refine ⟨n, (if_neg hother).trans haged, hstays fun c heq => ?_⟩
        cases heq
        exact hother rfl
    | find other => exact ⟨n, haged, hstays nofun⟩
    | size => exact ⟨n, haged, hstays nofun⟩
    | rotate =>
      -- the value is still new, for its key is not unattended
      obtain rfl : n = 0 := hn.resolve_right fun h => hrotate ⟨rfl, h⟩
      exact ⟨1, by rw [haged]; rfl, .inr (.rotate key ops)⟩
    | clear => exact absurd rfl hclear

/-! ### After the window -/

/-- A value was stored under a key in the course of some operations: it was offered when nothing was
retained. -/
def StoredIn (d : Rotation α) (key : Key) (a : α) (ops : List (Op α)) : Prop :=
  ∃ before after, ops = before ++ .offer key a :: after ∧ ((d.run before).offer key a).2 = none

theorem StoredIn.concat (h : d.StoredIn key a ops) (op : Op α) : d.StoredIn key a (ops ++ [op]) := by
  obtain ⟨before, after, rfl, hstored⟩ := h
  exact ⟨before, after ++ [op], by simp, hstored⟩

/-- What is found after an operation was found before, or the operation stores it. -/
theorem Ring.find?_of_apply (ring : d.Ring) (h : (d.apply op).find? key = some a) :
    d.find? key = some a ∨ op = .offer key a ∧ (d.offer key a).2 = none := by
  rw [find?_eq_aged?, ring.aged?_apply] at h
  cases op with
  | offer other b =>
    by_cases hother : other = key
    · subst hother
      cases hfind : d.find? other with
      | none =>
        obtain rfl : b = a := by simpa [hfind] using h
        exact .inr ⟨rfl, (d.offer_snd other b).trans hfind⟩
      | some c =>
        obtain rfl : c = a := by simpa [hfind] using h
        exact .inl rfl
    · simp only [if_neg hother, ← find?_eq_aged?] at h
      exact .inl h
  | find other => exact .inl ((d.find?_eq_aged? key).trans h)
  | size => exact .inl ((d.find?_eq_aged? key).trans h)
  | rotate =>
    obtain ⟨p, hp, rfl⟩ := Option.map_eq_some_iff.mp h
    obtain ⟨q, haged, hq⟩ := Option.bind_eq_some_iff.mp hp
    obtain ⟨rfl, -⟩ := older_eq_some_iff.mp hq
    exact .inl (by rw [find?_eq_aged?, haged]; rfl)
  | clear => cases h

/-- A key that is unattended has nothing new. -/
theorem age_of_unattended (ring : d.Ring) (hops : Unattended key ops) {n : Nat}
    (h : (d.run ops).aged? key = some (n, a)) : n = 1 := by
  induction ops using List.reverseRecOn generalizing n with
  | nil =>
    obtain ⟨before, after, heq, -⟩ := hops
    simp at heq
  | append_singleton ops op ih =>
    rw [run_concat, (ring.run ops).aged?_apply] at h
    rcases hops.of_concat with rfl | ⟨hbefore, hoffer⟩
    · obtain ⟨p, -, hp⟩ := Option.bind_eq_some_iff.mp h
      exact (older_eq_some_iff.mp hp).2
    · cases op with
      | offer other b =>
        have hother : other ≠ key := fun heq => hoffer b (heq ▸ rfl)
        exact ih hbefore ((if_neg hother).symm.trans h)
      | find other => exact ih hbefore h
      | size => exact ih hbefore h
      | rotate =>
        obtain ⟨p, -, hp⟩ := Option.bind_eq_some_iff.mp h
        exact (older_eq_some_iff.mp hp).2
      | clear => cases h

/-- What is found after the window of a key was stored in the course of the operations that ended it. -/
theorem storedIn_of_lapsed (ring : d.Ring) (hops : Lapsed key ops)
    (h : (d.run ops).find? key = some a) : d.StoredIn key a ops := by
  induction ops using List.reverseRecOn with
  | nil => exact absurd hops (not_lapsed_of_countP List.not_mem_nil (Nat.zero_le 1))
  | append_singleton ops op ih =>
    rw [run_concat] at h
    have ring' := ring.run ops
    rcases lapsed_concat_iff.mp hops with hbefore | rfl | ⟨rfl, hunattended⟩
    · rcases ring'.find?_of_apply h with hfound | ⟨rfl, hnone⟩
      · exact (ih hbefore hfound).concat op
      · exact ⟨ops, [], rfl, hnone⟩
    · rw [find?_eq_aged?, ring'.aged?_apply] at h
      cases h
    · -- the rotation keeps what is new, and nothing is
      rw [find?_eq_aged?, ring'.aged?_apply] at h
      obtain ⟨p, hp, rfl⟩ := Option.map_eq_some_iff.mp h
      obtain ⟨q, haged, hq⟩ := Option.bind_eq_some_iff.mp hp
      obtain ⟨rfl, -⟩ := older_eq_some_iff.mp hq
      exact absurd (age_of_unattended ring hunattended haged) (by decide)

/-! ### Histories -/

/-- **Windows.** A value that is stored under a key is found there, looked up or offered, after one
rotation at most, and beyond that until the window of the key is over. Whatever is found after the
window was stored in its turn since. -/
theorem window_run (period : Duration) (before after : List (Op α)) (key : Key) (a : α)
    (hstored : (((new period).run before).offer key a).2 = none) :
    let stored := ((new period).run before).apply (.offer key a)
    let d := (new period).run (before ++ .offer key a :: after)
    (.clear ∉ after → after.countP Op.isRotate ≤ 1 →
      d.find? key = some a ∧ ∀ b, (d.offer key b).2 = some a) ∧
    (¬ Lapsed key after → d.find? key = some a ∧ ∀ b, (d.offer key b).2 = some a) ∧
    (Lapsed key after → ∀ c, d.find? key = some c ∨ (∃ b, (d.offer key b).2 = some c) →
      stored.StoredIn key c after) := by
  intro stored d
  have ring : ((new period : Rotation α).run before).Ring := (ring_new period).run before
  have hd : d = stored.run after := by
    simp only [d, stored, run, List.foldl_append, List.foldl_cons]
  have hnew : stored.aged? key = some (0, a) := by
    rw [offer_snd] at hstored
    refine (aged?_offer _ key a).trans ?_
    rw [hstored]
    rfl
  have hkept (hafter : ¬ Lapsed key after) :
      d.find? key = some a ∧ ∀ b, (d.offer key b).2 = some a := by
    obtain ⟨n, haged, -⟩ := aged?_run_of_not_lapsed (ring.apply _) hnew hafter
    have hfound : d.find? key = some a := by rw [hd, find?_eq_aged?, haged]; rfl
    exact ⟨hfound, fun b => (d.offer_snd key b).trans hfound⟩
  refine ⟨fun hclear hcount => hkept (not_lapsed_of_countP hclear hcount), hkept, ?_⟩
  intro hafter c hanswer
  have hfound : d.find? key = some c := by
    rcases hanswer with hfound | ⟨b, hanswer⟩
    · exact hfound
    · exact (d.offer_snd key b).symm.trans hanswer
  rw [hd] at hfound
  exact storedIn_of_lapsed (ring.apply _) hafter hfound

/-! ### A request that is repeated -/

/-- The exchange of a request with the message id 7 that arrives at a given time. -/
def arrival (now : Instant) : Exchange :=
  .new ⟨.new .con .get 7 .empty, ⟨.v4 0, 5683⟩⟩ none now

/-- The key of the request. -/
def arrivalKey : Key := .mid ⟨.v4 0, 5683⟩ 7

/-- The request is repeated after one rotation, which keeps its exchange beyond the next one. A look-up
does not keep it beyond the one after that. -/
theorem window_run_arrival :
    let after : List (Op Exchange) := [.rotate, .offer arrivalKey (arrival 1), .rotate]
    let d := (new (.ofSeconds 60)).run (.offer arrivalKey (arrival 0) :: after)
    (((new (.ofSeconds 60)).run []).offer arrivalKey (arrival 0)).2 = none ∧
      ¬ Lapsed arrivalKey after ∧ d.find? arrivalKey = some (arrival 0) ∧
      ∀ e, (d.run [.find arrivalKey, .rotate]).find? arrivalKey ≠ some e := by
  intro after d
  have hstored : (((new (.ofSeconds 60)).run []).offer arrivalKey (arrival 0)).2 = none := rfl
  have hafter : ¬ Lapsed arrivalKey after := by
    show ¬ Lapsed arrivalKey ([.rotate, .offer arrivalKey (arrival 1)] ++ [.rotate])
    rw [lapsed_concat_iff, not_or, not_or]
    refine ⟨not_lapsed_of_countP (by simp) (by decide), nofun, fun ⟨_, h⟩ => ?_⟩
    have hconcat : Unattended arrivalKey ([.rotate] ++ [.offer arrivalKey (arrival 1)]) := h
    rcases hconcat.of_concat with h | ⟨-, h⟩
    · cases h
    · exact h (arrival 1) rfl
  have hlapsed : Lapsed arrivalKey (after ++ [.find arrivalKey, .rotate]) :=
    .inr ⟨[.rotate, .offer arrivalKey (arrival 1)], [.find arrivalKey], [], rfl, by simp⟩
  refine ⟨hstored, hafter, ?_, fun e hfound => ?_⟩
  · exact ((window_run _ [] after arrivalKey (arrival 0) hstored).2.1 hafter).1
  · -- the only offer since then stored nothing
    obtain ⟨before, rest, heq, hnone⟩ :=
      (window_run _ [] _ arrivalKey (arrival 0) hstored).2.2 hlapsed e (.inl hfound)
    obtain ⟨rfl, rfl, -⟩ : before = [.rotate] ∧ e = arrival 1 ∧
        rest = [.rotate, .find arrivalKey, .rotate] := by
      simpa [after, List.cons_eq_append_iff] using heq
    exact absurd hnone (by decide)

/-- A value may be found after two rotations since it was stored, though it was not stored again: an
offer of its key in between begins the window anew. -/
theorem window_extended :
    ¬ ∀ (before after : List (Op Exchange)) (key : Key) (e : Exchange),
      (((new (.ofSeconds 60)).run before).offer key e).2 = none →
      .clear ∉ after → .offer key e ∉ after → 2 ≤ after.countP Op.isRotate →
      ((new (.ofSeconds 60)).run (before ++ .offer key e :: after)).find? key ≠ some e := by
  intro h
  have hnew : Op.offer arrivalKey (arrival 0) ∉
      [.rotate, .offer arrivalKey (arrival 1), .rotate] := by
    simp [arrival, Exchange.new]
  exact h [] [.rotate, .offer arrivalKey (arrival 1), .rotate] arrivalKey (arrival 0) rfl (by simp) hnew
    (by decide) (by decide)

end Coap.Dedup.Rotation
