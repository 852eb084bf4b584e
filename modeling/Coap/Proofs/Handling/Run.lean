import Coap.Handler.Dispatch

/-!
# Runs of handlers

A handler's program is a tree of calls, and whatever each call preserves, the whole program does.

* `Program.run_induction` — from calls to programs.
* `Site.Continues` — the clock does not go back, and the journal grows without a dispatch.
* `Handling.continues_perform`, `Program.continues_run` — so it is for every call and every program.
-/

namespace Coap

variable {ν : Type}

theorem Program.run_call (c : Call ν) (next : c.Result → Program ν) (h : Handling ν) :
    (Program.call c next).run h = (next (h.perform c).2).run (h.perform c).1 := rfl

/-- What every call and every addition of a resource preserves, a program does. -/
theorem Program.run_induction {motive : Handling ν → Prop}
    (hperform : ∀ h c, motive h → motive (h.perform c).1)
    (hadd : ∀ h parent profile handler, motive h → motive (h.add parent profile handler).1)
    (p : Program ν) {h : Handling ν} (start : motive h) : motive (p.run h) := by
  induction p generalizing h with
  | done => exact start
  | call c next ih => exact ih _ (hperform h c start)
  | add parent profile handler next _ ih => exact ih _ (hadd h parent profile handler start)

/-! ### The journal and the clock -/

/-- The request that was dispatched, if the entry tells of a dispatch. -/
def Event.request? : Event ν → Option (Addressed Message)
  | .dispatched request _ => some request
  | _ => none

namespace Site

/-- Time may have passed, and things may have happened, but nothing was dispatched. -/
def Continues (s s' : Site ν) : Prop :=
  s.now ≤ s'.now ∧ ∃ more, s'.events = s.events ++ more ∧ ∀ e ∈ more, e.request? = none

theorem Continues.refl (s : Site ν) : s.Continues s :=
  ⟨Nat.le_refl _, [], (List.append_nil _).symm, fun _ h => absurd h List.not_mem_nil⟩

theorem Continues.trans {s t u : Site ν} (h : s.Continues t) (h' : t.Continues u) :
    s.Continues u := by
  obtain ⟨hnow, more, hevents, hmore⟩ := h
  obtain ⟨hnow', more', hevents', hmore'⟩ := h'
  refine ⟨Nat.le_trans hnow hnow', more ++ more', ?_, ?_⟩
  · rw [hevents', hevents, List.append_assoc]
  · intro e he
    rcases List.mem_append.mp he with he | he
    · exact hmore e he
    · exact hmore' e he

/-- Resources, relations and random draws do not matter. -/
theorem Continues.of_eq {s s' : Site ν} (hnow : s'.now = s.now) (hevents : s'.events = s.events) :
    s.Continues s' :=
  ⟨Nat.le_of_eq hnow.symm, [], by rw [hevents, List.append_nil],
    fun _ h => absurd h List.not_mem_nil⟩

theorem continues_record (s : Site ν) {e : Event ν} (h : e.request? = none) :
    s.Continues (s.record e) := by
  refine ⟨Nat.le_refl _, [e], rfl, fun e' he => ?_⟩
  rw [List.mem_singleton.mp he, h]

theorem continues_wait (s : Site ν) (d : Duration) : s.Continues (s.wait d) :=
  ⟨Nat.le_add_right _ _, [], (List.append_nil _).symm, fun _ h => absurd h List.not_mem_nil⟩

/-- A duplicate is not dispatched. -/
theorem continues_replay (s : Site ν) (e : Exchange) (wait : Duration) :
    s.Continues (s.replay e wait).1 := by
  unfold replay
  cases e.first? with
  | some first => exact .refl s
  | none => exact (s.continues_wait wait).trans (continues_record _ rfl)

end Site

namespace Handling

variable (h : Handling ν)

theorem continues_accept : h.site.Continues h.accept.site := by
  simp only [accept]
  split
  · split
    · exact Site.continues_record _ rfl
    · exact .refl _
  · exact .refl _

theorem continues_reject : h.site.Continues h.reject.1.site := by
  simp only [reject]
  split
  · exact .refl _
  · exact Site.continues_record _ rfl

theorem continues_respondWith (r : Response) : h.site.Continues (h.respondWith r).1.site := by
  simp only [respondWith]
  split
  · exact Site.continues_record _ rfl
  · split
    · exact Site.continues_record _ rfl
    · exact .of_eq rfl rfl

theorem continues_redeliver : h.site.Continues h.redeliver.1.site := by
  unfold redeliver
  split
  · exact .refl _
  · exact h.site.continues_replay h.exchange _

theorem continues_forward (f : Forwarder) (request : Addressed Message) :
    h.site.Continues (h.forward f request).1.site := by
  refine ⟨Nat.le_add_right _ _, _, rfl, fun e he => ?_⟩
  obtain ⟨hop, -, rfl⟩ := List.mem_map.mp he
  rfl

/-- No call dispatches anything or turns back the clock. -/
theorem continues_perform (c : Call ν) : h.site.Continues (h.perform c).1.site := by
  cases c with
  | accept => exact h.continues_accept
  | reject => exact h.continues_reject
  | respond r => exact h.continues_respondWith r
  | redeliver => exact h.continues_redeliver
  | forward f request => exact h.continues_forward f request
  | report severity text => exact Site.continues_record _ rfl
  | note n => exact Site.continues_record _ rfl
  | _ => exact .of_eq rfl rfl

theorem continues_add (parent : ResourceId) (profile : Profile)
    (handler : Addressed Message → Program ν) :
    h.site.Continues (h.add parent profile handler).1.site := .of_eq rfl rfl

end Handling

/-- No program dispatches anything or turns back the clock. -/
theorem Program.continues_run (p : Program ν) (h : Handling ν) : h.site.Continues (p.run h).site :=
  p.run_induction (motive := fun h' => h.site.Continues h'.site)
    (fun h' c hc => hc.trans (h'.continues_perform c))
    (fun h' parent profile handler hc => hc.trans (h'.continues_add parent profile handler))
    (.refl _)

end Coap
