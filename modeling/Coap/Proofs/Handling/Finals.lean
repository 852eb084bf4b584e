import Coap.Proofs.Handling.Answers
import Coap.Proofs.Observers.Settlement

/-!
# Which answer is final

Of all the answers that a handler tries to give, the first one that is not refused is final. It is the
answer of a dispatch; only if there is none, another one is given in its place.

* `Handling.answer` — what is deposited for an answer; `Handling.answer_eq` — its code and its payload
  are those the handler gave, and so are, by `Handling.sameBut_answer`, its options but for Observe if
  nothing else was stated about it.
* `Handling.final?`, `Handling.responses_perform` — the final message that a call deposits.
* `Program.final?`, `Program.responses_run` — that of a program, which is that of its first call that
  has one.
* `Handling.Sound.final_dispatch` — that of a dispatch.
-/

namespace Coap

variable {ν : Type}

theorem Exchange.responses_complete {e : Exchange} (hopen : e.isComplete = false) (now : Instant)
    (final : Addressed Response) (rejected : Bool) :
    (e.complete now final rejected).1.responses = e.responses ++ [final] := by
  rw [Exchange.complete_of_open hopen]
  simp [responses]

namespace Handling

variable (h : Handling ν)

/-! ### Calls -/

/-- What is deposited for an answer: it is fitted to the request, with the options that were stated for
it and the one that its relation calls for. -/
def answer (r : Response) : Addressed Response :=
  h.exchange.reply { r with message := (h.settled r).2 }

/-- Beside its options, an answer is deposited as it was given. -/
theorem answer_eq (r : Response) : ∃ options,
    h.answer r = h.exchange.reply { r with message := { h.fitted r.message with options } } := by
  obtain ⟨shaped, happly⟩ := h.shaping.apply_eq (h.fitted r.message)
  obtain ⟨observers, marker, options, hsettle⟩ := h.site.observers.settle_eq h.site.tree h.exchange
    h.site.now (h.shaping.apply (h.fitted r.message))
  refine ⟨options, ?_⟩
  simp only [answer, settled, hsettle]
  rw [happly]

theorem code_answer (r : Response) : (h.answer r).data.message.code = r.message.code := by
  obtain ⟨options, heq⟩ := h.answer_eq r
  rw [heq, fitted_eq]
  rfl

theorem payload_answer (r : Response) :
    (h.answer r).data.message.payload = r.message.payload := by
  obtain ⟨options, heq⟩ := h.answer_eq r
  rw [heq, fitted_eq]
  rfl

/-- Where nothing was stated about it, an answer is deposited as its relation settles it. -/
theorem message_answer (hshaping : h.shaping = .standard) (r : Response) :
    (h.answer r).data.message = (h.site.observers.settle h.site.tree h.exchange h.site.now
      (h.fitted r.message)).2.2 := by
  show (h.settled r).2 = _
  rw [settled, hshaping]
  rfl

/-- Then it keeps its options, except for Observe. -/
theorem sameBut_answer (hshaping : h.shaping = .standard) (r : Response) :
    (h.fitted r.message).SameBut (h.answer r).data.message .observe := by
  rw [h.message_answer hshaping]
  exact Observers.sameBut_message_settle ..

/-- If its resource cannot be observed either, it has no Observe option. -/
theorem message_answer_of_not_isObservable (hshaping : h.shaping = .standard) {id : ResourceId}
    (hresource : h.exchange.resource = some id) (hobservable : h.site.tree.isObservable id = false)
    (r : Response) : (h.answer r).data.message = (h.fitted r.message).remove .observe := by
  rw [h.message_answer hshaping]
  rcases Observers.settle_cases h.site.observers h.site.tree h.site.now (h.fitted r.message)
    hresource with ⟨hgrants, -⟩ | ⟨e, heq⟩ | heq
  · have hobserved := hgrants.observable
    rw [hobservable] at hobserved
    cases hobserved
  · rw [heq]
  · rw [heq]

/-- The first answer that is given is deposited. -/
theorem respondWith_exchange_of_open {r : Response} (hcode : r.message.code.kind = .response)
    (hopen : h.exchange.isComplete = false) :
    (h.respondWith r).1.exchange.responses = h.exchange.responses ++ [h.answer r] ∧
      (h.respondWith r).1.exchange.state = .responded := by
  obtain ⟨marker, heq⟩ := h.respondWith_of_open hcode hopen
  rw [heq]
  constructor
  · exact Exchange.responses_complete hopen _ _ _
  · rw [Exchange.complete_of_open hopen]
    rfl

/-- The final message that a call deposits in an exchange that is not complete. -/
def final? : Call ν → Option (Addressed Response)
  | .reject => some (refusal h.exchange.request h.exchange.session)
  | .respond r => if r.message.code.kind = .response then some (h.answer r) else none
  | _ => none

/-- The calls that conclude an exchange are those with a final message. -/
theorem isSome_final? (c : Call ν) : (h.final? c).isSome = c.concludes := by
  cases c with
  | respond r =>
    by_cases hcode : r.message.code.kind = .response <;> simp [final?, Call.concludes, hcode]
  | _ => rfl

/-- The final message of a call is deposited. -/
theorem responses_perform (hopen : h.exchange.isComplete = false) {c : Call ν}
    {final : Addressed Response} (hfinal : h.final? c = some final) :
    (h.perform c).1.exchange.responses = h.exchange.responses ++ [final] := by
  cases c with
  | reject =>
    obtain rfl := Option.some.inj hfinal
    show h.reject.1.exchange.responses = _
    rw [h.reject_exchange, Exchange.responses_complete hopen]
    rfl
  | respond r =>
    simp only [final?, Option.ite_none_right_eq_some, Option.some.injEq] at hfinal
    obtain ⟨hcode, rfl⟩ := hfinal
    exact (h.respondWith_exchange_of_open hcode hopen).1
  | _ => cases hfinal

end Handling

/-! ### Programs -/

namespace Program

/-- The final message that a program deposits in an exchange that is not complete: that of its first
call that has one. -/
def final? : Program ν → Handling ν → Option (Addressed Response)
  | .done, _ => none
  | .call c next, h => (h.final? c).or ((next (h.perform c).2).final? (h.perform c).1)
  | .add parent profile handler next, h =>
    (next (h.add parent profile handler).2).final? (h.add parent profile handler).1

theorem isSome_final? (p : Program ν) (h : Handling ν) : (p.final? h).isSome = p.answers h := by
  induction p generalizing h with
  | done => rfl
  | call c next ih => rw [final?, Option.isSome_or, h.isSome_final?, ih, answers]
  | add parent profile handler next _ ih => exact ih _ _

/-- The final message of a program is deposited, and then nothing else is. -/
theorem responses_run (p : Program ν) {h : Handling ν} (hopen : h.exchange.isComplete = false)
    {final : Addressed Response} (hfinal : p.final? h = some final) :
    (p.run h).exchange.responses.getLast? = some final := by
  induction p generalizing h with
  | done => cases hfinal
  | call c next ih =>
    show ((next (h.perform c).2).run (h.perform c).1).exchange.responses.getLast? = _
    have hcomplete := h.isComplete_perform c
    rw [hopen, Bool.false_or, ← h.isSome_final?] at hcomplete
    cases hcall : h.final? c with
    | none =>
      rw [hcall] at hcomplete
      rw [final?, hcall, Option.none_or] at hfinal
      exact ih _ hcomplete hfinal
    | some first =>
      -- the exchange is complete from now on
      rw [hcall] at hcomplete
      rw [final?, hcall, Option.some_or] at hfinal
      rw [exchange_run_of_isComplete _ hcomplete, h.responses_perform hopen hcall,
        List.getLast?_concat, hfinal]
  | add parent profile handler next _ ih => exact ih _ hopen hfinal

/-- Without a final message the exchange is not complete. -/
theorem isComplete_run_of_final? (p : Program ν) {h : Handling ν}
    (hopen : h.exchange.isComplete = false) (hfinal : p.final? h = none) :
    (p.run h).exchange.isComplete = false := by
  rw [p.isComplete_run, hopen, ← p.isSome_final?, hfinal]
  rfl

end Program

/-! ### Dispatches -/

namespace Handling

variable {h : Handling ν}

/-- An answer in place of one that a handler did not give. -/
theorem respondCode_of_open (code : Code) (hcode : code.kind = .response)
    (hopen : h.exchange.isComplete = false) :
    ∃ final, (h.respondCode code).exchange.responses = h.exchange.responses ++ [final] ∧
      (h.respondCode code).exchange.state = .responded ∧ final.data.message.code = code := by
  obtain ⟨hresponses, hstate⟩ := h.respondWith_exchange_of_open (r := .ofCode code []) hcode hopen
  exact ⟨_, hresponses, hstate, h.code_answer _⟩

/-- What a resource handles ends with the final message of its program, or else with 5.00. -/
theorem final_runResource {id : ResourceId} {resource : Resource ν}
    (hopen : h.exchange.isComplete = false) {final : Addressed Response}
    (hlast : (h.runResource id resource).exchange.responses.getLast? = some final) :
    match (resource.handler h.exchange.request).final?
        { h with exchange := { h.exchange with resource := some id } } with
    | some first => final = first
    | none =>
      (h.runResource id resource).exchange.state = .responded ∧
        final.data.message.code = .internalServerError := by
  let program := resource.handler h.exchange.request
  let entered : Handling ν := { h with exchange := { h.exchange with resource := some id } }
  have hentered : entered.exchange.isComplete = false := hopen
  change match program.final? entered with | some _ => _ | none => _
  cases hfinal : program.final? entered with
  | some first =>
    have hcomplete : (program.run entered).exchange.isComplete = true := by
      rw [program.isComplete_run, ← program.isSome_final?, hfinal]
      exact Bool.or_true _
    have heq : h.runResource id resource = program.run entered := if_pos hcomplete
    rw [heq, program.responses_run hentered hfinal] at hlast
    exact (Option.some.inj hlast).symm
  | none =>
    have hstill := program.isComplete_run_of_final? hentered hfinal
    have heq : h.runResource id resource =
        ((program.run entered).report .error _).respondCode .internalServerError :=
      if_neg fun hcomplete => Bool.false_ne_true (hstill.symm.trans hcomplete)
    obtain ⟨given, hresponses, hstate, hcode⟩ :=
      respondCode_of_open (h := (program.run entered).report .error _) .internalServerError rfl hstill
    rw [heq] at hlast ⊢
    rw [hresponses, List.getLast?_concat] at hlast
    obtain rfl := Option.some.inj hlast
    exact ⟨hstate, hcode⟩

/-- **Final answers.** After a dispatch the exchange holds one final message, behind the announcement
if there is one. It is the one that the handler of the resource gave. If that gave none, it is 5.00, and
if there is no resource it is 4.04. -/
theorem Sound.final_dispatch (sound : h.Sound false) (hopen : h.exchange.isComplete = false) :
    ∃ final,
      h.dispatch.exchange.responses = h.dispatch.exchange.announcement h.announces ++ [final] ∧
      IsFinal h.dispatch.exchange.request h.dispatch.exchange.session h.announces
        (decide (h.dispatch.exchange.state = .rejected)) final ∧
      match h.assigned? with
      | none => h.dispatch.exchange.state = .responded ∧ final.data.message.code = .notFound
      | some (id, resource) =>
        match (resource.handler h.exchange.request).final? (h.entered id) with
        | some first => final = first
        | none =>
          h.dispatch.exchange.state = .responded ∧
            final.data.message.code = .internalServerError := by
  obtain ⟨final, hresponses, hfinal⟩ := sound.concluded_dispatch hopen h.isComplete_dispatch
  refine ⟨final, hresponses, hfinal, ?_⟩
  have hlast : h.dispatch.exchange.responses.getLast? = some final := by
    rw [hresponses, List.getLast?_concat]
  let recorded := h.record (.dispatched h.exchange.request h.target?)
  have hrecorded : recorded.exchange.isComplete = false := hopen
  cases hassigned : h.assigned? with
  | none =>
    have heq : h.dispatch = recorded.respondCode .notFound := by rw [dispatch_eq, hassigned]
    obtain ⟨given, hgiven, hstate, hcode⟩ := respondCode_of_open .notFound rfl hrecorded
    rw [heq] at hlast ⊢
    rw [hgiven, List.getLast?_concat] at hlast
    obtain rfl := Option.some.inj hlast
    exact ⟨hstate, hcode⟩
  | some assigned =>
    have heq : h.dispatch = recorded.runResource assigned.1 assigned.2 :=
      dispatch_of_assigned hassigned
    rw [heq] at hlast ⊢
    exact final_runResource hrecorded hlast

end Handling

end Coap
