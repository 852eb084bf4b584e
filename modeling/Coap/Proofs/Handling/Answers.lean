import Coap.Proofs.Handling.Dispatch

/-!
# Answers of handlers

Whatever calls a handler makes, in whatever order, its exchange gets one final message at most, behind
one announcement at most, and both are for the sender of the request. From then on nothing more is
done to the exchange.

* `Handling.Concluded` — a complete exchange has a final message that fits the request and the state.
* `Handling.invariant_concluded` — calls see to it.
* `Program.answers`, `Program.isComplete_run` — the calls that complete an exchange.
* `Program.exchange_run` — so what programs deposit, and in which state they leave the exchange.
-/

namespace Coap

variable {ν : Type}

namespace Handling

/-! ### Final messages -/

/-- A complete exchange ends with a message that is final for its request: a reset if it stands as
rejected, and otherwise a response in the role that fits what was announced. -/
def Concluded (h : Handling ν) (announced : Bool) : Prop :=
  h.exchange.isComplete = true → ∃ final,
    h.exchange.responses = h.exchange.announcement announced ++ [final] ∧
      IsFinal h.exchange.request h.exchange.session announced
        (decide (h.exchange.state = .rejected)) final

variable {h : Handling ν} {announced : Bool}

theorem Concluded.of_open (hopen : h.exchange.isComplete = false) : h.Concluded announced :=
  fun hcomplete => nomatch hopen.symm.trans hcomplete

theorem Concluded.of_exchange_eq (concluded : h.Concluded announced) {h' : Handling ν}
    (hexchange : h'.exchange = h.exchange) : h'.Concluded announced := by
  unfold Concluded
  rw [hexchange]
  exact concluded

/-- The message that completes an exchange is final, and the only one behind the announcement. -/
theorem Sound.concluded_of_complete (sound : h.Sound announced)
    (hopen : h.exchange.isComplete = false) {final : Addressed Response} {rejected : Bool}
    (hfinal : IsFinal h.exchange.request h.exchange.session
      (decide (h.exchange.state = .accepted)) rejected final)
    {h' : Handling ν} {now : Instant} {marker : ObserveMarker}
    (hcompleted : h'.exchange = { (h.exchange.complete now final rejected).1 with marker }) :
    h'.Concluded announced := by
  -- up to now the announcement stands alone, and its being there shows in the state
  obtain ⟨hresponses, hstate⟩ := sound.life.responses_of_open hopen
  have hannounced : decide (h.exchange.state = .accepted) = announced := by
    rw [hstate]
    cases announced <;> rfl
  rw [Exchange.complete_of_open hopen] at hcompleted
  rw [hannounced] at hfinal
  intro _
  refine ⟨final, ?_, ?_⟩
  · rw [hcompleted]
    show (h.exchange.deposits ++ [_]).map _ = _
    rw [List.map_append]
    exact congrArg (· ++ [final]) hresponses
  · rw [hcompleted]
    cases rejected <;> exact hfinal

/-- Calls conclude an exchange with a final message that fits. -/
theorem invariant_concluded :
    Invariant fun announced (h : Handling ν) => h.Sound announced ∧ h.Concluded announced where
  accept := by
    rintro h announced ⟨sound, -⟩ hopen
    refine ⟨sound.accept hopen, .of_open ?_⟩
    rw [h.accept_exchange, Exchange.isComplete_accept, hopen]
  perform := by
    rintro h announced ⟨sound, concluded⟩ c hc
    refine ⟨sound.perform hc, ?_⟩
    cases hcomplete : h.exchange.isComplete with
    | true => exact concluded.of_exchange_eq (h.perform_of_isComplete hcomplete c)
    | false =>
      rcases h.perform_exchange c with hsame | ⟨haccept, -⟩ | ⟨final, rejected, marker, hfinal, heq⟩
      · exact concluded.of_exchange_eq hsame
      · exact absurd haccept hc
      · exact sound.concluded_of_complete hcomplete hfinal heq
  add := fun ⟨sound, concluded⟩ parent profile handler =>
    ⟨invariant_sound.add sound parent profile handler, concluded⟩

/-- A dispatch concludes the exchange. -/
theorem Sound.concluded_dispatch (sound : h.Sound false) (hopen : h.exchange.isComplete = false) :
    h.dispatch.Concluded h.announces :=
  (invariant_concluded.dispatch ⟨⟨sound.life, sound.inTime⟩, .of_open hopen⟩
    fun _ => ⟨⟨sound.life, sound.inTime⟩, .of_open hopen⟩).2

end Handling

/-! ### Final calls -/

/-- Is it a call that completes an exchange which is not complete? -/
def Call.concludes : Call ν → Bool
  | .reject => true
  | .respond r => r.message.code.kind = .response
  | _ => false

/-- After a call the exchange is complete if it was complete before or the call concludes it. -/
theorem Handling.isComplete_perform (h : Handling ν) (c : Call ν) :
    (h.perform c).1.exchange.isComplete = (h.exchange.isComplete || c.concludes) := by
  cases hcomplete : h.exchange.isComplete with
  | true => rw [h.perform_of_isComplete hcomplete, hcomplete, Bool.true_or]
  | false =>
    rw [Bool.false_or]
    cases c with
    | accept =>
      show h.accept.exchange.isComplete = false
      rw [h.accept_exchange, Exchange.isComplete_accept, hcomplete]
    | reject =>
      show h.reject.1.exchange.isComplete = true
      rw [h.reject_exchange, Exchange.isComplete_complete]
    | respond r =>
      show (h.respondWith r).1.exchange.isComplete = decide _
      by_cases hcode : r.message.code.kind = .response
      · rw [h.isComplete_respondWith hcode, decide_eq_true hcode]
      · obtain ⟨text, e, heq⟩ := h.respondWith_of_refused (r := r) (.inl hcode)
        rw [heq, decide_eq_false hcode]
        exact hcomplete
    | redeliver =>
      show h.redeliver.1.exchange.isComplete = false
      unfold redeliver
      split <;> exact hcomplete
    | _ => exact hcomplete

namespace Program

/-- Does a program make a call that concludes the exchange? -/
def answers : Program ν → Handling ν → Bool
  | .done, _ => false
  | .call c next, h => c.concludes || (next (h.perform c).2).answers (h.perform c).1
  | .add parent profile handler next, h =>
    (next (h.add parent profile handler).2).answers (h.add parent profile handler).1

theorem isComplete_run (p : Program ν) (h : Handling ν) :
    (p.run h).exchange.isComplete = (h.exchange.isComplete || p.answers h) := by
  induction p generalizing h with
  | done => rw [answers, Bool.or_false]; rfl
  | call c next ih =>
    show ((next (h.perform c).2).run (h.perform c).1).exchange.isComplete = _
    rw [ih, h.isComplete_perform, answers, Bool.or_assoc]
  | add parent profile handler next _ ih => exact ih _ _

/-- A program does nothing to an exchange that is complete. -/
theorem exchange_run_of_isComplete (p : Program ν) {h : Handling ν}
    (hcomplete : h.exchange.isComplete = true) : (p.run h).exchange = h.exchange := by
  refine p.run_induction (motive := fun h' => h'.exchange = h.exchange) ?_ ?_ rfl
  · intro h' c hsame
    rw [h'.perform_of_isComplete (hsame ▸ hcomplete) c, hsame]
  · intro h' parent profile handler hsame
    exact hsame

/-- **Answers.** In a new exchange, a program deposits one announcement at most, if it calls to accept a
confirmable request before it answers, and behind it one final message at most. The exchange stands as
responded if that is a response, which then has the token of the request and the role that fits what
was announced, and as rejected if it is the reset of the request; otherwise it stands as accepted or
still as received. All of it goes to the sender of the request in its session. The exchange is complete
if the program made a call that concludes it, and nothing that is run later changes anything about a
complete exchange. -/
theorem exchange_run (site : Site ν) (request : Addressed Message) (session : Option Session)
    (created : Instant) (resource : Option ResourceId) (shaping : Shaping) (redelivery : Redelivery)
    (p : Program ν) :
    let h : Handling ν :=
      ⟨site, { Exchange.new request session created with resource }, shaping, redelivery⟩
    let announced := p.announces h
    let e := (p.run h).exchange
    (∃ final : Option (Addressed Response),
      e.responses =
        (if request.data.type = .con ∧ announced = true then [emptyAck request session] else []) ++
          final.toList ∧
      match final with
      | some r =>
        e.state = .responded ∧ IsAnswer request session announced r ∨
          e.state = .rejected ∧ r = refusal request session
      | none => e.state = if announced then .accepted else .received) ∧
    (∀ r ∈ e.responses, r.addr = request.addr ∧ r.data.session = session) ∧
    e.isComplete = p.answers h ∧
    (e.isComplete = true → ∀ q : Program ν, (q.run (p.run h)).exchange = e) := by
  intro h announced e
  have start : h.Sound false ∧ h.Concluded false :=
    ⟨⟨⟨rfl, rfl⟩, Exchange.inTime_new request session site.now⟩, .of_open rfl⟩
  obtain ⟨⟨sound, concluded⟩, hrequest, hsession⟩ :=
    (Handling.invariant_concluded.and (Handling.invariant_request request session)).run p
      ⟨start, rfl, rfl⟩
  rw [Bool.false_or] at sound concluded
  have hannouncement := e.announcement_eq announced
  rw [hrequest, hsession] at hannouncement
  -- the announcement stands alone in an exchange that is not complete, or before the final message
  have hdeposits : ∃ final : Option (Addressed Response),
      e.responses = e.announcement announced ++ final.toList ∧
      match final with
      | some r =>
        e.state = .responded ∧ IsAnswer request session announced r ∨
          e.state = .rejected ∧ r = refusal request session
      | none => e.state = if announced then .accepted else .received := by
    cases hcomplete : e.isComplete with
    | false =>
      obtain ⟨hresponses, hstate⟩ := sound.life.responses_of_open hcomplete
      exact ⟨none, by rw [hresponses, Option.toList_none, List.append_nil], hstate⟩
    | true =>
      obtain ⟨final, hresponses, hfinal⟩ := concluded hcomplete
      rw [hrequest, hsession] at hfinal
      refine ⟨some final, hresponses, ?_⟩
      rcases Exchange.isComplete_iff.mp hcomplete with hstate | hstate
      · rw [hstate] at hfinal
        exact .inl ⟨hstate, hfinal⟩
      · rw [hstate] at hfinal
        exact .inr ⟨hstate, hfinal⟩
  rw [hannouncement] at hdeposits
  refine ⟨hdeposits, fun r hr => ?_, p.isComplete_run h,
    fun hcomplete q => q.exchange_run_of_isComplete hcomplete⟩
  obtain ⟨final, hresponses, hstands⟩ := hdeposits
  rw [hresponses, List.mem_append] at hr
  rcases hr with hr | hr
  · split at hr
    · rw [List.mem_singleton.mp hr]
      exact ⟨rfl, rfl⟩
    · cases hr
  · obtain rfl := Option.mem_toList.mp hr
    rcases hstands with ⟨-, hanswer⟩ | ⟨-, rfl⟩
    · exact ⟨hanswer.addr, hanswer.session⟩
    · exact ⟨rfl, rfl⟩

end Program

end Coap
