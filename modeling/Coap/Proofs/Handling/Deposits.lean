import Coap.Proofs.Exchange.Lifecycle
import Coap.Proofs.Handling.Run

/-!
# What handlers deposit

Whatever a handler does, it leads the exchange through its life: its calls announce a separate
response, complete the exchange or leave it alone.

* `Handling.perform_exchange` — all that a call can do to an exchange.
* `Program.announces` — does a program announce a separate response before it answers?
* `Handling.Sound` — an exchange in a state of its life, with deposits in the order of their times.
* `Handling.Invariant`, `Handling.Invariant.run` — what calls preserve, programs preserve, and they
  announce what they are said to announce.
* `Handling.invariant_sound` — so an exchange stays sound.
-/

namespace Coap

variable {ν : Type}

/-! ### Options of answers -/

/-- Settling an observe relation leaves a mark in the exchange and changes the options of the answer;
the rest of both stays as it is. -/
theorem Observers.settle_eq {η : Type u} (o : Observers) (tree : Tree η) (e : Exchange)
    (now : Instant) (m : Message) :
    ∃ observers marker options,
      o.settle tree e now m = (observers, { e with marker }, { m with options }) := by
  have hother : ∀ resource key, ∃ observers marker options,
      settle.settleOther o e resource key m = (observers, { e with marker }, { m with options }) := by
    intro resource key
    unfold settle.settleOther
    by_cases herror : m.code.isError
    · rw [if_pos herror]
      by_cases hexisted : (o.cancel resource key).2 = true
      · exact ⟨_, .canceled, _, by simp only [hexisted, if_true]; rfl⟩
      · exact ⟨_, e.marker, _, by simp only [hexisted]; rfl⟩
    · rw [if_neg herror]
      exact ⟨_, e.marker, _, rfl⟩
  unfold settle
  split
  · exact ⟨_, e.marker, _, rfl⟩
  · next resource _ =>
    dsimp only
    split
    · split
      · exact ⟨_, .established, _, rfl⟩
      · exact hother resource _
    · exact ⟨_, .canceled, _, rfl⟩
    · exact hother resource _

theorem Shaping.addPieces_eq (n : OptionNumber) (sep : Char) (text : Option String) (m : Message) :
    ∃ options, addPieces n sep text m = { m with options } := by
  unfold addPieces
  split
  · exact ⟨m.options, rfl⟩
  · split
    · exact ⟨m.options, rfl⟩
    · exact ⟨_, rfl⟩

/-- What is stated about an answer beside its code and payload goes to its options. -/
theorem Shaping.apply_eq (s : Shaping) (m : Message) : ∃ options, s.apply m = { m with options } := by
  obtain ⟨path, hpath⟩ := addPieces_eq .locationPath '/' s.locationPath m
  obtain ⟨query, hquery⟩ := addPieces_eq .locationQuery '&' s.locationQuery { m with options := path }
  unfold apply
  simp only [hpath, hquery]
  -- both Max-Age and ETag are either there, or set
  split
  · split <;> split <;> exact ⟨_, rfl⟩
  · split <;> exact ⟨_, rfl⟩

namespace Handling

variable (h : Handling ν)

/-! ### Single calls -/

theorem accept_exchange :
    h.accept.exchange = (h.exchange.accept h.site.now h.exchange.interim?).1 := by
  simp only [accept]
  show _ = (h.exchange.accept h.site.now h.interim?).1
  split
  · next exchange hexchange =>
    rw [hexchange]
    split <;> rfl
  · next exchange hexchange =>
    unfold Exchange.accept at hexchange ⊢
    split at hexchange
    · cases hexchange
    · rfl

/-- It is too late to accept a request that was answered. -/
theorem accept_of_isComplete (hcomplete : h.exchange.isComplete = true) : h.accept = h := by
  simp only [accept]
  rw [Exchange.accept_of_isComplete hcomplete]

theorem reject_exchange :
    h.reject.1.exchange = (h.exchange.complete h.site.now
      (h.exchange.reply (.ofMessage h.request.reset)) true).1 := by
  simp only [reject]
  split
  · next exchange hexchange => rw [hexchange]
  · next exchange hexchange =>
    unfold Exchange.complete at hexchange ⊢
    by_cases hcomplete : h.exchange.isComplete = true
    · rw [if_pos hcomplete]
      rfl
    · rw [if_neg hcomplete] at hexchange
      cases hexchange

/-- The observe relations and the answer, once it is settled what the answer does to them. -/
def settled (r : Response) : Observers × Message :=
  let settled := h.site.observers.settle h.site.tree h.exchange h.site.now
    (h.shaping.apply (h.fitted r.message))
  (settled.1, settled.2.2)

theorem fitted_eq (m : Message) :
    let role := h.request.answerRole (decide (h.exchange.state = .accepted))
    h.fitted m = { m with token := h.request.token, type := role.1, id := role.2 } := by
  unfold fitted Message.answerRole
  cases h.exchange.state <;> cases h.request.type <;> rfl

/-- An answer that is settled keeps the code it was given, and fits its request. -/
theorem isAnswer_settled {r : Response} (hcode : r.message.code.kind = .response) :
    IsAnswer h.exchange.request h.exchange.session (decide (h.exchange.state = .accepted))
      (h.exchange.reply { r with message := (h.settled r).2 }) := by
  obtain ⟨options, happly⟩ := h.shaping.apply_eq (h.fitted r.message)
  obtain ⟨observers, marker, options', hsettle⟩ := h.site.observers.settle_eq h.site.tree h.exchange
    h.site.now (h.shaping.apply (h.fitted r.message))
  have hmessage : (h.settled r).2 = { h.fitted r.message with options := options' } := by
    simp only [settled, hsettle]
    rw [happly]
  rw [hmessage, fitted_eq]
  exact ⟨rfl, rfl, hcode, rfl, rfl⟩

/-- An answer with the code of a response, the first one, completes the exchange. -/
theorem respondWith_of_open {r : Response} (hcode : r.message.code.kind = .response)
    (hopen : h.exchange.isComplete = false) :
    ∃ marker, h.respondWith r =
      ({ h with
          site := { h.site with observers := (h.settled r).1 }
          exchange := { (h.exchange.complete h.site.now
            (h.exchange.reply { r with message := (h.settled r).2 }) false).1 with marker } },
        .ok ()) := by
  obtain ⟨observers, marker, options, hsettle⟩ := h.site.observers.settle_eq h.site.tree h.exchange
    h.site.now (h.shaping.apply (h.fitted r.message))
  refine ⟨marker, ?_⟩
  simp only [respondWith, hcode, ne_eq, not_true_eq_false, if_false, hopen, settled, hsettle]
  have hopen' : ({ h.exchange with marker } : Exchange).isComplete = false := hopen
  simp only [Exchange.complete, hopen, hopen']
  rfl

variable {h} in
/-- An answer with the code of no response is refused. -/
theorem respondWith_of_notAResponse {r : Response} (hcode : r.message.code.kind ≠ .response) :
    ∃ text, h.respondWith r = (h.report .error text, .error (.notAResponse r.message.code)) := by
  rw [respondWith, if_pos hcode]
  exact ⟨_, rfl⟩

variable {h} in
/-- A second answer is refused. -/
theorem respondWith_of_isComplete {r : Response} (hcode : r.message.code.kind = .response)
    (hcomplete : h.exchange.isComplete = true) :
    ∃ text, h.respondWith r = (h.report .error text, .error .alreadyResponded) := by
  rw [respondWith, if_neg (not_not_intro hcode), if_pos hcomplete]
  exact ⟨_, rfl⟩

/-- An answer with the code of no response is refused, and so is a second answer. -/
theorem respondWith_of_refused {r : Response}
    (hrefused : r.message.code.kind ≠ .response ∨ h.exchange.isComplete = true) :
    ∃ text e, h.respondWith r = (h.report .error text, .error e) := by
  by_cases hcode : r.message.code.kind = .response
  · obtain ⟨text, heq⟩ := respondWith_of_isComplete hcode (hrefused.resolve_left (not_not_intro hcode))
    exact ⟨text, _, heq⟩
  · obtain ⟨text, heq⟩ := respondWith_of_notAResponse (h := h) hcode
    exact ⟨text, _, heq⟩

theorem respondWith_exchange (r : Response) :
    (h.respondWith r).1.exchange = h.exchange ∨ ∃ final marker,
      IsAnswer h.exchange.request h.exchange.session (decide (h.exchange.state = .accepted)) final ∧
      (h.respondWith r).1.exchange =
        { (h.exchange.complete h.site.now final false).1 with marker } := by
  by_cases hrefused : r.message.code.kind ≠ .response ∨ h.exchange.isComplete = true
  · obtain ⟨text, e, heq⟩ := h.respondWith_of_refused hrefused
    rw [heq]
    exact .inl rfl
  · rw [not_or, Decidable.not_not, Bool.not_eq_true] at hrefused
    obtain ⟨marker, heq⟩ := h.respondWith_of_open hrefused.1 hrefused.2
    rw [heq]
    exact .inr ⟨_, marker, h.isAnswer_settled hrefused.1, rfl⟩

/-- An answer with the code of a response leaves the exchange complete. -/
theorem isComplete_respondWith {r : Response} (hcode : r.message.code.kind = .response) :
    (h.respondWith r).1.exchange.isComplete = true := by
  cases hopen : h.exchange.isComplete with
  | false =>
    obtain ⟨marker, heq⟩ := h.respondWith_of_open hcode hopen
    rw [heq]
    exact Exchange.isComplete_complete _ _ _
  | true =>
    obtain ⟨text, e, heq⟩ := h.respondWith_of_refused (r := r) (.inr hopen)
    rw [heq]
    exact hopen

/-- **Inversion of calls.** A call leaves an exchange as it is, accepts it, or completes it with a
message that is final for its request. -/
theorem perform_exchange (c : Call ν) :
    (h.perform c).1.exchange = h.exchange ∨
      (c = .accept ∧ (h.perform c).1.exchange =
        (h.exchange.accept h.site.now h.exchange.interim?).1) ∨
      ∃ final rejected marker,
        IsFinal h.exchange.request h.exchange.session (decide (h.exchange.state = .accepted))
          rejected final ∧
        (h.perform c).1.exchange =
          { (h.exchange.complete h.site.now final rejected).1 with marker } := by
  cases c with
  | accept => exact .inr (.inl ⟨rfl, h.accept_exchange⟩)
  | reject => exact .inr (.inr ⟨_, true, _, rfl, h.reject_exchange⟩)
  | respond r =>
    rcases h.respondWith_exchange r with hsame | ⟨final, marker, hanswer, hcompleted⟩
    · exact .inl hsame
    · exact .inr (.inr ⟨final, false, marker, hanswer, hcompleted⟩)
  | redeliver =>
    refine .inl ?_
    show h.redeliver.1.exchange = _
    unfold redeliver
    split <;> rfl
  | _ => exact .inl rfl

/-- A call changes no more of an exchange than what is deposited, its state and its marker. -/
theorem perform_exchange_eq (c : Call ν) :
    ∃ deposits state marker, (h.perform c).1.exchange = { h.exchange with deposits, state, marker } := by
  rcases h.perform_exchange c with hsame | ⟨-, hsame⟩ | ⟨final, rejected, marker, -, hsame⟩
  · exact ⟨_, _, _, hsame⟩
  · rw [hsame]
    unfold Exchange.accept
    split <;> exact ⟨_, _, _, rfl⟩
  · rw [hsame]
    unfold Exchange.complete
    split <;> exact ⟨_, _, _, rfl⟩

/-- No call touches the request, nor the session it came in. -/
theorem request_perform (c : Call ν) :
    (h.perform c).1.exchange.request = h.exchange.request ∧
      (h.perform c).1.exchange.session = h.exchange.session := by
  obtain ⟨deposits, state, marker, heq⟩ := h.perform_exchange_eq c
  rw [heq]
  exact ⟨rfl, rfl⟩

/-- Nor the resource that the request is for. -/
theorem resource_perform (c : Call ν) :
    (h.perform c).1.exchange.resource = h.exchange.resource := by
  obtain ⟨deposits, state, marker, heq⟩ := h.perform_exchange_eq c
  rw [heq]

/-- Nothing is done to an exchange that is complete. -/
theorem perform_of_isComplete (hcomplete : h.exchange.isComplete = true) (c : Call ν) :
    (h.perform c).1.exchange = h.exchange := by
  cases c with
  | accept =>
    show h.accept.exchange = _
    rw [h.accept_exchange, Exchange.accept_of_isComplete hcomplete]
  | reject =>
    show h.reject.1.exchange = _
    rw [h.reject_exchange, Exchange.complete_of_isComplete hcomplete]
  | respond r =>
    show (h.respondWith r).1.exchange = _
    obtain ⟨text, e, heq⟩ := h.respondWith_of_refused (r := r) (.inr hcomplete)
    rw [heq]
    rfl
  | redeliver =>
    show h.redeliver.1.exchange = _
    unfold redeliver
    split <;> rfl
  | _ => rfl

/-! ### Programs -/

/-- An exchange in a state of its life, whose deposits are in the order of their times. -/
structure Sound (h : Handling ν) (announced : Bool) : Prop where
  life : h.exchange.Lifecycle announced
  inTime : h.exchange.InTime h.site.now

variable {h} {announced : Bool}

theorem Sound.of_exchange_eq (sound : h.Sound announced) {h' : Handling ν}
    (hexchange : h'.exchange = h.exchange) (hnow : h.site.now ≤ h'.site.now) :
    h'.Sound announced :=
  ⟨hexchange ▸ sound.life, hexchange ▸ sound.inTime.mono hnow⟩

/-- The first call to accept announces a separate response. -/
theorem Sound.accept (sound : h.Sound announced) (hopen : h.exchange.isComplete = false) :
    h.accept.Sound true := by
  constructor
  · rw [h.accept_exchange]
    exact sound.life.accept hopen h.site.now
  · rw [h.accept_exchange]
    exact (sound.inTime.accept _).mono h.continues_accept.1

/-- No other call announces anything. -/
theorem Sound.perform (sound : h.Sound announced) {c : Call ν} (hc : c ≠ .accept) :
    (h.perform c).1.Sound announced := by
  have hnow := (h.continues_perform c).1
  rcases h.perform_exchange c with hsame | ⟨haccept, -⟩ | ⟨final, rejected, marker, -, hcompleted⟩
  · exact sound.of_exchange_eq hsame hnow
  · exact absurd haccept hc
  · constructor
    · rw [hcompleted]
      exact sound.life.complete h.site.now final rejected
    · rw [hcompleted]
      exact (sound.inTime.complete final rejected).mono hnow

end Handling

/-- Is it the call that announces a separate response? -/
def Call.isAccept : Call ν → Bool
  | .accept => true
  | _ => false

theorem Call.isAccept_iff {c : Call ν} : c.isAccept = true ↔ c = .accept := by
  cases c <;> simp [isAccept]

namespace Program

/-- Does a program announce a separate response before it answers? It does if it calls to accept at
a time when the exchange is not complete. -/
def announces : Program ν → Handling ν → Bool
  | .done, _ => false
  | .call c next, h =>
    !h.exchange.isComplete && (c.isAccept || (next (h.perform c).2).announces (h.perform c).1)
  | .add parent profile handler next, h =>
    (next (h.add parent profile handler).2).announces (h.add parent profile handler).1

/-- It is too late to announce an answer that was given. -/
theorem announces_of_isComplete (p : Program ν) {h : Handling ν}
    (hcomplete : h.exchange.isComplete = true) : p.announces h = false := by
  induction p generalizing h with
  | done => rfl
  | call c next _ => simp [announces, hcomplete]
  | add parent profile handler next _ ih => exact ih _ hcomplete

end Program

namespace Handling

/-- Something that calls preserve, told whether a separate response was announced. -/
structure Invariant (motive : Bool → Handling ν → Prop) : Prop where
  /-- The first call to accept announces one. -/
  accept : ∀ {h announced}, motive announced h → h.exchange.isComplete = false →
    motive true h.accept
  /-- No other call does. -/
  perform : ∀ {h announced}, motive announced h → ∀ c : Call ν, c ≠ .accept →
    motive announced (h.perform c).1
  add : ∀ {h announced}, motive announced h → ∀ parent profile handler,
    motive announced (h.add parent profile handler).1

namespace Invariant

variable {motive motive' : Bool → Handling ν → Prop}

/-- What calls preserve, programs preserve. -/
theorem run (inv : Invariant motive) (p : Program ν) {h : Handling ν} {announced : Bool}
    (start : motive announced h) : motive (announced || p.announces h) (p.run h) := by
  -- a call to an exchange that is complete announces nothing, and of the others only `accept` does
  induction p generalizing h announced with
  | done =>
    rw [Program.announces, Bool.or_false]
    exact start
  | call c next ih =>
    by_cases hc : c = .accept
    · subst hc
      cases hcomplete : h.exchange.isComplete with
      | true =>
        have hrest := ih () start
        rw [Program.announces_of_isComplete _ hcomplete] at hrest
        show motive _ ((next ()).run h.accept)
        rw [Program.announces, hcomplete, h.accept_of_isComplete hcomplete]
        exact hrest
      | false =>
        have hrest := ih () (inv.accept start hcomplete)
        rw [Bool.true_or] at hrest
        rw [Program.announces, hcomplete, Call.isAccept, Bool.true_or, Bool.not_false,
          Bool.true_and, Bool.or_true]
        exact hrest
    · have hstep := inv.perform start c hc
      have hrest := ih (h.perform c).2 hstep
      have haccept : c.isAccept = false := by
        rwa [← Bool.not_eq_true, Call.isAccept_iff]
      cases hcomplete : h.exchange.isComplete with
      | true =>
        rw [Program.announces_of_isComplete _
          ((h.perform_of_isComplete hcomplete c).symm ▸ hcomplete)] at hrest
        rw [Program.announces, hcomplete]
        exact hrest
      | false =>
        rw [Program.announces, hcomplete, haccept, Bool.not_false, Bool.true_and, Bool.false_or]
        exact hrest
  | add parent profile handler next _ ih => exact ih _ (inv.add start parent profile handler)

/-- What every call preserves, whether it announces something or not. -/
theorem of_perform {motive : Handling ν → Prop}
    (hperform : ∀ h (c : Call ν), motive h → motive (h.perform c).1)
    (hadd : ∀ h parent profile handler, motive h → motive (h.add parent profile handler).1) :
    Invariant fun _ => motive where
  accept start _ := hperform _ .accept start
  perform start c _ := hperform _ c start
  add start parent profile handler := hadd _ parent profile handler start

theorem and (inv : Invariant motive) (inv' : Invariant motive') :
    Invariant fun announced h => motive announced h ∧ motive' announced h where
  accept start hopen := ⟨inv.accept start.1 hopen, inv'.accept start.2 hopen⟩
  perform start c hc := ⟨inv.perform start.1 c hc, inv'.perform start.2 c hc⟩
  add start parent profile handler :=
    ⟨inv.add start.1 parent profile handler, inv'.add start.2 parent profile handler⟩

end Invariant

/-- Calls lead an exchange on in its life. -/
theorem invariant_sound : Invariant fun announced (h : Handling ν) => h.Sound announced where
  accept sound hopen := sound.accept hopen
  perform sound _ hc := sound.perform hc
  add sound parent profile handler :=
    sound.of_exchange_eq rfl (Handling.continues_add _ parent profile handler).1

/-- Calls do not touch the request, nor the session it came in. -/
theorem invariant_request (request : Addressed Message) (session : Option Session) :
    Invariant fun _ (h : Handling ν) =>
      h.exchange.request = request ∧ h.exchange.session = session :=
  .of_perform
    (fun h c hsame => ⟨(h.request_perform c).1.trans hsame.1, (h.request_perform c).2.trans hsame.2⟩)
    fun _ _ _ _ hsame => hsame

/-- Calls do not dispatch anything or turn back the clock. -/
theorem invariant_continues (s : Site ν) :
    Invariant fun _ (h : Handling ν) => s.Continues h.site :=
  .of_perform (fun h c hc => hc.trans (h.continues_perform c))
    fun h parent profile handler hc => hc.trans (h.continues_add parent profile handler)

end Handling

end Coap
