import Coap.Proofs.Delivery.Acknowledged
import Coap.Proofs.Handling.Endings

/-!
# Endings that are refused

An ending is refused for two reasons: its code is not that of a response, or the exchange has its final
message. The first comes before the second. An ending that is refused leaves everything as it was; all
that comes of it is a report.

* `Handling.Untouched` — nothing changed but for what is reported.
* `Ending.perform_cases` — all that can come of an ending; from it, when an ending is refused.
* `Handling.Concluded.isComplete_iff` — an exchange is complete if a final message is among its deposits.
* `Ending.refused_exactly` — why endings are refused, and that this touches nothing.
-/

namespace Coap

variable {ν : Type}

namespace Handling

/-- The exchange with its deposits, what was stated about the response, the resources, the observe
relations with their sequence numbers, and the messages sent are as they were. -/
structure Untouched (h h' : Handling ν) : Prop where
  exchange : h'.exchange = h.exchange
  shaping : h'.shaping = h.shaping
  tree : h'.site.tree = h.site.tree
  observers : h'.site.observers = h.site.observers
  sent : h'.site.sent = h.site.sent

/-- Reports touch nothing. -/
theorem untouched_reported (h : Handling ν) (reports : List (Severity × String)) :
    h.Untouched (h.reported reports) where
  exchange := rfl
  shaping := rfl
  tree := rfl
  observers := rfl
  sent := by
    have hnone : (reports.map fun report => (.report report.1 report.2 : Event ν)).filterMap
        Event.sent? = [] := by
      rw [List.filterMap_map]
      exact List.filterMap_eq_nil_iff.mpr fun _ _ => rfl
    rw [reported, Site.sent, List.filterMap_append, hnone, List.append_nil]
    rfl

variable {h : Handling ν}

theorem reject_of_open (hopen : h.exchange.isComplete = false) : h.reject.2 = .ok () := by
  simp only [reject]
  rw [Exchange.complete_of_open hopen]

theorem reject_of_isComplete (hcomplete : h.exchange.isComplete = true) :
    ∃ text, h.reject = (h.report .error text, .error .alreadyResponded) := by
  simp only [reject]
  rw [Exchange.complete_of_isComplete hcomplete]
  exact ⟨_, rfl⟩

end Handling

/-! ### Why endings are refused -/

namespace Ending

/-- Is the code of the response, if there is one, that of a response? -/
def IsAcceptable (a : Ending) (request : Message) : Prop :=
  ∀ r, a.response? request = some r → r.message.code.kind = .response

/-- **Inversion of endings.** An ending with a code that is not that of a response is refused. Of the
others, one for an exchange that is complete is refused as well, and one for an exchange that is not is
taken. -/
theorem perform_cases (a : Ending) (h : Handling ν) :
    (∃ r reports, a.response? h.request = some r ∧ r.message.code.kind ≠ .response ∧
      a.perform h = (h.reported reports, .error (.notAResponse r.message.code))) ∨
    (a.IsAcceptable h.request ∧ h.exchange.isComplete = true ∧
      ∃ reports, a.perform h = (h.reported reports, .error .alreadyResponded)) ∨
    (a.IsAcceptable h.request ∧ h.exchange.isComplete = false ∧ (a.perform h).2 = .ok ()) := by
  cases hresponse : a.response? h.request with
  | none =>
    have hperform : a.perform h = h.reject := by rw [perform, hresponse]
    have hacceptable : a.IsAcceptable h.request := by
      intro r hr
      cases hresponse.symm.trans hr
    rw [hperform]
    cases hcomplete : h.exchange.isComplete with
    | true =>
      obtain ⟨text, hrefused⟩ := Handling.reject_of_isComplete hcomplete
      exact .inr (.inl ⟨hacceptable, rfl, [(.error, text)], hrefused⟩)
    | false => exact .inr (.inr ⟨hacceptable, rfl, Handling.reject_of_open hcomplete⟩)
  | some r =>
    let reported := h.reported a.reports
    have hperform : a.perform h = reported.respondWith r := by rw [perform, hresponse]
    rw [hperform]
    by_cases hcode : r.message.code.kind = .response
    · have hacceptable : a.IsAcceptable h.request := fun r' hr =>
        Option.some.inj (hresponse.symm.trans hr) ▸ hcode
      cases hcomplete : h.exchange.isComplete with
      | true =>
        obtain ⟨text, hrefused⟩ :=
          Handling.respondWith_of_isComplete (h := reported) hcode hcomplete
        exact .inr (.inl ⟨hacceptable, rfl, a.reports ++ [(.error, text)],
          by rw [hrefused, Handling.report_eq, Handling.reported_reported]⟩)
      | false =>
        obtain ⟨marker, htaken⟩ := reported.respondWith_of_open hcode hcomplete
        exact .inr (.inr ⟨hacceptable, rfl, by rw [htaken]⟩)
    · obtain ⟨text, hrefused⟩ := Handling.respondWith_of_notAResponse (h := reported) hcode
      exact .inl ⟨r, a.reports ++ [(.error, text)], rfl, hcode,
        by rw [hrefused, Handling.report_eq, Handling.reported_reported]⟩

variable {a : Ending} {h : Handling ν}

/-- An ending that is refused touches nothing. -/
theorem untouched_perform {e : RespondError} (herror : (a.perform h).2 = .error e) :
    h.Untouched (a.perform h).1 := by
  rcases a.perform_cases h with ⟨r, reports, -, -, heq⟩ | ⟨-, -, reports, heq⟩ | ⟨-, -, hok⟩
  · rw [heq]
    exact h.untouched_reported reports
  · rw [heq]
    exact h.untouched_reported reports
  · cases hok.symm.trans herror

/-- An ending is refused for its code if that is not the code of a response. -/
theorem perform_eq_notAResponse_iff {code : Code} :
    (a.perform h).2 = .error (.notAResponse code) ↔
      code.kind ≠ .response ∧ ∃ r, a.response? h.request = some r ∧ r.message.code = code := by
  have hunacceptable : (code.kind ≠ .response ∧
      ∃ r, a.response? h.request = some r ∧ r.message.code = code) → ¬ a.IsAcceptable h.request := by
    rintro ⟨hcode, r, hr, rfl⟩ hacceptable
    exact hcode (hacceptable r hr)
  rcases a.perform_cases h with ⟨r, reports, hresponse, hcode, heq⟩ |
    ⟨hacceptable, -, reports, heq⟩ | ⟨hacceptable, -, hok⟩
  · rw [heq]
    constructor
    · intro herror
      obtain rfl : r.message.code = code := by
        injection herror with herror
        injection herror
      exact ⟨hcode, r, hresponse, rfl⟩
    · rintro ⟨-, r', hr', rfl⟩
      rw [Option.some.inj (hresponse.symm.trans hr')]
  · rw [heq]
    exact ⟨fun herror => (nomatch herror), fun hrefused => absurd hacceptable (hunacceptable hrefused)⟩
  · rw [hok]
    exact ⟨fun herror => (nomatch herror), fun hrefused => absurd hacceptable (hunacceptable hrefused)⟩

/-- An ending is refused for an earlier answer if nothing is wrong with its code and the exchange is
complete. -/
theorem perform_eq_alreadyResponded_iff :
    (a.perform h).2 = .error .alreadyResponded ↔
      a.IsAcceptable h.request ∧ h.exchange.isComplete = true := by
  rcases a.perform_cases h with ⟨r, reports, hresponse, hcode, heq⟩ |
    ⟨hacceptable, hcomplete, reports, heq⟩ | ⟨-, hopen, hok⟩
  · rw [heq]
    exact ⟨fun herror => (nomatch herror), fun hrefused => absurd (hrefused.1 r hresponse) hcode⟩
  · rw [heq]
    exact ⟨fun _ => ⟨hacceptable, hcomplete⟩, fun _ => rfl⟩
  · rw [hok, hopen]
    exact ⟨fun herror => (nomatch herror), fun hrefused => absurd hrefused.2 Bool.false_ne_true⟩

end Ending

/-! ### Final messages among the deposits -/

/-- Is a message one that completes an exchange, a response or a reset? -/
def Message.Completes (m : Message) : Prop := m.code.kind = .response ∨ m.type = .rst

namespace Handling

variable {h : Handling ν} {announced : Bool}

/-- An exchange is complete exactly if a final message is among its deposits. -/
theorem Concluded.isComplete_iff (concluded : h.Concluded announced) (sound : h.Sound announced) :
    h.exchange.isComplete = true ↔ ∃ d ∈ h.exchange.responses, d.data.message.Completes := by
  constructor
  · intro hcomplete
    obtain ⟨final, hresponses, hfinal⟩ := concluded hcomplete
    refine ⟨final, by rw [hresponses]; exact List.mem_append_right _ List.mem_cons_self, ?_⟩
    cases hrejected : decide (h.exchange.state = .rejected) with
    | true =>
      rw [hrejected] at hfinal
      obtain rfl : final = refusal _ _ := hfinal
      exact .inr rfl
    | false =>
      rw [hrejected] at hfinal
      exact .inl hfinal.code
  · -- in an exchange that is not complete, the announcement stands alone
    rintro ⟨d, hd, hcompletes⟩
    rw [← Bool.not_eq_false]
    intro hopen
    rw [(sound.life.responses_of_open hopen).1, Exchange.announcement_eq] at hd
    split at hd
    · obtain rfl := List.mem_singleton.mp hd
      rcases hcompletes with hcode | htype
      · cases hcode
      · cases htype
    · cases hd

end Handling

/-! ### Exchanges that handlers lead on -/

namespace Ending

/-- **Refused endings.** In whatever state a program leaves a new exchange, an ending that is refused
touches nothing. It is refused for its code exactly if that is not the code of a response, also if the
exchange is complete; and for an earlier answer exactly if there is nothing wrong with its code and a
final message is among the deposits. -/
theorem refused_exactly (site : Site ν) (request : Addressed Message) (session : Option Session)
    (created : Instant) (resource : Option ResourceId) (shaping : Shaping) (redelivery : Redelivery)
    (p : Program ν) (a : Ending) :
    let h : Handling ν := p.run
      ⟨site, { Exchange.new request session created with resource }, shaping, redelivery⟩
    let after := a.perform h
    (∀ next : Except RespondError Unit → Program ν,
      (a.program next).run h = (next after.2).run after.1) ∧
    (∀ e, after.2 = .error e → h.Untouched after.1) ∧
    (∀ code, after.2 = .error (.notAResponse code) ↔
      code.kind ≠ .response ∧ ∃ r, a.response? request.data = some r ∧ r.message.code = code) ∧
    (after.2 = .error .alreadyResponded ↔
      a.IsAcceptable request.data ∧ ∃ d ∈ h.exchange.responses, d.data.message.Completes) := by
  intro h after
  have start : Handling.Sound (ν := ν) ⟨site, { Exchange.new request session created with resource },
      shaping, redelivery⟩ false :=
    ⟨⟨rfl, rfl⟩, Exchange.inTime_new request session site.now⟩
  obtain ⟨⟨sound, concluded⟩, hrequest, -⟩ :=
    (Handling.invariant_concluded.and (Handling.invariant_request request session)).run p
      ⟨⟨start, .of_open rfl⟩, rfl, rfl⟩
  have hrequest : h.request = request.data := congrArg (·.data) hrequest
  rw [← concluded.isComplete_iff sound, ← hrequest]
  exact ⟨fun next => a.run_program next h, fun e herror => untouched_perform herror,
    fun code => perform_eq_notAResponse_iff, perform_eq_alreadyResponded_iff⟩

end Ending

end Coap
