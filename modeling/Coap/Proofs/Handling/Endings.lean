import Coap.Proofs.Handling.Deposits

/-!
# Ways to end an exchange

A handler ends its exchange with a reset or with a response, which it may give as a whole or by its
parts. Whichever way it takes, it comes down to one of two things: a rejection, or one response that
is built from the parts.

* `Ending` — the ways, and `Ending.program` the program of each.
* `Ending.response?` — the response that is built.
* `Ending.perform`, `Ending.run_program` — what the program of an ending does.
* `Handling.reported` — a handling is as it was but for reports.
-/

namespace Coap

variable {ν : Type}

/-! ### Reports -/

namespace Handling

variable (h : Handling ν)

/-- The same handling after some reports. -/
def reported (reports : List (Severity × String)) : Handling ν :=
  { h with site := { h.site with
      events := h.site.events ++ reports.map fun report => .report report.1 report.2 } }

theorem reported_nil : h.reported [] = h := by
  simp only [reported, List.map_nil, List.append_nil]

theorem report_eq (severity : Severity) (text : String) :
    h.report severity text = h.reported [(severity, text)] := rfl

theorem reported_reported (reports more : List (Severity × String)) :
    (h.reported reports).reported more = h.reported (reports ++ more) := by
  simp only [reported, List.map_append, List.append_assoc]

/-! ### Answers and what is replaced in them -/

/-- Type, id and token of an answer are replaced to fit the request, and its session is that of the
exchange, so it does not matter what they were. -/
theorem respondWith_congr (r : Response) (type : MessageType) (id : UInt16) (token : Token)
    (session : Option Session) :
    h.respondWith { r with session, message := { r.message with type, id, token } } =
      h.respondWith r := by
  have hfitted : h.fitted { r.message with type, id, token } = h.fitted r.message := by
    rw [fitted_eq, fitted_eq]
  simp only [respondWith, hfitted]
  rfl

/-- An answer that is not refused does not depend on reports, nor adds to them. -/
theorem respondWith_reported {r : Response} (hcode : r.message.code.kind = .response)
    (hopen : h.exchange.isComplete = false) (reports : List (Severity × String)) :
    (h.reported reports).respondWith r =
      ((h.respondWith r).1.reported reports, (h.respondWith r).2) := by
  have hopen' : (h.reported reports).exchange.isComplete = false := hopen
  simp only [respondWith, hcode, ne_eq, not_true_eq_false, if_false, hopen, hopen']
  rfl

end Handling

/-! ### Endings -/

/-- A way to end an exchange. -/
inductive Ending where
  /-- Reject the request. -/
  | reject
  /-- Answer with a given response. -/
  | whole (r : Response)
  /-- Answer with a code. -/
  | bare (code : Code)
  /-- Answer with a code and a payload. -/
  | loaded (code : Code) (payload : Bytes)
  /-- Answer with a code and a payload in a given format. -/
  | content (code : Code) (payload : Bytes) (format : ContentFormat)
  /-- Answer with a code and a JSON value, unless it could not be worked out. -/
  | json (code : Code) (value : Except String Json)

namespace Ending

/-- The program that ends the exchange so, and goes on with what came back. -/
def program (a : Ending) (next : Except RespondError Unit → Program ν) : Program ν :=
  match a with
  | .reject => .call .reject next
  | .whole r => .respondWith r next
  | .bare code => .respond code next
  | .loaded code payload => .respondPayload code payload next
  | .content code payload format => .respondContent code payload format next
  | .json code value => .respondJson code value next

/-- A response to a request that has a code and a payload. -/
def plain (request : Message) (code : Code) (payload : Bytes) : Response :=
  .ofMessage { Message.new .non code 0 request.token with payload }

/-- A response to a request whose payload is in a given format. -/
def formatted (request : Message) (code : Code) (payload : Bytes) (format : ContentFormat) :
    Response :=
  let r := plain request code payload
  { r with message := r.message.setContentFormat format }

/-- The response that is built for a request; a rejection has none. -/
def response? (request : Message) : Ending → Option Response
  | .reject => none
  | .whole r => some r
  | .bare code => some (plain request code [])
  | .loaded code payload => some (plain request code payload)
  | .content code payload format => some (formatted request code payload format)
  | .json code (.ok value) => some (formatted request code value.bytes .json)
  | .json _ (.error _) => some (plain request .internalServerError [])

/-- What is reported before the response is given: that its payload could not be worked out. -/
def reports : Ending → List (Severity × String)
  | .json _ (.error cause) => [(.error, s!"failed to serialize response: {cause}")]
  | _ => []

/-- What an ending does, and what comes back. -/
def perform (a : Ending) (h : Handling ν) : Handling ν × Except RespondError Unit :=
  match a.response? h.request with
  | some r => (h.reported a.reports).respondWith r
  | none => h.reject

/-- An ending with a response and nothing to report is that response. -/
theorem perform_of_response {a : Ending} {h : Handling ν} {r : Response} (hreports : a.reports = [])
    (hresponse : a.response? h.request = some r) : a.perform h = h.respondWith r := by
  rw [perform, hresponse, hreports, h.reported_nil]

/-- Only an answer that is an error of the server is reported before it is given. -/
theorem reports_eq_nil_or {a : Ending} {request : Message} {r : Response}
    (hresponse : a.response? request = some r) :
    a.reports = [] ∨ r.message.code = .internalServerError := by
  cases a with
  | json code value =>
    cases value with
    | ok value => exact .inl rfl
    | error cause =>
      obtain rfl := Option.some.inj hresponse
      exact .inr rfl
  | _ => exact .inl rfl

theorem respondWith_plain (h : Handling ν) (request : Message) (code : Code) (payload : Bytes) :
    h.respondWith (.ofCode code payload) = h.respondWith (plain request code payload) :=
  h.respondWith_congr (plain request code payload) .non 0 .empty none

theorem respondWith_formatted (h : Handling ν) (request : Message) (code : Code) (payload : Bytes)
    (format : ContentFormat) :
    let r := Response.ofCode code payload
    h.respondWith { r with message := r.message.setContentFormat format } =
      h.respondWith (formatted request code payload format) :=
  h.respondWith_congr (formatted request code payload format) .non 0 .empty none

/-- **Endings.** The program of an ending is the one call it comes down to. -/
theorem run_program (a : Ending) (next : Except RespondError Unit → Program ν) (h : Handling ν) :
    (a.program next).run h = (next (a.perform h).2).run (a.perform h).1 := by
  have hcall : ∀ (h : Handling ν) (r r' : Response), h.respondWith r = h.respondWith r' →
      (Program.respondWith r next).run h =
        (next (h.respondWith r').2).run (h.respondWith r').1 := by
    intro h r r' heq
    rw [← heq]
    rfl
  cases a with
  | reject => rfl
  | whole r =>
    rw [perform_of_response rfl rfl]
    exact hcall h r r rfl
  | bare code =>
    rw [perform_of_response rfl rfl]
    exact hcall h _ _ (respondWith_plain h h.request code [])
  | loaded code payload =>
    rw [perform_of_response rfl rfl]
    exact hcall h _ _ (respondWith_plain h h.request code payload)
  | content code payload format =>
    rw [perform_of_response rfl rfl]
    exact hcall h _ _ (respondWith_formatted h h.request code payload format)
  | json code value =>
    cases value with
    | ok value =>
      rw [perform_of_response rfl rfl]
      exact hcall h _ _ (respondWith_formatted h h.request code value.bytes .json)
    | error cause =>
      rw [perform, response?]
      exact hcall (h.reported (reports (.json code (.error cause)))) _ _
        (respondWith_plain _ h.request .internalServerError [])

end Ending

end Coap
