import Coap.Proofs.Forward.Hop
import Coap.Proofs.Forward.Origin
import Coap.Proofs.Handling.Finals
import Coap.Resource.Standard

/-!
# Handlers that forward

A resource that forwards its requests announces a separate response, has the request carried on, and
answers with what comes of it. There is always something to answer: what the origin said, or why nothing
came of it.

* `Resource.relayed` — the answer for each way in which forwarding can go.
* `Resource.run_forwarding` — it is the one that is given, after the request was accepted, forwarded and
  reported about.
* `Handling.relaying` — the handling of a request at that point, and what is known of it.
* `Handling.dispatch_forwarding` — a dispatch to such a resource ends with that answer.
* `Handling.forwarding_of_response` — what forwarding comes to where an origin responds over CoAP.
-/

namespace Coap

variable {ν : Type}

/-! ### Calls of a resource that forwards -/

namespace Handling

variable (h : Handling ν)

/-- The same handling with more in its journal. -/
def noted (more : List (Event ν)) : Handling ν :=
  { h with site := { h.site with events := h.site.events ++ more } }

theorem noted_nil : h.noted [] = h := by simp [noted]

theorem noted_cons (e : Event ν) (more : List (Event ν)) :
    h.noted (e :: more) = (h.record e).noted more := by
  simp [noted, record, Site.record]

/-- The first call to accept sends and deposits the announcement. -/
theorem accept_of_received (hstate : h.exchange.state = .received) :
    h.accept =
      { h with
        site := { h.site with
          events := h.site.events ++
            h.exchange.interim?.toList.map fun ack => .sent (ack.map (·.message)) }
        exchange := { h.exchange with
          state := .accepted
          deposits := h.exchange.deposits ++
            (h.exchange.interim?.map fun r => ⟨r, h.site.now⟩).toList } } := by
  have hinterim : h.interim? = h.exchange.interim? := rfl
  simp only [accept, Exchange.accept, hstate, hinterim]
  cases h.exchange.interim? with
  | none => simp
  | some ack => rfl

/-- The request without the path of the resource that handles it. -/
def onward (id : ResourceId) : Addressed Message :=
  match h.site.tree.pathOf id with
  | some path => h.exchange.request.map (·.dropPath path)
  | none => h.exchange.request

/-- Beside its path, the request is sent on as it came. -/
theorem sameBut_onward (id : ResourceId) : h.request.SameBut (h.onward id).data .uriPath := by
  unfold onward
  split
  · exact h.request.sameBut_dropPath _
  · exact .refl h.request .uriPath

/-- The call to forward notes the second hop, and takes time. -/
theorem forward_eq (f : Forwarder) (request : Addressed Message) :
    let forwarded := f.forward h.site.now (h.site.nonces 0) request
    h.forward f request =
      ({ h with
          site := { h.site with
            now := h.site.now + forwarded.elapsed.nanos
            nonces := fun i => h.site.nonces (i + 1)
            events := h.site.events ++ forwarded.hops.map .hop } },
        forwarded.result) := rfl

end Handling

/-! ### Programs of a resource that forwards -/

namespace Resource

/-- The answer for how forwarding went. -/
def relayed : Except ForwardError Response → Response
  | .ok r => if r.message.code.kind = .response then r else .ofCode .badGateway []
  | .error e => .ofCode e.code (Text.bytes e.message)

/-- What is reported about it. -/
def relayReports (name : String) : Except ForwardError Response → List (Event ν)
  | .ok r =>
    if r.message.code.kind = .response then []
    else
      [.report .error s!"refusing to respond with non-response code {r.message.code.text}",
        .report .warning
          s!"origin response unusable: {(RespondError.notAResponse r.message.code).message}"]
  | .error e => [.report .warning s!"{name}: {e.failure.text}; {e.message}"]

theorem relayed_of_response {r : Response} (hcode : r.message.code.kind = .response) :
    relayed (.ok r) = r := if_pos hcode

theorem relayed_of_other {r : Response} (hcode : r.message.code.kind ≠ .response) :
    relayed (.ok r) = .ofCode .badGateway [] := if_neg hcode

theorem relayReports_of_response (name : String) {r : Response}
    (hcode : r.message.code.kind = .response) : relayReports (ν := ν) name (.ok r) = [] :=
  if_pos hcode

/-- Every answer has the code of a response. -/
theorem kind_relayed (result : Except ForwardError Response) :
    (relayed result).message.code.kind = .response := by
  cases result with
  | error e => cases e <;> rfl
  | ok r =>
    by_cases hcode : r.message.code.kind = .response
    · rw [relayed_of_response hcode, hcode]
    · rw [relayed_of_other hcode]
      rfl

/-- What comes of forwarding is reported, and the answer for it is the first one that is not refused. -/
theorem run_respondForwarded (name : String) (result : Except ForwardError Response)
    {h : Handling ν} (hopen : h.exchange.isComplete = false) :
    (respondForwarded name result).run h =
      ((h.noted (relayReports name result)).respondWith (relayed result)).1 := by
  cases result with
  | error e => rfl
  | ok r =>
    by_cases hcode : r.message.code.kind = .response
    · obtain ⟨marker, heq⟩ := h.respondWith_of_open hcode hopen
      have hperform : h.perform (.respond r) = (_, .ok ()) := heq
      rw [relayReports_of_response name hcode, relayed_of_response hcode, h.noted_nil, heq]
      refine (Program.run_call ..).trans ?_
      rw [hperform]
      rfl
    · -- the answer is refused for its code, which leaves the exchange open for another one
      have hperform : h.perform (.respond r) =
          (h.report .error _, .error (.notAResponse r.message.code)) := if_pos hcode
      rw [relayed_of_other hcode, relayReports, if_neg hcode, h.noted_cons, Handling.noted_cons,
        Handling.noted_nil]
      refine (Program.run_call ..).trans ?_
      rw [hperform]
      rfl

/-- A resource that forwards accepts the request, has it forwarded without the path of the resource, and
gives the answer for what comes of it. -/
theorem run_forwarding (name : String) (attributes : Attributes) (f : Forwarder) {h : Handling ν}
    {id : ResourceId} (hresource : h.exchange.resource = some id)
    (hstate : h.exchange.state = .received) :
    let forwarded := h.accept.forward f (h.accept.onward id)
    ((forwarding name attributes f).handler h.exchange.request).run h =
      ((forwarded.1.noted (relayReports name forwarded.2)).respondWith (relayed forwarded.2)).1 := by
  intro forwarded
  have hstays : h.accept.exchange.request = h.exchange.request ∧
      h.accept.exchange.resource = some id := by
    rw [h.accept_of_received hstate]
    exact ⟨rfl, hresource⟩
  have hopen : forwarded.1.exchange.isComplete = false := by
    have hsame : forwarded.1.exchange = h.accept.exchange := by
      rw [show forwarded = _ from h.accept.forward_eq f (h.accept.onward id)]
    rw [hsame, h.accept_of_received hstate]
    rfl
  rw [← run_respondForwarded name forwarded.2 hopen]
  -- the program looks at the exchange, then at the path of the resource, and then it forwards
  refine (Program.run_call .accept _ h).trans ?_
  refine (Program.run_call .exchange _ h.accept).trans ?_
  dsimp only [Handling.perform]
  rw [hstays.2]
  refine (Program.run_call (.pathOf id) _ h.accept).trans ?_
  refine (Program.run_call ..).trans ?_
  show _ = (respondForwarded name (h.accept.forward f (h.accept.onward id)).2).run
    (h.accept.forward f (h.accept.onward id)).1
  rw [Handling.onward, hstays.1]
  dsimp only [Handling.perform]
  cases h.accept.site.tree.pathOf id <;> rfl

end Resource

/-! ### Dispatches to a resource that forwards -/

namespace Handling

open Resource

/-- A request before it is answered by a resource that forwards: it is announced and forwarded, and what
came of that is reported. -/
def relaying (h : Handling ν) (id : ResourceId) (name : String) (f : Forwarder) : Handling ν :=
  let forwarded := h.accept.forward f (h.accept.onward id)
  forwarded.1.noted (relayReports name forwarded.2)

/-- How the forwarding went. -/
def forwarding (h : Handling ν) (id : ResourceId) (f : Forwarder) : Forwarded :=
  f.forward h.accept.site.now (h.accept.site.nonces 0) (h.accept.onward id)

/-- A dispatch to a resource that forwards ends with the answer for what comes of it. -/
theorem dispatch_forwarding {h : Handling ν} {id : ResourceId} {name : String}
    {attributes : Attributes} {f : Forwarder} (hstate : h.exchange.state = .received)
    (hassigned : h.assigned? = some (id, .forwarding name attributes f)) :
    h.dispatch =
      (((h.entered id).relaying id name f).respondWith
        (relayed ((h.entered id).forwarding id f).result)).1 := by
  have hrun : ((Resource.forwarding name attributes f).handler h.exchange.request).run (h.entered id) =
      (((h.entered id).relaying id name f).respondWith
        (relayed ((h.entered id).forwarding id f).result)).1 :=
    run_forwarding (h := h.entered id) name attributes f rfl hstate
  have hcomplete := isComplete_respondWith ((h.entered id).relaying id name f)
    (kind_relayed ((h.entered id).forwarding id f).result)
  rw [← hrun] at hcomplete ⊢
  rw [dispatch_of_assigned hassigned]
  exact if_pos hcomplete

section

variable (h : Handling ν) (id : ResourceId) (name : String) (f : Forwarder)

theorem relaying_eq :
    h.relaying id name f =
      { h.accept with
        site := { h.accept.site with
          now := h.accept.site.now + (h.forwarding id f).elapsed.nanos
          nonces := fun i => h.accept.site.nonces (i + 1)
          events := h.accept.site.events ++ (h.forwarding id f).hops.map .hop ++
            relayReports name (h.forwarding id f).result } } := by
  have hforwarded : h.accept.forward f (h.accept.onward id) = (_, (h.forwarding id f).result) :=
    h.accept.forward_eq f (h.accept.onward id)
  rw [relaying, hforwarded]
  rfl

/-- The journal tells of the announcement, of the second hop, and of what came of it. -/
theorem events_relaying :
    (h.relaying id name f).site.events =
      h.accept.site.events ++ (h.forwarding id f).hops.map .hop ++
        relayReports name (h.forwarding id f).result := by
  rw [relaying_eq]

variable {h}

/-- Only the announcement was deposited. -/
theorem exchange_relaying (hstate : h.exchange.state = .received) :
    (h.relaying id name f).exchange =
      { h.exchange with
        state := .accepted
        deposits := h.exchange.deposits ++
          (h.exchange.interim?.map fun r => ⟨r, h.site.now⟩).toList } := by
  rw [relaying_eq, h.accept_of_received hstate]

theorem responses_relaying (hstate : h.exchange.state = .received) :
    (h.relaying id name f).exchange.responses =
      h.exchange.responses ++ h.exchange.interim?.toList := by
  rw [exchange_relaying id name f hstate]
  show (h.exchange.deposits ++ _).map _ = _
  rw [List.map_append, Exchange.data_interim]
  rfl

theorem isComplete_relaying (hstate : h.exchange.state = .received) :
    (h.relaying id name f).exchange.isComplete = false := by
  rw [exchange_relaying id name f hstate]
  rfl

theorem shaping_relaying (hstate : h.exchange.state = .received) :
    (h.relaying id name f).shaping = h.shaping := by
  rw [relaying_eq, h.accept_of_received hstate]

theorem tree_relaying (hstate : h.exchange.state = .received) :
    (h.relaying id name f).site.tree = h.site.tree := by
  rw [relaying_eq, h.accept_of_received hstate]

/-- The answer that comes now is a separate response to the request. -/
theorem isAnswer_relaying (hstate : h.exchange.state = .received) {r : Response}
    (hcode : r.message.code.kind = .response) :
    IsAnswer h.exchange.request h.exchange.session true ((h.relaying id name f).answer r) := by
  have hexchange := exchange_relaying id name f hstate
  have hanswer := (h.relaying id name f).isAnswer_settled hcode
  have hrequest : (h.relaying id name f).exchange.request = h.exchange.request := by rw [hexchange]
  have hsession : (h.relaying id name f).exchange.session = h.exchange.session := by rw [hexchange]
  have haccepted : (h.relaying id name f).exchange.state = .accepted := by rw [hexchange]
  rw [hrequest, hsession, haccepted] at hanswer
  exact hanswer

/-- Its options are those it was given, except for Observe. -/
theorem get?_relaying (hstate : h.exchange.state = .received) (hshaping : h.shaping = .standard)
    (r : Response) {n : OptionNumber} (hn : n ≠ .observe) :
    ((h.relaying id name f).answer r).data.message.options.get? n = r.message.options.get? n := by
  have hstandard := (shaping_relaying id name f hstate).trans hshaping
  rw [((h.relaying id name f).sameBut_answer hstandard r).2 n hn, fitted_eq]

/-- Where the resource cannot be observed, it has no Observe option. -/
theorem message_relaying (hstate : h.exchange.state = .received) (hshaping : h.shaping = .standard)
    (hresource : h.exchange.resource = some id) (hobservable : h.site.tree.isObservable id = false)
    (r : Response) :
    ((h.relaying id name f).answer r).data.message =
      { r.message with
        type := if h.request.type = .con then .con else .non
        id := 0
        token := h.request.token
        options := r.message.options.erase .observe } := by
  have hexchange := exchange_relaying id name f hstate
  have hrole : h.request.answerRole true = (if h.request.type = .con then .con else .non, 0) := by
    unfold Message.answerRole
    cases h.request.type <;> rfl
  have hrequest : (h.relaying id name f).request = h.request := by
    rw [request, hexchange]
    rfl
  have haccepted : (h.relaying id name f).exchange.state = .accepted := by rw [hexchange]
  have hsame : (h.relaying id name f).exchange.resource = some id := by
    rw [hexchange]
    exact hresource
  have htree : (h.relaying id name f).site.tree.isObservable id = false := by
    rw [tree_relaying id name f hstate, hobservable]
  rw [message_answer_of_not_isObservable _ ((shaping_relaying id name f hstate).trans hshaping) hsame
    htree, fitted_eq, haccepted, hrequest, decide_eq_true rfl, hrole]
  rfl

end

/-- Where a request names a URL that is reached over CoAP, a response of its origin that arrives in time
is what forwarding comes to. -/
theorem forwarding_of_response {h : Handling ν} (id : ResourceId)
    (hstate : h.exchange.state = .received) {resolve : Url → Option Address} {client : CoapClient}
    {timeout after : Duration}
    {value : Bytes} {text : String} {target : Url} {origin : Address} {r relayed : Response}
    (hgiven : h.request.options.first? .proxyUri = some value)
    (hutf8 : Text.ofBytes? value = some text) (hurl : Url.ofText text = .ok target)
    (hscheme : target.scheme = "coap") (horigin : resolve target = some origin)
    (hsaid : client ⟨h.request.toOrigin target (h.site.nonces 0).id (h.site.nonces 0).token, origin⟩ =
      .ok (.response after r))
    (hin : after.nanos ≤ timeout.nanos) (hrelayed : r.fromOrigin = .ok relayed) :
    ∃ completed, h.forwarding id (.coap resolve client timeout) =
      ⟨⟨.ok { relayed with completed }, after⟩,
        [.coap ⟨h.request.toOrigin target (h.site.nonces 0).id (h.site.nonces 0).token, origin⟩
          true]⟩ := by
  have hsame : h.request.SameBut (h.accept.onward id).data .uriPath := by
    have honward := h.accept.sameBut_onward id
    have hrequest : h.accept.request = h.request := by
      rw [request, h.accept_of_received hstate]
      rfl
    rwa [hrequest] at honward
  have hnonces : h.accept.site.nonces = h.site.nonces := by rw [h.accept_of_received hstate]
  have husable : (h.accept.onward id).data.ForCoap resolve target origin := by
    refine ⟨.whole ?_ hutf8 hurl, hscheme, horigin⟩
    rw [hsame.first?_eq (by decide), hgiven]
  rw [← Message.toOrigin_of_sameBut target _ _ hsame] at hsaid ⊢
  refine ⟨some (h.accept.site.now + after.nanos), ?_⟩
  rw [forwarding, hnonces]
  exact Forwarder.forward_coap_of_response husable hsaid hin hrelayed

end Handling

end Coap
