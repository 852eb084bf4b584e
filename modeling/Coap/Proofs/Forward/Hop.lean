import Coap.Forward.Forwarder
import Coap.Proofs.Forward.Target

/-!
# One second hop

A forwarder asks its client once at most. It does not ask at all about a request that has no usable
target, or that has no counterpart over HTTP. Otherwise the result is settled by what the client says
to the one request it is given, and by whether it says so in time.

How often a client is asked cannot be seen from what it says. It can be seen from what else comes of
asking, which is up to a monad: forwarding is equal to a result that is there already (`pure`), or to one
single call and a result made of what was said. This holds in every monad, so for clients that keep a
state of any kind, such as a list of what they were asked.

* `Wait`, `CoapArrival.within`, `HttpArrival.within` — what comes of waiting for a limited time.
* `Message.ForCoap`, `Message.ForHttp` — the requests with a usable target.
* `Forwarder.CoapEnding`, `Forwarder.HttpEnding` — which answer of a client leads to which result.
* `Forwarder.one_hop` — so it is for every request and every client.
-/

namespace Coap

/-! ### Limited waits -/

/-- What comes of waiting for something for a limited time. -/
inductive Wait (α : Type) where
  /-- It arrives. -/
  | arrived (after : Duration) (a : α)
  /-- It turns out that it will never arrive. -/
  | ended (after : Duration)
  /-- The time is up. -/
  | timedOut

/-- What comes of waiting for a CoAP origin. -/
def CoapArrival.within (timeout : Duration) : CoapArrival → Wait Response
  | .response after r => if after.nanos ≤ timeout.nanos then .arrived after r else .timedOut
  | .closed after => if after.nanos ≤ timeout.nanos then .ended after else .timedOut
  | .silence => .timedOut

/-- What comes of waiting for an HTTP client. -/
def HttpArrival.within (timeout : Duration) : HttpArrival → Wait (Except HttpError Http.Response)
  | .result after r => if after.nanos ≤ timeout.nanos then .arrived after r else .timedOut
  | .closed after => if after.nanos ≤ timeout.nanos then .ended after else .timedOut
  | .silence => .timedOut

/-! ### Usable targets -/

namespace Message

/-- A request for a URL whose origin can be reached over CoAP. -/
structure ForCoap (m : Message) (resolve : Url → Option Address) (target : Url) (origin : Address) :
    Prop where
  targets : m.Targets target
  scheme : target.scheme = "coap"
  resolved : resolve target = some origin

/-- A request without a path of its own, if it names its target as a whole. -/
def unplaced (m : Message) : Message := if m.has .proxyUri then m.remove .uriPath else m

/-- A request for a URL whose origin can be reached over HTTP. -/
structure ForHttp (m : Message) (target : Url) : Prop where
  targets : m.unplaced.Targets target
  scheme : target.scheme = "http" ∨ target.scheme = "https"

/-- The path of a request has no part in its counterpart over HTTP. -/
theorem toHttp_unplaced (m : Message) (target : Url) : m.unplaced.toHttp target = m.toHttp target := by
  unfold unplaced
  split
  · have hsame := m.sameBut_remove .uriPath
    have htags : (m.remove .uriPath).options.valuesOf .etag = m.options.valuesOf .etag := by
      rw [Options.valuesOf, hsame.2 .etag (by decide)]
      rfl
    unfold toHttp
    rw [hsame.contentFormat?_eq (by decide), hsame.accept?_eq (by decide), htags]
    rfl
  · rfl

end Message

namespace Forwarding

variable {r : Except ForwardError Response} {start : Instant} {after : Duration}

theorem fetched_eq_ok_iff {r' : Response} :
    fetched r start after = .ok r' ↔
      ∃ response, r = .ok response ∧ r' = { response with completed := some (start + after.nanos) } := by
  cases r <;> simp [fetched, Except.map, eq_comm]

theorem fetched_eq_error_iff {e : ForwardError} : fetched r start after = .error e ↔ r = .error e := by
  cases r <;> simp [fetched, Except.map]

end Forwarding

namespace Forwarder

variable {timeout : Duration} {start : Instant}

/-! ### Over CoAP -/

/-- How forwarding over CoAP ends, by what the client says to the request. -/
structure CoapEnding (timeout : Duration) (start : Instant) (said : Except String CoapArrival)
    (result : Except ForwardError Response) : Prop where
  /-- Nothing arrives in time. -/
  gatewayTimeout : result = .error .gatewayTimeout ↔
    ∃ arrival, said = .ok arrival ∧ arrival.within timeout = .timedOut
  /-- The client fails to send the request, or gives up waiting. -/
  internalError : ∀ cause, result = .error (.internalError cause) ↔
    said = .error cause ∨ cause = "origin exchange failed" ∧
      ∃ arrival after, said = .ok arrival ∧ arrival.within timeout = .ended after
  /-- What arrives is no response that can be passed on. -/
  badGateway : ∀ cause, result = .error (.badGateway cause) ↔
    ∃ arrival after r e, said = .ok arrival ∧ arrival.within timeout = .arrived after r ∧
      r.fromOrigin = .error e ∧ cause = e.message
  /-- What arrives is passed on with the time at which it did. -/
  ok : ∀ response, result = .ok response ↔
    ∃ arrival after r relayed, said = .ok arrival ∧ arrival.within timeout = .arrived after r ∧
      r.fromOrigin = .ok relayed ∧
        response = { relayed with completed := some (start + after.nanos) }
  /-- The request has nothing to do with it. -/
  ne_badOption : ∀ cause, result ≠ .error (.badOption cause)

theorem endCoap_ok (arrival : CoapArrival) :
    endCoap timeout start (.ok arrival) =
      match arrival.within timeout with
      | .arrived after r =>
        ⟨Forwarding.fetched (r.fromOrigin.mapError fun e => .badGateway e.message) start after, after⟩
      | .ended after => ⟨.error (.internalError "origin exchange failed"), after⟩
      | .timedOut => ⟨.error .gatewayTimeout, timeout⟩ := by
  unfold endCoap CoapArrival.within
  cases arrival with
  | response after r =>
    dsimp only
    split <;> rfl
  | closed after =>
    dsimp only
    split <;> rfl
  | silence => rfl

/-- A request ends because it cannot be sent, or in one of three ways of waiting for an origin. -/
theorem coapEnding_endCoap (said : Except String CoapArrival) :
    CoapEnding timeout start said (endCoap timeout start said).result := by
  cases said with
  | error cause => constructor <;> simp [endCoap, eq_comm]
  | ok arrival =>
    rw [endCoap_ok]
    cases hwait : arrival.within timeout with
    | arrived after r =>
      dsimp only
      constructor <;>
        simp [hwait, Forwarding.fetched_eq_ok_iff, Forwarding.fetched_eq_error_iff,
          mapError_eq_ok_iff, mapError_eq_error_iff]
    | ended after => constructor <;> simp [hwait, eq_comm]
    | timedOut => constructor <;> simp [hwait]

section

variable {μ : Type → Type} [Monad μ] {m : Message} {resolve : Url → Option Address}

/-- A request without a usable target is refused, and nobody is asked. -/
theorem forwardCoap_of_unusable (h : ¬ ∃ target origin, m.ForCoap resolve target origin)
    (nonce : Nonce) :
    ∃ cause, ∀ ask : Addressed Message → μ (Except String CoapArrival),
      forwardCoap resolve ask timeout start nonce m = pure (.refused (.badOption cause)) := by
  unfold forwardCoap
  cases htarget : m.proxyTarget with
  | error e =>
    obtain ⟨cause, rfl⟩ := Message.badOption_of_proxyTarget htarget
    exact ⟨cause, fun _ => rfl⟩
  | ok target =>
    by_cases hscheme : target.scheme = "coap"
    · cases hresolved : resolve target with
      | none => exact ⟨_, fun _ => by simp only [hscheme, hresolved]; rfl⟩
      | some origin =>
        exact absurd ⟨target, origin, Message.proxyTarget_eq_ok_iff.mp htarget, hscheme, hresolved⟩ h
    · exact ⟨_, fun _ => if_pos hscheme⟩

variable {target : Url} {origin : Address}

/-- The client is asked about the translated request, and what it says settles how that ends. -/
theorem forwardCoap_of_usable (h : m.ForCoap resolve target origin)
    (ask : Addressed Message → μ (Except String CoapArrival)) (nonce : Nonce) :
    forwardCoap resolve ask timeout start nonce m = do
      let said ← ask ⟨m.toOrigin target nonce.id nonce.token, origin⟩
      return endCoap timeout start said := by
  simp only [forwardCoap, Message.proxyTarget_eq_ok_iff.mpr h.targets, h.scheme, h.resolved]
  rfl

/-- A forwarder over CoAP notes the request that its client is asked. -/
theorem forward_coap_of_usable (h : m.ForCoap resolve target origin) (client : CoapClient)
    (nonce : Nonce) (addr : Address) :
    let request : Addressed Message := ⟨m.toOrigin target nonce.id nonce.token, origin⟩
    (coap resolve client timeout).forward start nonce ⟨m, addr⟩ =
      ⟨endCoap timeout start (client request),
        [.coap request (CoapClient.heard timeout (client request))]⟩ := by
  rw [forward, forwardCoap_of_usable h]
  rfl

/-- A response that arrives in time is passed on, with the time at which it did. -/
theorem forward_coap_of_response (h : m.ForCoap resolve target origin) {client : CoapClient}
    {nonce : Nonce} {addr : Address} {after : Duration} {r relayed : Response}
    (hsaid : client ⟨m.toOrigin target nonce.id nonce.token, origin⟩ = .ok (.response after r))
    (hin : after.nanos ≤ timeout.nanos) (hrelayed : r.fromOrigin = .ok relayed) :
    (coap resolve client timeout).forward start nonce ⟨m, addr⟩ =
      ⟨⟨.ok { relayed with completed := some (start + after.nanos) }, after⟩,
        [.coap ⟨m.toOrigin target nonce.id nonce.token, origin⟩ true]⟩ := by
  have hwithin : (CoapArrival.response after r).within timeout = .arrived after r := if_pos hin
  have hheard : CoapClient.heard timeout (.ok (.response after r)) = true := decide_eq_true hin
  rw [forward_coap_of_usable h, hsaid, hheard, endCoap_ok, hwithin]
  dsimp only
  rw [hrelayed]
  rfl

end

/-! ### Over HTTP -/

/-- How forwarding over HTTP ends, by what comes of waiting for the client. -/
structure HttpEnding (start : Instant) (method : Method)
    (wait : Wait (Except HttpError Http.Response)) (result : Except ForwardError Response) : Prop where
  /-- Nothing arrives in time, or the client says so itself. -/
  gatewayTimeout : result = .error .gatewayTimeout ↔
    wait = .timedOut ∨ ∃ after, wait = .arrived after (.error .timeout)
  /-- The client gives up, reports something else, or brings a response that has no counterpart. -/
  badGateway : ∀ cause, result = .error (.badGateway cause) ↔
    (cause = "http client gave up" ∧ ∃ after, wait = .ended after) ∨
      (∃ after e, wait = .arrived after (.error e) ∧ e ≠ .timeout ∧ cause = e.message) ∨
        ∃ after r e, wait = .arrived after (.ok r) ∧ Response.ofHttp r method = .error e ∧
          cause = e.message
  /-- What arrives is passed on with the time at which it did. -/
  ok : ∀ response, result = .ok response ↔
    ∃ after r translated, wait = .arrived after (.ok r) ∧ Response.ofHttp r method = .ok translated ∧
      response = { translated with completed := some (start + after.nanos) }
  /-- The request has nothing to do with it. -/
  ne_badOption : ∀ cause, result ≠ .error (.badOption cause)
  /-- Nothing fails here. -/
  ne_internalError : ∀ cause, result ≠ .error (.internalError cause)

theorem endHttp_eq (method : Method) (said : HttpArrival) :
    endHttp timeout start method said =
      match said.within timeout with
      | .arrived after (.error .timeout) => ⟨.error .gatewayTimeout, after⟩
      | .arrived after (.error e) => ⟨.error (.badGateway e.message), after⟩
      | .arrived after (.ok r) =>
        ⟨Forwarding.fetched ((Response.ofHttp r method).mapError fun e => .badGateway e.message) start
          after, after⟩
      | .ended after => ⟨.error (.badGateway "http client gave up"), after⟩
      | .timedOut => ⟨.error .gatewayTimeout, timeout⟩ := by
  unfold endHttp HttpArrival.within
  cases said with
  | result after r =>
    dsimp only
    split
    · cases r with
      | error e => cases e <;> rfl
      | ok r => rfl
    · rfl
  | closed after =>
    dsimp only
    split <;> rfl
  | silence => rfl

/-- Waiting for a client ends in one of three ways. -/
theorem httpEnding_endHttp (method : Method) (said : HttpArrival) :
    HttpEnding start method (said.within timeout) (endHttp timeout start method said).result := by
  rw [endHttp_eq]
  cases said.within timeout with
  | arrived after r =>
    cases r with
    | error e => cases e <;> constructor <;> simp [eq_comm]
    | ok r =>
      dsimp only
      constructor <;>
        simp [Forwarding.fetched_eq_ok_iff, Forwarding.fetched_eq_error_iff, mapError_eq_ok_iff,
          mapError_eq_error_iff]
  | ended after => constructor <;> simp [eq_comm]
  | timedOut => constructor <;> simp

section

variable {μ : Type → Type} [Monad μ] {m : Message}

/-- A request without a usable target is refused, and nobody is asked. -/
theorem forwardHttp_of_unusable (h : ¬ ∃ target, m.ForHttp target) :
    ∃ cause, ∀ ask : Http.Request → Duration → μ HttpArrival,
      forwardHttp ask timeout start m = pure (.refused (.badOption cause)) := by
  unfold forwardHttp
  dsimp only
  rw [← Message.unplaced]
  cases htarget : m.unplaced.proxyTarget with
  | error e =>
    obtain ⟨cause, rfl⟩ := Message.badOption_of_proxyTarget htarget
    exact ⟨cause, fun _ => rfl⟩
  | ok target =>
    by_cases hscheme : target.scheme ≠ "http" ∧ target.scheme ≠ "https"
    · exact ⟨_, fun _ => if_pos hscheme⟩
    · rw [not_and_or, not_not, not_not] at hscheme
      exact absurd ⟨target, Message.proxyTarget_eq_ok_iff.mp htarget, hscheme⟩ h

/-- The client is asked about the translated request, if there is one. -/
theorem forwardHttp_of_usable {target : Url} (h : m.ForHttp target)
    (ask : Http.Request → Duration → μ HttpArrival) :
    forwardHttp ask timeout start m =
      match m.toHttp target with
      | .error e => pure (.refused (.badGateway e.message))
      | .ok request => do
        let said ← ask request timeout
        return endHttp timeout start m.method said := by
  have hscheme : ¬ (target.scheme ≠ "http" ∧ target.scheme ≠ "https") := by
    rw [not_and_or, not_not, not_not]
    exact h.scheme
  unfold forwardHttp
  dsimp only
  rw [← Message.unplaced, Message.proxyTarget_eq_ok_iff.mpr h.targets, ← m.toHttp_unplaced target]
  exact if_neg hscheme

end

/-! ### Over either -/

/-- No forwarder asks a client twice. -/
theorem length_hops_forward_le (f : Forwarder) (start : Instant) (nonce : Nonce)
    (request : Addressed Message) : (f.forward start nonce request).hops.length ≤ 1 := by
  obtain ⟨m, addr⟩ := request
  cases f with
  | coap resolve client timeout =>
    by_cases h : ∃ target origin, m.ForCoap resolve target origin
    · obtain ⟨target, origin, h⟩ := h
      rw [forward_coap_of_usable h]
      exact Nat.le_refl 1
    · obtain ⟨cause, hrefused⟩ := forwardCoap_of_unusable (μ := StateM (List Hop)) h nonce
      rw [forward, hrefused]
      exact Nat.zero_le 1
  | http client timeout =>
    by_cases h : ∃ target, m.ForHttp target
    · obtain ⟨target, h⟩ := h
      rw [forward, forwardHttp_of_usable h]
      cases m.toHttp target with
      | error e => exact Nat.zero_le 1
      | ok request => exact Nat.le_refl 1
    · obtain ⟨cause, hrefused⟩ := forwardHttp_of_unusable (μ := StateM (List Hop)) h
      rw [forward, hrefused]
      exact Nat.zero_le 1
  | custom answer => exact Nat.zero_le 1

/-- **One second hop.** Without a usable target a forwarder refuses and does not ask its client, whatever
the client is; nor does it without a counterpart over HTTP. Else it asks the client once, for the
translated request, and what the client says to that settles how forwarding ends. So there is never more
than one request on a forwarder's notes. -/
theorem one_hop {μ : Type → Type} [Monad μ] (timeout : Duration) (start : Instant) (m : Message) :
    (∀ (resolve : Url → Option Address) (nonce : Nonce),
      ((¬ ∃ target origin, m.ForCoap resolve target origin) →
        ∃ cause, ∀ ask : Addressed Message → μ (Except String CoapArrival),
          forwardCoap resolve ask timeout start nonce m = pure (.refused (.badOption cause))) ∧
      ∀ target origin, m.ForCoap resolve target origin →
        ∃ ending : Except String CoapArrival → Forwarding,
          (∀ said, CoapEnding timeout start said (ending said).result) ∧
          ∀ ask : Addressed Message → μ (Except String CoapArrival),
            forwardCoap resolve ask timeout start nonce m = do
              let said ← ask ⟨m.toOrigin target nonce.id nonce.token, origin⟩
              return ending said) ∧
    ((¬ ∃ target, m.ForHttp target) →
      ∃ cause, ∀ ask : Http.Request → Duration → μ HttpArrival,
        forwardHttp ask timeout start m = pure (.refused (.badOption cause))) ∧
    (∀ target, m.ForHttp target →
      (∀ e, m.toHttp target = .error e → ∀ ask : Http.Request → Duration → μ HttpArrival,
        forwardHttp ask timeout start m = pure (.refused (.badGateway e.message))) ∧
      ∀ request, m.toHttp target = .ok request →
        ∃ ending : HttpArrival → Forwarding,
          (∀ said, HttpEnding start m.method (said.within timeout) (ending said).result) ∧
          ∀ ask : Http.Request → Duration → μ HttpArrival,
            forwardHttp ask timeout start m = do
              let said ← ask request timeout
              return ending said) ∧
    ∀ (f : Forwarder) (nonce : Nonce) (addr : Address),
      (f.forward start nonce ⟨m, addr⟩).hops.length ≤ 1 := by
  refine ⟨fun resolve nonce => ⟨fun h => forwardCoap_of_unusable h nonce, ?_⟩,
    forwardHttp_of_unusable, ?_, fun f nonce addr => length_hops_forward_le f start nonce ⟨m, addr⟩⟩
  · intro target origin h
    exact ⟨_, coapEnding_endCoap, fun ask => forwardCoap_of_usable h ask nonce⟩
  · intro target h
    constructor
    · intro e he ask
      rw [forwardHttp_of_usable h, he]
    · intro request hrequest
      refine ⟨_, httpEnding_endHttp m.method, fun ask => ?_⟩
      rw [forwardHttp_of_usable h, hrequest]

/-! ### A thing with a numeric address -/

/-- A request for a URL. -/
def proxied (code : Code) (url : String) : Message :=
  (Message.new .con code 7 .empty).set .proxyUri (Text.bytes url)

/-- The URL of a thing that is reached over CoAP. -/
def coapThing : Url :=
  ⟨"coap", some ⟨"", none, some (.name "1.2.3.4"), none⟩, .segments ["t"], none, none⟩

/-- The URL of a thing that is reached over HTTP. -/
def httpThing : Url :=
  ⟨"http", some ⟨"", none, some (.ip4 0x01020304), none⟩, .segments ["t"], none, none⟩

theorem ofText_coapThing : Url.ofText "coap://1.2.3.4/t" = .ok coapThing := by decide +kernel

theorem ofText_httpThing : Url.ofText "http://1.2.3.4/t" = .ok httpThing := by decide +kernel

theorem targets_proxied (code : Code) {url : String} {target : Url} (h : Url.ofText url = .ok target) :
    (proxied code url).Targets target := by
  have hgiven : (proxied code url).options.first? .proxyUri = some (Text.bytes url) := by
    simp only [proxied, Message.set, Options.first?, Options.valuesOf, Options.set,
      OrderedMap.get?_insert, if_true]
    rfl
  exact .whole hgiven (Text.ofBytes?_eq_some_iff.mpr rfl) h

/-- A client that counts how often it is asked, and never hears anything. -/
def deafCoap (_ : Addressed Message) : StateM Nat (Except String CoapArrival) := fun asked =>
  (.ok .silence, asked + 1)

/-- A client that counts how often it is asked, and never hears anything. -/
def deafHttp (_ : Http.Request) (_ : Duration) : StateM Nat HttpArrival := fun asked =>
  (.silence, asked + 1)

/-- Things are asked over their own protocol only, and with the methods that it has. If they keep silent,
the time is up, and they were asked once. -/
theorem one_hop_things :
    (∃ cause, (forwardCoap Url.address? deafCoap ⟨5⟩ 0 default
      (proxied .get "http://1.2.3.4/t")).run 0 = (.refused (.badOption cause), 0)) ∧
    (∃ late, (forwardCoap Url.address? deafCoap ⟨5⟩ 0 default
      (proxied .get "coap://1.2.3.4/t")).run 0 = (late, 1) ∧ late.result = .error .gatewayTimeout) ∧
    (∃ cause, (forwardHttp deafHttp ⟨5⟩ 0
      (proxied .get "coap://1.2.3.4/t")).run 0 = (.refused (.badOption cause), 0)) ∧
    ((forwardHttp deafHttp ⟨5⟩ 0 (proxied ⟨0, 9⟩ "http://1.2.3.4/t")).run 0 =
      (.refused (.badGateway "no HTTP equivalent of method 0.09"), 0)) ∧
    (∃ late, (forwardHttp deafHttp ⟨5⟩ 0
      (proxied .get "http://1.2.3.4/t")).run 0 = (late, 1) ∧ late.result = .error .gatewayTimeout) := by
  have hcoap := one_hop (μ := StateM Nat) ⟨5⟩ 0 (proxied .get "coap://1.2.3.4/t")
  have hhttp := one_hop (μ := StateM Nat) ⟨5⟩ 0 (proxied .get "http://1.2.3.4/t")
  -- HTTP does not have this method
  have hunknown := one_hop (μ := StateM Nat) ⟨5⟩ 0 (proxied ⟨0, 9⟩ "http://1.2.3.4/t")
  refine ⟨?_, ?_, ?_, ?_, ?_⟩
  · have hnone : ¬ ∃ target origin,
        (proxied .get "http://1.2.3.4/t").ForCoap Url.address? target origin := by
      intro ⟨target, origin, h⟩
      have hscheme := h.scheme
      rw [h.targets.unique (targets_proxied .get ofText_httpThing)] at hscheme
      exact absurd hscheme (by decide)
    obtain ⟨cause, hrefused⟩ := (hhttp.1 Url.address? default).1 hnone
    exact ⟨cause, by rw [hrefused]; rfl⟩
  · have hfor : (proxied .get "coap://1.2.3.4/t").ForCoap Url.address? coapThing
        ⟨.v4 0x01020304, 5683⟩ :=
      ⟨targets_proxied .get ofText_coapThing, rfl, by decide⟩
    obtain ⟨ending, hends, hasked⟩ := (hcoap.1 Url.address? default).2 _ _ hfor
    refine ⟨ending (.ok .silence), by rw [hasked]; rfl, ?_⟩
    exact (hends (.ok .silence)).gatewayTimeout.mpr ⟨.silence, rfl, rfl⟩
  · have hnone : ¬ ∃ target, (proxied .get "coap://1.2.3.4/t").ForHttp target := by
      intro ⟨target, h⟩
      have hscheme := h.scheme
      rw [h.targets.unique (targets_proxied .get ofText_coapThing)] at hscheme
      exact absurd hscheme (by decide)
    obtain ⟨cause, hrefused⟩ := hcoap.2.1 hnone
    exact ⟨cause, by rw [hrefused]; rfl⟩
  · have hfor : (proxied ⟨0, 9⟩ "http://1.2.3.4/t").ForHttp httpThing :=
      ⟨targets_proxied ⟨0, 9⟩ ofText_httpThing, .inl rfl⟩
    have hrefused := (hunknown.2.2.1 httpThing hfor).1 (.unsupportedMethod ⟨0, 9⟩) (by decide) deafHttp
    rw [hrefused]
    rfl
  · have hrequest : (proxied .get "http://1.2.3.4/t").toHttp httpThing =
        .ok ⟨"GET", ⟨some "http", "1.2.3.4", "/t", none⟩, [], []⟩ := by
      decide
    obtain ⟨ending, hends, hasked⟩ :=
      (hhttp.2.2.1 httpThing ⟨targets_proxied .get ofText_httpThing, .inl rfl⟩).2 _ hrequest
    exact ⟨ending .silence, by rw [hasked]; rfl, (hends .silence).gatewayTimeout.mpr (.inl rfl)⟩

end Forwarder

end Coap
