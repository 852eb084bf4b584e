import Coap.Proofs.Delivery.Replies
import Coap.Proofs.Forward.Handler

/-!
# Requests that are forwarded

What a server makes of a new request to a resource that forwards: what it sends before the request is
forwarded, what the origin is asked, and what the client gets.

* `Server.deliver_forwarding` — what is retained for the request.
* `Server.forwarding_answered` — one final message answers it, whatever the forwarder returns.
* `Server.two_hops` — over CoAP: what the origin is asked, and what the client gets of its answer.
-/

namespace Coap

variable {ν : Type}

theorem Options.erase_erase (options : Options) (n : OptionNumber) :
    OrderedMap.erase (options.erase n) n = options.erase n := by
  apply OrderedMap.ext_get?
  intro n'
  by_cases hn : n' = n <;> simp [OrderedMap.get?_erase, hn]

/-- The resource that is assigned to a request is the one at its path. -/
theorem Handling.target?_of_assigned? {h : Handling ν} {id : ResourceId} {resource : Resource ν}
    (hassigned : h.assigned? = some (id, resource)) : h.target? = some id := by
  obtain ⟨target, htarget, hhandler⟩ := Option.bind_eq_some_iff.mp hassigned
  obtain ⟨resource, -, heq⟩ := Option.map_eq_some_iff.mp hhandler
  cases heq
  exact htarget

namespace Server

open Resource

variable (s : Server ν) (m : Addressed Message) (session : Option Session)

/-- The acknowledgement that a request gets before it is forwarded, if it is confirmable. -/
def acknowledgements : List (Addressed Response) :=
  if m.data.type = .con then [emptyAck m session] else []

section

variable {id : ResourceId} {name : String} {attributes : Attributes} {f : Forwarder}

theorem interim?_entered :
    ((s.handling m session).entered id).exchange.interim?.toList = acknowledgements m session := by
  rw [Exchange.interim?_eq, acknowledgements]
  show (if m.data.type = .con then some (emptyAck m session) else none).toList = _
  split <;> rfl

/-- What a handler finds when it has accepted a request: the request was dispatched, and then its
acknowledgement was sent. -/
theorem events_accept_entered {resource : Resource ν}
    (hassigned : (s.handling m session).assigned? = some (id, resource)) :
    ((s.handling m session).entered id).accept.site.events =
      s.site.events ++ .dispatched m (some id) ::
        (acknowledgements m session).map fun ack => .sent (ack.map (·.message)) := by
  rw [Handling.accept_of_received _ rfl, ← s.interim?_entered m session,
    ← Handling.target?_of_assigned? hassigned]
  exact List.append_assoc _ [_] _

/-- A new request to a resource that forwards is retained with its announcement and with the answer for
how forwarding it went. -/
theorem deliver_forwarding (hnew : s.dedup.find? (.ofId m) = none)
    (hrequest : m.data.isRequest = true)
    (hassigned : (s.handling m session).assigned? = some (id, .forwarding name attributes f)) :
    let h := (s.handling m session).entered id
    let final := (h.relaying id name f).answer (relayed (h.forwarding id f).result)
    (s.deliver m session).1.site.events = (h.relaying id name f).site.events ∧
    ∃ e, s.FirstDelivery m session (s.deliver m session).1 (s.deliver m session).2 e final ∧
      e.state = .responded ∧ e.responses = acknowledgements m session ++ [final] := by
  intro h final
  have hdispatch : (s.handling m session).dispatch =
      ((h.relaying id name f).respondWith (relayed (h.forwarding id f).result)).1 :=
    Handling.dispatch_forwarding rfl hassigned
  have hopen : (h.relaying id name f).exchange.isComplete = false :=
    Handling.isComplete_relaying id name f rfl
  have hannounced : (h.relaying id name f).exchange.responses = acknowledgements m session := by
    rw [Handling.responses_relaying id name f rfl, s.interim?_entered m session]
    rfl
  obtain ⟨marker, heq⟩ := (h.relaying id name f).respondWith_of_open (kind_relayed _) hopen
  obtain ⟨hresponses, hstate⟩ :=
    (h.relaying id name f).respondWith_exchange_of_open (kind_relayed _) hopen
  rw [← hdispatch] at hresponses hstate
  obtain ⟨hsite, given, first⟩ := s.deliver_of_new m session hnew hrequest
  obtain rfl : final = given := first.eq_final hresponses
  refine ⟨?_, _, first, hstate, ?_⟩
  · rw [hsite, hdispatch, heq]
  · rw [hresponses, hannounced]

/-- **Forwarded requests.** A new request to a resource that forwards gets exactly one final message,
whatever the forwarder returns: the response it returns, if that has the code of a response, or else
5.02, or the error it returns with its text. If the request is confirmable, its acknowledgement is sent
before it is forwarded, and the final message is a separate confirmable response. -/
theorem forwarding_answered (hnew : s.dedup.find? (.ofId m) = none)
    (hrequest : m.data.isRequest = true)
    (hassigned : (s.handling m session).assigned? = some (id, .forwarding name attributes f)) :
    let accepted := ((s.handling m session).entered id).accept
    let forwarding := f.forward accepted.site.now (accepted.site.nonces 0) (accepted.onward id)
    let given := relayed forwarding.result
    let after := s.deliver m session
    accepted.site.events =
      s.site.events ++ .dispatched m (some id) ::
        (acknowledgements m session).map (fun ack => .sent (ack.map (·.message))) ∧
    ∃ e final, s.FirstDelivery m session after.1 after.2 e final ∧
      e.state = .responded ∧ e.responses = acknowledgements m session ++ [final] ∧
      IsAnswer m session true final ∧
      final.data.message.code = given.message.code ∧
      final.data.message.payload = given.message.payload ∧
      (∀ n, n ≠ .observe →
        final.data.message.options.get? n = given.message.options.get? n) ∧
      after.1.site.events =
        accepted.site.events ++ forwarding.hops.map .hop ++
          relayReports name forwarding.result := by
  intro accepted forwarding given after
  let h := (s.handling m session).entered id
  obtain ⟨hevents, e, first, hstate, hresponses⟩ :=
    s.deliver_forwarding m session hnew hrequest hassigned
  refine ⟨s.events_accept_entered m session hassigned, e, (h.relaying id name f).answer given, first,
    hstate, hresponses, ?_, Handling.code_answer _ _, Handling.payload_answer _ _, ?_, ?_⟩
  · exact Handling.isAnswer_relaying (h := h) id name f rfl (kind_relayed forwarding.result)
  · intro n hn
    exact Handling.get?_relaying (h := h) id name f rfl rfl given hn
  · exact hevents.trans (h.events_relaying id name f)

/-- **Two hops.** A new request for a URL that is reached over CoAP, to a resource that forwards, becomes
one confirmable request to the origin. It has the code and the payload of the client's request and its
options, except Proxy-Uri, Proxy-Scheme, Uri-Host, Uri-Port, Uri-Path and Uri-Query, in place of which it
has the path and the query of the URL, and its host if that is no address. A response that comes in time
is passed on in the role and with the token that fit the client's request, with the code, the payload and
the options that the origin gave it, except Observe. -/
theorem two_hops {resolve : Url → Option Address} {client : CoapClient} {timeout : Duration}
    {value : Bytes} {text : String} {target : Url} {origin : Address} (hnew : s.dedup.find? (.ofId m) = none)
    (hrequest : m.data.isRequest = true)
    (hassigned : (s.handling m session).assigned? =
      some (id, .forwarding name attributes (.coap resolve client timeout)))
    (hobservable : s.site.tree.isObservable id = false)
    (hgiven : m.data.options.first? .proxyUri = some value)
    (hutf8 : Text.ofBytes? value = some text) (hurl : Url.ofText text = .ok target)
    (hscheme : target.scheme = "coap") (horigin : resolve target = some origin) :
    ∃ sent : Message,
      (sent.type = .con ∧ sent.code = m.data.code ∧ sent.payload = m.data.payload ∧
        sent.id = (s.site.nonces 0).id ∧ sent.token = (s.site.nonces 0).token) ∧
      (∀ n, sent.options.get? n =
        if n ∈ [.proxyUri, .proxyScheme, .uriHost, .uriPort, .uriPath, .uriQuery] then
          target.contribution? n
        else m.data.options.get? n) ∧
      (target.address?.isSome → sent.options.get? .uriHost = none) ∧
      ∀ after r, client ⟨sent, origin⟩ = .ok (.response after r) → after.nanos ≤ timeout.nanos →
        r.message.code.kind = .response →
        ∃ e final, s.FirstDelivery m session (s.deliver m session).1 (s.deliver m session).2 e final ∧
          e.state = .responded ∧ e.responses = acknowledgements m session ++ [final] ∧
          final.addr = m.addr ∧
          final.data.message =
            { Message.new (if m.data.type = .con then .con else .non) r.message.code 0
                m.data.token with
              options := r.message.options.erase .observe
              payload := r.message.payload } ∧
          (s.deliver m session).1.site.events =
            s.site.events ++ .dispatched m (some id) ::
              (acknowledgements m session).map (fun ack => .sent (ack.map (·.message))) ++
              [.hop (.coap ⟨sent, origin⟩ true)] := by
  let h := (s.handling m session).entered id
  let nonce := s.site.nonces 0
  let sent := m.data.toOrigin target nonce.id nonce.token
  obtain ⟨options, hsent⟩ := m.data.toOrigin_eq target nonce.id nonce.token
  have hlookup := m.data.get?_toOrigin target nonce.id nonce.token
  refine ⟨sent, ?_, hlookup, ?_, ?_⟩
  · rw [show sent = _ from hsent]
    exact ⟨rfl, rfl, rfl, rfl, rfl⟩
  · intro haddress
    obtain ⟨literal, hliteral⟩ := Option.isSome_iff_exists.mp haddress
    rw [show sent.options.get? .uriHost = _ from hlookup .uriHost, if_pos (by decide),
      target.contribution?_uriHost, Url.hostOption?_of_address? hliteral]
    rfl
  · intro after r hsaid hin hcode
    let passed : Response := .ofMessage
      { Message.new .ack r.message.code 0 .empty with
        options := r.message.options.erase .observe
        payload := r.message.payload }
    have hpassed : r.fromOrigin = .ok passed := if_pos hcode
    obtain ⟨completed, hforwarding⟩ := Handling.forwarding_of_response (h := h) id rfl hgiven hutf8
      hurl hscheme horigin hsaid hin hpassed
    obtain ⟨hevents, e, first, hstate, hresponses⟩ :=
      s.deliver_forwarding m session hnew hrequest hassigned
    have hanswer : relayed (h.forwarding id (.coap resolve client timeout)).result =
        { passed with completed } := by
      rw [hforwarding]
      exact relayed_of_response hcode
    refine ⟨e, _, first, hstate, hresponses, ?_, ?_, ?_⟩
    · exact (Handling.isAnswer_relaying (h := h) id name _ rfl (kind_relayed _)).addr
    · have hmessage := Handling.message_relaying (h := h) id name (.coap resolve client timeout) rfl
        rfl rfl hobservable { passed with completed }
      rw [show passed.message.options.erase .observe = r.message.options.erase .observe from
        Options.erase_erase r.message.options .observe] at hmessage
      rw [hanswer]
      exact hmessage
    · have hreports :
          relayReports (ν := ν) name (h.forwarding id (.coap resolve client timeout)).result =
            [] := by
        rw [hforwarding]
        exact relayReports_of_response name hcode
      rw [hevents, h.events_relaying, s.events_accept_entered m session hassigned, hreports,
        hforwarding, List.append_nil]
      rfl

end

/-! ### A gateway -/

/-- A server whose root forwards. -/
def gateway (f : Forwarder) : Server Unit :=
  { patient with site := { patient.site with tree := .rooted (.forwarding "proxy" .none f) } }

/-- A request for a thing. -/
def thingRequest : Addressed Message := ⟨Forwarder.proxied .get "coap://1.2.3.4/t", ⟨.v4 0, 5683⟩⟩

theorem assigned?_thingRequest (f : Forwarder) :
    ((gateway f).handling thingRequest none).assigned? = some (⟨0, 0⟩, .forwarding "proxy" .none f) := by
  have hpath : thingRequest.data.path? = some [] := by decide
  exact (gateway f).assigned?_handling thingRequest none hpath rfl rfl

/-- What a thing that is observed says. -/
def reading : Response :=
  .ofMessage (({ Message.new .ack .content 9 .empty with payload := [42] }.setObserve 3).set .etag [1])

/-- A gateway that cannot make sense of an answer says so. -/
theorem forwarding_answered_gateway :
    ∃ final, ((gateway (.custom fun _ => .ok (.ofCode .get []))).deliver thingRequest none).2 =
        some final ∧
      IsAnswer thingRequest none true final ∧ final.data.message.code = .badGateway := by
  obtain ⟨-, e, final, first, -, -, hanswer, hcode, -⟩ :=
    forwarding_answered (gateway (.custom fun _ => .ok (.ofCode .get []))) thingRequest none rfl rfl
      (assigned?_thingRequest _)
  exact ⟨final, first.reply, hanswer, hcode⟩

/-- A forwarder to things that all say the same. -/
def toThings : Forwarder := .coap Url.address? (fun _ => .ok (.response ⟨1⟩ reading)) ⟨5⟩

/-- The reading of a thing is passed on, without the number of its observation. -/
theorem two_hops_gateway :
    ∃ final, ((gateway toThings).deliver thingRequest none).2 = some final ∧
      final.data.message =
        { Message.new .con .content 0 .empty with
          options := OrderedMap.empty.insert .etag [[1]], payload := [42] } := by
  have hgiven : thingRequest.data.options.first? .proxyUri =
      some (Text.bytes "coap://1.2.3.4/t") := by
    decide
  have hutf8 : Text.ofBytes? (Text.bytes "coap://1.2.3.4/t") = some "coap://1.2.3.4/t" :=
    Text.ofBytes?_eq_some_iff.mpr rfl
  have horigin : Forwarder.coapThing.address? = some ⟨.v4 0x01020304, 5683⟩ := by decide
  obtain ⟨sent, -, -, -, hpassed⟩ :=
    two_hops (gateway toThings) thingRequest none rfl rfl (assigned?_thingRequest toThings) rfl hgiven
      hutf8 Forwarder.ofText_coapThing rfl horigin
  obtain ⟨e, final, first, -, -, -, hmessage, -⟩ := hpassed ⟨1⟩ reading rfl (by decide) rfl
  refine ⟨final, first.reply, hmessage.trans ?_⟩
  decide

end Server

end Coap
