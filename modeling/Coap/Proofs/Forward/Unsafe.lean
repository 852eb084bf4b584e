import Coap.Proofs.Forward.Hop
import Coap.Proofs.Forward.Origin

/-!
# Options that are unsafe to forward

A proxy has to leave out an option that is unsafe to forward and that it does not know. This one goes
by what it knows instead: it leaves out certain options that have a name here, and passes on every other
one as it came, to the origin as well as back to the client.

* `OptionNumber.named`, `OptionNumber.Foreign` — the options with a name, and those without one that are
  unsafe to forward.
* `Message.Forwardable` — a message without any of the latter.
* `foreign_passed_on` — what a proxy sends has exactly those of them that it was given;
  `foreign_not_left_out` is about one in each direction.
* `Forwarder.forwardable_forward` — so it is for every request that is sent on and every response
  that is brought back.
-/

namespace Coap

/-! ### Numbers -/

namespace OptionNumber

/-- The options that have a name. -/
def named : List OptionNumber :=
  [ifMatch, uriHost, etag, ifNoneMatch, observe, uriPort, locationPath, uriPath, contentFormat, maxAge,
    uriQuery, accept, locationQuery, proxyUri, proxyScheme, size1]

/-- An option without a name that is unsafe to forward. -/
def Foreign (n : OptionNumber) : Prop := n.isUnsafe = true ∧ n ∉ named

instance (n : OptionNumber) : Decidable n.Foreign := inferInstanceAs (Decidable (_ ∧ _))

/-- The options about the first hop have names. -/
theorem hopByHop_subset_named : hopByHop ⊆ named := by decide

theorem Foreign.not_mem_hopByHop {n : OptionNumber} (hn : n.Foreign) : n ∉ hopByHop :=
  fun h => hn.2 (hopByHop_subset_named h)

theorem Foreign.ne_observe {n : OptionNumber} (hn : n.Foreign) : n ≠ .observe := by
  rintro rfl
  exact hn.2 (by decide)

end OptionNumber

/-! ### Messages -/

namespace Message

/-- A message without an option that a proxy would have to leave out. -/
def Forwardable (m : Message) : Prop := ∀ n : OptionNumber, n.Foreign → m.has n = false

theorem forwardable_congr {m m' : Message}
    (h : ∀ n : OptionNumber, n.Foreign → m'.options.get? n = m.options.get? n) :
    m'.Forwardable ↔ m.Forwardable := by
  refine forall₂_congr fun n hn => ?_
  rw [has, has, OrderedMap.contains, OrderedMap.contains, h n hn]

theorem get?_toOrigin_of_foreign (m : Message) (target : Url) (id : UInt16) (token : Token)
    {n : OptionNumber} (hn : n.Foreign) :
    (m.toOrigin target id token).options.get? n = m.options.get? n := by
  rw [get?_toOrigin]
  exact if_neg hn.not_mem_hopByHop

end Message

namespace Response

/-- A response that is passed on has the options of the origin's, except Observe. -/
theorem get?_fromOrigin {r passed : Response} (h : r.fromOrigin = .ok passed) (n : OptionNumber) :
    passed.message.options.get? n = if n = .observe then none else r.message.options.get? n := by
  simp only [fromOrigin] at h
  split at h
  · cases h
    exact OrderedMap.get?_erase _ _ _
  · cases h

theorem get?_fromOrigin_of_foreign {r passed : Response} (h : r.fromOrigin = .ok passed)
    {n : OptionNumber} (hn : n.Foreign) :
    passed.message.options.get? n = r.message.options.get? n := by
  rw [get?_fromOrigin h, if_neg hn.ne_observe]

end Response

/-! ### Both directions -/

/-- **Unsafe options.** A proxy passes on every option without a name that is unsafe to forward: the
request to an origin has those of the client's request with the same values, and the response to the
client has those of the origin's. Neither has any of them exactly if none came. -/
theorem foreign_passed_on (m : Message) (target : Url) (id : UInt16) (token : Token) (r : Response) :
    (∀ n : OptionNumber, n.Foreign →
      (m.toOrigin target id token).options.get? n = m.options.get? n) ∧
    ((m.toOrigin target id token).Forwardable ↔ m.Forwardable) ∧
    ∀ passed, r.fromOrigin = .ok passed →
      (∀ n : OptionNumber, n.Foreign → passed.message.options.get? n = r.message.options.get? n) ∧
      (passed.message.Forwardable ↔ r.message.Forwardable) := by
  have hsent (n : OptionNumber) (hn : n.Foreign) := m.get?_toOrigin_of_foreign target id token hn
  refine ⟨hsent, Message.forwardable_congr hsent, fun passed hpassed => ?_⟩
  have hback (n : OptionNumber) (hn : n.Foreign) := Response.get?_fromOrigin_of_foreign hpassed hn
  exact ⟨hback, Message.forwardable_congr hback⟩

/-- A request for a URL with the option 27, whose value is 8. -/
def blockwise : Message := (Forwarder.proxied .get "coap://1.2.3.4/t").set ⟨27⟩ [8]

/-- A response with the option 23, whose value is 14. -/
def blockwiseReply : Response := .ofMessage ((Message.new .ack .content 9 .empty).set ⟨23⟩ [14])

/-- Neither option is left out. -/
theorem foreign_passed_on_blockwise :
    (blockwise.toOrigin Forwarder.coapThing 9 .empty).options.first? ⟨27⟩ = some [8] ∧
      ∃ passed, blockwiseReply.fromOrigin = .ok passed ∧
        passed.message.options.first? ⟨23⟩ = some [14] := by
  obtain ⟨hsent, -, hback⟩ := foreign_passed_on blockwise Forwarder.coapThing 9 .empty blockwiseReply
  refine ⟨?_, _, rfl, ?_⟩
  · rw [Options.first?, Options.valuesOf, hsent ⟨27⟩ (by decide)]
    decide
  · rw [Options.first?, Options.valuesOf, (hback _ rfl).1 ⟨23⟩ (by decide)]
    decide

/-- An option without a name that is unsafe to forward is left out in neither direction. -/
theorem foreign_not_left_out :
    (¬ ∀ (m : Message) (target : Url) (id : UInt16) (token : Token) (n : OptionNumber),
      n.Foreign → (m.toOrigin target id token).has n = false) ∧
    ¬ ∀ (r passed : Response) (n : OptionNumber),
      r.fromOrigin = .ok passed → n.Foreign → passed.message.has n = false := by
  constructor
  · intro h
    exact absurd (h blockwise Forwarder.coapThing 9 .empty ⟨27⟩ (by decide)) (by decide)
  · intro h
    exact absurd (h blockwiseReply _ ⟨23⟩ rfl (by decide)) (by decide)

/-! ### Forwarders -/

namespace Forwarder

variable {m : Message} {resolve : Url → Option Address} {target : Url} {origin : Address}

/-- The request that is sent on for a client has an option without a name that is unsafe to forward
exactly if the client's request has one, and the response that is brought back exactly if the origin's
has one. -/
theorem forwardable_forward (h : m.ForCoap resolve target origin) (client : CoapClient)
    (timeout : Duration) (start : Instant) (nonce : Nonce) (addr : Address) :
    let forwarded := (coap resolve client timeout).forward start nonce ⟨m, addr⟩
    ∃ sent : Message,
      (∃ inTime, forwarded.hops = [.coap ⟨sent, origin⟩ inTime]) ∧
      (sent.Forwardable ↔ m.Forwardable) ∧
      ∀ response, forwarded.result = .ok response → ∃ arrival after r,
        client ⟨sent, origin⟩ = .ok arrival ∧ arrival.within timeout = .arrived after r ∧
          (response.message.Forwardable ↔ r.message.Forwardable) := by
  intro forwarded
  have heq : forwarded = _ := forward_coap_of_usable h client nonce addr
  rw [heq]
  refine ⟨m.toOrigin target nonce.id nonce.token, ⟨_, rfl⟩,
    Message.forwardable_congr fun n hn => m.get?_toOrigin_of_foreign _ _ _ hn, fun response hok => ?_⟩
  obtain ⟨arrival, after, r, relayed, hsaid, hwithin, hrelayed, rfl⟩ :=
    ((coapEnding_endCoap _).ok response).mp hok
  exact ⟨arrival, after, r, hsaid, hwithin,
    Message.forwardable_congr fun n hn => Response.get?_fromOrigin_of_foreign hrelayed hn⟩

end Forwarder

end Coap
