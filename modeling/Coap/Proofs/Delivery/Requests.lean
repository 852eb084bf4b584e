import Coap.Proofs.Dedup.Retained
import Coap.Proofs.Handling.Dispatch
import Coap.Server.Deliver

/-!
# Requests that arrive

What delivering one message does to a server. A request under a new key is dispatched, and its
exchange is retained; one under a key whose exchange is retained gets what that exchange holds; any
other message leaves no trace.

* `Server.FirstDelivery`, `Server.deliver_of_new` — a request under a new key.
* `Server.deliver_duplicate` — a request under the key of one that was answered.
* `Server.deliver_frame` — whatever arrives under one key leaves the others alone.
-/

namespace Coap

variable {ν : Type}

/-! ### The journal -/

/-- The requests with a given key that were dispatched, oldest first. -/
def Site.dispatches (s : Site ν) (key : Key) : List (Addressed Message) :=
  (s.events.filterMap Event.request?).filter fun m => Key.ofId m = key

theorem Site.Continues.dispatches_eq {s s' : Site ν} (h : s.Continues s') (key : Key) :
    s'.dispatches key = s.dispatches key := by
  obtain ⟨-, more, hevents, hmore⟩ := h
  rw [dispatches, hevents, List.filterMap_append, List.filterMap_eq_nil_iff.mpr hmore,
    List.append_nil]
  rfl

theorem Site.dispatches_record (s : Site ν) (m : Addressed Message) (target : Option ResourceId)
    (key : Key) : (s.record (.dispatched m target)).dispatches key =
      s.dispatches key ++ if Key.ofId m = key then [m] else [] := by
  simp only [dispatches, record, List.filterMap_append, List.filter_append]
  by_cases h : Key.ofId m = key <;> simp [Event.request?, h]

/-! ### Kinds of messages -/

/-- What is neither an acknowledgement nor a reset is a request if its code is one. -/
theorem Message.isRequest_of_kind {m : Message} (hkind : m.code.kind = .request)
    (hack : m.type ≠ .ack) (hrst : m.type ≠ .rst) : m.isRequest = true := by
  have hreply : m.type.isReply = false := by
    cases htype : m.type with
    | con => rfl
    | non => rfl
    | ack => exact absurd htype hack
    | rst => exact absurd htype hrst
  rw [isRequest, hreply, hkind]
  rfl

namespace Server

variable (s : Server ν) (m : Addressed Message) (session : Option Session)

/-- A confirmable or non-confirmable message with the code of a request is handled. -/
theorem deliver_of_isRequest (h : m.data.isRequest = true) :
    s.deliver m session = s.handleRequest m session := by
  obtain ⟨htype, hkind⟩ := Bool.and_eq_true_iff.mp h
  have hkind : m.data.code.kind = .request := by simpa using hkind
  unfold deliver
  cases ht : m.data.type with
  | con => simp only [hkind]
  | non => simp only [hkind]
  | ack => simp [ht, MessageType.isReply] at htype
  | rst => simp [ht, MessageType.isReply] at htype

/-- No other message leaves a trace. -/
theorem deliver_of_not_isRequest (h : m.data.isRequest = false) :
    (s.deliver m session).1 = s := by
  unfold deliver
  split
  · rfl
  · rfl
  · rfl
  · next hkind hack hrst =>
    rw [Message.isRequest_of_kind hkind hack hrst] at h
    cases h
  · rfl
  · rfl

/-- Such a message is answered with its reset, if at all. -/
theorem eq_reset_of_not_isRequest {r : Addressed Response} (h : m.data.isRequest = false)
    (hr : (s.deliver m session).2 = some r) : r = reset m session := by
  unfold deliver at hr
  split at hr
  · cases hr
  · cases hr
  · exact (Option.some.inj hr).symm
  · next hkind hack hrst =>
    rw [Message.isRequest_of_kind hkind hack hrst] at h
    cases h
  · exact (Option.some.inj hr).symm
  · cases hr

/-! ### New keys -/

/-- The handling of a request before it is dispatched. -/
def handling : Handling ν :=
  .start s.site (Exchange.new m session s.site.now) s.redelivery

/-- Does the handler of a request that is dispatched now announce a separate response before it
answers? -/
def announces : Bool := (s.handling m session).announces

/-- What becomes of a server to which a request is delivered under a new key. -/
structure FirstDelivery (s' : Server ν) (reply : Option (Addressed Response)) (e : Exchange)
    (final : Addressed Response) : Prop where
  /-- The exchange is retained. -/
  retained : s'.dedup.current? (.ofId m) = some e
  /-- It is the exchange of the request. -/
  request : e.request = m
  inSession : e.session = session
  complete : e.isComplete = true
  /-- It holds what its handler announced and answered. -/
  responses : e.responses = e.announcement (s.announces m session) ++ [final]
  /-- The final message is the reply. -/
  reply : reply = some final
  latest? : e.latest? = some final
  /-- The request was dispatched once. -/
  dispatched : ∃ target, (s.site.record (.dispatched m target)).Continues s'.site

/-- What the deduplicator knows of a request, and what it retains from then on. -/
def offered : Deduplicator Exchange × Option Exchange :=
  s.dedup.offer (.ofId m) (Exchange.new m session s.site.now) s.site.now

/-- A request repeats one whose exchange is retained, or is dispatched. -/
theorem handleRequest_eq :
    s.handleRequest m session =
      match s.offered m session with
      | (dedup, some retained) => { s with dedup }.replay retained
      | (dedup, none) =>
        let after := (s.handling m session).dispatch
        ({ s with site := after.site, dedup := dedup.amend (.ofId m) fun _ => after.exchange },
          after.exchange.latest?) := rfl

theorem sound_handling : (s.handling m session).Sound false :=
  ⟨Exchange.lifecycle_new m session s.site.now, Exchange.inTime_new m session s.site.now⟩

/-- A request under a new key is dispatched, and its exchange is retained. -/
theorem handleRequest_of_find?_eq_none (h : s.dedup.find? (.ofId m) = none) :
    let after := (s.handling m session).dispatch
    ∃ dedup, s.handleRequest m session =
        ({ s with site := after.site, dedup }, after.exchange.latest?) ∧
      dedup.current? (.ofId m) = some after.exchange := by
  obtain ⟨dedup, hoffer, hcurrent⟩ := Deduplicator.offer_of_find?_eq_none h
    (Exchange.new m session s.site.now) s.site.now
  rw [handleRequest_eq, show s.offered m session = (dedup, none) from hoffer]
  refine ⟨_, rfl, ?_⟩
  rw [Deduplicator.current?_amend, if_pos rfl, hcurrent]
  rfl

/-- **First delivery.** A request under a new key is dispatched once, its exchange is retained as the
dispatch leaves it, and what its handler deposited last is the reply. -/
theorem deliver_of_new (hnew : s.dedup.find? (.ofId m) = none) (hrequest : m.data.isRequest = true) :
    let after := (s.handling m session).dispatch
    (s.deliver m session).1.site = after.site ∧
      ∃ final, s.FirstDelivery m session (s.deliver m session).1 (s.deliver m session).2
        after.exchange final := by
  intro after
  obtain ⟨dedup, heq, hcurrent⟩ := s.handleRequest_of_find?_eq_none m session hnew
  obtain ⟨sound, hcomplete, hsame, hsession, hcontinues⟩ := (s.sound_handling m session).dispatch
  obtain ⟨final, hresponses⟩ := sound.life.exists_final hcomplete
  have hlatest : after.exchange.latest? = some final := by
    rw [Exchange.latest?_eq sound.inTime, hresponses, List.getLast?_concat]
  rw [s.deliver_of_isRequest m session hrequest, heq]
  exact ⟨rfl, final, hcurrent, hsame, hsession, hcomplete, hresponses, hlatest, hlatest, _,
    hcontinues⟩

variable {s m session} in
/-- What was deposited last is the final message. -/
theorem FirstDelivery.eq_final {s' : Server ν} {reply : Option (Addressed Response)} {e : Exchange}
    {final : Addressed Response} (first : s.FirstDelivery m session s' reply e final)
    {before : List (Addressed Response)} {last : Addressed Response}
    (h : e.responses = before ++ [last]) : last = final := by
  have hlast := congrArg List.getLast? (h.symm.trans first.responses)
  rw [List.getLast?_concat, List.getLast?_concat] at hlast
  exact Option.some.inj hlast

/-! ### Known keys -/

/-- **Duplicates.** A request under the key of one that was answered changes nothing, and gets what
the first one got first. -/
theorem deliver_duplicate {e : Exchange} {first : Addressed Response}
    (hrequest : m.data.isRequest = true) (hcurrent : s.dedup.current? (.ofId m) = some e)
    (hfirst : e.first? = some first) : s.deliver m session = (s, some first) := by
  rw [s.deliver_of_isRequest m session hrequest, handleRequest_eq,
    show s.offered m session = (s.dedup, some e) from Deduplicator.offer_of_current? hcurrent _ _]
  simp only [replay, Site.replay, hfirst]

/-! ### Other keys -/

/-- A server says of a key what another one says: what is retained for it, and which requests were
dispatched under it. -/
structure Agrees (s s' : Server ν) (key : Key) : Prop where
  find? : s'.dedup.find? key = s.dedup.find? key
  current? : s'.dedup.current? key = s.dedup.current? key
  dispatches : s'.site.dispatches key = s.site.dispatches key

variable {m}

/-- Whatever arrives under one key leaves the others alone. -/
theorem deliver_frame {key : Key} (hkey : key ≠ .ofId m) :
    s.Agrees (s.deliver m session).1 key := by
  cases hrequest : m.data.isRequest with
  | false =>
    rw [s.deliver_of_not_isRequest m session hrequest]
    exact ⟨rfl, rfl, rfl⟩
  | true =>
    have hfind : (s.offered m session).1.find? key = s.dedup.find? key :=
      Deduplicator.find?_offer_of_ne hkey _ _
    have hcurrent : (s.offered m session).1.current? key = s.dedup.current? key :=
      Deduplicator.current?_offer_of_ne hkey _ _
    rw [s.deliver_of_isRequest m session hrequest, handleRequest_eq]
    generalize s.offered m session = offered at hfind hcurrent
    obtain ⟨dedup, known⟩ := offered
    cases known with
    | some retained =>
      simp only [replay]
      have hreplay := s.site.continues_replay retained s.config.duplicateWait
      exact ⟨hfind, hcurrent, hreplay.dispatches_eq key⟩
    | none =>
      have hdispatch : (s.site.record (.dispatched m (s.handling m session).target?)).Continues
          (s.handling m session).dispatch.site := (s.sound_handling m session).dispatch.continues
      refine ⟨?_, ?_, ?_⟩
      · exact (Deduplicator.find?_amend_of_ne hkey _).trans hfind
      · refine (Deduplicator.current?_amend dedup (.ofId m) key _).trans ?_
        rw [if_neg hkey, hcurrent]
      · show (s.handling m session).dispatch.site.dispatches key = _
        rw [hdispatch.dispatches_eq, Site.dispatches_record, if_neg (Ne.symm hkey),
          List.append_nil]

end Server

end Coap
