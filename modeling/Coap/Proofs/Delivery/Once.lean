import Coap.Proofs.Delivery.Requests

/-!
# Histories of deliveries

As long as the deduplicator drops nothing, a request is dispatched once, however often it arrives, in
whatever form and whatever happens in between.

* `Server.Input`, `Server.step`, `Server.run` — messages that arrive, and changes between them.
* `Server.dispatches_run` — what is dispatched under a key is the first request that arrives under it.
* `Server.answered_run` — once a key was answered, it remains so.
* `Server.dispatched_once` — both, and what duplicates get.
-/

namespace Coap

variable {ν : Type}

namespace Server

/-- What happens to a server, apart from its deduplicator. -/
inductive Input (ν : Type) where
  /-- A message arrives. -/
  | deliver (m : Addressed Message) (session : Option Session)
  /-- Between two messages time passes, and resources, relations and random draws become others. -/
  | meanwhile (tree : Tree (Resource ν)) (observers : Observers) (nonces : Nat → Nonce)
      (elapsed : Duration)

/-- The request that arrives, if one does. -/
def Input.request? : Input ν → Option (Addressed Message)
  | .deliver m _ => if m.data.isRequest then some m else none
  | .meanwhile .. => none

/-- The requests among what happens, in the order in which they arrive. -/
def requests (inputs : List (Input ν)) : List (Addressed Message) :=
  inputs.filterMap Input.request?

/-- The server after something has happened. -/
def step (s : Server ν) : Input ν → Server ν
  | .deliver m session => (s.deliver m session).1
  | .meanwhile tree observers nonces elapsed =>
    { s with site := { s.site with tree, observers, nonces, now := s.site.now + elapsed.nanos } }

/-- The server after some things have happened, one after the other. -/
def run (s : Server ν) (inputs : List (Input ν)) : Server ν := inputs.foldl step s

variable {s : Server ν} {key : Key}

/-! ### One input -/

theorem Agrees.refl (s : Server ν) (key : Key) : s.Agrees s key := ⟨rfl, rfl, rfl⟩

/-- What is no request under a key leaves that key alone. -/
theorem step_frame {input : Input ν} (h : ∀ m, input.request? = some m → key ≠ .ofId m) :
    s.Agrees (s.step input) key := by
  cases input with
  | deliver m session =>
    show s.Agrees (s.deliver m session).1 key
    cases hrequest : m.data.isRequest with
    | false =>
      rw [s.deliver_of_not_isRequest m session hrequest]
      exact .refl s key
    | true => exact s.deliver_frame session (h m (if_pos hrequest))
  | meanwhile tree observers nonces elapsed => exact ⟨rfl, rfl, rfl⟩

/-- A request under a key arrives, or none does. -/
theorem Input.request_or_other (input : Input ν) (key : Key) :
    (∃ m session, input = .deliver m session ∧ m.data.isRequest = true ∧ key = .ofId m) ∨
      ∀ m, input.request? = some m → key ≠ .ofId m := by
  cases input with
  | deliver m session =>
    by_cases h : m.data.isRequest = true ∧ key = .ofId m
    · exact .inl ⟨m, session, rfl, h⟩
    · refine .inr fun m' hm' hkey => h ?_
      cases hrequest : m.data.isRequest with
      | false => simp [Input.request?, hrequest] at hm'
      | true =>
        obtain rfl : m = m' := by simpa [Input.request?, hrequest] using hm'
        exact ⟨rfl, hkey⟩
  | meanwhile tree observers nonces elapsed => exact .inr fun m hm => nomatch hm

/-! ### Known keys -/

/-- The exchange under a key is retained, and something was deposited in it. -/
def Answered (s : Server ν) (key : Key) (e : Exchange) : Prop :=
  s.dedup.current? key = some e ∧ ∃ first, e.first? = some first

/-- Once a key was answered, nothing changes for it, and nothing more is dispatched under it. -/
theorem Answered.step {e : Exchange} (h : s.Answered key e) (input : Input ν) :
    (s.step input).Answered key e ∧ (s.step input).site.dispatches key = s.site.dispatches key := by
  rcases input.request_or_other key with ⟨m, session, rfl, hrequest, rfl⟩ | hother
  · obtain ⟨first, hfirst⟩ := h.2
    have hsame : s.step (.deliver m session) = s := by
      show (s.deliver m session).1 = s
      rw [s.deliver_duplicate m session hrequest h.1 hfirst]
    rw [hsame]
    exact ⟨h, rfl⟩
  · have hframe := step_frame (s := s) hother
    exact ⟨⟨hframe.current?.trans h.1, h.2⟩, hframe.dispatches⟩

theorem answered_run {e : Exchange} (h : s.Answered key e) (inputs : List (Input ν)) :
    (s.run inputs).Answered key e ∧
      (s.run inputs).site.dispatches key = s.site.dispatches key := by
  induction inputs generalizing s with
  | nil => exact ⟨h, rfl⟩
  | cons input inputs ih =>
    obtain ⟨hstep, hdispatches⟩ := h.step input
    obtain ⟨hrun, hdispatches'⟩ := ih hstep
    exact ⟨hrun, hdispatches'.trans hdispatches⟩

/-! ### New keys -/

/-- A key under which no request has arrived is new. -/
theorem find?_run_of_unseen {inputs : List (Input ν)} (hnone : s.dedup.find? key = none)
    (h : ∀ m ∈ requests inputs, Key.ofId m ≠ key) : (s.run inputs).dedup.find? key = none := by
  induction inputs generalizing s with
  | nil => exact hnone
  | cons input inputs ih =>
    have hframe : s.Agrees (s.step input) key := step_frame fun m hm =>
      Ne.symm (h m (List.mem_filterMap.mpr ⟨input, List.mem_cons_self, hm⟩))
    refine ih (hframe.find?.trans hnone) fun m hm => h m ?_
    obtain ⟨other, hother, hrequest⟩ := List.mem_filterMap.mp hm
    exact List.mem_filterMap.mpr ⟨other, List.mem_cons_of_mem input hother, hrequest⟩

section FirstDelivery

variable {m : Addressed Message} {session : Option Session} {s' : Server ν}
  {reply : Option (Addressed Response)} {e : Exchange} {final : Addressed Response}

/-- What is deposited first is the announcement to a confirmable request, if there was one, and
otherwise the final message. -/
theorem FirstDelivery.first?_eq (first : s.FirstDelivery m session s' reply e final) :
    e.first? = some
      (if m.data.type = .con ∧ s.announces m session = true then emptyAck m session else final) := by
  have hfirst : e.first? = e.responses.head? := by
    rw [Exchange.responses, List.head?_map]
    rfl
  have hinterim := e.interim?_eq
  rw [first.request, first.inSession] at hinterim
  rw [hfirst, first.responses, Exchange.announcement, hinterim]
  by_cases hcon : m.data.type = .con <;> cases s.announces m session <;> simp [hcon]

/-- A request under a new key is dispatched, and the key is answered from then on. -/
theorem FirstDelivery.answered (first : s.FirstDelivery m session s' reply e final) :
    s'.Answered (.ofId m) e ∧
      s'.site.dispatches (.ofId m) = s.site.dispatches (.ofId m) ++ [m] := by
  obtain ⟨target, hdispatched⟩ := first.dispatched
  refine ⟨⟨first.retained, _, first.first?_eq⟩, ?_⟩
  rw [hdispatched.dispatches_eq, Site.dispatches_record, if_pos rfl]

end FirstDelivery

/-- **One dispatch for each key.** Under a new key, the first request that arrives is dispatched, and
no other. -/
theorem dispatches_run {inputs : List (Input ν)} (hnone : s.dedup.find? key = none) :
    (s.run inputs).site.dispatches key =
      s.site.dispatches key ++ ((requests inputs).find? fun m => Key.ofId m = key).toList := by
  -- up to the first request under the key nothing touches it; from then on it is answered
  induction inputs generalizing s with
  | nil => exact (List.append_nil _).symm
  | cons input inputs ih =>
    rcases input.request_or_other key with ⟨m, session, rfl, hrequest, rfl⟩ | hother
    · obtain ⟨-, final, first⟩ := s.deliver_of_new m session hnone hrequest
      obtain ⟨hanswered, hdispatches⟩ := first.answered
      have hrun := (answered_run hanswered inputs).2
      have hinput : (Input.deliver m session : Input ν).request? = some m := if_pos hrequest
      show ((s.deliver m session).1.run inputs).site.dispatches _ = _
      rw [hrun, hdispatches, requests, List.filterMap_cons_some hinput,
        List.find?_cons_of_pos (by simp)]
      rfl
    · have hframe := step_frame (s := s) hother
      show ((s.step input).run inputs).site.dispatches key = _
      rw [ih (hframe.find?.trans hnone), hframe.dispatches]
      congr 2
      cases hinput : input.request? with
      | none => rw [requests, requests, List.filterMap_cons_none hinput]
      | some m =>
        rw [requests, requests, List.filterMap_cons_some hinput,
          List.find?_cons_of_neg (by simpa using Ne.symm (hother m hinput))]

/-- **Duplicates.** A request that repeats one that was dispatched, whatever has happened since,
changes nothing and gets what was deposited first in the exchange of the one it repeats. -/
theorem duplicate_run {request duplicate : Addressed Message} (session session' : Option Session)
    (hnew : s.dedup.find? (.ofId request) = none) (hrequest : request.data.isRequest = true)
    (hduplicate : duplicate.data.isRequest = true) (hkey : Key.ofId duplicate = .ofId request)
    (between : List (Input ν)) :
    let first := s.deliver request session
    let later := first.1.run between
    ∃ e final, s.FirstDelivery request session first.1 first.2 e final ∧
      later.dedup.find? (.ofId request) = some e ∧
        later.deliver duplicate session' = (later, e.first?) := by
  obtain ⟨-, final, first⟩ := s.deliver_of_new request session hnew hrequest
  have hlater := (answered_run first.answered.1 between).1
  obtain ⟨hcurrent, reply, hreply⟩ := hlater
  refine ⟨_, final, first, Deduplicator.find?_of_current? hcurrent, ?_⟩
  rw [hreply]
  exact deliver_duplicate _ duplicate session' hduplicate (hkey ▸ hcurrent) hreply

/-- **Once only.** While a deduplicator that was empty drops nothing, the requests that are dispatched
are, for each key, the first that arrives under it. Any later request under that key changes nothing
at all and gets what was deposited first in the exchange of that one: the acknowledgement that
announced a separate response, or else the final message. -/
theorem dispatched_once (s : Server ν) (hempty : ∀ key, s.dedup.find? key = none) :
    (∀ inputs key, (s.run inputs).site.dispatches key =
      s.site.dispatches key ++ ((requests inputs).find? fun m => Key.ofId m = key).toList) ∧
    ∀ before request session between duplicate session',
      request.data.isRequest = true → (∀ m ∈ requests before, Key.ofId m ≠ .ofId request) →
      duplicate.data.isRequest = true → Key.ofId duplicate = .ofId request →
      let first := (s.run before).deliver request session
      let later := first.1.run between
      ∃ e final, later.dedup.find? (.ofId request) = some e ∧ e.request = request ∧
        e.isComplete = true ∧ e.latest? = some final ∧ first.2 = some final ∧
        e.first? = some
          (if request.data.type = .con ∧ (s.run before).announces request session = true
            then emptyAck request session else final) ∧
        later.deliver duplicate session' = (later, e.first?) := by
  refine ⟨fun inputs key => dispatches_run (hempty key), ?_⟩
  intro before request session between duplicate session' hrequest hnew hduplicate hkey
  have hunseen := find?_run_of_unseen (hempty (.ofId request)) hnew
  obtain ⟨e, final, first, hretained, hreplay⟩ :=
    duplicate_run session session' hunseen hrequest hduplicate hkey between
  exact ⟨e, final, hretained, first.request, first.complete, first.latest?, first.reply,
    first.first?_eq, hreplay⟩

/-! ### A patient resource -/

/-- A server whose root acknowledges each request before it answers. -/
def patient : Server Unit where
  config := .standard
  site :=
    { tree := .rooted ⟨default, fun _ => .call .accept fun _ => .respond .content fun _ => .done⟩
      observers := .none, now := 0, nonces := fun _ => default, events := [] }
  dedup := .rotating (.ofSeconds 1)
  drivesDedup := true
  deliverer := .dispatcher
  endpoints := []
  listed := []
  network := ⟨[], true⟩

/-- A confirmable request for the root. -/
def question : Addressed Message := ⟨.new .con Method.get.code 7 .empty, ⟨.v4 0, 5683⟩⟩

/-- A non-confirmable request for something else, with the same id and from the same peer. -/
def repetition : Addressed Message :=
  ⟨(Message.new .non Method.put.code 7 .empty).setPath "lamp", ⟨.v4 0, 5683⟩⟩

/-- The repetition is not dispatched, and gets the acknowledgement of the question. -/
theorem dispatched_once_patient :
    let later := (patient.deliver question none).1
    (later.deliver repetition none) = (later, some (emptyAck question none)) ∧
      (later.run [.deliver repetition none]).site.dispatches (.ofId question) = [question] := by
  obtain ⟨hdispatches, hduplicates⟩ := dispatched_once patient fun _ => rfl
  constructor
  · obtain ⟨e, final, -, -, -, -, -, hfirst, hreplay⟩ :=
      hduplicates [] question none [] repetition none rfl (fun _ h => nomatch h) rfl rfl
    have hannounced : patient.announces question none = true := by decide
    rw [hfirst, if_pos ⟨rfl, hannounced⟩] at hreplay
    exact hreplay
  · exact hdispatches [.deliver question none, .deliver repetition none] (.ofId question)

end Server

end Coap
