import Coap.Exchange

/-!
# The life of an exchange

An exchange is received, perhaps announced to be answered separately, and then completed by one final
message. What was deposited in it can be read off its state.

* `emptyAck`, `refusal`, `IsAnswer` — what answers a request.
* `Exchange.Lifecycle` — what was deposited in which state; `Exchange.Lifecycle.accept` and
  `Exchange.Lifecycle.complete` — the two ways on.
* `Exchange.InTime` — deposits are in the order of their times.
* `Exchange.latest?_eq` — so what was deposited last is the last in the list.
-/

namespace Coap

/-! ### What answers a request -/

/-- The empty acknowledgement of a request, for its sender and in its session. Its code is 0.00, and it has
the id and the token of the request. -/
def emptyAck (m : Addressed Message) (session : Option Session) : Addressed Response where
  data.message :=
    { type := .ack, version := 1, code := ⟨0, 0⟩, id := m.data.id, token := m.data.token,
      options := .empty, payload := [] }
  data.session := session
  data.completed := none
  addr := m.addr

/-- The reset of a request, for its sender and in its session. Its code is 0.00, and it has the id of the
request and no token. -/
def refusal (m : Addressed Message) (session : Option Session) : Addressed Response where
  data.message :=
    { type := .rst, version := 1, code := ⟨0, 0⟩, id := m.data.id, token := .empty,
      options := .empty, payload := [] }
  data.session := session
  data.completed := none
  addr := m.addr

/-- The type and the id of a response, if a separate response was announced or not. A response that
acknowledges its request has the id of the request; any other gets an id on its way out. -/
def Message.answerRole (request : Message) (announced : Bool) : MessageType × UInt16 :=
  match request.type, announced with
  | .con, false => (.ack, request.id)
  | .con, true => (.con, 0)
  | _, _ => (.non, 0)

/-- A response to a request, for its sender and in its session, with its token and in the role that
fits it. -/
structure IsAnswer (m : Addressed Message) (session : Option Session) (announced : Bool)
    (r : Addressed Response) : Prop where
  addr : r.addr = m.addr
  session : r.data.session = session
  code : r.data.message.code.kind = .response
  token : r.data.message.token = m.data.token
  role : (r.data.message.type, r.data.message.id) = m.data.answerRole announced

/-- A final message: the reset of a request that is rejected, and otherwise a response. -/
def IsFinal (m : Addressed Message) (session : Option Session) (announced rejected : Bool)
    (r : Addressed Response) : Prop :=
  match rejected with
  | true => r = refusal m session
  | false => IsAnswer m session announced r

namespace Exchange

/-! ### States and deposits -/

/-- The acknowledgement that announces a separate response to a confirmable request. -/
def interim? (e : Exchange) : Option (Addressed Response) :=
  match e.request.data.type with
  | .con => some (e.reply (.ofMessage (e.request.data.ack e.request.data.id)))
  | _ => none

/-- Only a confirmable request is announced by a message. -/
theorem interim?_eq (e : Exchange) :
    e.interim? =
      if e.request.data.type = .con then some (emptyAck e.request e.session) else none := by
  unfold Exchange.interim?
  cases e.request.data.type <;> rfl

/-- What is deposited before the final message, if a separate response was announced or not. -/
def announcement (e : Exchange) (announced : Bool) : List (Addressed Response) :=
  if announced then e.interim?.toList else []

theorem announcement_eq (e : Exchange) (announced : Bool) :
    e.announcement announced =
      if e.request.data.type = .con ∧ announced = true then [emptyAck e.request e.session]
      else [] := by
  rw [announcement, interim?_eq]
  cases announced <;> by_cases hcon : e.request.data.type = .con <;> simp [hcon]

/-- **Lifecycle.** Nothing is deposited in an exchange that was just received, only the announcement
in one that was accepted, and one final message behind it in one that is complete. -/
def Lifecycle (e : Exchange) (announced : Bool) : Prop :=
  match e.state with
  | .received => announced = false ∧ e.responses = []
  | .accepted => announced = true ∧ e.responses = e.announcement true
  | .responded | .rejected => ∃ final, e.responses = e.announcement announced ++ [final]

theorem lifecycle_new (request : Addressed Message) (session : Option Session) (now : Instant) :
    (Exchange.new request session now).Lifecycle false := ⟨rfl, rfl⟩

variable {e : Exchange} {announced : Bool}

theorem data_interim (interim : Option (Addressed Response)) (now : Instant) :
    (interim.map fun r => Stamped.mk r now).toList.map (·.data) = interim.toList := by
  cases interim <;> rfl

theorem isComplete_iff : e.isComplete = true ↔ e.state = .responded ∨ e.state = .rejected := by
  unfold isComplete
  cases e.state <;> simp

/-- Accepting an exchange that is not complete announces a separate response. -/
theorem Lifecycle.accept (life : e.Lifecycle announced) (hopen : e.isComplete = false)
    (now : Instant) : (e.accept now e.interim?).1.Lifecycle true := by
  obtain ⟨request, session, created, deposits, state, marker, resource⟩ := e
  cases state with
  | received =>
    obtain ⟨rfl, hnone⟩ := life
    obtain rfl : deposits = [] := List.map_eq_nil_iff.mp hnone
    exact ⟨rfl, data_interim _ now⟩
  | accepted =>
    obtain ⟨rfl, hannounced⟩ := life
    exact ⟨rfl, hannounced⟩
  | responded => cases hopen
  | rejected => cases hopen

/-- A final message is the only one of its kind, and stands behind what was announced. -/
theorem Lifecycle.complete (life : e.Lifecycle announced) (now : Instant)
    (final : Addressed Response) (rejected : Bool) :
    (e.complete now final rejected).1.Lifecycle announced := by
  obtain ⟨request, session, created, deposits, state, marker, resource⟩ := e
  cases state with
  | received =>
    obtain ⟨rfl, hnone⟩ := life
    obtain rfl : deposits = [] := List.map_eq_nil_iff.mp hnone
    cases rejected <;> exact ⟨final, rfl⟩
  | accepted =>
    obtain ⟨rfl, hannounced⟩ := life
    have hdeposits : deposits.map (·.data) = announcement _ true := hannounced
    cases rejected <;> refine ⟨final, ?_⟩ <;>
    · show (deposits ++ [_]).map _ = _
      rw [List.map_append, hdeposits]
      rfl
  | responded => exact life
  | rejected => exact life

/-- In an exchange that is not complete nothing is deposited beside the announcement, which tells
whether it was accepted. -/
theorem Lifecycle.responses_of_open (life : e.Lifecycle announced) (h : e.isComplete = false) :
    e.responses = e.announcement announced ∧ e.state = if announced then .accepted else .received := by
  unfold Lifecycle at life
  unfold isComplete at h
  cases hstate : e.state with
  | received =>
    rw [hstate] at life
    obtain ⟨rfl, hnone⟩ := life
    exact ⟨hnone, rfl⟩
  | accepted =>
    rw [hstate] at life
    obtain ⟨rfl, hannounced⟩ := life
    exact ⟨hannounced, rfl⟩
  | responded => simp [hstate] at h
  | rejected => simp [hstate] at h

/-- A complete exchange has its final message. -/
theorem Lifecycle.exists_final (life : e.Lifecycle announced) (h : e.isComplete = true) :
    ∃ final, e.responses = e.announcement announced ++ [final] := by
  unfold Lifecycle at life
  unfold isComplete at h
  cases hstate : e.state with
  | received => simp [hstate] at h
  | accepted => simp [hstate] at h
  | responded => simpa only [hstate] using life
  | rejected => simpa only [hstate] using life

theorem accept_of_isComplete (h : e.isComplete = true) (now : Instant)
    (interim : Option (Addressed Response)) : e.accept now interim = (e, false) := by
  unfold isComplete at h
  unfold Exchange.accept
  cases hstate : e.state with
  | received => simp [hstate] at h
  | accepted => rfl
  | responded => rfl
  | rejected => rfl

theorem complete_of_isComplete (h : e.isComplete = true) (now : Instant)
    (final : Addressed Response) (rejected : Bool) :
    e.complete now final rejected = (e, false) := if_pos h

theorem complete_of_open (h : e.isComplete = false) (now : Instant)
    (final : Addressed Response) (rejected : Bool) :
    e.complete now final rejected =
      ({ e with
          state := if rejected then .rejected else .responded
          deposits := e.deposits ++ [⟨final, now⟩] }, true) := by
  unfold Exchange.complete
  rw [h]
  rfl

/-- To accept an exchange is not to complete it. -/
theorem isComplete_accept (now : Instant) (interim : Option (Addressed Response)) :
    (e.accept now interim).1.isComplete = e.isComplete := by
  unfold Exchange.accept isComplete
  cases hstate : e.state <;> simp [hstate]

theorem isComplete_complete (now : Instant) (final : Addressed Response) (rejected : Bool) :
    (e.complete now final rejected).1.isComplete = true := by
  unfold Exchange.complete
  by_cases h : e.isComplete = true
  · rw [if_pos h]
    exact h
  · rw [if_neg h]
    cases rejected <;> rfl

/-! ### Times -/

/-- The deposits are in the order of their times, none of which is still to come. -/
def InTime (e : Exchange) (now : Instant) : Prop :=
  (e.deposits.Pairwise fun a b => a.time ≤ b.time) ∧ ∀ d ∈ e.deposits, d.time ≤ now

theorem inTime_new (request : Addressed Message) (session : Option Session) (now : Instant) :
    (Exchange.new request session now).InTime now :=
  ⟨.nil, fun _ h => absurd h List.not_mem_nil⟩

theorem InTime.mono {now later : Instant} (h : e.InTime now) (hle : now ≤ later) :
    e.InTime later :=
  ⟨h.1, fun d hd => Nat.le_trans (h.2 d hd) hle⟩

/-- What is deposited now comes last. -/
theorem inTime_append {now : Instant} {deposits more : List (Stamped (Addressed Response))}
    (h : (deposits.Pairwise fun a b => a.time ≤ b.time) ∧ ∀ d ∈ deposits, d.time ≤ now)
    (hmore : ∀ d ∈ more, d.time = now) :
    ((deposits ++ more).Pairwise fun a b => a.time ≤ b.time) ∧
      ∀ d ∈ deposits ++ more, d.time ≤ now := by
  have hall : more.Pairwise fun _ _ => True := List.pairwise_of_forall fun _ _ => trivial
  refine ⟨List.pairwise_append.mpr ⟨h.1, hall.imp_of_mem ?_, ?_⟩, ?_⟩
  · intro a b ha hb _
    exact Nat.le_of_eq ((hmore a ha).trans (hmore b hb).symm)
  · intro a ha b hb
    rw [hmore b hb]
    exact h.2 a ha
  · intro d hd
    rcases List.mem_append.mp hd with hd | hd
    · exact h.2 d hd
    · exact Nat.le_of_eq (hmore d hd)

theorem InTime.accept {now : Instant} (h : e.InTime now) (interim : Option (Addressed Response)) :
    (e.accept now interim).1.InTime now := by
  unfold Exchange.accept
  cases e.state with
  | received =>
    refine inTime_append h fun d hd => ?_
    obtain ⟨r, -, rfl⟩ := Option.map_eq_some_iff.mp (Option.mem_toList.mp hd)
    rfl
  | _ => exact h

theorem InTime.complete {now : Instant} (h : e.InTime now) (final : Addressed Response)
    (rejected : Bool) : (e.complete now final rejected).1.InTime now := by
  unfold Exchange.complete
  by_cases hcomplete : e.isComplete = true
  · rw [if_pos hcomplete]
    exact h
  · rw [if_neg hcomplete]
    exact inTime_append h fun d hd => by rw [List.mem_singleton.mp hd]

/-- The most recent of several values in the order of their times is the last. -/
theorem latest_eq_getLast? {α : Type u} {values : List (Stamped α)}
    (h : values.Pairwise fun a b => a.time ≤ b.time) :
    Stamped.latest values = values.getLast? := by
  have key : ∀ (winner : Stamped α) (values : List (Stamped α)),
      (winner :: values).Pairwise (fun a b => a.time ≤ b.time) →
        values.foldl Stamped.later (some winner) = (winner :: values).getLast? := by
    intro winner values h
    -- no value is earlier than the one before, so each wins over the winner so far
    induction values generalizing winner with
    | nil => rfl
    | cons next values ih =>
      obtain ⟨hwinner, hrest⟩ := List.pairwise_cons.mp h
      have hlater : Stamped.later (some winner) next = some next :=
        if_neg (Nat.not_lt.mpr (hwinner next List.mem_cons_self))
      rw [List.foldl_cons, hlater, ih next hrest, List.getLast?_cons_cons]
  cases values with
  | nil => rfl
  | cons first values => exact key first values h

/-- What was deposited last is the last in the list. -/
theorem latest?_eq {now : Instant} (h : e.InTime now) : e.latest? = e.responses.getLast? := by
  rw [latest?, latest_eq_getLast? h.1, responses, List.getLast?_map]

end Exchange

end Coap
