import Coap.Proofs.Exchange.Lifecycle
import Mathlib.Data.List.Induction

/-!
# The first and the latest deposit

The most recent of several stamped values is the last of those that no other is later than. Since the clock
does not go back while an exchange is called, what was deposited last wins also over what was deposited at
the same time.

* `Stamped.latest_cases`, `Stamped.latest_eq` — what is selected of any values.
* `Exchange.Move`, `Exchange.moved` — calls to an exchange; `Exchange.deposited` — what they deposit.
* `Exchange.responses_moved`, `Exchange.deposited_of_received` — these are the responses, in order, and they
  are what the first call to accept announces and the first call to complete concludes with.
* `Exchange.deposits_moved` — what is found first and last.
* `Exchange.Reached` — an exchange to which calls have led.
-/

namespace Coap

/-! ### Selection -/

namespace Stamped

variable {α : Type u} {values : List (Stamped α)}

theorem latest_concat (values : List (Stamped α)) (v : Stamped α) :
    latest (values ++ [v]) = later (latest values) v := by
  rw [latest, List.foldl_append]
  rfl

/-- Nothing is selected of nothing. Otherwise nothing before what is selected is later, and everything
behind it is earlier. -/
theorem latest_cases (values : List (Stamped α)) :
    values = [] ∧ latest values = none ∨
      ∃ front v back, values = front ++ v :: back ∧ latest values = some v ∧
        (∀ w ∈ front, w.time ≤ v.time) ∧ ∀ w ∈ back, w.time < v.time := by
  induction values using List.reverseRecOn with
  | nil => exact .inl ⟨rfl, rfl⟩
  | append_singleton values next ih =>
    right
    rw [latest_concat]
    obtain ⟨rfl, hnone⟩ | ⟨front, v, back, rfl, hlatest, hfront, hback⟩ := ih
    · exact ⟨[], next, [], rfl, by rw [hnone]; rfl, nofun, nofun⟩
    · rw [hlatest]
      by_cases hlt : next.time < v.time
      · refine ⟨front, v, back ++ [next], by rw [List.append_assoc]; rfl, if_pos hlt, hfront, ?_⟩
        intro w hw
        rcases List.mem_append.mp hw with hw | hw
        · exact hback w hw
        · rwa [List.mem_singleton.mp hw]
      · refine ⟨front ++ v :: back, next, [], rfl, if_neg hlt, ?_, nofun⟩
        -- what was selected before is not later than the next value, nor is anything else then
        intro w hw
        have hle : w.time ≤ v.time := by
          rcases List.mem_append.mp hw with hw | hw
          · exact hfront w hw
          · rcases List.mem_cons.mp hw with rfl | hw
            · exact Nat.le_refl _
            · exact Nat.le_of_lt (hback w hw)
        exact Nat.le_trans hle (Nat.le_of_not_lt hlt)

/-- Is none of some values later than a given one? -/
def isMaximal (values : List (Stamped α)) (v : Stamped α) : Bool := values.all (·.time ≤ v.time)

theorem isMaximal_iff {v : Stamped α} : isMaximal values v = true ↔ ∀ w ∈ values, w.time ≤ v.time := by
  simp [isMaximal]

/-- **Selection.** Of the values that no other is later than, the last is selected. -/
theorem latest_eq (values : List (Stamped α)) :
    latest values = (values.filter (isMaximal values)).getLast? := by
  obtain ⟨rfl, hnone⟩ | ⟨front, v, back, hvalues, hlatest, hfront, hback⟩ := latest_cases values
  · exact hnone
  · have hv : v ∈ values := hvalues ▸ List.mem_append_right _ List.mem_cons_self
    have hself : isMaximal values v = true := by
      rw [isMaximal_iff, hvalues]
      intro w hw
      rcases List.mem_append.mp hw with hw | hw
      · exact hfront w hw
      · rcases List.mem_cons.mp hw with rfl | hw
        · exact Nat.le_refl _
        · exact Nat.le_of_lt (hback w hw)
    have hbehind : back.filter (isMaximal values) = [] := by
      refine List.filter_eq_nil_iff.mpr fun w hw hmaximal => ?_
      exact Nat.not_le.mpr (hback w hw) (isMaximal_iff.mp hmaximal v hv)
    have hfilter : values.filter (isMaximal values) = front.filter (isMaximal values) ++ [v] := by
      conv => lhs; arg 2; rw [hvalues]
      rw [List.filter_append, List.filter_cons_of_pos hself, hbehind]
    rw [hlatest, hfilter, List.getLast?_concat]

example : latest [⟨1, 7⟩, ⟨2, 4⟩, ⟨3, 7⟩, ⟨4, 6⟩] = some (⟨3, 7⟩ : Stamped Nat) := by decide

theorem isSome_latest (values : List (Stamped α)) : (latest values).isSome = !values.isEmpty := by
  obtain ⟨rfl, -⟩ | ⟨front, v, back, rfl, hlatest, -, -⟩ := latest_cases values
  · rfl
  · rw [hlatest]
    simp

end Stamped

namespace Exchange

/-! ### Calls -/

/-- A call to an exchange. -/
inductive Move where
  /-- A separate response is announced, perhaps with a message. -/
  | accept (interim : Option (Addressed Response))
  /-- The exchange is completed with a message. -/
  | complete (final : Addressed Response) (rejected : Bool)
  /-- It is noted what the exchange did to an observe relation. -/
  | mark (marker : ObserveMarker)
  /-- It is noted which resource handles the request. -/
  | assign (id : ResourceId)

/-- The exchange after a call at some time, and what the call deposited if it says that it did. -/
def move (e : Exchange) (m : Stamped Move) : Exchange × List (Addressed Response) :=
  match m.data with
  | .accept interim =>
    let (e, did) := e.accept m.time interim
    (e, if did then interim.toList else [])
  | .complete final rejected =>
    let (e, did) := e.complete m.time final rejected
    (e, if did then [final] else [])
  | .mark marker => ({ e with marker }, [])
  | .assign id => ({ e with resource := some id }, [])

/-- The exchange after some calls, one after the other. -/
def moved (e : Exchange) (moves : List (Stamped Move)) : Exchange :=
  moves.foldl (fun e m => (e.move m).1) e

/-- What some calls deposit, one after the other. -/
def deposited (e : Exchange) : List (Stamped Move) → List (Addressed Response)
  | [] => []
  | m :: more => (e.move m).2 ++ (e.move m).1.deposited more

/-- What the first call to accept announces, unless the exchange is completed before. -/
def announced? : List (Stamped Move) → Option (Addressed Response)
  | [] => none
  | ⟨.accept interim, _⟩ :: _ => interim
  | ⟨.complete .., _⟩ :: _ => none
  | _ :: more => announced? more

/-- What the first call to complete concludes with. -/
def concluded? : List (Stamped Move) → Option (Addressed Response)
  | [] => none
  | ⟨.complete final _, _⟩ :: _ => some final
  | _ :: more => concluded? more

variable {e : Exchange} {now : Instant}

theorem responses_of_accept (e : Exchange) (now : Instant) (interim : Option (Addressed Response)) :
    (e.accept now interim).1.responses =
      e.responses ++ if (e.accept now interim).2 then interim.toList else [] := by
  unfold accept
  cases e.state with
  | received =>
    show (e.deposits ++ _).map _ = _
    rw [List.map_append, data_interim]
    rfl
  | _ => exact (List.append_nil _).symm

theorem responses_of_complete (e : Exchange) (now : Instant) (final : Addressed Response) (rejected : Bool) :
    (e.complete now final rejected).1.responses =
      e.responses ++ if (e.complete now final rejected).2 then [final] else [] := by
  cases h : e.isComplete with
  | false =>
    rw [complete_of_open h]
    exact List.map_append
  | true =>
    rw [complete_of_isComplete h]
    exact (List.append_nil _).symm

/-- A call adds what it deposits to the end. -/
theorem responses_move (e : Exchange) (m : Stamped Move) :
    (e.move m).1.responses = e.responses ++ (e.move m).2 := by
  obtain ⟨interim | ⟨final, rejected⟩ | marker | id, time⟩ := m
  · exact e.responses_of_accept time interim
  · exact e.responses_of_complete time final rejected
  · exact (List.append_nil _).symm
  · exact (List.append_nil _).symm

/-- So do any number of calls. -/
theorem responses_moved (e : Exchange) (moves : List (Stamped Move)) :
    (e.moved moves).responses = e.responses ++ e.deposited moves := by
  induction moves generalizing e with
  | nil => exact (List.append_nil _).symm
  | cons m moves ih =>
    rw [deposited, ← List.append_assoc, ← responses_move]
    exact ih (e.move m).1

/-! ### What is deposited -/

/-- Nothing is deposited in an exchange that is complete. -/
theorem deposited_of_isComplete (h : e.isComplete = true) (moves : List (Stamped Move)) :
    e.deposited moves = [] := by
  induction moves generalizing e with
  | nil => rfl
  | cons m moves ih =>
    obtain ⟨interim | ⟨final, rejected⟩ | marker | id, time⟩ := m <;> rw [deposited, move]
    · dsimp only
      rw [accept_of_isComplete h]
      exact ih h
    · dsimp only
      rw [complete_of_isComplete h]
      exact ih h
    · exact ih h
    · exact ih h

/-- In one that was accepted the final message is. -/
theorem deposited_of_accepted (h : e.state = .accepted) (moves : List (Stamped Move)) :
    e.deposited moves = (concluded? moves).toList := by
  induction moves generalizing e with
  | nil => rfl
  | cons m moves ih =>
    obtain ⟨interim | ⟨final, rejected⟩ | marker | id, time⟩ := m <;> rw [deposited, move]
    · dsimp only
      rw [accept, h]
      exact ih h
    · have hopen : e.isComplete = false := by rw [isComplete, h]
      dsimp only
      rw [deposited_of_isComplete (isComplete_complete time final rejected), complete_of_open hopen]
      rfl
    · exact ih h
    · exact ih h

/-- In one that was just received the announcement is, and then the final message. -/
theorem deposited_of_received (h : e.state = .received) (moves : List (Stamped Move)) :
    e.deposited moves = (announced? moves).toList ++ (concluded? moves).toList := by
  induction moves generalizing e with
  | nil => rfl
  | cons m moves ih =>
    obtain ⟨interim | ⟨final, rejected⟩ | marker | id, time⟩ := m <;> rw [deposited, move]
    · dsimp only
      rw [accept, h, deposited_of_accepted rfl]
      rfl
    · have hopen : e.isComplete = false := by rw [isComplete, h]
      dsimp only
      rw [deposited_of_isComplete (isComplete_complete time final rejected), complete_of_open hopen]
      rfl
    · exact ih h
    · exact ih h

/-- An exchange is complete once a call has concluded it. -/
theorem isComplete_moved (e : Exchange) (moves : List (Stamped Move)) :
    (e.moved moves).isComplete = (e.isComplete || (concluded? moves).isSome) := by
  induction moves generalizing e with
  | nil => exact (Bool.or_false _).symm
  | cons m moves ih =>
    refine (ih (e.move m).1).trans ?_
    obtain ⟨interim | ⟨final, rejected⟩ | marker | id, time⟩ := m
    · show ((e.accept time interim).1.isComplete || _) = _
      rw [isComplete_accept]
      rfl
    · show ((e.complete time final rejected).1.isComplete || _) = _
      rw [isComplete_complete, Bool.true_or]
      exact (Bool.or_true _).symm
    · rfl
    · rfl

theorem head?_toList_append {α : Type u} (a b : Option α) : (a.toList ++ b.toList).head? = a.or b := by
  cases a <;> cases b <;> rfl

theorem getLast?_toList_append {α : Type u} (a b : Option α) :
    (a.toList ++ b.toList).getLast? = b.or a := by
  cases a <;> cases b <;> rfl

/-! ### Times -/

/-- What is deposited in a call is not earlier than what was before, if the call is not. -/
theorem InTime.move (h : e.InTime now) {m : Stamped Move} (hle : now ≤ m.time) :
    (e.move m).1.InTime m.time := by
  obtain ⟨interim | ⟨final, rejected⟩ | marker | id, time⟩ := m
  · exact (h.mono hle).accept interim
  · exact (h.mono hle).complete final rejected
  · exact h.mono hle
  · exact h.mono hle

/-- So it is with any number of calls that come one after the other. -/
theorem InTime.moved (h : e.InTime now) {moves : List (Stamped Move)}
    (hstart : ∀ m ∈ moves, now ≤ m.time) (hsorted : moves.Pairwise fun a b => a.time ≤ b.time) :
    ∃ later, (e.moved moves).InTime later := by
  induction moves generalizing e now with
  | nil => exact ⟨now, h⟩
  | cons m moves ih =>
    obtain ⟨hfirst, hsorted⟩ := List.pairwise_cons.mp hsorted
    exact ih (h.move (hstart m List.mem_cons_self)) hfirst hsorted

/-- **Deposits.** In a new exchange the first call to accept and then the first call to complete deposit what
they say, unless the former comes too late. What was deposited first and what was deposited last are found
as such, whatever times they have in common. -/
theorem deposits_moved (request : Addressed Message) (session : Option Session) (created : Instant)
    {moves : List (Stamped Move)} (hsorted : moves.Pairwise fun a b => a.time ≤ b.time) :
    let start := Exchange.new request session created
    let e := start.moved moves
    start.deposited moves = (announced? moves).toList ++ (concluded? moves).toList ∧
      e.latest? = (start.deposited moves).getLast? ∧ e.first? = (start.deposited moves).head? := by
  intro start e
  have hresponses : e.responses = start.deposited moves := start.responses_moved moves
  have hstart : start.InTime 0 := ⟨.nil, nofun⟩
  obtain ⟨later, htime⟩ := hstart.moved (fun m _ => Nat.zero_le m.time) hsorted
  refine ⟨deposited_of_received rfl moves, ?_, ?_⟩
  · rw [← hresponses]
    exact latest?_eq htime
  · rw [← hresponses, responses, List.head?_map]
    rfl

/-- **Reach.** Calls have led to an exchange from a new one, at times that do not go back and of which none
is still to come. -/
def Reached (e : Exchange) (now : Instant) : Prop :=
  ∃ request session created moves, (moves.Pairwise fun a b => a.time ≤ b.time) ∧
    (∀ m ∈ moves, m.time ≤ now) ∧ e = (Exchange.new request session created).moved moves

theorem reached_new (request : Addressed Message) (session : Option Session) (created now : Instant) :
    (Exchange.new request session created).Reached now :=
  ⟨request, session, created, [], .nil, nofun, rfl⟩

theorem Reached.mono {later : Instant} (h : e.Reached now) (hle : now ≤ later) : e.Reached later := by
  obtain ⟨request, session, created, moves, hsorted, hpast, heq⟩ := h
  exact ⟨request, session, created, moves, hsorted, fun m hm => Nat.le_trans (hpast m hm) hle, heq⟩

/-- A call leads on. -/
theorem Reached.move (h : e.Reached now) (m : Move) : (e.move ⟨m, now⟩).1.Reached now := by
  obtain ⟨request, session, created, moves, hsorted, hpast, rfl⟩ := h
  refine ⟨request, session, created, moves ++ [⟨m, now⟩], ?_, ?_, ?_⟩
  · refine List.pairwise_append.mpr ⟨hsorted, List.pairwise_singleton .., fun a ha b hb => ?_⟩
    rw [List.mem_singleton.mp hb]
    exact hpast a ha
  · intro a ha
    rcases List.mem_append.mp ha with ha | ha
    · exact hpast a ha
    · exact Nat.le_of_eq (congrArg Stamped.time (List.mem_singleton.mp ha))
  · rw [Exchange.moved, Exchange.moved, List.foldl_append]
    rfl

end Exchange

end Coap
