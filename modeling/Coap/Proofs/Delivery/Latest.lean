import Coap.Proofs.Delivery.Histories
import Coap.Proofs.Exchange.Latest

/-!
# Deposits of a server's exchanges

Whatever a handler does to the exchange of its request are calls at the times that the clock of the server
shows, and this clock does not go back. So everything that is said about calls to an exchange holds of
every exchange that a server retains.

* `Handling.reached_perform`, `Handling.invariant_reached` — what a handler does is calls.
* `Server.reached_history` — so calls have led to every exchange that is held.
* `Server.latest_deposited` — what is found as the first and the latest deposit.
-/

namespace Coap

variable {ν : Type}

namespace Handling

variable {h : Handling ν}

/-- A call of a handler makes no call to the exchange, or one, or two at the same time. -/
theorem reached_perform (reached : h.exchange.Reached h.site.now) (c : Call ν) :
    (h.perform c).1.exchange.Reached (h.perform c).1.site.now := by
  refine Exchange.Reached.mono ?_ (h.continues_perform c).1
  rcases h.perform_exchange c with hsame | ⟨-, hsame⟩ | ⟨final, rejected, marker, -, hsame⟩
  · rw [hsame]
    exact reached
  · rw [hsame]
    exact reached.move (.accept h.exchange.interim?)
  · rw [hsame]
    exact (reached.move (.complete final rejected)).move (.mark marker)

theorem invariant_reached : Invariant fun _ (h : Handling ν) => h.exchange.Reached h.site.now :=
  .of_perform (fun _ c reached => reached_perform reached c) fun h parent profile handler reached =>
    reached.mono (h.continues_add parent profile handler).1

/-- A dispatch notes the resource, and then the handler acts. -/
theorem reached_dispatch (reached : h.exchange.Reached h.site.now) :
    h.dispatch.exchange.Reached h.dispatch.site.now :=
  invariant_reached.dispatch reached fun id => reached.move (.assign id)

end Handling

namespace Server

variable {s : Server ν}

/-- Calls have led to every exchange that a server holds after some things have happened to it. -/
theorem reached_history (hblank : s.dedup.Blank) (acts : List (Act ν)) :
    (s.history acts).dedup.Holds fun _ e => ∃ now, e.Reached now :=
  holds_history (hblank.mono fun _ _ h => h.elim) fun s m session _ _ =>
    ⟨_, Handling.reached_dispatch (Exchange.reached_new m session s.site.now s.site.now)⟩

/-- **The latest.** Of any stamped values the last is selected that no other is later than, and there is one
if there are any values. So if calls are made to a new exchange at times that do not go back, then what was
deposited last is found as the latest, and what was deposited first as the first. The latest is the message
that concludes the exchange as soon as there is one, even if it has the time of the announcement before it.
Every exchange that a server holds has come about by such calls. -/
theorem latest_deposited :
    (∀ {α : Type u} (values : List (Stamped α)),
      Stamped.latest values = (values.filter (Stamped.isMaximal values)).getLast? ∧
        (Stamped.latest values).isSome = !values.isEmpty) ∧
    (∀ request session created (moves : List (Stamped Exchange.Move)),
      (moves.Pairwise fun a b => a.time ≤ b.time) →
        let start := Exchange.new request session created
        let e := start.moved moves
        let announced := Exchange.announced? moves
        let concluded := Exchange.concluded? moves
        start.deposited moves = announced.toList ++ concluded.toList ∧
        e.latest? = (start.deposited moves).getLast? ∧ e.latest? = concluded.or announced ∧
        e.first? = (start.deposited moves).head? ∧ e.first? = announced.or concluded ∧
        e.isComplete = concluded.isSome) ∧
    ∀ (s : Server ν) (acts : List (Act ν)), s.dedup.Blank →
      (s.history acts).dedup.Holds fun _ e => ∃ now, e.Reached now := by
  refine ⟨fun values => ⟨Stamped.latest_eq values, Stamped.isSome_latest values⟩, ?_,
    fun s acts hblank => reached_history hblank acts⟩
  intro request session created moves hsorted start e announced concluded
  obtain ⟨hdeposited, hlatest, hfirst⟩ := Exchange.deposits_moved request session created hsorted
  refine ⟨hdeposited, hlatest, ?_, hfirst, ?_, start.isComplete_moved moves⟩
  · rw [hlatest, hdeposited, Exchange.getLast?_toList_append]
  · rw [hfirst, hdeposited, Exchange.head?_toList_append]

/-- A question is acknowledged and rejected at the same time. -/
def atOnce : List (Stamped Exchange.Move) :=
  [⟨.accept (some (emptyAck question none)), 5⟩,
    ⟨.complete (refusal question none) true, 5⟩]

/-- The rejection is the latest, and the acknowledgement the first. -/
theorem latest_deposited_atOnce :
    let e := (Exchange.new question none 5).moved atOnce
    e.latest? = some (refusal question none) ∧ e.first? = some (emptyAck question none) ∧
      (patient.history [.input (.deliver question none)]).dedup.Holds
        fun _ e => ∃ now, e.Reached now := by
  obtain ⟨-, hexchanges, hservers⟩ := @latest_deposited.{0} Unit
  obtain ⟨-, -, hlatest, -, hfirst, -⟩ := hexchanges question none 5 atOnce (by decide)
  exact ⟨hlatest, hfirst, hservers patient _ blank_patient⟩

end Server

end Coap
