import Coap.Proofs.Delivery.Histories

/-!
# Sessions of replies

Everything that is deposited in an exchange carries the session in which its request arrived. So a
reply carries the session of the message that it answers, except to a duplicate: that one gets what was
deposited for the request it repeats, in the session of that request.

* `Handling.invariant_inSession` — deposits carry the session of their exchange.
* `Server.reply_session` — the session of a reply.
* `Server.reply_session_foreign` — a question that is repeated in another session.
-/

namespace Coap

variable {ν : Type}

/-! ### Deposits -/

/-- Everything deposited carries the session of the exchange. -/
def Exchange.InSession (e : Exchange) : Prop := ∀ r ∈ e.responses, r.data.session = e.session

theorem IsFinal.session {m : Addressed Message} {session : Option Session} {announced rejected : Bool}
    {r : Addressed Response} (h : IsFinal m session announced rejected r) : r.data.session = session := by
  cases rejected with
  | true =>
    cases h
    rfl
  | false => exact IsAnswer.session h

namespace Exchange

variable {e : Exchange}

theorem InSession.accept (h : e.InSession) (now : Instant) :
    (e.accept now e.interim?).1.InSession := by
  unfold Exchange.accept
  split
  · intro r hr
    simp only [responses, List.map_append, data_interim, List.mem_append, Option.mem_toList] at hr
    rcases hr with hr | hr
    · exact h r hr
    · rw [interim?_eq] at hr
      split at hr
      · cases hr
        rfl
      · cases hr
  · exact h

theorem InSession.complete (h : e.InSession) (now : Instant) {final : Addressed Response}
    (hfinal : final.data.session = e.session) (rejected : Bool) :
    (e.complete now final rejected).1.InSession := by
  unfold Exchange.complete
  split
  · exact h
  · intro r hr
    simp only [responses, List.map_append, List.mem_append, List.map_cons, List.map_nil,
      List.mem_singleton] at hr
    rcases hr with hr | rfl
    · exact h r hr
    · exact hfinal

/-- What was deposited first is among what was deposited. -/
theorem mem_responses_of_first? {r : Addressed Response} (h : e.first? = some r) :
    r ∈ e.responses := by
  obtain ⟨d, hd, rfl⟩ := Option.map_eq_some_iff.mp h
  exact List.mem_map.mpr ⟨d, List.mem_of_head? hd, rfl⟩

end Exchange

/-- Calls deposit nothing outside the session of the exchange. -/
theorem Handling.invariant_inSession :
    Handling.Invariant fun _ (h : Handling ν) => h.exchange.InSession := by
  refine .of_perform (fun h c hin => ?_) fun _ _ _ _ hin => hin
  rcases h.perform_exchange c with hsame | ⟨-, hsame⟩ | ⟨final, rejected, marker, hfinal, hsame⟩
  · rwa [hsame]
  · rw [hsame]
    exact hin.accept h.site.now
  · rw [hsame]
    exact hin.complete h.site.now hfinal.session rejected

namespace Server

variable {s : Server ν} {m : Addressed Message} {session : Option Session}

/-! ### Replies -/

/-- What is deposited for a request carries its session. -/
theorem inSession_dispatch : (s.handling m session).dispatch.exchange.InSession :=
  Handling.invariant_inSession.dispatch (fun _ h => nomatch h) fun _ _ h => nomatch h

/-- The exchange whose request a message repeats. -/
def original? (s : Server ν) (m : Addressed Message) : Option Exchange :=
  if m.data.isRequest then s.dedup.find? (.ofId m) else none

/-- A message that repeats no request is answered in its own session. -/
theorem session_of_new {r : Addressed Response} (hr : (s.deliver m session).2 = some r)
    (hnew : s.original? m = none) : r.data.session = session := by
  cases hrequest : m.data.isRequest with
  | false =>
    obtain rfl := s.eq_reset_of_not_isRequest m session hrequest hr
    rfl
  | true =>
    rw [original?, if_pos hrequest] at hnew
    rw [deliver_of_find?_eq_none hrequest hnew] at hr
    obtain ⟨hsound, -, -, hsession, -⟩ := (s.sound_handling m session).dispatch
    have hlatest : (s.handling m session).dispatch.exchange.latest? = some r := hr
    rw [Exchange.latest?_eq hsound.inTime] at hlatest
    exact (inSession_dispatch r (List.mem_of_getLast? hlatest)).trans hsession

/-- A duplicate is answered with what was deposited in the exchange of the request it repeats. -/
theorem mem_responses_of_original? {e : Exchange} {r : Addressed Response}
    (hr : (s.deliver m session).2 = some r) (h : s.original? m = some e) : r ∈ e.responses := by
  unfold original? at h
  split at h
  · next hrequest =>
    rw [deliver_of_find? hrequest h, replay_snd] at hr
    exact Exchange.mem_responses_of_first? hr
  · cases h

/-! ### Histories -/

/-- **Sessions of replies.** Let a message arrive at a server that held nothing at first, whatever has
happened since. If it repeats a request whose exchange is retained, then that request arrived before,
with the same id and from the same peer, and the reply carries the session in which it arrived. So the
reply carries the session of the message if and only if it repeats none, or one that arrived in the
same session. -/
theorem reply_session {s₀ : Server ν} (hblank : s₀.dedup.Blank) (acts : List (Act ν))
    (m : Addressed Message) (session : Option Session) {r : Addressed Response}
    (hr : ((s₀.history acts).deliver m session).2 = some r) :
    (r.data.session = session ↔
        ∀ e, (s₀.history acts).original? m = some e → e.session = session) ∧
      ∀ e, (s₀.history acts).original? m = some e →
        r.data.session = e.session ∧ Key.ofId e.request = .ofId m ∧
          .input (.deliver e.request e.session) ∈ acts := by
  -- what is held was deposited in the session of a request that arrived
  have hheld : (s₀.history acts).dedup.Holds fun key e =>
      Key.ofId e.request = key ∧ .input (.deliver e.request e.session) ∈ acts ∧ e.InSession := by
    refine holds_history (hblank.mono fun _ _ h => h.elim) fun s m session hmem _ => ?_
    obtain ⟨-, -, hrequest, hsession, -⟩ := (s.sound_handling m session).dispatch
    have hrequest : (s.handling m session).dispatch.exchange.request = m := hrequest
    have hsession : (s.handling m session).dispatch.exchange.session = session := hsession
    rw [hrequest, hsession]
    exact ⟨rfl, hmem, inSession_dispatch⟩
  have hdup : ∀ e, (s₀.history acts).original? m = some e →
      r.data.session = e.session ∧ Key.ofId e.request = .ofId m ∧
        .input (.deliver e.request e.session) ∈ acts := by
    intro e he
    have hfind : (s₀.history acts).dedup.find? (.ofId m) = some e := by
      unfold original? at he
      split at he
      · exact he
      · cases he
    obtain ⟨hkey, hmem, hin⟩ := hheld.find? hfind
    exact ⟨hin r (mem_responses_of_original? hr he), hkey, hmem⟩
  refine ⟨⟨fun h e he => (hdup e he).1.symm.trans h, fun h => ?_⟩, hdup⟩
  cases horiginal : (s₀.history acts).original? m with
  | none => exact session_of_new hr horiginal
  | some e => exact (hdup e horiginal).1.trans (h e horiginal)

/-! ### A question asked twice -/

/-- The session of one peer. -/
def frog : Session := ⟨1, some "frog"⟩

/-- The session of another. -/
def toad : Session := ⟨2, some "toad"⟩

/-- The question is answered in the session in which it arrives. -/
theorem reply_session_own :
    ∃ r, ((patient.history []).deliver question (some frog)).2 = some r ∧
      r.data.session = some frog := by
  have hsome : ((patient.history []).deliver question (some frog)).2.isSome = true := by decide
  have hnew : (patient.history []).original? question = none := rfl
  obtain ⟨r, hr⟩ := Option.isSome_iff_exists.mp hsome
  have hsession := (reply_session blank_patient [] question (some frog) hr).1
  exact ⟨r, hr, hsession.mpr fun e he => nomatch hnew.symm.trans he⟩

/-- If it is repeated in another session, the answer is in the first one again. -/
theorem reply_session_foreign :
    ¬ ∀ (s₀ : Server Unit) (acts : List (Act Unit)) m session r, s₀.dedup.Blank →
      ((s₀.history acts).deliver m session).2 = some r → r.data.session = session := by
  intro hall
  have hreply : ((patient.history [.input (.deliver question (some frog))]).deliver question
      (some toad)).2 = some (emptyAck question (some frog)) := by
    have hnew : patient.dedup.find? (.ofId question) = none := rfl
    have hrequest : question.data.isRequest = true := rfl
    obtain ⟨e, final, first, -, hduplicate⟩ :=
      duplicate_run (some frog) (some toad) hnew hrequest hrequest rfl []
    have hannounced : patient.announces question (some frog) = true := by decide
    have hfirst := first.first?_eq
    rw [if_pos ⟨rfl, hannounced⟩] at hfirst
    rw [← hfirst]
    exact congrArg Prod.snd hduplicate
  exact absurd (hall patient _ question (some toad) _ blank_patient hreply) (by decide)

end Server

end Coap
