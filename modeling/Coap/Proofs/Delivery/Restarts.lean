import Coap.Proofs.Delivery.Histories

/-!
# Servers that are started again

A server that runs may be started once more. If any endpoint starts, the deduplicator goes on as it was.
If none does, it is stopped, although it was not this start that had started it: everything that was
retained is forgotten, the worker stops, and a request that is repeated is dispatched again.

* `Server.start_of_allRunning` — where all endpoints run, none is started again.
* `Server.Spares`, `Server.Undisturbed` — what leaves the exchange under a key retained.
* `Server.Retained.history` — as long as nothing else happens, it is.
* `Server.restarts` — what a further start does, and what becomes of a request that is repeated.
* `Server.restarts_forgotten` — a question that is dispatched twice.
-/

namespace Coap

variable {ν : Type}

/-! ### Endpoints that run -/

/-- An endpoint that runs is told to start, and refuses. -/
theorem Endpoint.start_of_isRunning {e : Endpoint} (h : e.isRunning = true) (net : Udp.Network) :
    ∃ cause, e.start net = (e.told .start, net, .error cause) := by
  obtain ⟨address, transport, deliverer, calls⟩ := e
  unfold isRunning at h
  split at h
  · next bound nextId htransport =>
    cases htransport
    cases deliverer with
    | none => exact ⟨.noDeliverer, rfl⟩
    | some d => exact ⟨.invalidState "already running", rfl⟩
  · cases h

namespace Server

variable {s : Server ν} {key : Key} {e : Exchange}

/-- Do all of some endpoints run? -/
def allRunning (s : Server ν) (places : List Nat) : Bool :=
  places.all fun i => (s.endpoints[i]?).any Endpoint.isRunning

/-- Of endpoints that run none is started again. -/
theorem length_startAll_of_allRunning {places : List Nat} (h : s.allRunning places = true) :
    (s.startAll places).2.length = places.length := by
  induction places generalizing s with
  | nil => rfl
  | cons i places ih =>
    obtain ⟨hi, hrest⟩ := Bool.and_eq_true_iff.mp h
    obtain ⟨e, he, hrunning⟩ := (Option.any_eq_true _ _).mp hi
    obtain ⟨cause, hstart⟩ := e.start_of_isRunning hrunning s.network
    have hone : s.startEndpoint i =
        ({ s with endpoints := s.endpoints.set i (e.told .start) },
          some ((e.told .start).localAddress, .error cause)) := by
      unfold startEndpoint
      simp only [he, hstart]
    rw [startAll, hone]
    refine congrArg (· + 1) (ih (List.all_eq_true.mpr fun j hj => ?_))
    -- the others run as before, and so does this one, if it is listed twice
    show ((s.endpoints.set i (e.told .start))[j]?).any Endpoint.isRunning = true
    have hbefore := List.all_eq_true.mp hrest j hj
    rw [List.getElem?_set]
    split
    · next hsame =>
      subst hsame
      split
      · exact hrunning
      · next hlen => simp [hlen] at he
    · exact hbefore

/-- **No further start.** A server all of whose endpoints run does not start. -/
theorem start_of_allRunning (hlisted : s.listed ≠ []) (h : s.allRunning s.listed = true) :
    ∃ cause, s.start.2 = .error cause := by
  have hendpoint : ({ s with site := s.site.draw.2 } : Server ν).withEndpoint s.site.draw.1.id =
      { s with site := s.site.draw.2 } := by
    unfold withEndpoint
    exact if_neg (by simpa using hlisted)
  have hplaces : s.launched.listed = s.listed ∧ s.launched.endpoints = s.endpoints := by
    unfold launched driveDedup
    rw [hendpoint]
    split <;> exact ⟨rfl, rfl⟩
  have hrunning : s.launched.allRunning s.launched.listed = true := by
    unfold allRunning
    rw [hplaces.1, hplaces.2]
    exact h
  rw [start_eq]
  dsimp only
  rw [if_pos (length_startAll_of_allRunning hrunning)]
  exact ⟨_, rfl⟩

/-! ### What a start does -/

/-- A start that succeeds forgets nothing, and neither does one of a server that does not drive its
deduplicator. -/
theorem find?_start_of_spared (h : s.drivesDedup = true → s.start.2 = .ok ()) (key : Key) :
    s.start.1.dedup.find? key = s.dedup.find? key := by
  rw [s.managed_start.dedup]
  unfold dedupAfter
  cases hdrives : s.drivesDedup with
  | false => split <;> rfl
  | true =>
    rw [h hdrives]
    rfl

theorem running_start_of_spared (h : s.drivesDedup = true → s.start.2 = .ok ())
    (hrunning : s.dedup.running = true) : s.start.1.dedup.running = true := by
  rw [s.managed_start.dedup]
  unfold dedupAfter
  cases hdrives : s.drivesDedup with
  | false => split <;> exact hrunning
  | true =>
    rw [h hdrives]
    rfl

/-- A start that fails forgets everything. -/
theorem stopped_of_start_eq_error {cause : StartError} (hdrives : s.drivesDedup = true)
    (h : s.start.2 = .error cause) :
    s.start.1.dedup.running = false ∧ ∀ key, s.start.1.dedup.find? key = none := by
  rw [s.managed_start.dedup, h]
  simp only [dedupAfter, hdrives, if_true]
  exact ⟨rfl, s.dedup.find?_stop⟩

/-! ### Exchanges that stay retained -/

/-- What leaves the exchange under a key retained: a start that succeeds, and a period of the worker
that keeps it. -/
def Spares (s : Server ν) (key : Key) : Act ν → Prop
  | .input _ | .rewire .. => True
  | .start => s.drivesDedup = true → s.start.2 = .ok ()
  | .stop => s.drivesDedup = false
  | .tick => s.dedup.running = true → s.dedup.keeps s.site.now key = true

/-- Everything that happens leaves the exchange under a key retained. -/
def Undisturbed (s : Server ν) (key : Key) : List (Act ν) → Prop
  | [] => True
  | a :: acts => s.Spares key a ∧ (s.act a).Undisturbed key acts

/-- The exchange under a key is retained, if not among the most recent ones, and something was
deposited in it. -/
structure Retained (s : Server ν) (key : Key) (e : Exchange) : Prop where
  held : s.dedup.Holds fun _ _ => True
  found : s.dedup.find? key = some e
  answered : ∃ first, e.first? = some first

/-- One server after another: the exchange under a key is retained, nothing more was dispatched under
that key, and the worker still runs if it did. -/
structure Retains (s s' : Server ν) (key : Key) (e : Exchange) : Prop extends s'.Retained key e where
  dispatches : s'.site.dispatches key = s.site.dispatches key
  running : s.dedup.running = true → s'.dedup.running = true

theorem Retains.trans {t u : Server ν} (h : s.Retains t key e) (h' : t.Retains u key e) :
    s.Retains u key e :=
  ⟨h'.toRetained, h'.dispatches.trans h.dispatches, h'.running ∘ h.running⟩

theorem Retained.refl (h : s.Retained key e) : s.Retains s key e := ⟨h, rfl, id⟩

/-- Messages neither start nor stop the worker. -/
theorem running_deliver (m : Addressed Message) (session : Option Session) :
    (s.deliver m session).1.dedup.running = s.dedup.running := by
  have hoffer : (s.offered m session).1.running = s.dedup.running :=
    Deduplicator.running_offer _ _ _ _
  cases hrequest : m.data.isRequest with
  | false => rw [s.deliver_of_not_isRequest m session hrequest]
  | true =>
    cases hfind : s.dedup.find? (.ofId m) with
    | none =>
      rw [deliver_of_find?_eq_none hrequest hfind]
      exact (Deduplicator.running_amend _ _ _).trans hoffer
    | some e =>
      rw [deliver_of_find? hrequest hfind]
      exact hoffer

/-- A duplicate gets what was deposited first in the exchange that is retained, and that exchange
stays. -/
theorem Retained.deliver (h : s.Retained key e) {m : Addressed Message}
    (hrequest : m.data.isRequest = true) (hkey : Key.ofId m = key) (session : Option Session) :
    (s.deliver m session).2 = e.first? ∧ s.Retains (s.deliver m session).1 key e := by
  subst hkey
  obtain ⟨first, hfirst⟩ := h.answered
  have hdeliver : s.deliver m session =
      ({ s with dedup := (s.offered m session).1 }, some first) := by
    rw [deliver_of_find? hrequest h.found]
    simp only [replay, Site.replay, hfirst]
  rw [hdeliver]
  refine ⟨hfirst.symm, ⟨?_, ?_, first, hfirst⟩, rfl, fun hrunning => ?_⟩
  · exact h.held.offer (fun _ => trivial) _
  · exact Deduplicator.find?_of_current? (Deduplicator.current?_offer h.found _ _)
  · exact (Deduplicator.running_offer _ _ _ _).trans hrunning

/-- **One step.** -/
theorem Retained.act (h : s.Retained key e) {a : Act ν} (hspares : s.Spares key a) :
    s.Retains (s.act a) key e := by
  have hheld : (s.act a).dedup.Holds fun _ _ => True := holds_act h.held fun _ _ _ _ => trivial
  cases a with
  | input i =>
    rcases i.request_or_other key with ⟨m, session, rfl, hrequest, rfl⟩ | hother
    · exact (h.deliver hrequest rfl session).2
    · have hframe : s.Agrees (s.step i) key := step_frame hother
      refine ⟨⟨hheld, hframe.find?.trans h.found, h.answered⟩, hframe.dispatches, ?_⟩
      cases i with
      | deliver m session => exact (running_deliver m session).trans
      | meanwhile tree observers nonces elapsed => exact id
  | rewire endpoints listed deliverer network => exact ⟨⟨hheld, h.found, h.answered⟩, rfl, id⟩
  | start =>
    have hfind : s.start.1.dedup.find? key = some e :=
      (find?_start_of_spared hspares key).trans h.found
    exact ⟨⟨hheld, hfind, h.answered⟩, s.managed_start.continues.dispatches_eq key,
      running_start_of_spared hspares⟩
  | stop =>
    have hsame : s.stop.dedup = s.dedup := by
      rw [s.managed_stop.dedup, show s.drivesDedup = false from hspares]
      rfl
    have hfind : s.stop.dedup.find? key = some e := by rw [hsame, h.found]
    exact ⟨⟨hheld, hfind, h.answered⟩, s.managed_stop.continues.dispatches_eq key,
      (congrArg Deduplicator.running hsame).trans⟩
  | tick =>
    cases hrunning : s.dedup.running with
    | false =>
      have hsame : s.act .tick = s := if_neg (by simp [hrunning])
      rw [hsame]
      exact h.refl
    | true =>
      have hticked : s.act .tick = { s with dedup := s.dedup.tick s.site.now } := if_pos hrunning
      have hfind : (s.dedup.tick s.site.now).find? key = some e :=
        (Deduplicator.find?_tick_of_keeps h.held (hspares hrunning)).trans h.found
      rw [hticked] at hheld ⊢
      exact ⟨⟨hheld, hfind, h.answered⟩, rfl, (Deduplicator.running_tick _ _).trans⟩

/-- **Many steps.** -/
theorem Retained.history (h : s.Retained key e) {acts : List (Act ν)}
    (hundisturbed : s.Undisturbed key acts) : s.Retains (s.history acts) key e := by
  induction acts generalizing s with
  | nil => exact h.refl
  | cons a acts ih =>
    obtain ⟨hspares, hrest⟩ := hundisturbed
    have hone := h.act hspares
    exact hone.trans (ih hone.toRetained hrest)

/-- The exchange of a request under a new key is retained once it was delivered. -/
theorem retained_deliver (hheld : s.dedup.Holds fun _ _ => True) {m : Addressed Message}
    (hrequest : m.data.isRequest = true) (hnew : s.dedup.find? (.ofId m) = none)
    (session : Option Session) :
    ∃ e, (s.deliver m session).1.Retained (.ofId m) e ∧ e.request = m ∧
      (s.deliver m session).1.site.dispatches (.ofId m) = s.site.dispatches (.ofId m) ++ [m] := by
  obtain ⟨-, final, first⟩ := s.deliver_of_new m session hnew hrequest
  obtain ⟨⟨hcurrent, hanswered⟩, hdispatches⟩ := first.answered
  refine ⟨_, ⟨?_, Deduplicator.find?_of_current? hcurrent, hanswered⟩, first.request, hdispatches⟩
  exact holds_deliver hheld session fun _ => trivial

/-! ### Further starts -/

/-- **Starting again.** Let a server that held nothing at first be started, whatever has happened
since. If the start succeeds, or the server does not drive its deduplicator, everything that was
retained still is, and the worker runs if it did. If it fails and the server drives its deduplicator,
nothing is retained any more, and the worker does not run; where all endpoints run already, it does
fail.

So a request that is repeated is not dispatched again if every start in between succeeds, no stop comes
in between and the worker keeps its exchange: it gets what was deposited first in that one. -/
theorem restarts {s₀ : Server ν} (hblank : s₀.dedup.Blank) (before : List (Act ν)) :
    let s := s₀.history before
    ((s.drivesDedup = true → s.start.2 = .ok ()) →
        (∀ key, s.start.1.dedup.find? key = s.dedup.find? key) ∧
          (s.dedup.running = true → s.start.1.dedup.running = true)) ∧
      (∀ cause, s.drivesDedup = true → s.start.2 = .error cause →
        s.start.1.dedup.running = false ∧ ∀ key, s.start.1.dedup.find? key = none) ∧
      (s.listed ≠ [] → s.allRunning s.listed = true → ∃ cause, s.start.2 = .error cause) ∧
      ∀ request session between duplicate session',
        request.data.isRequest = true → s.dedup.find? (.ofId request) = none →
        duplicate.data.isRequest = true → Key.ofId duplicate = .ofId request →
        let first := (s.deliver request session).1
        let later := first.history between
        first.Undisturbed (.ofId request) between →
          ∃ e, later.dedup.find? (.ofId request) = some e ∧ e.request = request ∧
            (later.deliver duplicate session').2 = e.first? ∧
            (later.deliver duplicate session').1.site.dispatches (.ofId request) =
              s.site.dispatches (.ofId request) ++ [request] ∧
            (s.dedup.running = true → later.dedup.running = true) := by
  intro s
  -- nothing is asked of the exchanges; it is the ring of generations that has to be in order
  have hheld : s.dedup.Holds fun _ _ => True :=
    holds_history (hblank.mono fun _ _ h => h.elim) fun _ _ _ _ _ => trivial
  refine ⟨fun hspared => ⟨find?_start_of_spared hspared, running_start_of_spared hspared⟩,
    fun cause => stopped_of_start_eq_error, start_of_allRunning, ?_⟩
  intro request session between duplicate session' hrequest hnew hduplicate hkey first later
    hundisturbed
  obtain ⟨e, hretained, hrequestOf, hdispatches⟩ := retained_deliver hheld hrequest hnew session
  have hlater : first.Retains later (.ofId request) e := hretained.history hundisturbed
  obtain ⟨hreply, hagain⟩ := hlater.toRetained.deliver hduplicate hkey session'
  refine ⟨e, hlater.found, hrequestOf, hreply, ?_, fun hrunning => hlater.running ?_⟩
  · rw [hagain.dispatches, hlater.dispatches]
    exact hdispatches
  · exact (running_deliver request session).trans hrunning

/-! ### A question and a start -/

/-- An endpoint that always starts. -/
def willing : Endpoint := .external ⟨.v4 0, 5684⟩ (.ok ()) (.ok ())

/-- If the endpoint that is started next is another one, the question is not dispatched again. -/
theorem restarts_willing :
    let retained := (patient.start.1.deliver question none).1
    let later := retained.history [.rewire [willing] [0] .dispatcher ⟨[], true⟩, .start]
    later.dedup.running = true ∧
      (later.deliver repetition none).1.site.dispatches (.ofId question) = [question] := by
  have hstart : patient.start.2 = .ok () := by decide
  have hnew : patient.start.1.dedup.find? (.ofId question) = none :=
    find?_start_of_spared (fun _ => hstart) _
  obtain ⟨-, -, -, hrepeated⟩ := restarts blank_patient [.start]
  obtain ⟨e, -, -, -, hdispatches, hrunning⟩ := hrepeated question none
    [.rewire [willing] [0] .dispatcher ⟨[], true⟩, .start] repetition none rfl hnew rfl rfl
    ⟨trivial, fun _ => rfl, trivial⟩
  exact ⟨hrunning (by decide), hdispatches⟩

/-- If it is the same one, which runs already, everything is forgotten, and the question is dispatched
a second time. -/
theorem restarts_forgotten :
    let retained := (patient.start.1.deliver question none).1
    patient.start.2 = .ok () ∧ (∃ e, retained.dedup.find? (.ofId question) = some e) ∧
      retained.start.1.dedup.find? (.ofId question) = none ∧
      retained.start.1.dedup.running = false ∧
      (retained.history [.start, .input (.deliver question none)]).site.dispatches (.ofId question)
        = [question, question] := by
  intro retained
  have hstart : patient.start.2 = .ok () := by decide
  have hheld : patient.start.1.dedup.Holds fun _ _ => True :=
    holds_act (a := .start) (blank_patient.mono fun _ _ h => h.elim) fun _ _ _ _ => trivial
  have hnew : patient.start.1.dedup.find? (.ofId question) = none :=
    find?_start_of_spared (fun _ => hstart) _
  obtain ⟨e, hretained, -, honce⟩ := retained_deliver hheld rfl hnew none
  obtain ⟨cause, hfails⟩ := start_of_allRunning (s := retained) (by decide) (by decide)
  obtain ⟨hstopped, hforgotten⟩ := stopped_of_start_eq_error rfl hfails
  obtain ⟨-, -, -, htwice⟩ := retained_deliver (s := retained.start.1) (m := question)
    (holds_act (a := .start) hretained.held fun _ _ _ _ => trivial) rfl (hforgotten _) none
  refine ⟨hstart, ⟨e, hretained.found⟩, hforgotten _, hstopped, htwice.trans ?_⟩
  rw [retained.managed_start.continues.dispatches_eq, honce]
  rfl

end Server

end Coap
