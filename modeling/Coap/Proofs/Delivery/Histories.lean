import Coap.Proofs.Dedup.Contents
import Coap.Proofs.Delivery.Once
import Coap.Server.Lifecycle

/-!
# Histories of a server

Between the messages that arrive, a server is started and stopped, its endpoints change, and the worker
of its deduplicator drops what is old.

* `Server.Act`, `Server.act`, `Server.history` — what can happen to a server.
* `Server.Neutral` — what holds whenever one endpoint is started or stopped holds for several.
* `Server.Managed` — starting and stopping touch endpoints, the journal and the deduplicator.
* `Server.managed_start`, `Server.managed_stop` — what they do to the deduplicator.
* `Server.deliver_of_find?`, `Server.deliver_of_find?_eq_none` — a request with a retained exchange,
  and one without.
* `Server.holds_history` — a property of all exchanges that are held.
-/

namespace Coap

variable {ν : Type}

namespace Server

/-- Something that happens to a server. -/
inductive Act (ν : Type) where
  /-- A message arrives, or time passes. -/
  | input (i : Input ν)
  /-- Endpoints come and go, and sockets with them. -/
  | rewire (endpoints : List Endpoint) (listed : List Nat) (deliverer : Deliverer)
      (network : Udp.Network)
  /-- The server is started. -/
  | start
  /-- The server is stopped. -/
  | stop
  /-- The period of the worker is over. -/
  | tick

/-- The server after something has happened. -/
def act (s : Server ν) : Act ν → Server ν
  | .input i => s.step i
  | .rewire endpoints listed deliverer network => { s with endpoints, listed, deliverer, network }
  | .start => s.start.1
  | .stop => s.stop
  | .tick => if s.dedup.running then { s with dedup := s.dedup.tick s.site.now } else s

/-- The server after some things have happened, one after the other. -/
def history (s : Server ν) (acts : List (Act ν)) : Server ν := acts.foldl act s

/-! ### Starting and stopping -/

/-- The server was managed: endpoints may have changed and things may have been reported, and the
deduplicator is the given one. -/
structure Managed (s s' : Server ν) (dedup : Deduplicator Exchange) : Prop where
  dedup : s'.dedup = dedup
  drives : s'.drivesDedup = s.drivesDedup
  now : s'.site.now = s.site.now
  continues : s.site.Continues s'.site

theorem Managed.refl (s : Server ν) : s.Managed s s.dedup := ⟨rfl, rfl, rfl, .refl _⟩

theorem Managed.trans {s t u : Server ν} {dedup dedup' : Deduplicator Exchange}
    (h : s.Managed t dedup) (h' : t.Managed u dedup') : s.Managed u dedup' :=
  ⟨h'.dedup, h'.drives.trans h.drives, h'.now.trans h.now, h.continues.trans h'.continues⟩

/-- Changes to the endpoints leave the deduplicator to what was done to it before. -/
theorem Managed.then {s t u : Server ν} {dedup : Deduplicator Exchange} (h : s.Managed t dedup)
    (h' : t.Managed u t.dedup) : s.Managed u dedup :=
  h.dedup ▸ h.trans h'

/-- **Neutrality.** A relation between a server and what becomes of it that holds whenever an endpoint is
started or stopped, and when something is reported. -/
structure Neutral (R : Server ν → Server ν → Prop) : Prop where
  refl : ∀ s, R s s
  trans : ∀ {s t u}, R s t → R t u → R s u
  report : ∀ s severity text, R s (s.report severity text)
  start : ∀ s i, R s (s.startEndpoint i).1
  stop : ∀ s i, R s (s.stopEndpoint i).1

/-- It holds when several endpoints are started. -/
theorem Neutral.startAll {R : Server ν → Server ν → Prop} (neutral : Neutral R) (s : Server ν)
    (places : List Nat) : R s (s.startAll places).1 := by
  induction places generalizing s with
  | nil => exact neutral.refl s
  | cons i places ih =>
    have hone := neutral.start s i
    rw [Server.startAll]
    split
    · next heq =>
      rw [heq] at hone
      exact neutral.trans hone (neutral.trans (neutral.report _ _ _) (ih _))
    · next heq =>
      rw [heq] at hone
      exact neutral.trans hone (ih _)

/-- It holds when several endpoints are stopped. -/
theorem Neutral.stopAll {R : Server ν → Server ν → Prop} (neutral : Neutral R) (s : Server ν)
    (places : List Nat) : R s (s.stopAll places) := by
  induction places generalizing s with
  | nil => exact neutral.refl s
  | cons i places ih =>
    have hone := neutral.stop s i
    rw [Server.stopAll]
    split
    · next heq =>
      rw [heq] at hone
      exact neutral.trans hone (neutral.trans (neutral.report _ _ _) (ih _))
    · next heq =>
      rw [heq] at hone
      exact neutral.trans hone (ih _)

theorem neutral_managed : Neutral fun s t : Server ν => s.Managed t s.dedup where
  refl := Managed.refl
  trans h h' := h.then h'
  report _ _ _ := ⟨rfl, rfl, rfl, Site.continues_record _ rfl⟩
  start s i := by
    unfold startEndpoint
    split
    · exact .refl s
    · exact ⟨rfl, rfl, rfl, .refl _⟩
  stop s i := by
    unfold stopEndpoint
    split
    · exact .refl s
    · exact ⟨rfl, rfl, rfl, .refl _⟩

theorem managed_driveDedup (s : Server ν) (f : Deduplicator Exchange → Deduplicator Exchange) :
    s.Managed (s.driveDedup f) (if s.drivesDedup then f s.dedup else s.dedup) := by
  unfold driveDedup
  split <;> exact ⟨rfl, rfl, rfl, .refl _⟩

/-- The server before its endpoints are started: with its default endpoint, if it needs one, and with
its deduplicator started. -/
def launched (s : Server ν) : Server ν :=
  ({ s with site := s.site.draw.2 }.withEndpoint s.site.draw.1.id).driveDedup (·.start)

theorem managed_launched (s : Server ν) :
    s.Managed s.launched (if s.drivesDedup then s.dedup.start else s.dedup) := by
  have hendpoint : s.Managed ({ s with site := s.site.draw.2 }.withEndpoint s.site.draw.1.id)
      s.dedup := by
    unfold withEndpoint
    split <;> exact ⟨rfl, rfl, rfl, .of_eq rfl rfl⟩
  have hdriven := hendpoint.trans (managed_driveDedup _ (·.start))
  rwa [hendpoint.drives, hendpoint.dedup] at hdriven

theorem start_eq (s : Server ν) :
    s.start =
      let (after, failed) := s.launched.startAll s.launched.listed
      if failed.length = s.launched.listed.length then
        (after.driveDedup (·.stop), .error (.noEndpointStarted failed))
      else (after, .ok ()) := rfl

/-- What a start with a given result does to a deduplicator. -/
def dedupAfter (s : Server ν) : Except StartError Unit → Deduplicator Exchange
  | .ok _ => if s.drivesDedup then s.dedup.start else s.dedup
  | .error _ => if s.drivesDedup then s.dedup.stop else s.dedup

/-- **Starting.** A start that succeeds starts the deduplicator, and one that fails stops it, whether
or not it ran before. -/
theorem managed_start (s : Server ν) : s.Managed s.start.1 (s.dedupAfter s.start.2) := by
  have hall := s.managed_launched.then (neutral_managed.startAll s.launched s.launched.listed)
  rw [start_eq]
  generalize s.launched.startAll s.launched.listed = result at hall ⊢
  obtain ⟨after, failed⟩ := result
  dsimp only at hall ⊢
  split
  · -- the deduplicator was started before, which makes no difference to the stop
    have hstopped := hall.trans (managed_driveDedup after (·.stop))
    rw [hall.drives, hall.dedup] at hstopped
    cases hdrives : s.drivesDedup <;> simpa [dedupAfter, hdrives, Deduplicator.stop_start] using hstopped
  · exact hall

/-- **Stopping.** -/
theorem managed_stop (s : Server ν) :
    s.Managed s.stop (if s.drivesDedup then s.dedup.stop else s.dedup) := by
  have hall := neutral_managed.stopAll s s.listed
  have hstopped := hall.trans (managed_driveDedup _ (·.stop))
  rwa [hall.drives, hall.dedup] at hstopped

/-! ### Requests -/

variable {s : Server ν} {m : Addressed Message}

theorem offered_eq (s : Server ν) (m : Addressed Message) (session : Option Session) :
    s.offered m session = ((s.offered m session).1, s.dedup.find? (.ofId m)) :=
  Prod.ext rfl (Deduplicator.offer_snd _ _ _ _)

/-- A request under the key of an exchange that is retained gets what was deposited first in it. -/
theorem deliver_of_find? {e : Exchange} (hrequest : m.data.isRequest = true)
    (h : s.dedup.find? (.ofId m) = some e) (session : Option Session) :
    s.deliver m session = { s with dedup := (s.offered m session).1 }.replay e := by
  rw [s.deliver_of_isRequest m session hrequest, handleRequest_eq, offered_eq, h]

/-- A request under a new key is dispatched, and gets what its handler deposited last. -/
theorem deliver_of_find?_eq_none (hrequest : m.data.isRequest = true)
    (h : s.dedup.find? (.ofId m) = none) (session : Option Session) :
    s.deliver m session =
      let after := (s.handling m session).dispatch
      ({ s with
          site := after.site
          dedup := (s.offered m session).1.amend (.ofId m) fun _ => after.exchange },
        after.exchange.latest?) := by
  rw [s.deliver_of_isRequest m session hrequest, handleRequest_eq, offered_eq, h]

theorem replay_snd (s : Server ν) (e : Exchange) : (s.replay e).2 = e.first? := by
  unfold replay Site.replay
  cases e.first? <;> rfl

/-! ### Exchanges that are held -/

/-- What is held after a message has arrived. -/
theorem holds_deliver {P : Key → Exchange → Prop} (h : s.dedup.Holds P) (session : Option Session)
    (hnew : m.data.isRequest = true → P (.ofId m) (s.handling m session).dispatch.exchange) :
    (s.deliver m session).1.dedup.Holds P := by
  cases hrequest : m.data.isRequest with
  | false =>
    rw [s.deliver_of_not_isRequest m session hrequest]
    exact h
  | true =>
    cases hfind : s.dedup.find? (.ofId m) with
    | none =>
      rw [deliver_of_find?_eq_none hrequest hfind]
      exact h.offer_amend _ _ (hnew hrequest)
    | some e =>
      rw [deliver_of_find? hrequest hfind]
      exact h.offer (fun hnone => nomatch hfind.symm.trans hnone) _

/-- What is held after something has happened. -/
theorem holds_act {P : Key → Exchange → Prop} (h : s.dedup.Holds P) {a : Act ν}
    (hnew : ∀ m session, a = .input (.deliver m session) → m.data.isRequest = true →
      P (.ofId m) (s.handling m session).dispatch.exchange) : (s.act a).dedup.Holds P := by
  cases a with
  | input i =>
    cases i with
    | deliver m session => exact holds_deliver h session (hnew m session rfl)
    | meanwhile tree observers nonces elapsed => exact h
  | rewire endpoints listed deliverer network => exact h
  | start =>
    show s.start.1.dedup.Holds P
    rw [s.managed_start.dedup]
    unfold dedupAfter
    split <;> split
    · exact h.start
    · exact h
    · exact h.stop
    · exact h
  | stop =>
    show s.stop.dedup.Holds P
    rw [s.managed_stop.dedup]
    split
    · exact h.stop
    · exact h
  | tick =>
    show Deduplicator.Holds P (ite _ _ _ : Server ν).dedup
    split
    · exact h.tick s.site.now
    · exact h

/-- **A property of all exchanges.** What the exchanges of all requests have when they are dispatched,
everything that is held has at any time. -/
theorem holds_history {P : Key → Exchange → Prop} {acts : List (Act ν)} (h : s.dedup.Holds P)
    (hnew : ∀ (s : Server ν) m session, .input (.deliver m session) ∈ acts →
      m.data.isRequest = true → P (.ofId m) (s.handling m session).dispatch.exchange) :
    (s.history acts).dedup.Holds P := by
  induction acts generalizing s with
  | nil => exact h
  | cons a acts ih =>
    refine ih (holds_act h fun m session ha => ?_) fun s m session hmem => ?_
    · exact hnew s m session (ha ▸ List.mem_cons_self)
    · exact hnew s m session (List.mem_cons_of_mem a hmem)

/-- A server holds nothing at first. -/
theorem blank_of_new? {config : Config} {tree : Tree (Resource ν)} {nonces : Nat → Nonce}
    {network : Udp.Network} (h : new? config tree nonces network = some s) : s.dedup.Blank := by
  obtain ⟨dedup, hdedup, rfl⟩ := Option.map_eq_some_iff.mp h
  exact Deduplicator.blank_ofConfig? hdedup

theorem blank_patient : patient.dedup.Blank := by
  refine ⟨Dedup.Rotation.ring_new _, fun i key e h => ?_⟩
  change ((Dedup.Rotation.new (.ofSeconds 1)).bucket i).get? key = some e at h
  simp [Dedup.Rotation.bucket_new] at h

end Server

end Coap
