import Coap.Proofs.Delivery.Histories

/-!
# The endpoints of a server

A server lists the endpoints that it serves at, and has a deliverer; each endpoint has a deliverer of its
own. Endpoints come and go, the deliverer is replaced, and the server is started and stopped.

* `Endpoint.Round` — endpoints are called one after the other, whatever they answer.
* `Server.Wiring`, `Server.wired` — what is done to the endpoints of a server.
* `Server.Attuned` — the endpoints of the list have the deliverer of the server.
* `Server.Attuned.wire`, `Server.handsTo_wire` — what one thing that is done preserves, for the endpoints
  of the list and for the others.
* `Server.calls_start`, `Server.calls_stop` — whom a start and a stop call.
* `Server.endpoints_wired` — all that is so after any number of things.
-/

namespace Coap

/-! ### Rounds of calls -/

/-- What an endpoint answered that was called, and where it is. -/
abbrev Outcome : Type := Address × Except EndpointError Unit

/-- The failures among some outcomes, in order. -/
def Outcome.failures (outcomes : List Outcome) : List (Address × EndpointError) :=
  outcomes.filterMap fun
    | (a, .error e) => some (a, e)
    | (_, .ok ()) => none

/-- Did any succeed? -/
def Outcome.Succeeds (outcomes : List Outcome) : Prop := ∃ a, (a, .ok ()) ∈ outcomes

theorem Outcome.length_failures_eq_iff {outcomes : List Outcome} :
    (failures outcomes).length = outcomes.length ↔ ¬ Succeeds outcomes := by
  induction outcomes with
  | nil => simp [failures, Succeeds]
  | cons outcome outcomes ih =>
    have hle : (failures outcomes).length ≤ outcomes.length := List.length_filterMap_le _ _
    obtain ⟨a, e | _⟩ := outcome
    · have hfailures : failures ((a, .error e) :: outcomes) = (a, e) :: failures outcomes := rfl
      simpa [hfailures, Succeeds] using ih
    · have hfailures : failures ((a, .ok ()) :: outcomes) = failures outcomes := rfl
      rw [hfailures, List.length_cons]
      exact iff_of_false (by omega) (not_not_intro ⟨a, List.mem_cons_self⟩)

namespace Endpoint

/-- A way to call an endpoint. -/
abbrev Call : Type := Endpoint → Udp.Network → Endpoint × Udp.Network × Except EndpointError Unit

/-- **Rounds.** The endpoints at some places are called, each once for each time that its place is listed, in
order, and each in the network that the calls before it left behind, whatever was answered. -/
inductive Round (call : Call) :
    List Endpoint → Udp.Network → List Nat → List Outcome → List Endpoint → Udp.Network → Prop where
  | done {es : List Endpoint} {net : Udp.Network} : Round call es net [] [] es net
  | next {es es' : List Endpoint} {net net' : Udp.Network} {i : Nat} {places : List Nat} {e : Endpoint}
      {outcomes : List Outcome} (hplace : es[i]? = some e)
      (further : Round call (es.set i (call e net).1) (call e net).2.1 places outcomes es' net') :
      Round call es net (i :: places) (((call e net).1.localAddress, (call e net).2.2) :: outcomes) es' net'

/-- A call is noted, and the endpoint keeps its deliverer. -/
structure Notes (call : Call) (c : EndpointCall) : Prop where
  calls : ∀ e net, (call e net).1.calls = e.calls ++ [c]
  deliverer : ∀ e net, (call e net).1.deliverer = e.deliverer

variable {call : Call} {c : EndpointCall} {es es' : List Endpoint} {net net' : Udp.Network}
  {places : List Nat} {outcomes : List Outcome} {e : Endpoint} {i : Nat}

theorem notes_start : Notes start .start := by
  constructor <;> intro e net <;> unfold start told <;> dsimp only <;> repeat' split
  all_goals rfl

theorem notes_stop : Notes stop .stop := by
  constructor <;> intro e net <;> unfold stop told <;> dsimp only <;> split <;> rfl

theorem Round.length (round : Round call es net places outcomes es' net') :
    outcomes.length = places.length := by
  induction round with
  | done => rfl
  | next _ _ ih => rw [List.length_cons, List.length_cons, ih]

/-- What a round does to each endpoint. -/
theorem Round.noted (notes : Notes call c) (round : Round call es net places outcomes es' net')
    (h : es[i]? = some e) :
    ∃ e', es'[i]? = some e' ∧ e'.deliverer = e.deliverer ∧
      e'.calls = e.calls ++ List.replicate (places.count i) c := by
  induction round generalizing e with
  | done => exact ⟨e, h, rfl, (List.append_nil _).symm⟩
  | @next es es' net net' j places called outcomes hplace further ih =>
    by_cases hij : j = i
    · subst hij
      obtain rfl : called = e := Option.some.inj (hplace.symm.trans h)
      have hlt : j < es.length := (List.getElem?_eq_some_iff.mp h).1
      obtain ⟨e', he', hdeliverer, hcalls⟩ := ih (List.getElem?_set_self hlt)
      refine ⟨e', he', hdeliverer.trans (notes.deliverer ..), ?_⟩
      rw [hcalls, notes.calls, List.count_cons_self, List.replicate_succ, List.append_assoc,
        List.singleton_append]
    · obtain ⟨e', he', hdeliverer, hcalls⟩ := ih (by rwa [List.getElem?_set_ne hij])
      exact ⟨e', he', hdeliverer, by rw [hcalls, List.count_cons_of_ne hij]⟩

end Endpoint

namespace Server

variable {ν : Type} {s s' : Server ν} {i : Nat} {a : Address} {d : Deliverer}

/-! ### What is done to endpoints -/

/-- Something that is done to the endpoints of a server. -/
inductive Wiring where
  /-- An endpoint is made, at which no one serves yet. -/
  | place (e : Endpoint)
  /-- The server is to serve at an endpoint that was made before, perhaps once more. -/
  | attach (i : Nat)
  /-- The server is to serve no more at an address. -/
  | remove (a : Address)
  /-- The deliverer is replaced. -/
  | setDeliverer (d : Deliverer)
  /-- The server is started. -/
  | start
  /-- The server is stopped. -/
  | stop
  /-- Sockets come and go, and what endpoints are going to answer changes. -/
  | meanwhile (transports : Nat → Transport) (network : Udp.Network)

/-- The deliverer that the server is given. -/
def Wiring.deliverer? : Wiring → Option Deliverer
  | .setDeliverer d => some d
  | _ => none

/-- The server after something was done to its endpoints. -/
def wire (s : Server ν) : Wiring → Server ν
  | .place e => (s.place e).1
  | .attach i => if i < s.endpoints.length then s.attach i else s
  | .remove a => (s.removeEndpoint a).1
  | .setDeliverer d => s.setDeliverer d
  | .start => s.start.1
  | .stop => s.stop
  | .meanwhile transports network =>
    { s with endpoints := s.endpoints.mapIdx fun i e => { e with transport := transports i }, network }

/-- The server after some things were done to its endpoints, one after the other. -/
def wired (s : Server ν) (ops : List Wiring) : Server ν := ops.foldl wire s

/-- The endpoint at a place hands its messages to a deliverer. -/
def HandsTo (s : Server ν) (i : Nat) (d : Deliverer) : Prop :=
  ∃ e, s.endpoints[i]? = some e ∧ e.deliverer = some d

/-- The endpoint at a place receives at an address. -/
def ReceivesAt (s : Server ν) (i : Nat) (a : Address) : Prop :=
  ∃ e, s.endpoints[i]? = some e ∧ e.localAddress = a

/-- **Tune.** Every endpoint that the server serves at hands its messages to the server's deliverer. -/
def Attuned (s : Server ν) : Prop := ∀ i ∈ s.listed, s.HandsTo i s.deliverer

theorem HandsTo.lt_length (h : s.HandsTo i d) : i < s.endpoints.length := by
  obtain ⟨e, he, -⟩ := h
  exact (List.getElem?_eq_some_iff.mp he).1

/-! ### Addition and removal -/

theorem handsTo_place (e : Endpoint) (h : s.HandsTo i d) : (s.place e).1.HandsTo i d := by
  obtain ⟨e', he', hdeliverer⟩ := h
  exact ⟨e', List.getElem?_append_left (List.getElem?_eq_some_iff.mp he').1 ▸ he', hdeliverer⟩

/-- An endpoint at which the server begins to serve gets its deliverer. -/
theorem handsTo_attach_self (h : i < s.endpoints.length) : (s.attach i).HandsTo i s.deliverer := by
  refine ⟨s.endpoints[i].setDeliverer s.deliverer, ?_, rfl⟩
  show (s.endpoints.modify i _)[i]? = _
  rw [List.getElem?_modify_eq, List.getElem?_eq_getElem h]
  rfl

theorem handsTo_attach_of_ne {j : Nat} (hne : j ≠ i) (h : s.HandsTo i d) : (s.attach j).HandsTo i d := by
  obtain ⟨e, he, hdeliverer⟩ := h
  refine ⟨e, ?_, hdeliverer⟩
  show (s.endpoints.modify j _)[i]? = _
  rw [List.getElem?_modify_ne _ _ hne, he]

theorem Attuned.attach (attuned : s.Attuned) (h : i < s.endpoints.length) : (s.attach i).Attuned := by
  intro j hj
  by_cases hne : i = j
  · exact hne ▸ handsTo_attach_self h
  · rcases List.mem_append.mp hj with hj | hj
    · exact handsTo_attach_of_ne hne (attuned j hj)
    · exact absurd (List.mem_singleton.mp hj).symm hne

/-- **Removal.** The first endpoint of the list that receives at the address goes, if there is one. -/
theorem removeEndpoint_outcome (s : Server ν) (a : Address) :
    ((∀ j ∈ s.listed, ¬ s.ReceivesAt j a) ∧ s.removeEndpoint a = (s, none)) ∨
    ∃ front i back, s.listed = front ++ i :: back ∧ (∀ j ∈ front, ¬ s.ReceivesAt j a) ∧
      s.ReceivesAt i a ∧ s.removeEndpoint a = ({ s with listed := front ++ back }, some a) := by
  have hhere : ∀ j, (decide ((s.endpoints[j]?.map (·.localAddress)) = some a)) = true ↔
      s.ReceivesAt j a := by
    intro j
    rw [decide_eq_true_iff, Option.map_eq_some_iff]
    rfl
  unfold removeEndpoint
  dsimp only
  split
  · next hany =>
    obtain ⟨j, hj, hat⟩ := List.any_eq_true.mp hany
    obtain ⟨i, front, back, hfront, hi, hlisted, hrest⟩ := List.exists_of_eraseP
      (p := fun i => decide ((s.endpoints[i]?.map (·.localAddress)) = some a)) hj hat
    exact .inr ⟨front, i, back, hlisted, fun j hj hat => hfront j hj ((hhere j).mpr hat),
      (hhere i).mp hi, by rw [hrest]⟩
  · next hany =>
    exact .inl ⟨fun j hj hat => hany (List.any_eq_true.mpr ⟨j, hj, (hhere j).mpr hat⟩), rfl⟩

/-! ### The deliverer -/

/-- What each endpoint has after those of some places were given a deliverer. -/
theorem deliverer_foldl_modify (places : List Nat) (es : List Endpoint) {e : Endpoint}
    (h : es[i]? = some e) :
    ∃ e', (places.foldl (fun es i => es.modify i (·.setDeliverer d)) es)[i]? = some e' ∧
      e'.deliverer = if i ∈ places then some d else e.deliverer := by
  induction places generalizing es e with
  | nil => exact ⟨e, h, rfl⟩
  | cons j places ih =>
    by_cases hij : j = i
    · subst hij
      have hset : (es.modify j (·.setDeliverer d))[j]? = some (e.setDeliverer d) := by
        rw [List.getElem?_modify_eq, h]
        rfl
      obtain ⟨e', he', hdeliverer⟩ := ih _ hset
      refine ⟨e', he', hdeliverer.trans ?_⟩
      rw [if_pos List.mem_cons_self]
      exact ite_self _
    · have hsame : (es.modify j (·.setDeliverer d))[i]? = some e := by
        rw [List.getElem?_modify_ne _ _ hij, h]
      obtain ⟨e', he', hdeliverer⟩ := ih _ hsame
      refine ⟨e', he', hdeliverer.trans ?_⟩
      simp only [List.mem_cons, Ne.symm hij, false_or]

theorem handsTo_setDeliverer_of_mem (h : s.HandsTo i d) (hmem : i ∈ s.listed) (d' : Deliverer) :
    (s.setDeliverer d').HandsTo i d' := by
  obtain ⟨e, he, -⟩ := h
  obtain ⟨e', he', hdeliverer⟩ := deliverer_foldl_modify s.listed s.endpoints he
  exact ⟨e', he', hdeliverer.trans (if_pos hmem)⟩

theorem handsTo_setDeliverer_of_not_mem (h : s.HandsTo i d) (hmem : i ∉ s.listed) (d' : Deliverer) :
    (s.setDeliverer d').HandsTo i d := by
  obtain ⟨e, he, hd⟩ := h
  obtain ⟨e', he', hdeliverer⟩ := deliverer_foldl_modify s.listed s.endpoints he
  exact ⟨e', he', hdeliverer.trans ((if_neg hmem).trans hd)⟩

/-! ### Starts and stops -/

/-- **Calls.** The endpoints of a server's list were called, in order and whatever they answered. Each has
noted as many calls as it is listed times, and nothing else became of the list and of the deliverers. -/
structure Calls (call : Endpoint.Call) (c : EndpointCall) (outcomes : List Outcome)
    (before after : Server ν) : Prop where
  round : Endpoint.Round call before.endpoints before.network before.listed outcomes after.endpoints
    after.network
  noted : ∀ {i e}, before.endpoints[i]? = some e → ∃ e', after.endpoints[i]? = some e' ∧
    e'.deliverer = e.deliverer ∧ e'.calls = e.calls ++ List.replicate (before.listed.count i) c
  listed : after.listed = before.listed
  deliverer : after.deliverer = before.deliverer

theorem Calls.handsTo {call : Endpoint.Call} {c : EndpointCall} {outcomes : List Outcome}
    (calls : Calls call c outcomes s s') (h : s.HandsTo i d) : s'.HandsTo i d := by
  obtain ⟨e, he, hd⟩ := h
  obtain ⟨e', he', hdeliverer, -⟩ := calls.noted he
  exact ⟨e', he', hdeliverer.trans hd⟩

/-- Two servers have the same endpoints, list, deliverer and network. -/
structure SameWiring (s s' : Server ν) : Prop where
  endpoints : s'.endpoints = s.endpoints
  network : s'.network = s.network
  listed : s'.listed = s.listed
  deliverer : s'.deliverer = s.deliverer

theorem sameWiring_driveDedup (s : Server ν) (f : Deduplicator Exchange → Deduplicator Exchange) :
    s.SameWiring (s.driveDedup f) := by
  unfold driveDedup
  split <;> exact ⟨rfl, rfl, rfl, rfl⟩

/-- The server after the endpoint at a place was called, with what the call left behind. -/
def called (s : Server ν) (i : Nat) (answer : Endpoint × Udp.Network × Except EndpointError Unit) :
    Server ν :=
  { s with endpoints := s.endpoints.set i answer.1, network := answer.2.1 }

theorem startEndpoint_eq {e : Endpoint} (h : s.endpoints[i]? = some e) :
    s.startEndpoint i = (s.called i (e.start s.network),
      some ((e.start s.network).1.localAddress, (e.start s.network).2.2)) := by
  unfold startEndpoint
  rw [h]
  rfl

theorem stopEndpoint_eq {e : Endpoint} (h : s.endpoints[i]? = some e) :
    s.stopEndpoint i = (s.called i (e.stop s.network),
      some ((e.stop s.network).1.localAddress, (e.stop s.network).2.2)) := by
  unfold stopEndpoint
  rw [h]
  rfl

/-- A start goes on whatever an endpoint answers. -/
theorem startAll_cons {e : Endpoint} (h : s.endpoints[i]? = some e) (places : List Nat) :
    ∃ t : Server ν, (s.called i (e.start s.network)).SameWiring t ∧
      s.startAll (i :: places) = ((t.startAll places).1,
        Outcome.failures [((e.start s.network).1.localAddress, (e.start s.network).2.2)] ++
          (t.startAll places).2) := by
  rw [startAll, startEndpoint_eq h]
  generalize s.called i (e.start s.network) = t
  cases (e.start s.network).2.2 with
  | error e => exact ⟨t.report .warning _, ⟨rfl, rfl, rfl, rfl⟩, rfl⟩
  | ok _ => exact ⟨t, ⟨rfl, rfl, rfl, rfl⟩, rfl⟩

/-- So does a stop. -/
theorem stopAll_cons {e : Endpoint} (h : s.endpoints[i]? = some e) (places : List Nat) :
    ∃ t : Server ν, (s.called i (e.stop s.network)).SameWiring t ∧
      s.stopAll (i :: places) = t.stopAll places := by
  rw [stopAll, stopEndpoint_eq h]
  generalize s.called i (e.stop s.network) = t
  cases (e.stop s.network).2.2 with
  | error e => exact ⟨t.report .warning _, ⟨rfl, rfl, rfl, rfl⟩, rfl⟩
  | ok _ => exact ⟨t, ⟨rfl, rfl, rfl, rfl⟩, rfl⟩

/-- The endpoints at some places of a server were called. -/
structure CallsAt (call : Endpoint.Call) (places : List Nat) (outcomes : List Outcome)
    (before after : Server ν) : Prop where
  round : Endpoint.Round call before.endpoints before.network places outcomes after.endpoints after.network
  listed : after.listed = before.listed
  deliverer : after.deliverer = before.deliverer

section Calls

variable {call : Endpoint.Call} {places : List Nat} {outcomes : List Outcome} {t : Server ν}

theorem callsAt_nil (s : Server ν) : CallsAt call [] [] s s := ⟨.done, rfl, rfl⟩

/-- One endpoint is called before the others. -/
theorem CallsAt.cons {e : Endpoint} (h : s.endpoints[i]? = some e)
    (same : (s.called i (call e s.network)).SameWiring t) (calls : CallsAt call places outcomes t s') :
    CallsAt call (i :: places)
      (((call e s.network).1.localAddress, (call e s.network).2.2) :: outcomes) s s' := by
  have round := calls.round
  rw [same.endpoints, same.network] at round
  exact ⟨.next h round, calls.listed.trans same.listed, calls.deliverer.trans same.deliverer⟩

theorem CallsAt.calls {c : EndpointCall} (calls : CallsAt call s.listed outcomes s s')
    (notes : Endpoint.Notes call c) : Calls call c outcomes s s' :=
  ⟨calls.round, calls.round.noted notes, calls.listed, calls.deliverer⟩

theorem CallsAt.sameWiring (calls : CallsAt call places outcomes s s') (same : s'.SameWiring t) :
    CallsAt call places outcomes s t := by
  refine ⟨?_, same.listed.trans calls.listed, same.deliverer.trans calls.deliverer⟩
  rw [same.endpoints, same.network]
  exact calls.round

/-- Places are there afterwards if they were there before. -/
theorem forall_lt_called {answer : Endpoint × Udp.Network × Except EndpointError Unit}
    (same : (s.called i answer).SameWiring t) (h : ∀ j ∈ i :: places, j < s.endpoints.length) :
    ∀ j ∈ places, j < t.endpoints.length := by
  intro j hj
  rw [same.endpoints, called, List.length_set]
  exact h j (List.mem_cons_of_mem i hj)

/-- Endpoints that are there are started one after the other, and the failures are returned. -/
theorem callsAt_startAll (h : ∀ i ∈ places, i < s.endpoints.length) :
    ∃ outcomes, CallsAt Endpoint.start places outcomes s (s.startAll places).1 ∧
      (s.startAll places).2 = Outcome.failures outcomes := by
  induction places generalizing s with
  | nil => exact ⟨[], callsAt_nil s, rfl⟩
  | cons i places ih =>
    have hplace := List.getElem?_eq_getElem (h i List.mem_cons_self)
    obtain ⟨t, same, heq⟩ := startAll_cons hplace places
    obtain ⟨outcomes, calls, hfailed⟩ := ih (forall_lt_called same h)
    rw [heq]
    refine ⟨_, calls.cons hplace same, ?_⟩
    rw [hfailed]
    exact List.filterMap_append.symm

/-- Endpoints that are there are stopped one after the other. -/
theorem callsAt_stopAll (h : ∀ i ∈ places, i < s.endpoints.length) :
    ∃ outcomes, CallsAt Endpoint.stop places outcomes s (s.stopAll places) := by
  induction places generalizing s with
  | nil => exact ⟨[], callsAt_nil s⟩
  | cons i places ih =>
    have hplace := List.getElem?_eq_getElem (h i List.mem_cons_self)
    obtain ⟨t, same, heq⟩ := stopAll_cons hplace places
    obtain ⟨outcomes, calls⟩ := ih (forall_lt_called same h)
    rw [heq]
    exact ⟨_, calls.cons hplace same⟩

end Calls

/-- **Default.** A server that serves at no endpoint is given the default one before it is started. -/
structure Prepared (s before : Server ν) : Prop where
  listed : s.listed ≠ [] → before.listed = s.listed ∧ before.endpoints = s.endpoints
  default : s.listed = [] → before.listed = [s.endpoints.length] ∧
    before.endpoints = s.endpoints ++ [(s.defaultEndpoint s.site.draw.1.id).setDeliverer s.deliverer]
  network : before.network = s.network
  deliverer : before.deliverer = s.deliverer

theorem prepared_launched (s : Server ν) : s.Prepared s.launched := by
  have hwith : s.Prepared ({ s with site := s.site.draw.2 }.withEndpoint s.site.draw.1.id) := by
    unfold withEndpoint
    split
    · next hempty =>
      have hnone : s.listed = [] := List.isEmpty_iff.mp hempty
      refine ⟨fun h => absurd hnone h, fun _ => ⟨?_, ?_⟩, rfl, rfl⟩
      · show s.listed ++ [s.endpoints.length] = _
        rw [hnone, List.nil_append]
      · show (s.endpoints ++ [_]).modify s.endpoints.length _ = _
        rw [List.modify_eq_take_drop, List.take_left, List.drop_left]
        rfl
    · next hsome =>
      exact ⟨fun _ => ⟨rfl, rfl⟩, fun h => absurd (List.isEmpty_iff.mpr h) hsome, rfl, rfl⟩
  have same := sameWiring_driveDedup
    ({ s with site := s.site.draw.2 }.withEndpoint s.site.draw.1.id) (·.start)
  constructor
  · rw [launched, same.listed, same.endpoints]
    exact hwith.listed
  · rw [launched, same.listed, same.endpoints]
    exact hwith.default
  · exact same.network.trans hwith.network
  · exact same.deliverer.trans hwith.deliverer

theorem Prepared.handsTo (prepared : s.Prepared s') (h : s.HandsTo i d) : s'.HandsTo i d := by
  obtain ⟨e, he, hd⟩ := h
  refine ⟨e, ?_, hd⟩
  by_cases hlisted : s.listed = []
  · rw [(prepared.default hlisted).2, List.getElem?_append_left (List.getElem?_eq_some_iff.mp he).1, he]
  · rw [(prepared.listed hlisted).2, he]

theorem Prepared.attuned (prepared : s.Prepared s') (attuned : s.Attuned) : s'.Attuned := by
  intro i hi
  rw [prepared.deliverer]
  by_cases hlisted : s.listed = []
  · obtain ⟨hplaces, hendpoints⟩ := prepared.default hlisted
    rw [hplaces, List.mem_singleton] at hi
    exact ⟨_, by rw [hendpoints, hi, List.getElem?_concat_length], rfl⟩
  · rw [(prepared.listed hlisted).1] at hi
    exact prepared.handsTo (attuned i hi)

/-- **Starts.** Every endpoint of the list is started. The start succeeds if one of them does, and else it
returns all failures in order. -/
theorem calls_start (attuned : s.Attuned) :
    ∃ outcomes, Calls Endpoint.start .start outcomes s.launched s.start.1 ∧
      (Outcome.Succeeds outcomes ∧ s.start.2 = .ok () ∨
        ¬ Outcome.Succeeds outcomes ∧
          s.start.2 = .error (.noEndpointStarted (Outcome.failures outcomes))) := by
  have hplaces : ∀ i ∈ s.launched.listed, i < s.launched.endpoints.length := fun i hi =>
    (s.prepared_launched.attuned attuned i hi).lt_length
  obtain ⟨outcomes, calls, hfailed⟩ := callsAt_startAll hplaces
  refine ⟨outcomes, ?_⟩
  rw [start_eq]
  dsimp only
  rw [hfailed, ← calls.round.length]
  split
  · next hnone =>
    have calls' := calls.sameWiring (sameWiring_driveDedup _ (·.stop))
    exact ⟨calls'.calls Endpoint.notes_start, .inr ⟨Outcome.length_failures_eq_iff.mp hnone, rfl⟩⟩
  · next hsome =>
    exact ⟨calls.calls Endpoint.notes_start,
      .inl ⟨not_not.mp fun h => hsome (Outcome.length_failures_eq_iff.mpr h), rfl⟩⟩

/-- **Stops.** Every endpoint of the list is stopped. -/
theorem calls_stop (attuned : s.Attuned) : ∃ outcomes, Calls Endpoint.stop .stop outcomes s s.stop := by
  obtain ⟨outcomes, calls⟩ := callsAt_stopAll fun i hi => (attuned i hi).lt_length
  have calls' := calls.sameWiring (sameWiring_driveDedup _ (·.stop))
  exact ⟨outcomes, calls'.calls Endpoint.notes_stop⟩

/-! ### Histories -/

theorem handsTo_meanwhile (transports : Nat → Transport) (network : Udp.Network) (h : s.HandsTo i d) :
    (s.wire (.meanwhile transports network)).HandsTo i d := by
  obtain ⟨e, he, hd⟩ := h
  refine ⟨{ e with transport := transports i }, ?_, hd⟩
  show (s.endpoints.mapIdx _)[i]? = _
  rw [List.getElem?_mapIdx, he]
  rfl

/-- What is done to the endpoints keeps the server in tune. -/
theorem Attuned.wire (attuned : s.Attuned) (op : Wiring) : (s.wire op).Attuned := by
  cases op with
  | place e => exact fun i hi => handsTo_place e (attuned i hi)
  | attach i =>
    rw [Server.wire]
    split
    · next h => exact attuned.attach h
    · exact attuned
  | remove a =>
    obtain ⟨-, heq⟩ | ⟨front, i, back, hlisted, -, -, heq⟩ := s.removeEndpoint_outcome a
    · rw [Server.wire, heq]
      exact attuned
    · rw [Server.wire, heq]
      refine fun j hj => attuned j ?_
      rw [hlisted]
      exact (List.sublist_cons_self i back).append_left front |>.subset hj
  | setDeliverer d => exact fun i hi => handsTo_setDeliverer_of_mem (attuned i hi) hi d
  | start =>
    obtain ⟨outcomes, calls, -⟩ := calls_start attuned
    intro i hi
    rw [Server.wire, calls.deliverer]
    exact calls.handsTo (s.prepared_launched.attuned attuned i (calls.listed ▸ hi))
  | stop =>
    obtain ⟨outcomes, calls⟩ := calls_stop attuned
    intro i hi
    rw [Server.wire, calls.deliverer]
    exact calls.handsTo (attuned i (calls.listed ▸ hi))
  | meanwhile transports network => exact fun i hi => handsTo_meanwhile transports network (attuned i hi)

/-- The server has the deliverer that it was given last. -/
theorem deliverer_wire (attuned : s.Attuned) (op : Wiring) :
    (s.wire op).deliverer = op.deliverer?.getD s.deliverer := by
  cases op with
  | place e => rfl
  | attach i =>
    rw [wire]
    split <;> rfl
  | remove a =>
    obtain ⟨-, heq⟩ | ⟨front, i, back, -, -, -, heq⟩ := s.removeEndpoint_outcome a <;> rw [wire, heq]
    all_goals rfl
  | setDeliverer d => rfl
  | start =>
    obtain ⟨outcomes, calls, -⟩ := calls_start attuned
    exact calls.deliverer.trans s.prepared_launched.deliverer
  | stop =>
    obtain ⟨outcomes, calls⟩ := calls_stop attuned
    exact calls.deliverer
  | meanwhile transports network => rfl

/-- An endpoint that the server does not serve at stays what it is, unless the server is to serve at it. -/
theorem handsTo_wire (attuned : s.Attuned) (h : s.HandsTo i d) (hi : i ∉ s.listed) {op : Wiring}
    (hop : op ≠ .attach i) : i ∉ (s.wire op).listed ∧ (s.wire op).HandsTo i d := by
  cases op with
  | place e => exact ⟨hi, handsTo_place e h⟩
  | attach j =>
    have hne : j ≠ i := fun heq => hop (heq ▸ rfl)
    rw [wire]
    split
    · refine ⟨fun hmem => ?_, handsTo_attach_of_ne hne h⟩
      rcases List.mem_append.mp hmem with hmem | hmem
      · exact hi hmem
      · exact hne (List.mem_singleton.mp hmem).symm
    · exact ⟨hi, h⟩
  | remove a =>
    obtain ⟨-, heq⟩ | ⟨front, j, back, hlisted, -, -, heq⟩ := s.removeEndpoint_outcome a
    · rw [wire, heq]
      exact ⟨hi, h⟩
    · rw [wire, heq]
      refine ⟨fun hmem => hi ?_, h⟩
      rw [hlisted]
      exact (List.sublist_cons_self j back).append_left front |>.subset hmem
  | setDeliverer d' => exact ⟨hi, handsTo_setDeliverer_of_not_mem h hi d'⟩
  | start =>
    obtain ⟨outcomes, calls, -⟩ := calls_start attuned
    refine ⟨fun hmem => ?_, calls.handsTo (s.prepared_launched.handsTo h)⟩
    -- the default endpoint has a place of its own
    rw [wire, calls.listed] at hmem
    by_cases hlisted : s.listed = []
    · rw [(s.prepared_launched.default hlisted).1, List.mem_singleton] at hmem
      exact absurd h.lt_length (by omega)
    · rw [(s.prepared_launched.listed hlisted).1] at hmem
      exact hi hmem
  | stop =>
    obtain ⟨outcomes, calls⟩ := calls_stop attuned
    exact ⟨fun hmem => hi (calls.listed ▸ hmem), calls.handsTo h⟩
  | meanwhile transports network => exact ⟨hi, handsTo_meanwhile transports network h⟩

theorem Attuned.wired (attuned : s.Attuned) (ops : List Wiring) : (s.wired ops).Attuned := by
  induction ops generalizing s with
  | nil => exact attuned
  | cons op ops ih => exact ih (attuned.wire op)

theorem deliverer_wired (attuned : s.Attuned) (ops : List Wiring) :
    (s.wired ops).deliverer = (ops.filterMap Wiring.deliverer?).getLast?.getD s.deliverer := by
  induction ops generalizing s with
  | nil => rfl
  | cons op ops ih =>
    refine (ih (attuned.wire op)).trans ?_
    rw [deliverer_wire attuned]
    cases hd : op.deliverer? with
    | none => rw [List.filterMap_cons_none hd, Option.getD_none]
    | some d => rw [List.filterMap_cons_some hd, List.getLast?_cons, Option.getD_some, Option.getD_some]

theorem handsTo_wired (attuned : s.Attuned) (h : s.HandsTo i d) (hi : i ∉ s.listed) {ops : List Wiring}
    (hops : .attach i ∉ ops) : i ∉ (s.wired ops).listed ∧ (s.wired ops).HandsTo i d := by
  induction ops generalizing s with
  | nil => exact ⟨hi, h⟩
  | cons op ops ih =>
    rw [List.mem_cons, not_or] at hops
    obtain ⟨hi, h⟩ := handsTo_wire attuned h hi (Ne.symm hops.1)
    exact ih (attuned.wire op) h hi hops.2

/-- A server serves nowhere at first. -/
theorem attuned_of_new? {config : Config} {tree : Tree (Resource ν)} {nonces : Nat → Nonce}
    {network : Udp.Network} (h : new? config tree nonces network = some s) :
    s.Attuned ∧ s.deliverer = .dispatcher := by
  obtain ⟨dedup, -, rfl⟩ := Option.map_eq_some_iff.mp h
  exact ⟨nofun, rfl⟩

/-- **Endpoints.** After whatever was done to the endpoints of a server, those that it serves at have its
deliverer, which is the one that it was given last. A removal takes the first of them that receives at the
address, and unless the server is to serve at it again, it keeps the deliverer that it has then. A start
calls all of them, and the default endpoint if there are none, and a stop calls all of them; a start
succeeds if one of them does. -/
theorem endpoints_wired {config : Config} {tree : Tree (Resource ν)} {nonces : Nat → Nonce}
    {network : Udp.Network} {made : Server ν} (hmade : new? config tree nonces network = some made)
    (ops : List Wiring) :
    let s := made.wired ops
    s.deliverer = (ops.filterMap Wiring.deliverer?).getLast?.getD .dispatcher ∧ s.Attuned ∧
    (∀ a, (∀ j ∈ s.listed, ¬ s.ReceivesAt j a) ∧ s.removeEndpoint a = (s, none) ∨
      ∃ front i back, s.listed = front ++ i :: back ∧ (∀ j ∈ front, ¬ s.ReceivesAt j a) ∧
        s.ReceivesAt i a ∧ s.removeEndpoint a = ({ s with listed := front ++ back }, some a) ∧
        (i ∉ front ++ back → ∀ later, .attach i ∉ later →
          let after := (s.removeEndpoint a).1.wired later
          i ∉ after.listed ∧ after.HandsTo i s.deliverer)) ∧
    (∃ outcomes, s.Prepared s.launched ∧
      Calls Endpoint.start .start outcomes s.launched s.start.1 ∧
      (Outcome.Succeeds outcomes ∧ s.start.2 = .ok () ∨
        ¬ Outcome.Succeeds outcomes ∧
          s.start.2 = .error (.noEndpointStarted (Outcome.failures outcomes)))) ∧
    ∃ outcomes, Calls Endpoint.stop .stop outcomes s s.stop := by
  intro s
  obtain ⟨tuned, hdeliverer⟩ := attuned_of_new? hmade
  have attuned : s.Attuned := tuned.wired ops
  refine ⟨hdeliverer ▸ deliverer_wired tuned ops, attuned, fun a => ?_, ?_, calls_stop attuned⟩
  · refine (s.removeEndpoint_outcome a).imp_right ?_
    rintro ⟨front, i, back, hlisted, hfront, hat, heq⟩
    refine ⟨front, i, back, hlisted, hfront, hat, heq, fun hi later hlater => ?_⟩
    have attuned' : (s.removeEndpoint a).1.Attuned := attuned.wire (.remove a)
    have hhands : s.HandsTo i s.deliverer :=
      attuned i (hlisted ▸ List.mem_append_right _ List.mem_cons_self)
    rw [heq] at attuned' ⊢
    exact handsTo_wired attuned' hhands hi hlater
  · obtain ⟨outcomes, calls, hresult⟩ := calls_start attuned
    exact ⟨outcomes, s.prepared_launched, calls, hresult⟩

/-- Two endpoints, of which the first never starts, and a deliverer that answers nothing. -/
def brokenAndWorking : List Wiring :=
  [.place (.external ⟨.v4 0, 1⟩ (.error (.invalidState "broken")) (.ok ())), .attach 0,
    .place (.external ⟨.v4 0, 2⟩ (.ok ()) (.ok ())), .attach 1, .setDeliverer (.fixed fun _ _ => none)]

/-- The second endpoint is started although the first was not. -/
theorem endpoints_wired_brokenAndWorking :
    ∃ made : Server Unit,
      new? { Config.standard with lifetimeOverride := some (.ofSeconds 60) } (.rooted .root)
        (fun _ => default) ⟨[], true⟩ = some made ∧
      (∀ i ∈ [0, 1], (made.wired brokenAndWorking).HandsTo i (.fixed fun _ _ => none)) ∧
      (made.wired brokenAndWorking).start.2 = .ok () ∧
      ∃ outcomes, outcomes.length = 2 ∧
        Calls Endpoint.start .start outcomes (made.wired brokenAndWorking).launched
          (made.wired brokenAndWorking).start.1 := by
  refine ⟨_, rfl, ?_⟩
  obtain ⟨-, attuned, -, ⟨outcomes, -, calls, -⟩, -⟩ := @endpoints_wired Unit
    { Config.standard with lifetimeOverride := some (.ofSeconds 60) } (.rooted .root) (fun _ => default)
    ⟨[], true⟩ _ rfl brokenAndWorking
  exact ⟨attuned, rfl, outcomes, calls.round.length, calls⟩

end Server

end Coap
