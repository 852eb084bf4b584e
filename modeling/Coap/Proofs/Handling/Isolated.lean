import Coap.Proofs.Handling.Dispatch
import Coap.Proofs.Observers.Settlement

/-!
# Handlers that keep to their request

A handler that only answers its request, reads the tree and reports touches nothing of another peer. What
it does depends on its request, on the tree and on the relations of its own peer, and on no time at all.

* `Exchange.untimed`, `Relation.untimed` — an exchange and a relation without their times.
* `Observers.AlikeFor` — the same relations of one peer, and the same sequence numbers.
* `Program.Isolated` — programs that make only such calls, and that times make no difference to.
* `Handling.Alike`, `Handling.Alike.dispatch` — two dispatches that cannot be told apart by the peer of
  their request.
* `Handling.Confined`, `Handling.confined_dispatch` — a dispatch does not touch what other peers see.
-/

namespace Coap

variable {ν : Type}

/-! ### Without times -/

/-- An exchange without its times. -/
def Exchange.untimed (e : Exchange) : Exchange :=
  { e with created := 0, deposits := e.deposits.map fun d => ⟨d.data, 0⟩ }

/-- A relation without the time at which it was accepted. -/
def Relation.untimed (r : Relation) : Relation := { r with request := ⟨r.request.data, 0⟩ }

namespace Exchange

variable {e e' : Exchange}

/-- Exchanges that differ in their times only. -/
theorem untimed_eq_iff :
    e.untimed = e'.untimed ↔
      ∃ created deposits, e' = { e with created, deposits } ∧ e.responses = e'.responses := by
  have hdeposits : ∀ l l' : List (Stamped (Addressed Response)),
      l.map (fun d => (⟨d.data, 0⟩ : Stamped (Addressed Response))) = l'.map (fun d => ⟨d.data, 0⟩) ↔
        l.map (·.data) = l'.map (·.data) := by
    intro l l'
    have hfunction : (fun d : Stamped (Addressed Response) =>
        (⟨d.data, 0⟩ : Stamped (Addressed Response))) = (fun r => ⟨r, 0⟩) ∘ (·.data) := rfl
    rw [hfunction, ← List.map_map, ← List.map_map]
    exact List.map_inj_right fun r r' h => (Stamped.mk.inj h).1
  obtain ⟨request, session, created, deposits, state, marker, resource⟩ := e
  obtain ⟨request', session', created', deposits', state', marker', resource'⟩ := e'
  simp only [untimed, mk.injEq, responses, hdeposits, true_and]
  constructor
  · rintro ⟨rfl, rfl, hresponses, rfl, rfl, rfl⟩
    exact ⟨created', deposits', ⟨rfl, rfl, rfl, rfl, rfl, rfl, rfl⟩, hresponses⟩
  · rintro ⟨-, -, ⟨rfl, rfl, -, -, rfl, rfl, rfl⟩, hresponses⟩
    exact ⟨rfl, rfl, hresponses, rfl, rfl, rfl⟩

theorem responses_untimed (e : Exchange) : e.untimed.responses = e.responses := by
  simp [untimed, responses]

theorem first?_untimed (e : Exchange) : e.untimed.first? = e.first? := by
  simp [untimed, first?, List.head?_map, Option.map_map, Function.comp_def]

theorem untimed_accept (e : Exchange) (now : Instant) (interim : Option (Addressed Response)) :
    (e.accept now interim).1.untimed = (e.untimed.accept 0 interim).1 ∧
      (e.accept now interim).2 = (e.untimed.accept 0 interim).2 := by
  obtain ⟨request, session, created, deposits, state, marker, resource⟩ := e
  cases state <;> cases interim <;> simp [untimed, Exchange.accept]

theorem untimed_complete (e : Exchange) (now : Instant) (final : Addressed Response)
    (rejected : Bool) :
    (e.complete now final rejected).1.untimed = (e.untimed.complete 0 final rejected).1 ∧
      (e.complete now final rejected).2 = (e.untimed.complete 0 final rejected).2 := by
  obtain ⟨request, session, created, deposits, state, marker, resource⟩ := e
  cases state <;> simp [untimed, Exchange.complete, Exchange.isComplete]

theorem reply_untimed (e : Exchange) (r : Response) : e.untimed.reply r = e.reply r := rfl

theorem interim?_untimed (e : Exchange) : e.untimed.interim? = e.interim? := rfl

theorem isComplete_untimed (e : Exchange) : e.untimed.isComplete = e.isComplete := rfl

end Exchange

/-! ### Relations of one peer -/

namespace Observers

/-- The same relations of one peer, apart from their times, and the same sequence numbers. -/
structure AlikeFor (peer : Address) (o o' : Observers) : Prop where
  relation : ∀ id key, key.peer = peer →
    (o.relation? id key).map Relation.untimed = (o'.relation? id key).map Relation.untimed
  sequence : ∀ id, o.sequence id = o'.sequence id

namespace AlikeFor

variable {peer : Address} {o o' o'' : Observers}

theorem refl (peer : Address) (o : Observers) : o.AlikeFor peer o := ⟨fun _ _ _ => rfl, fun _ => rfl⟩

theorem symm (h : o.AlikeFor peer o') : o'.AlikeFor peer o :=
  ⟨fun id key hkey => (h.relation id key hkey).symm, fun id => (h.sequence id).symm⟩

theorem trans (h : o.AlikeFor peer o') (h' : o'.AlikeFor peer o'') : o.AlikeFor peer o'' :=
  ⟨fun id key hkey => (h.relation id key hkey).trans (h'.relation id key hkey),
    fun id => (h.sequence id).trans (h'.sequence id)⟩

/-- A change of one relation is none for the other peers. -/
theorem of_sameBut {id : ResourceId} {key : Key} (h : o.SameBut o' id key) (hpeer : key.peer ≠ peer) :
    o.AlikeFor peer o' := by
  refine ⟨fun id' key' hkey => ?_, fun id' => (h.sequence id').symm⟩
  rw [h.relation id' key' fun hsame => hpeer (hsame.2 ▸ hkey)]

theorem register (h : o.AlikeFor peer o') (id : ResourceId) {r r' : Relation}
    (hr : r.untimed = r'.untimed) : (o.register id r).1.AlikeFor peer (o'.register id r').1 := by
  have hkey : r.untimed.key = r'.untimed.key := congrArg Relation.key hr
  have hkey : r.key = r'.key := hkey
  constructor
  · intro id' key hpeer
    rw [relation?_register, relation?_register, hkey]
    split
    · exact congrArg some hr
    · exact h.relation id' key hpeer
  · intro id'
    rw [(SameBut.register o id r).sequence, (SameBut.register o' id r').sequence, h.sequence]

theorem cancel (h : o.AlikeFor peer o') (id : ResourceId) (key : Key) :
    (o.cancel id key).1.AlikeFor peer (o'.cancel id key).1 := by
  constructor
  · intro id' key' hpeer
    rw [relation?_cancel, relation?_cancel]
    split
    · rfl
    · exact h.relation id' key' hpeer
  · intro id'
    rw [(SameBut.cancel o id key).sequence, (SameBut.cancel o' id key).sequence, h.sequence]

end AlikeFor

/-- Responses do the same to exchanges that differ in their times only, where the relations of the peer
are the same. -/
theorem AlikeFor.settle {η : Type u} {o o' : Observers} {e e' : Exchange} (h : o.AlikeFor e.peer o')
    (he : e.untimed = e'.untimed) (tree : Tree η) (now now' : Instant) (m : Message) :
    (o.settle tree e now m).1.AlikeFor e.peer (o'.settle tree e' now' m).1 ∧
      (o.settle tree e now m).2.1.untimed = (o'.settle tree e' now' m).2.1.untimed ∧
        (o.settle tree e now m).2.2 = (o'.settle tree e' now' m).2.2 := by
  obtain ⟨hrequest, hresource, hmarked⟩ : e'.request = e.request ∧ e'.resource = e.resource ∧
      ∀ marker, ({ e with marker } : Exchange).untimed = { e' with marker }.untimed := by
    obtain ⟨created, deposits, rfl, hresponses⟩ := Exchange.untimed_eq_iff.mp he
    exact ⟨rfl, rfl, fun marker => Exchange.untimed_eq_iff.mpr ⟨created, deposits, rfl, hresponses⟩⟩
  cases hr : e.resource with
  | none =>
    rw [settle_of_resource_none hr, settle_of_resource_none (hresource.trans hr)]
    exact ⟨h, he, rfl⟩
  | some id =>
    have hr' := hresource.trans hr
    have hgrants_iff : Grants tree e' id m ↔ Grants tree e id m := by
      rw [grants_iff, grants_iff, hrequest]
    by_cases hgrants : Grants tree e id m
    · rw [settle_of_grants hr hgrants, settle_of_grants hr' (hgrants_iff.mpr hgrants), h.sequence]
      refine ⟨h.register id ?_, hmarked _, rfl⟩
      simp [granted, Relation.untimed, Exchange.peer, hrequest]
    · have hgrants' := mt hgrants_iff.mp hgrants
      by_cases hasked : e.request.data.observeValue? = some 1
      · rw [settle_of_deregister hr hasked, settle_of_deregister hr' (hrequest ▸ hasked), hrequest]
        exact ⟨h.cancel id _, hrequest ▸ hmarked _, rfl⟩
      · rw [settle_of_other hr hgrants hasked, settle_of_other hr' hgrants' (hrequest ▸ hasked),
          hrequest]
        by_cases herror : m.code.cls = 4 ∨ m.code.cls = 5
        · have hexisted : (o.relation? id (.ofToken e.request)).isSome =
              (o'.relation? id (.ofToken e.request)).isSome := by
            simpa using congrArg Option.isSome (h.relation id (.ofToken e.request) rfl)
          rw [settleOther_of_error herror, settleOther_of_error herror, hexisted]
          refine ⟨h.cancel id _, ?_, rfl⟩
          split
          · exact hmarked _
          · exact he
        · rw [settleOther_of_plain herror, settleOther_of_plain herror]
          exact ⟨h, he, rfl⟩

/-- The relations of other peers are left alone. -/
theorem alikeFor_settle {η : Type u} {peer : Address} (o : Observers) (tree : Tree η) {e : Exchange}
    (hpeer : e.peer ≠ peer) (now : Instant) (m : Message) :
    o.AlikeFor peer (o.settle tree e now m).1 := by
  cases hr : e.resource with
  | none =>
    rw [settle_of_resource_none hr]
    exact .refl peer o
  | some id => exact .of_sameBut (sameBut_settle o tree now m hr) hpeer

end Observers

/-! ### Isolated programs -/

/-- The calls that a handler can make without touching the tree, the relations, or another request. -/
def Call.isOwn : Call ν → Bool
  | .accept | .reject | .respond _ => true
  | .setLocationPath _ | .setLocationQuery _ | .setMaxAge _ | .setETag _ => true
  | .exchange | .shaping | .walk | .pathOf _ | .findPath _ => true
  | .report _ _ | .note _ => true
  | _ => false

/-- Two results of a call that differ in times only. -/
def Call.Alike : (c : Call ν) → c.Result → c.Result → Prop
  | .exchange, e, e' => Exchange.untimed e = Exchange.untimed e'
  | _, r, r' => r = r'

/-- A program that makes such calls only, and that times make no difference to. -/
def Program.Isolated : Program ν → Prop
  | .done => True
  | .call c next =>
    c.isOwn = true ∧ (∀ r r', c.Alike r r' → next r = next r') ∧ ∀ r, (next r).Isolated
  | .add .. => False

/-- Every resource of a tree handles its requests by such programs. -/
def Tree.Isolated (t : Tree (Resource ν)) : Prop :=
  ∀ id resource, t.handler? id = some resource → ∀ request, (resource.handler request).Isolated

namespace Handling

/-- Two handlings that differ in times only, as far as the peer of the request can tell. -/
structure Alike (h h' : Handling ν) : Prop where
  exchange : h.exchange.untimed = h'.exchange.untimed
  shaping : h.shaping = h'.shaping
  tree : h.site.tree = h'.site.tree
  observers : h.site.observers.AlikeFor h.exchange.peer h'.site.observers

variable {h h' : Handling ν}

/-- Beside the exchange, accepting changes the journal only. -/
theorem accept_eq (h : Handling ν) : ∃ events,
    h.accept = { h with
      site := { h.site with events }
      exchange := (h.exchange.accept h.site.now h.exchange.interim?).1 } := by
  have hexchange := h.accept_exchange
  unfold accept at hexchange ⊢
  dsimp only at hexchange ⊢
  split
  · next exchange heq =>
    rw [heq] at hexchange
    cases hinterim : h.interim? with
    | none =>
      rw [hinterim] at hexchange
      exact ⟨h.site.events, congrArg (fun exchange => { h with exchange }) hexchange⟩
    | some ack =>
      rw [hinterim] at hexchange
      exact ⟨_, congrArg (fun exchange => { h.record (.sent _) with exchange }) hexchange⟩
  · next heq =>
    rw [heq] at hexchange
    exact ⟨h.site.events, congrArg (fun exchange => { h with exchange }) hexchange⟩

theorem reject_eq (h : Handling ν) : ∃ events,
    h.reject = ({ h with
      site := { h.site with events }
      exchange := (h.exchange.complete h.site.now
        (h.exchange.reply (.ofMessage h.request.reset)) true).1 },
      if h.exchange.isComplete then .error .alreadyResponded else .ok ()) := by
  cases hcomplete : h.exchange.isComplete with
  | true =>
    simp only [reject, Exchange.complete_of_isComplete hcomplete]
    exact ⟨_, rfl⟩
  | false =>
    simp only [reject, Exchange.complete_of_open hcomplete]
    exact ⟨_, rfl⟩

namespace Alike

theorem request_eq (alike : h.Alike h') : h.request = h'.request := by
  obtain ⟨created, deposits, heq, -⟩ := Exchange.untimed_eq_iff.mp alike.exchange
  rw [request, request, heq]

theorem isComplete_eq (alike : h.Alike h') : h.exchange.isComplete = h'.exchange.isComplete := by
  rw [← Exchange.isComplete_untimed, alike.exchange, Exchange.isComplete_untimed]

theorem reply_eq (alike : h.Alike h') (r : Response) : h.exchange.reply r = h'.exchange.reply r := by
  rw [← Exchange.reply_untimed, alike.exchange, Exchange.reply_untimed]

/-- They stay alike when alike exchanges take the place of theirs, whatever is noted. -/
theorem exchanged (alike : h.Alike h') {e e' : Exchange} (he : e.untimed = e'.untimed)
    (hpeer : e.peer = h.exchange.peer) (events events' : List (Event ν)) :
    ({ h with site := { h.site with events }, exchange := e } : Handling ν).Alike
      { h' with site := { h'.site with events := events' }, exchange := e' } :=
  ⟨he, alike.shaping, alike.tree, hpeer ▸ alike.observers⟩

theorem accept (alike : h.Alike h') : h.accept.Alike h'.accept := by
  have hpeer : h.accept.exchange.peer = h.exchange.peer :=
    congrArg Addressed.addr (h.request_perform .accept).1
  have hinterim : h.exchange.interim? = h'.exchange.interim? := by
    rw [← Exchange.interim?_untimed, alike.exchange, Exchange.interim?_untimed]
  obtain ⟨events, heq⟩ := h.accept_eq
  obtain ⟨events', heq'⟩ := h'.accept_eq
  rw [heq] at hpeer ⊢
  rw [heq']
  refine alike.exchanged ?_ hpeer _ _
  rw [(Exchange.untimed_accept ..).1, (Exchange.untimed_accept ..).1, alike.exchange, hinterim]

theorem reject (alike : h.Alike h') :
    h.reject.1.Alike h'.reject.1 ∧ h.reject.2 = h'.reject.2 := by
  have hpeer : h.reject.1.exchange.peer = h.exchange.peer :=
    congrArg Addressed.addr (h.request_perform .reject).1
  obtain ⟨events, heq⟩ := h.reject_eq
  obtain ⟨events', heq'⟩ := h'.reject_eq
  rw [heq] at hpeer ⊢
  rw [heq']
  refine ⟨alike.exchanged ?_ hpeer _ _, by rw [alike.isComplete_eq]⟩
  rw [(Exchange.untimed_complete ..).1, (Exchange.untimed_complete ..).1, alike.exchange,
    alike.reply_eq, alike.request_eq]

theorem respondWith (alike : h.Alike h') (r : Response) :
    (h.respondWith r).1.Alike (h'.respondWith r).1 ∧ (h.respondWith r).2 = (h'.respondWith r).2 := by
  have hpeer : (h.respondWith r).1.exchange.peer = h.exchange.peer :=
    congrArg Addressed.addr (h.request_perform (.respond r)).1
  have hshaped : h'.shaping.apply (h'.fitted r.message) = h.shaping.apply (h.fitted r.message) := by
    obtain ⟨created, deposits, heq, -⟩ := Exchange.untimed_eq_iff.mp alike.exchange
    rw [alike.shaping, fitted_eq, fitted_eq, ← alike.request_eq, heq]
  obtain ⟨hobservers, hexchange, hmessage⟩ := alike.observers.settle alike.exchange h.site.tree
    h.site.now h'.site.now (h.shaping.apply (h.fitted r.message))
  unfold Handling.respondWith at hpeer ⊢
  dsimp only at hpeer ⊢
  rw [hshaped, ← alike.tree, ← alike.isComplete_eq]
  split
  · exact ⟨alike.exchanged alike.exchange rfl _ _, rfl⟩
  · split
    · exact ⟨alike.exchanged alike.exchange rfl _ _, rfl⟩
    · next hcode hopen =>
      rw [if_neg hcode, if_neg hopen] at hpeer
      refine ⟨⟨?_, alike.shaping, rfl, hpeer ▸ hobservers⟩, rfl⟩
      dsimp only
      rw [(Exchange.untimed_complete ..).1, (Exchange.untimed_complete ..).1, hmessage,
        ← Exchange.reply_untimed, hexchange, Exchange.reply_untimed]

/-- **One call.** Alike handlings stay so, and what comes back differs in times at most. -/
theorem perform (alike : h.Alike h') {c : Call ν} (hc : c.isOwn = true) :
    (h.perform c).1.Alike (h'.perform c).1 ∧ c.Alike (h.perform c).2 (h'.perform c).2 := by
  have hwritten : ∀ write : Shaping → Shaping,
      ({ h with shaping := write h.shaping } : Handling ν).Alike
        { h' with shaping := write h'.shaping } := fun write =>
    ⟨alike.exchange, congrArg write alike.shaping, alike.tree, alike.observers⟩
  cases c with
  | accept => exact ⟨alike.accept, rfl⟩
  | reject => exact alike.reject
  | respond r => exact alike.respondWith r
  | setLocationPath path => exact ⟨hwritten fun s => { s with locationPath := some path }, rfl⟩
  | setLocationQuery query => exact ⟨hwritten fun s => { s with locationQuery := some query }, rfl⟩
  | setMaxAge seconds => exact ⟨hwritten fun s => { s with maxAge := seconds }, rfl⟩
  | setETag tag => exact ⟨hwritten fun s => { s with etag := some tag }, rfl⟩
  | exchange => exact ⟨alike, alike.exchange⟩
  | shaping => exact ⟨alike, alike.shaping⟩
  | walk => exact ⟨alike, congrArg Tree.walk alike.tree⟩
  | pathOf id => exact ⟨alike, congrArg (Tree.pathOf · id) alike.tree⟩
  | findPath path => exact ⟨alike, congrArg (Tree.findPath · path) alike.tree⟩
  | report severity text => exact ⟨alike.exchanged alike.exchange rfl _ _, rfl⟩
  | note n => exact ⟨alike.exchanged alike.exchange rfl _ _, rfl⟩
  | _ => cases hc

/-- **Programs.** -/
theorem run (alike : h.Alike h') {p : Program ν} (hp : p.Isolated) : (p.run h).Alike (p.run h') := by
  induction p generalizing h h' with
  | done => exact alike
  | call c next ih =>
    obtain ⟨hc, hsame, hnext⟩ := hp
    obtain ⟨hafter, hresult⟩ := alike.perform hc
    rw [Program.run_call, Program.run_call, ← hsame _ _ hresult]
    exact ih _ hafter (hnext _)
  | add parent profile handler next _ _ => exact hp.elim

end Alike

/-! ### Other peers -/

/-- What does not belong to the peer of the request is left alone: the tree, the relations of all other
peers, and all sequence numbers. -/
structure Confined (h h' : Handling ν) : Prop where
  own : h'.exchange.peer = h.exchange.peer
  tree : h'.site.tree = h.site.tree
  observers : ∀ peer, h.exchange.peer ≠ peer → h.site.observers.AlikeFor peer h'.site.observers

namespace Confined

variable {h'' : Handling ν}

/-- What leaves tree and relations alone is confined. -/
theorem of_eq (hown : h'.exchange.peer = h.exchange.peer) (htree : h'.site.tree = h.site.tree)
    (hobservers : h'.site.observers = h.site.observers) : h.Confined h' :=
  ⟨hown, htree, fun peer _ => hobservers ▸ .refl peer _⟩

theorem trans (confined : h.Confined h') (confined' : h'.Confined h'') : h.Confined h'' :=
  ⟨confined'.own.trans confined.own, confined'.tree.trans confined.tree, fun peer hpeer =>
    (confined.observers peer hpeer).trans (confined'.observers peer (confined.own ▸ hpeer))⟩

end Confined

/-- **One call.** The relation that an answer settles is one of the peer it is for. -/
theorem confined_perform (h : Handling ν) {c : Call ν} (hc : c.isOwn = true) :
    h.Confined (h.perform c).1 := by
  have hown : (h.perform c).1.exchange.peer = h.exchange.peer :=
    congrArg Addressed.addr (h.request_perform c).1
  cases c with
  | accept =>
    obtain ⟨events, heq⟩ := h.accept_eq
    have hperform : (h.perform .accept).1 = _ := heq
    rw [hperform] at hown ⊢
    exact .of_eq hown rfl rfl
  | reject =>
    obtain ⟨events, heq⟩ := h.reject_eq
    have hperform : h.perform .reject = _ := heq
    rw [hperform] at hown ⊢
    exact .of_eq hown rfl rfl
  | respond r =>
    by_cases hrefused : r.message.code.kind ≠ .response ∨ h.exchange.isComplete = true
    · obtain ⟨text, e, heq⟩ := h.respondWith_of_refused hrefused
      have hperform : h.perform (.respond r) = _ := heq
      rw [hperform]
      exact .of_eq rfl rfl rfl
    · rw [not_or, not_not, Bool.not_eq_true] at hrefused
      obtain ⟨marker, heq⟩ := h.respondWith_of_open hrefused.1 hrefused.2
      have hperform : h.perform (.respond r) = _ := heq
      rw [hperform] at hown ⊢
      exact ⟨hown, rfl, fun peer hpeer =>
        h.site.observers.alikeFor_settle h.site.tree hpeer h.site.now _⟩
  | remove | setAttributes | setObservable | observers | register | cancel | changed | forget
  | redeliver | forward => cases hc
  | _ => exact .of_eq rfl rfl rfl

/-- **Programs.** -/
theorem confined_run {p : Program ν} (hp : p.Isolated) (h : Handling ν) : h.Confined (p.run h) := by
  induction p generalizing h with
  | done => exact .of_eq rfl rfl rfl
  | call c next ih =>
    rw [Program.run_call]
    exact (h.confined_perform hp.1).trans (ih _ (hp.2.2 _) _)
  | add parent profile handler next _ _ => exact hp.elim

/-! ### Dispatches -/

/-- The resource that is assigned to a request stands in the tree. -/
theorem handler?_of_assigned? {id : ResourceId} {resource : Resource ν}
    (hassigned : h.assigned? = some (id, resource)) : h.site.tree.handler? id = some resource := by
  obtain ⟨target, -, hhandler⟩ := Option.bind_eq_some_iff.mp hassigned
  obtain ⟨found, hfound, heq⟩ := Option.map_eq_some_iff.mp hhandler
  cases heq
  exact hfound

theorem Alike.runResource (alike : h.Alike h') (id : ResourceId) {resource : Resource ν}
    (hp : ∀ request, (resource.handler request).Isolated) :
    (h.runResource id resource).Alike (h'.runResource id resource) := by
  have hentered : ({ h with exchange := { h.exchange with resource := some id } } : Handling ν).Alike
      { h' with exchange := { h'.exchange with resource := some id } } := by
    refine ⟨?_, alike.shaping, alike.tree, alike.observers⟩
    obtain ⟨created, deposits, heq, hresponses⟩ := Exchange.untimed_eq_iff.mp alike.exchange
    rw [heq]
    exact Exchange.untimed_eq_iff.mpr ⟨created, deposits, rfl, heq ▸ hresponses⟩
  have hprogram : resource.handler h'.exchange.request = resource.handler h.exchange.request := by
    obtain ⟨created, deposits, heq, -⟩ := Exchange.untimed_eq_iff.mp alike.exchange
    rw [heq]
  have hrun := hentered.run (hp h.exchange.request)
  unfold Handling.runResource
  dsimp only
  rw [hprogram, ← hrun.isComplete_eq]
  split
  · exact hrun
  · exact ((hrun.exchanged hrun.exchange rfl _ _).respondWith _).1

/-- **Dispatches.** Alike requests are answered alike, if the resources of the tree keep to them. -/
theorem Alike.dispatch (alike : h.Alike h') (hisolated : h.site.tree.Isolated) :
    h.dispatch.Alike h'.dispatch := by
  have htarget : h'.target? = h.target? := by rw [target?, target?, alike.request_eq, alike.tree]
  have hassigned : h'.assigned? = h.assigned? := by rw [assigned?, assigned?, htarget, alike.tree]
  have hrecorded : ∀ e e', (h.record e).Alike (h'.record e') := fun e e' =>
    alike.exchanged alike.exchange rfl _ _
  rw [dispatch_eq, dispatch_eq, hassigned]
  split
  · next id resource hid =>
    have hresource := handler?_of_assigned? hid
    exact (hrecorded _ _).runResource id (hisolated id resource hresource)
  · exact ((hrecorded _ _).respondWith _).1

/-- **Other peers.** A dispatch leaves alone what does not belong to the peer of its request. -/
theorem confined_dispatch (h : Handling ν) (hisolated : h.site.tree.Isolated) :
    h.Confined h.dispatch := by
  have hrespond : ∀ {k : Handling ν} (code : Code), h.Confined k → h.Confined (k.respondCode code) :=
    fun {k} code confined => confined.trans (k.confined_perform (c := .respond (.ofCode code [])) rfl)
  rw [dispatch_eq]
  split
  · next id resource hid =>
    have hresource := handler?_of_assigned? hid
    have hentered : h.Confined (h.entered id) := .of_eq rfl rfl rfl
    have hrun : h.Confined ((resource.handler h.exchange.request).run (h.entered id)) :=
      hentered.trans (confined_run (hisolated id resource hresource h.exchange.request) _)
    rcases runResource_eq (h.record (.dispatched h.exchange.request h.target?)) id resource with
      ⟨-, hsame⟩ | ⟨text, hsame⟩
    · rw [hsame]
      exact hrun
    · rw [hsame]
      exact hrespond _ ⟨hrun.own, hrun.tree, hrun.observers⟩
  · exact hrespond _ (.of_eq rfl rfl rfl)

end Handling

end Coap
