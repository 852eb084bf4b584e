import Coap.Proofs.Handling.Dispatch
import Coap.Proofs.Observers.Realm

/-!
# What handlers do to the tree

A handler changes resources and relations call by call. Read off its run, these changes are a list of
operations of a tree and its observers, so that what holds for all histories of operations holds while
requests are handled.

* `Site.realm` — the resources and relations that handlers act on.
* `Handling.callOps`, `Handling.realm_perform` — the operations of a call.
* `Program.ops`, `Program.realm_run` — those of a program.
* `Handling.dispatchOps`, `Handling.realm_dispatch` — those of a dispatch.
-/

namespace Coap

variable {ν : Type}

namespace Site

/-- The resources and the relations. -/
def realm (s : Site ν) : Realm (Resource ν) := ⟨s.tree, s.observers⟩

/-- The same site with other resources and relations. -/
def withRealm (s : Site ν) (r : Realm (Resource ν)) : Site ν :=
  { s with tree := r.tree, observers := r.observers }

theorem realm_replay (s : Site ν) (e : Exchange) (wait : Duration) :
    (s.replay e wait).1.realm = s.realm := by
  unfold replay
  cases e.first? <;> rfl

end Site

namespace Handling

variable (h : Handling ν)

/-! ### Calls -/

/-- The operations of an answer: it settles a relation, unless it is refused. -/
def answerOps (r : Response) : List (Realm.Op (Resource ν)) :=
  if r.message.code.kind ≠ .response ∨ h.exchange.isComplete = true then []
  else [.settle h.exchange h.site.now (h.shaping.apply (h.fitted r.message))]

/-- The operations of a call. -/
def callOps : Call ν → List (Realm.Op (Resource ν))
  | .respond r => h.answerOps r
  | .remove id => [.tree (.remove id)]
  | .setAttributes id attributes => [.tree (.setAttributes id attributes)]
  | .setObservable id observable => [.tree (.setObservable id observable)]
  | .register id relation => [.register id relation]
  | .cancel id key => [.cancel id key]
  | .changed id => [.changed id]
  | .forget id => [.forget id]
  | _ => []

theorem realm_respondWith (r : Response) :
    (h.respondWith r).1.site.realm = h.site.realm.run (h.answerOps r) := by
  unfold answerOps
  split
  · next hrefused =>
    obtain ⟨text, e, heq⟩ := h.respondWith_of_refused hrefused
    rw [heq]
    rfl
  · next hopen =>
    rw [not_or, Decidable.not_not, Bool.not_eq_true] at hopen
    obtain ⟨marker, heq⟩ := h.respondWith_of_open hopen.1 hopen.2
    rw [heq]
    rfl

theorem realm_accept : h.accept.site.realm = h.site.realm := by
  unfold accept
  dsimp only
  split
  · split <;> rfl
  · rfl

theorem realm_reject : h.reject.1.site.realm = h.site.realm := by
  unfold reject
  dsimp only
  split <;> rfl

theorem realm_redeliver : h.redeliver.1.site.realm = h.site.realm := by
  unfold redeliver
  split
  · rfl
  · exact h.site.realm_replay h.exchange _

theorem realm_forward (f : Forwarder) (request : Addressed Message) :
    (h.forward f request).1.site.realm = h.site.realm := rfl

/-- **Calls.** A call does to resources and relations what its operations do. -/
theorem realm_perform (c : Call ν) :
    (h.perform c).1.site.realm = h.site.realm.run (h.callOps c) := by
  cases c with
  | accept => exact h.realm_accept
  | reject => exact h.realm_reject
  | respond r => exact h.realm_respondWith r
  | redeliver => exact h.realm_redeliver
  | forward f request => exact h.realm_forward f request
  | _ => rfl

/-- The operation that adds a resource. -/
def addOp (parent : ResourceId) (profile : Profile) (handler : Addressed Message → Program ν) :
    Realm.Op (Resource ν) := .tree (.addChild parent profile ⟨profile, handler⟩)

theorem realm_add (parent : ResourceId) (profile : Profile)
    (handler : Addressed Message → Program ν) :
    (h.add parent profile handler).1.site.realm =
      h.site.realm.apply (addOp parent profile handler) := rfl

end Handling

/-! ### Programs -/

/-- The operations of a program, in their order. -/
def Program.ops : Program ν → Handling ν → List (Realm.Op (Resource ν))
  | .done, _ => []
  | .call c next, h => h.callOps c ++ (next (h.perform c).2).ops (h.perform c).1
  | .add parent profile handler next, h =>
    Handling.addOp parent profile handler ::
      (next (h.add parent profile handler).2).ops (h.add parent profile handler).1

/-- **Programs.** A program does to resources and relations what its operations do. -/
theorem Program.realm_run (p : Program ν) (h : Handling ν) :
    (p.run h).site.realm = h.site.realm.run (p.ops h) := by
  induction p generalizing h with
  | done => rfl
  | call c next ih =>
    show ((next (h.perform c).2).run (h.perform c).1).site.realm = _
    rw [ih, h.realm_perform, Program.ops, Realm.run_append]
  | add parent profile handler next _ ih =>
    show ((next (h.add parent profile handler).2).run (h.add parent profile handler).1).site.realm = _
    rw [ih, h.realm_add]
    rfl

/-! ### Dispatches -/

namespace Handling

variable (h : Handling ν)

/-- The operations of a resource that handles a request. -/
def resourceOps (id : ResourceId) (resource : Resource ν) : List (Realm.Op (Resource ν)) :=
  let start := { h with exchange := { h.exchange with resource := some id } }
  let program := resource.handler h.exchange.request
  let after := program.run start
  program.ops start ++
    if after.exchange.isComplete then [] else after.answerOps (.ofCode .internalServerError [])

/-- The operations of a dispatch. -/
def dispatchOps : List (Realm.Op (Resource ν)) :=
  let recorded := h.record (.dispatched h.exchange.request h.target?)
  match h.assigned? with
  | some (id, resource) => recorded.resourceOps id resource
  | none => recorded.answerOps (.ofCode .notFound [])

theorem realm_runResource (id : ResourceId) (resource : Resource ν) :
    (h.runResource id resource).site.realm = h.site.realm.run (h.resourceOps id resource) := by
  unfold runResource resourceOps
  dsimp only
  rw [Realm.run_append]
  have hprogram := (resource.handler h.exchange.request).realm_run
    { h with exchange := { h.exchange with resource := some id } }
  split
  · exact hprogram
  · -- the report that comes before the answer is not seen by it
    refine (realm_respondWith _ _).trans ?_
    show Realm.run (Site.realm _) _ = _
    exact congrArg (fun r : Realm (Resource ν) => r.run _) hprogram

/-- **Dispatches.** A dispatch does to resources and relations what its operations do. -/
theorem realm_dispatch : h.dispatch.site.realm = h.site.realm.run h.dispatchOps := by
  rw [dispatch_eq, dispatchOps]
  cases h.assigned? with
  | none => exact realm_respondWith _ _
  | some assigned => exact realm_runResource _ assigned.1 assigned.2

end Handling

end Coap
