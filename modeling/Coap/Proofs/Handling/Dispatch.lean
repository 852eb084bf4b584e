import Coap.Proofs.Handling.Deposits

/-!
# What dispatches come to

A request is noted in the journal and given to the program of its resource. Where there is none, or
where the program gave no answer, an answer is given in its place, so that the exchange is complete in
the end.

* `Handling.announces` — does the handler of the resource announce a separate response?
* `Handling.Invariant.dispatch` — what calls preserve, a dispatch preserves.
* `Handling.Dispatched`, `Handling.Sound.dispatch` — what a dispatch leaves.
-/

namespace Coap

variable {ν : Type}

namespace Handling

variable (h : Handling ν)

/-- The resource that a request is for, with its id. -/
def assigned? : Option (ResourceId × Resource ν) :=
  h.target?.bind fun id => (h.site.tree.handler? id).map fun resource => (id, resource)

/-- The handling as a program finds it, its resource being noted. -/
def entered (id : ResourceId) : Handling ν :=
  { h.record (.dispatched h.exchange.request h.target?) with
    exchange := { h.exchange with resource := some id } }

/-- Does the handler of the resource announce a separate response before it answers? -/
def announces : Bool :=
  match h.assigned? with
  | some (id, resource) => (resource.handler h.exchange.request).announces (h.entered id)
  | none => false

theorem dispatch_eq :
    h.dispatch =
      match h.assigned? with
      | some (id, resource) =>
        (h.record (.dispatched h.exchange.request h.target?)).runResource id resource
      | none => (h.record (.dispatched h.exchange.request h.target?)).respondCode .notFound := rfl

variable {h} in
/-- What is for a resource is up to its handler. -/
theorem dispatch_of_assigned {id : ResourceId} {resource : Resource ν}
    (hassigned : h.assigned? = some (id, resource)) :
    h.dispatch = (h.record (.dispatched h.exchange.request h.target?)).runResource id resource := by
  rw [dispatch_eq, hassigned]

/-- A program that gave no answer is given one. -/
theorem runResource_eq (id : ResourceId) (resource : Resource ν) :
    let after := (resource.handler h.exchange.request).run
      { h with exchange := { h.exchange with resource := some id } }
    after.exchange.isComplete = true ∧ h.runResource id resource = after ∨
      ∃ text, h.runResource id resource =
        (after.report .error text).respondCode .internalServerError := by
  simp only [runResource]
  split
  · next hcomplete => exact .inl ⟨hcomplete, rfl⟩
  · exact .inr ⟨_, rfl⟩

/-- After a dispatch the exchange is complete. -/
theorem isComplete_dispatch : h.dispatch.exchange.isComplete = true := by
  rw [dispatch_eq]
  split
  · next id resource _ =>
    rcases runResource_eq _ id resource with ⟨hcomplete, heq⟩ | ⟨text, heq⟩
    · rw [heq]
      exact hcomplete
    · rw [heq]
      exact isComplete_respondWith _ rfl
  · exact isComplete_respondWith _ rfl

variable {h}

/-- What calls preserve, a dispatch preserves. -/
theorem Invariant.dispatch {motive : Bool → Handling ν → Prop} (inv : Invariant motive)
    (missing : motive false (h.record (.dispatched h.exchange.request h.target?)))
    (entered : ∀ id, motive false (h.entered id)) : motive h.announces h.dispatch := by
  rw [dispatch_eq]
  unfold announces
  split
  · next id resource _ =>
    have hafter := inv.run (resource.handler h.exchange.request) (entered id)
    rw [Bool.false_or] at hafter
    rcases runResource_eq _ id resource with ⟨-, heq⟩ | ⟨text, heq⟩
    · rw [heq]
      exact hafter
    · rw [heq]
      exact inv.perform (inv.perform hafter (.report .error text) nofun)
        (.respond (.ofCode .internalServerError [])) nofun
  · exact inv.perform missing (.respond (.ofCode .notFound [])) nofun

/-- After a dispatch the exchange names the resource whose handler acted. -/
theorem resource_dispatch {id : ResourceId} {resource : Resource ν}
    (hassigned : h.assigned? = some (id, resource)) : h.dispatch.exchange.resource = some id := by
  have hafter : ((resource.handler h.exchange.request).run (h.entered id)).exchange.resource = some id :=
    Program.run_induction (motive := fun h => h.exchange.resource = some id)
      (fun h c hsame => (h.resource_perform c).trans hsame) (fun _ _ _ _ hsame => hsame) _ rfl
  rw [dispatch_of_assigned hassigned]
  rcases runResource_eq _ id resource with ⟨-, heq⟩ | ⟨text, heq⟩
  · rw [heq]
    exact hafter
  · rw [heq]
    exact (resource_perform _ (.respond (.ofCode .internalServerError []))).trans hafter

/-- What a dispatch comes to: the request is noted, and then programs and answers do the rest. -/
structure Dispatched (h h' : Handling ν) (announced : Bool) : Prop where
  sound : h'.Sound announced
  complete : h'.exchange.isComplete = true
  request : h'.exchange.request = h.exchange.request
  session : h'.exchange.session = h.exchange.session
  continues : h.site.Continues h'.site

/-- **Dispatch.** After a dispatch the exchange is complete, and announced if the program of its
resource announces it. -/
theorem Sound.dispatch (sound : h.Sound false) :
    Dispatched (h.record (.dispatched h.exchange.request h.target?)) h.dispatch h.announces := by
  let recorded := h.record (.dispatched h.exchange.request h.target?)
  have inv := invariant_sound.and ((invariant_request h.exchange.request h.exchange.session).and
    (invariant_continues recorded.site))
  obtain ⟨hsound, ⟨hrequest, hsession⟩, hcontinues⟩ := inv.dispatch
    ⟨⟨sound.life, sound.inTime⟩, ⟨rfl, rfl⟩, .refl _⟩
    fun _ => ⟨⟨sound.life, sound.inTime⟩, ⟨rfl, rfl⟩, .refl _⟩
  exact ⟨hsound, h.isComplete_dispatch, hrequest, hsession, hcontinues⟩

end Handling

end Coap
