import Coap.Observers
import Coap.Proofs.Tree.Paths
import Coap.Proofs.Wire.Values

/-!
# What a response does to a relation

A response touches one relation at most, the one of its request with the resource that handles it,
and one of its own options, Observe. What it does there depends on the Observe option of the request,
on the class of the response, and on whether the resource can be observed.

* `Observers.relation?` — the relation of a resource under a key; `Observers.observed_register` and
  `Observers.observed_cancel` say how it changes.
* `Observers.SameBut`, `Message.SameBut` — all but one relation, and all but one option, stay.
* `Observers.Grants` — a response that establishes a relation.
* `Observers.settle_effect` — what a response does in each case, and what it leaves alone.
-/

namespace Coap

/-! ### Classes of codes -/

theorem Code.isSuccess_iff {c : Code} : c.isSuccess = true ↔ c.cls = 2 := beq_iff_eq

/-- Errors are of the classes 4 and 5. -/
theorem Code.isError_iff {c : Code} : c.isError = true ↔ c.cls = 4 ∨ c.cls = 5 := by
  simp only [isError, kind, Bool.and_eq_true, beq_iff_eq, decide_eq_true_iff,
    UInt8.le_iff_toNat_le, ← UInt8.toNat_inj, UInt8.reduceToNat]
  by_cases hzero : c.cls.toNat = 0
  · by_cases hdetail : c.detail.toNat = 0 <;> simp [hzero, hdetail]
  · by_cases hresponse : 2 ≤ c.cls.toNat ∧ c.cls.toNat ≤ 5
    · simp only [if_neg hzero, if_pos hresponse, true_and]
      omega
    · simp only [if_neg hzero, if_neg hresponse, reduceCtorEq, false_and, false_iff]
      omega

/-! ### Options of a message -/

namespace Message

/-- Two messages agree in everything but one option. -/
def SameBut (m m' : Message) (n : OptionNumber) : Prop :=
  m' = { m with options := m'.options } ∧ ∀ n', n' ≠ n → m'.options.get? n' = m.options.get? n'

theorem sameBut_remove (m : Message) (n : OptionNumber) : m.SameBut (m.remove n) n := by
  refine ⟨rfl, fun n' h => ?_⟩
  rw [remove, OrderedMap.get?_erase, if_neg h]

theorem sameBut_set (m : Message) (n : OptionNumber) (value : Bytes) :
    m.SameBut (m.set n value) n := by
  refine ⟨rfl, fun n' h => ?_⟩
  rw [set, Options.set, OrderedMap.get?_insert, if_neg h]

theorem get?_remove_self (m : Message) (n : OptionNumber) : (m.remove n).options.get? n = none := by
  rw [remove, OrderedMap.get?_erase, if_pos rfl]

theorem get?_set_self (m : Message) (n : OptionNumber) (value : Bytes) :
    (m.set n value).options.get? n = some [value] := by
  rw [set, Options.set, OrderedMap.get?_insert, if_pos rfl]

theorem get?_setObserve (m : Message) (n : UInt32) :
    (m.setObserve n).options.get? .observe = some [OptionValue.ofUInt n] :=
  m.get?_set_self .observe _

/-- The Observe option that was set is the one that is read. -/
theorem observeValue?_setObserve (m : Message) (n : UInt32) :
    (m.setObserve n).observeValue? = some n := by
  rw [observeValue?, uint?, Options.first?, Options.valuesOf, get?_setObserve]
  exact OptionValue.toUInt?_ofUInt n

end Message

/-! ### Lookups of relations -/

namespace Observers

variable {o o' : Observers} {r id : ResourceId} {key k : Key}

/-- The relation of a resource under a key. -/
def relation? (o : Observers) (r : ResourceId) (key : Key) : Option Relation :=
  (o.observed r).relations.get? key

theorem observed_register (relation : Relation) :
    (o.register id relation).1.observed r =
      if r = id then
        { o.observed id with relations := (o.observed id).relations.insert relation.key relation }
      else o.observed r := by
  simp only [register, observed, OrderedMap.get?_insert]
  split <;> rfl

theorem observed_cancel :
    (o.cancel id key).1.observed r =
      if r = id then { o.observed id with relations := (o.observed id).relations.erase key }
      else o.observed r := by
  simp only [cancel, observed, OrderedMap.get?_modify]
  split
  · cases o.resources.get? id <;> rfl
  · rfl

theorem observed_changed :
    (o.changed id).1.observed r =
      if r = id then
        { o.observed id with sequence := ((o.observed id).sequence + 1) &&& sequenceMask }
      else o.observed r := by
  simp only [changed, observed, OrderedMap.get?_insert]
  split <;> rfl

theorem observed_forget : (o.forget id).observed r = if r = id then ⟨0, .empty⟩ else o.observed r := by
  simp only [observed, forget, OrderedMap.get?_erase]
  split <;> rfl

/-- Registration puts a relation under its own key. -/
theorem relation?_register (relation : Relation) :
    (o.register id relation).1.relation? r k =
      if r = id ∧ k = relation.key then some relation else o.relation? r k := by
  rw [relation?, observed_register]
  by_cases hr : r = id
  · simp only [hr, if_pos, true_and, OrderedMap.get?_insert]
    rfl
  · simp only [hr, if_false, false_and]
    rfl

theorem relation?_cancel :
    (o.cancel id key).1.relation? r k =
      if r = id ∧ k = key then Option.none else o.relation? r k := by
  rw [relation?, observed_cancel]
  by_cases hr : r = id
  · simp only [hr, if_pos, true_and, OrderedMap.get?_erase]
    rfl
  · simp only [hr, if_false, false_and]
    rfl

/-- All relations and sequence numbers are the same, except perhaps one relation of one resource. -/
structure SameBut (o o' : Observers) (r : ResourceId) (key : Key) : Prop where
  relation : ∀ r' k, ¬ (r' = r ∧ k = key) → o'.relation? r' k = o.relation? r' k
  sequence : ∀ r', o'.sequence r' = o.sequence r'

namespace SameBut

theorem refl (o : Observers) (r : ResourceId) (key : Key) : o.SameBut o r key :=
  ⟨fun _ _ _ => rfl, fun _ => rfl⟩

theorem register (o : Observers) (r : ResourceId) (relation : Relation) :
    o.SameBut (o.register r relation).1 r relation.key := by
  refine ⟨fun r' k h => ?_, fun r' => ?_⟩
  · rw [relation?_register, if_neg h]
  · rw [Observers.sequence, observed_register]
    split
    · next h => rw [h]; rfl
    · rfl

theorem cancel (o : Observers) (r : ResourceId) (key : Key) : o.SameBut (o.cancel r key).1 r key := by
  refine ⟨fun r' k h => ?_, fun r' => ?_⟩
  · rw [relation?_cancel, if_neg h]
  · rw [Observers.sequence, observed_cancel]
    split
    · next h => rw [h]; rfl
    · rfl

end SameBut

/-! ### Four kinds of responses -/

section Settlement

variable {η : Type u} {tree : Tree η} {e : Exchange} {now : Instant} {m : Message}

/-- The request of an exchange is to observe a resource, which can be observed, and is successful. -/
structure Grants (tree : Tree η) (e : Exchange) (r : ResourceId) (m : Message) : Prop where
  asked : e.request.data.observeValue? = some 0
  success : m.code.cls = 2
  live : tree.contains r = true
  observable : tree.isObservable r = true

/-- The relation that the request of an exchange establishes. -/
def granted (e : Exchange) (now : Instant) : Relation :=
  ⟨e.peer, e.request.data.token, ⟨e.request.data, now⟩⟩

theorem observeAction?_eq_register_iff {m : Message} :
    m.observeAction? = some .register ↔ m.observeValue? = some 0 := by
  rw [Message.observeAction?, Option.bind_eq_some_iff]
  constructor
  · rintro ⟨n, hn, haction⟩
    unfold ObserveAction.ofUInt? at haction
    split at haction
    · next hzero => rw [hn, hzero]
    · split at haction <;> cases haction
  · intro h
    exact ⟨0, h, rfl⟩

theorem observeAction?_eq_deregister_iff {m : Message} :
    m.observeAction? = some .deregister ↔ m.observeValue? = some 1 := by
  rw [Message.observeAction?, Option.bind_eq_some_iff]
  constructor
  · rintro ⟨n, hn, haction⟩
    unfold ObserveAction.ofUInt? at haction
    split at haction
    · cases haction
    · split at haction
      · next hone => rw [hn, hone]
      · cases haction
  · intro h
    exact ⟨1, h, rfl⟩

/-- Only what is there can be observed. -/
theorem contains_of_isObservable (h : tree.isObservable r = true) : tree.contains r = true := by
  unfold Tree.isObservable at h
  cases hnode : tree.node? r with
  | none => simp [hnode] at h
  | some node => exact Tree.contains_iff.mpr ⟨node, hnode⟩

theorem grants_iff :
    Grants tree e r m ↔ e.request.data.observeAction? = some .register ∧
      (m.code.isSuccess && tree.isObservable r) = true := by
  rw [observeAction?_eq_register_iff, Bool.and_eq_true, Code.isSuccess_iff]
  constructor
  · exact fun h => ⟨h.asked, h.success, h.observable⟩
  · exact fun ⟨hasked, hsuccess, hobservable⟩ =>
      ⟨hasked, hsuccess, contains_of_isObservable hobservable, hobservable⟩

theorem settle_of_resource_none (h : e.resource = Option.none) :
    o.settle tree e now m = (o, e, m.remove .observe) := by
  rw [settle, h]

theorem settle_of_grants (hr : e.resource = some r) (h : Grants tree e r m) :
    o.settle tree e now m =
      ((o.register r (granted e now)).1, { e with marker := .established },
        m.setObserve (o.sequence r)) := by
  obtain ⟨hasked, hgranted⟩ := grants_iff.mp h
  simp only [settle, hr, hasked, if_pos hgranted]
  rfl

theorem settle_of_deregister (hr : e.resource = some r)
    (h : e.request.data.observeValue? = some 1) :
    o.settle tree e now m =
      ((o.cancel r (.ofToken e.request)).1, { e with marker := .canceled }, m.remove .observe) := by
  simp only [settle, hr, observeAction?_eq_deregister_iff.mpr h]

theorem settle_of_other (hr : e.resource = some r) (hgrants : ¬ Grants tree e r m)
    (h : e.request.data.observeValue? ≠ some 1) :
    o.settle tree e now m = settle.settleOther.{u} o e r (.ofToken e.request) m := by
  rw [grants_iff, not_and] at hgrants
  rw [ne_eq, ← observeAction?_eq_deregister_iff] at h
  simp only [settle, hr]
  split
  · next haction => rw [if_neg (hgrants haction)]
  · next haction => exact absurd haction h
  · rfl

/-- An error ends the relation. -/
theorem settleOther_of_error (h : m.code.cls = 4 ∨ m.code.cls = 5) :
    settle.settleOther o e r key m =
      ((o.cancel r key).1,
        if (o.relation? r key).isSome then { e with marker := .canceled } else e,
        m.remove .observe) := by
  rw [settle.settleOther, if_pos (Code.isError_iff.mpr h)]
  rfl

theorem settleOther_of_plain (h : ¬ (m.code.cls = 4 ∨ m.code.cls = 5)) :
    settle.settleOther o e r key m = (o, e, m.remove .observe) := by
  rw [← Code.isError_iff] at h
  rw [settle.settleOther, if_neg h]

/-- All that a response can do where a resource handles the request. -/
theorem settle_cases (o : Observers) (tree : Tree η) (now : Instant) (m : Message)
    (hr : e.resource = some r) :
    (Grants tree e r m ∧
      o.settle tree e now m =
        ((o.register r (granted e now)).1, { e with marker := .established },
          m.setObserve (o.sequence r))) ∨
    (∃ e', o.settle tree e now m = ((o.cancel r (.ofToken e.request)).1, e', m.remove .observe)) ∨
    o.settle tree e now m = (o, e, m.remove .observe) := by
  by_cases hgrants : Grants tree e r m
  · exact .inl ⟨hgrants, settle_of_grants hr hgrants⟩
  · by_cases hasked : e.request.data.observeValue? = some 1
    · exact .inr (.inl ⟨_, settle_of_deregister hr hasked⟩)
    · rw [settle_of_other hr hgrants hasked]
      by_cases herror : m.code.cls = 4 ∨ m.code.cls = 5
      · exact .inr (.inl ⟨_, settleOther_of_error herror⟩)
      · exact .inr (.inr (settleOther_of_plain herror))

/-- A response touches one relation only. -/
theorem sameBut_settle (o : Observers) (tree : Tree η) (now : Instant) (m : Message)
    (hr : e.resource = some r) :
    o.SameBut (o.settle tree e now m).1 r (.ofToken e.request) := by
  rcases settle_cases o tree now m hr with ⟨-, heq⟩ | ⟨e', heq⟩ | heq
  · rw [heq]
    exact .register o r (granted e now)
  · rw [heq]
    exact .cancel o r _
  · rw [heq]
    exact .refl o r _

/-- A response keeps its options, except for Observe. -/
theorem sameBut_message_settle (o : Observers) (tree : Tree η) (e : Exchange) (now : Instant)
    (m : Message) : m.SameBut (o.settle tree e now m).2.2 .observe := by
  cases hr : e.resource with
  | none =>
    rw [settle_of_resource_none hr]
    exact m.sameBut_remove .observe
  | some r =>
    rcases settle_cases o tree now m hr with ⟨-, heq⟩ | ⟨e', heq⟩ | heq
    · rw [heq]
      exact m.sameBut_set .observe _
    · rw [heq]
      exact m.sameBut_remove .observe
    · rw [heq]
      exact m.sameBut_remove .observe

/-- **Settlement.** What a response does to relations, to its exchange and to its options. If the
request is to observe and is granted, its relation is established, and the response has the sequence
number of the resource as its Observe option. If the request is to end the observation, its relation
is gone. In all other cases the relation is gone after an error, and otherwise as it was. Beside that
one relation, the marker of the exchange and the Observe option of the response, all is as before; and
where no resource handles the request, so are all relations and the marker. -/
theorem settle_effect (o : Observers) (tree : Tree η) (e : Exchange) (now : Instant) (m : Message) :
    let after := o.settle tree e now m
    let key := Key.token e.peer e.request.data.token
    let asked := e.request.data.observeValue?
    let sent := after.2.2.options.get? .observe
    m.SameBut after.2.2 .observe ∧
    (e.resource = Option.none → after.1 = o ∧ after.2.1 = e ∧ sent = Option.none) ∧
    ∀ r, e.resource = some r →
      o.SameBut after.1 r key ∧
      (Grants tree e r m →
        after.1.relation? r key = some ⟨e.peer, e.request.data.token, ⟨e.request.data, now⟩⟩ ∧
        after.2.1 = { e with marker := .established } ∧
        sent = some [OptionValue.ofUInt (o.sequence r)] ∧
        after.2.2.observeValue? = some (o.sequence r)) ∧
      (asked = some 1 →
        after.1.relation? r key = Option.none ∧ after.2.1 = { e with marker := .canceled } ∧
        sent = Option.none) ∧
      (¬ Grants tree e r m → asked ≠ some 1 →
        sent = Option.none ∧
        (m.code.cls = 4 ∨ m.code.cls = 5 →
          after.1.relation? r key = Option.none ∧
          after.2.1 = if (o.relation? r key).isSome then { e with marker := .canceled } else e) ∧
        (¬ (m.code.cls = 4 ∨ m.code.cls = 5) →
          after.1.relation? r key = o.relation? r key ∧ after.2.1 = e)) := by
  intro after key asked sent
  have hstrip : after.2.2 = m.remove .observe → sent = Option.none := by
    intro hremove
    show after.2.2.options.get? .observe = _
    rw [hremove, m.get?_remove_self]
  have hcancel : ∀ r, (o.cancel r key).1.relation? r key = Option.none := fun r => by
    rw [relation?_cancel, if_pos ⟨rfl, rfl⟩]
  refine ⟨sameBut_message_settle o tree e now m, fun hr => ?_, fun r hr =>
    ⟨sameBut_settle o tree now m hr, fun hgrants => ?_, fun hasked => ?_, fun hgrants hasked => ?_⟩⟩
  · have heq : after = _ := settle_of_resource_none hr
    exact ⟨by rw [heq], by rw [heq], hstrip (by rw [heq])⟩
  · have heq : after = _ := settle_of_grants hr hgrants
    have hmessage : after.2.2 = m.setObserve (o.sequence r) := by rw [heq]
    refine ⟨?_, by rw [heq], ?_, ?_⟩
    · rw [heq, relation?_register]
      exact if_pos ⟨rfl, rfl⟩
    · show after.2.2.options.get? .observe = _
      rw [hmessage, m.get?_setObserve]
    · rw [hmessage, m.observeValue?_setObserve]
  · have heq : after = _ := settle_of_deregister hr hasked
    refine ⟨?_, by rw [heq], hstrip (by rw [heq])⟩
    rw [heq]
    exact hcancel r
  · have hother : after = _ := settle_of_other hr hgrants hasked
    by_cases herror : m.code.cls = 4 ∨ m.code.cls = 5
    · have heq := hother.trans (settleOther_of_error herror)
      refine ⟨hstrip (by rw [heq]), fun _ => ⟨?_, by rw [heq]; rfl⟩, fun h => absurd herror h⟩
      rw [heq]
      exact hcancel r
    · have heq := hother.trans (settleOther_of_plain herror)
      exact ⟨hstrip (by rw [heq]), fun h => absurd h herror, fun _ => ⟨by rw [heq], by rw [heq]⟩⟩

end Settlement

/-! ### A lamp in a porch -/

/-- A porch with a lamp that can be observed. -/
def litPorch : Tree Unit := (Tree.porch.setObservable ⟨2, 0⟩ true).1

/-- An exchange about the lamp, with an Observe option in its request. -/
def lampExchange (observe : UInt32) : Exchange :=
  { Exchange.new ⟨(Message.new .con .get 7 .empty).setObserve observe, ⟨.v4 0, 5683⟩⟩ Option.none 0 with
    resource := some ⟨2, 0⟩ }

/-- A success begins the observation of the lamp, and the next one ends it, as the requests ask. -/
theorem settle_effect_lamp :
    let begun := none.settle litPorch (lampExchange 0) 0 (.new .ack .content 7 .empty)
    let ended := begun.1.settle litPorch (lampExchange 1) 0 (.new .ack .content 7 .empty)
    let key := Key.token ⟨.v4 0, 5683⟩ .empty
    begun.2.2.observeValue? = some 0 ∧ (begun.1.relation? ⟨2, 0⟩ key).isSome = true ∧
      ended.1.relation? ⟨2, 0⟩ key = Option.none ∧ ended.2.1.marker = .canceled := by
  intro begun ended key
  obtain ⟨-, -, hbegun⟩ := settle_effect none litPorch (lampExchange 0) 0 (.new .ack .content 7 .empty)
  obtain ⟨-, -, hended⟩ :=
    settle_effect begun.1 litPorch (lampExchange 1) 0 (.new .ack .content 7 .empty)
  obtain ⟨-, hgrants, -⟩ := hbegun ⟨2, 0⟩ rfl
  obtain ⟨-, -, hends, -⟩ := hended ⟨2, 0⟩ rfl
  obtain ⟨hrelation, -, -, hobserve⟩ := hgrants
    { asked := by decide, success := rfl, live := by decide, observable := by decide }
  obtain ⟨hgone, hmarker, -⟩ := hends (by decide)
  exact ⟨hobserve, Option.isSome_iff_exists.mpr ⟨_, hrelation⟩, hgone, congrArg (·.marker) hmarker⟩

end Observers

end Coap
