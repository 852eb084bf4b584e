import Coap.Proofs.Forward.Relay
import Coap.Proofs.Text.Utf8
import Coap.Proofs.Tree.Paths

/-!
# Requests without the path that led to their resource

A resource that forwards is found by the values of Uri-Path that are not empty, wherever these stand
among the empty ones. Its own path is taken off a request only where it comes first, with no empty
value before it or within it.

* `Program.carried`, `Handling.carried` — the requests that a program, or a dispatch, has carried on.
* `Resource.carried_forwarding` — of a resource that forwards that is one request.
* `Message.valuesOf_dropPath` — what is left of a path when another is taken off it.
* `Server.carried_forwarding_values` — which values of Uri-Path are left in a request that is carried
  on.
-/

namespace Coap

variable {ν : Type}

/-! ### Requests that are carried on -/

/-- The request that a call has carried on to its origin. -/
def Call.carried? : Call ν → Option (Addressed Message)
  | .forward _ request => some request
  | _ => none

/-- The requests that a program has carried on, in their order. -/
def Program.carried : Program ν → Handling ν → List (Addressed Message)
  | .done, _ => []
  | .call c next, h => c.carried?.toList ++ (next (h.perform c).2).carried (h.perform c).1
  | .add parent profile handler next, h =>
    (next (h.add parent profile handler).2).carried (h.add parent profile handler).1

theorem Program.carried_call {c : Call ν} (hc : c.carried? = none) (next : c.Result → Program ν)
    (h : Handling ν) :
    (Program.call c next).carried h = (next (h.perform c).2).carried (h.perform c).1 := by
  rw [carried, hc]
  rfl

theorem Program.carried_forward (f : Forwarder) (request : Addressed Message)
    (next : Except ForwardError Response → Program ν) (h : Handling ν) :
    (Program.call (.forward f request) next).carried h =
      request :: (next (h.forward f request).2).carried (h.forward f request).1 := rfl

/-- The requests that a dispatch has carried on. -/
def Handling.carried (h : Handling ν) : List (Addressed Message) :=
  match h.assigned? with
  | some (id, resource) => (resource.handler h.exchange.request).carried (h.entered id)
  | none => []

namespace Resource

/-- Once a request was carried on, nothing else is. -/
theorem carried_respondForwarded (name : String) (result : Except ForwardError Response)
    (h : Handling ν) : (respondForwarded name result).carried h = [] := by
  cases result with
  | error e => rfl
  | ok r =>
    refine (Program.carried_call rfl ..).trans ?_
    cases (h.perform (.respond r)).2 <;> rfl

/-- A resource that forwards has one request carried on, the one without its path. -/
theorem carried_forwarding (name : String) (attributes : Attributes) (f : Forwarder) {h : Handling ν}
    {id : ResourceId} (hresource : h.exchange.resource = some id)
    (hstate : h.exchange.state = .received) :
    ((forwarding name attributes f).handler h.exchange.request).carried h = [h.onward id] := by
  have hsame : h.accept.exchange.resource = some id := by
    rw [h.accept_of_received hstate]
    exact hresource
  have htree : h.accept.site.tree = h.site.tree := by rw [h.accept_of_received hstate]
  refine (Program.carried_call rfl _ h).trans ?_
  refine (Program.carried_call rfl _ h.accept).trans ?_
  dsimp only [Handling.perform]
  rw [hsame]
  refine (Program.carried_call rfl _ h.accept).trans ?_
  refine (Program.carried_forward ..).trans ?_
  rw [carried_respondForwarded, Handling.onward, ← htree]
  dsimp only [Handling.perform]
  cases h.accept.site.tree.pathOf id <;> rfl

end Resource

/-! ### Paths that are taken off -/

namespace Message

variable (m : Message)

/-- A path that is no beginning of the request's own is not taken off. -/
theorem dropPath_of_not_prefix {path : String}
    (h : ¬ (Text.pieces '/' path).map Text.bytes <+: m.options.valuesOf .uriPath) :
    m.dropPath path = m := by
  unfold dropPath
  dsimp only
  split
  · rfl
  · next values hvalues =>
    have hown : ((Text.pieces '/' path).map Text.bytes).isPrefixOf values = false := by
      rwa [Options.valuesOf, hvalues, ← List.isPrefixOf_iff_prefix, Bool.not_eq_true] at h
    simp only [hown, Bool.not_false, Bool.or_true, if_true]

/-- A path with which that of the request begins leaves the values behind it. -/
theorem valuesOf_dropPath {path : String} {rest : List Bytes}
    (h : m.options.valuesOf .uriPath = (Text.pieces '/' path).map Text.bytes ++ rest) :
    (m.dropPath path).options.valuesOf .uriPath = rest := by
  unfold dropPath
  dsimp only
  generalize (Text.pieces '/' path).map Text.bytes = own at h
  cases hvalues : m.options.get? .uriPath with
  | none =>
    rw [Options.valuesOf, hvalues] at h ⊢
    exact (List.append_eq_nil_iff.mp h.symm).2.symm
  | some values =>
    obtain rfl : values = own ++ rest := by rwa [Options.valuesOf, hvalues] at h
    have hbegins : own.isPrefixOf (own ++ rest) = true :=
      List.isPrefixOf_iff_prefix.mpr (List.prefix_append own rest)
    cases own with
    | nil => exact h
    | cons segment own =>
      simp only [hbegins, List.isEmpty_cons, Bool.not_true, Bool.or_false, Bool.false_eq_true,
        if_false, List.drop_left]
      cases rest with
      | nil => simp [Options.valuesOf, remove, OrderedMap.get?_erase]
      | cons value rest => simp [Options.valuesOf, OrderedMap.get?_insert]

end Message

/-! ### Empty values -/

/-- The values that are not empty come first where no empty value stands before or among them. -/
theorem prefix_filter_iff {values : List Bytes} :
    (values.filter fun v => !v.isEmpty) <+: values ↔
      values = (values.filter fun v => !v.isEmpty) ++ values.filter List.isEmpty := by
  constructor
  · rintro ⟨rest, hrest⟩
    have hnone : (rest.filter fun v => !v.isEmpty) = [] := by
      have hfiltered := congrArg (List.filter fun v => !v.isEmpty) hrest
      simpa [List.filter_filter] using hfiltered
    have hempty : rest.filter List.isEmpty = rest := by
      simpa [List.filter_eq_nil_iff, List.filter_eq_self] using hnone
    have hrest' : values.filter List.isEmpty = rest := by
      rw [← hrest, List.filter_append, hempty, List.filter_filter]
      simp
    rw [hrest', hrest]
  · intro h
    exact ⟨_, h.symm⟩

theorem filter_map_bytes (segments : List String) :
    ((segments.map Text.bytes).filter fun v => !v.isEmpty) =
      (segments.filter fun s => !s.isEmpty).map Text.bytes := by
  rw [List.filter_map]
  congr 1
  refine List.filter_congr fun segment _ => congrArg not ?_
  have hempty : Text.bytes segment = [] ↔ segment = "" :=
    ⟨fun h => Text.bytes_injective h, fun h => h ▸ rfl⟩
  rw [Bool.eq_iff_iff, List.isEmpty_iff, String.isEmpty_iff, hempty]

namespace Server

open Resource

variable (s : Server ν) (m : Addressed Message) (session : Option Session)

/-- **Requests that are carried on.** A request that is dispatched to a resource that forwards, in a tree
that was built up by any operations, has exactly one request carried on. It is addressed to the resource
by its values of Uri-Path that are not empty, which are the names on the way to it. The request that is
carried on is the same except for its path, and that path has only the values that took no part in
addressing the resource, if these come behind all the others. Otherwise it is the same as it came. -/
theorem carried_forwarding_values {profile : Profile} {root : Resource ν}
    {ops : List (Tree.Op (Resource ν))} (htree : s.site.tree = (Tree.withRoot profile root).run ops)
    {id : ResourceId} {name : String} {attributes : Attributes} {f : Forwarder}
    (hassigned : (s.handling m session).assigned? = some (id, .forwarding name attributes f)) :
    let values := m.data.options.valuesOf .uriPath
    ∃ names handed, s.site.tree.Route names id ∧ (s.handling m session).carried = [handed] ∧
      (values.filter fun v => !v.isEmpty) = names.map Text.bytes ∧
      handed.addr = m.addr ∧ m.data.SameBut handed.data .uriPath ∧
      (handed.data.options.valuesOf .uriPath = values.filter List.isEmpty ↔
        names.map Text.bytes <+: values) ∧
      (¬ names.map Text.bytes <+: values → handed = m) := by
  intro values
  have wf : s.site.tree.WellFormed := htree ▸ Tree.wellFormed_run profile root ops
  let h := (s.handling m session).entered id
  have hcarried : (s.handling m session).carried = [h.onward id] := by
    rw [Handling.carried, hassigned]
    exact carried_forwarding name attributes f (h := h) rfl rfl
  have hfound := Handling.target?_of_assigned? hassigned
  obtain ⟨segments, hpath, hsegments⟩ := Option.bind_eq_some_iff.mp hfound
  have route := wf.findSegments_eq_some_iff.mp hsegments
  have hvalues : values = segments.map Text.bytes := m.data.path?_eq_some_iff.mp hpath
  have honward : h.onward id =
      m.map (·.dropPath ("/" ++ Text.join "/" (segments.filter fun s => !s.isEmpty))) := by
    have hof : h.site.tree.pathOf id = some _ := route.pathOf_eq wf
    rw [Handling.onward, hof]
    rfl
  generalize hnames : (segments.filter fun s => !s.isEmpty) = names at route honward
  have hown : (values.filter fun v => !v.isEmpty) = names.map Text.bytes := by
    rw [hvalues, filter_map_bytes, hnames]
  have hpieces : Text.pieces '/' ("/" ++ Text.join "/" names) = names := route.pieces_path wf
  have hleft : ¬ names.map Text.bytes <+: values → h.onward id = m := by
    intro hbegins
    have hsame := m.data.dropPath_of_not_prefix (by rwa [hpieces])
    rw [honward, Addressed.map, hsame]
  refine ⟨names, h.onward id, route, hcarried, hown, ?_, h.sameBut_onward id, ?_, hleft⟩
  · rw [honward]
    rfl
  · constructor
    · -- where the request is carried on as it came, it has the names in its path if there are any
      intro h
      by_contra hbegins
      rw [hleft hbegins] at h
      apply hbegins
      have hnone : (values.filter fun v => !v.isEmpty) = [] := by
        rw [show values = _ from h, List.filter_filter]
        simp
      rw [← hown, hnone]
      exact List.nil_prefix
    · intro hbegins
      rw [← hown, prefix_filter_iff, hown] at hbegins
      rw [honward]
      exact m.data.valuesOf_dropPath (by rwa [hpieces])

/-! ### An outpost -/

/-- A server on which a resource below the root forwards. -/
def outpost : Server Unit :=
  { patient with
    site := { patient.site with
      tree := (Tree.withRoot (root (ν := Unit)).profile root).run
        [.add (plain "proxy" true)
          (.forwarding "proxy" .none (.custom fun _ => .error .gatewayTimeout))] } }

/-- A request with a given path. -/
def sentTo (path : List String) : Addressed Message :=
  ⟨{ Message.new .con .get 7 .empty with
      options := OrderedMap.empty.insert .uriPath (path.map Text.bytes) }, ⟨.v4 0, 5683⟩⟩

theorem assigned?_outpost {path : List String} {segments : List String}
    (hpath : (sentTo path).data.path? = some segments)
    (hnames : (segments.filter fun s => !s.isEmpty) = ["proxy"]) :
    (outpost.handling (sentTo path) none).assigned? =
      some (⟨1, 0⟩,
        .forwarding "proxy" .none (.custom fun _ => .error .gatewayTimeout)) := by
  refine outpost.assigned?_handling _ none hpath ?_ rfl
  show Option.filter _ (Tree.descend _ _ (segments.filter fun s => !s.isEmpty)) = _
  rw [hnames]
  rfl

/-- Behind its path a proxy is sent an empty value, which is carried on. -/
theorem carried_forwarding_outpost :
    ∃ handed, (outpost.handling (sentTo ["proxy", ""]) none).carried = [handed] ∧
      handed.data.options.valuesOf .uriPath = [[]] := by
  have hpath : (sentTo ["proxy", ""]).data.path? = some ["proxy", ""] :=
    Message.path?_eq_some_iff.mpr rfl
  have hvalues : (sentTo ["proxy", ""]).data.options.valuesOf .uriPath =
      [Text.bytes "proxy"] ++ [[]] := rfl
  obtain ⟨names, handed, -, hcarried, hown, -, -, hleft, -⟩ :=
    carried_forwarding_values outpost (sentTo ["proxy", ""]) none rfl (assigned?_outpost hpath rfl)
  refine ⟨handed, hcarried, hleft.mpr ?_⟩
  rw [← hown, hvalues]
  exact ⟨[[]], rfl⟩

/-- With an empty value before its path, a proxy carries on a request that still has its name. -/
theorem carried_forwarding_misplaced :
    ∃ id resource handed,
      (outpost.handling (sentTo ["", "proxy"]) none).assigned? = some (id, resource) ∧
      (outpost.handling (sentTo ["", "proxy"]) none).carried = [handed] ∧
      Text.bytes "proxy" ∈ handed.data.options.valuesOf .uriPath := by
  have hpath : (sentTo ["", "proxy"]).data.path? = some ["", "proxy"] :=
    Message.path?_eq_some_iff.mpr rfl
  have hassigned := assigned?_outpost hpath rfl
  let h := (outpost.handling (sentTo ["", "proxy"]) none).entered ⟨1, 0⟩
  have hcarried : (outpost.handling (sentTo ["", "proxy"]) none).carried = [h.onward ⟨1, 0⟩] := by
    rw [Handling.carried, hassigned]
    exact carried_forwarding "proxy" .none _ (h := h) rfl rfl
  refine ⟨_, _, _, hassigned, hcarried, ?_⟩
  decide

end Server

end Coap
