import Coap.Proofs.Delivery.Replies
import Coap.Proofs.Forward.Origin
import Coap.Proofs.Tree.Removal
import Coap.Proofs.Wire.Refusals
import Coap.Proofs.Wire.RoundTrip
import Coap.Request

/-!
# From paths to resources

A path goes a long way before it leads to a resource: it is read off a tree, cut at its slashes, made
octets of options, written into a datagram, read from there, and followed down a tree. What is followed
down are the names that were read off, unless one of them is too long for an option. So the datagram of
a request for the path of a resource reaches that resource as long as it is there, and otherwise none.

* `Message.requestWith` — a request for a path.
* `Message.exists_encode_requestWith_iff`, `Message.path?_requestWith` — its datagram, and the names that
  are read from it.
* `Tree.WellFormed.findPath_eq_some_iff_pathOf` — the path of a resource leads to those with that path,
  in every tree.
* `Handling.Reaches`, `Handling.Misses` — requests that are handled by a resource, and by none.
* `Server.requests_routed` — what becomes of the request.
-/

namespace Coap

/-! ### Requests for paths -/

/-- Segments make one option, or none if there are none. -/
theorem Options.entries_setSegments_empty (n : OptionNumber) (segments : List String) :
    (setSegments .empty n segments).entries =
      if segments.isEmpty then [] else [(n, segments.map Text.bytes)] := by
  unfold setSegments
  split <;> rfl

namespace Message

/-- A confirmable request for a path, with an id, a token and a payload. -/
def requestWith (method : Method) (path : String) (id : UInt16) (token : Token) (payload : Bytes) :
    Message :=
  { request method path with id, token, payload }

variable (method : Method) (path : String) (id : UInt16) (token : Token) (payload : Bytes)

theorem entries_requestWith :
    (requestWith method path id token payload).options.entries =
      if (Text.pieces '/' path).isEmpty then []
      else [(.uriPath, (Text.pieces '/' path).map Text.bytes)] :=
  Options.entries_setSegments_empty .uriPath _

theorem hasValues_requestWith : (requestWith method path id token payload).options.HasValues := by
  intro entry hentry
  rw [entries_requestWith] at hentry
  split at hentry
  · cases hentry
  · next hpieces =>
    obtain rfl := List.mem_singleton.mp hentry
    simpa using hpieces

theorem dropEmpty_requestWith :
    (requestWith method path id token payload).options.dropEmpty =
      (requestWith method path id token payload).options :=
  (Options.dropEmpty_eq_self_iff _).mpr (hasValues_requestWith method path id token payload)

/-- The wire keeps the request if it keeps its method. -/
theorem onWire_requestWith_eq_self_iff :
    (requestWith method path id token payload).onWire = requestWith method path id token payload ↔
      method.code.Fits := by
  rw [onWire_eq_self_iff]
  constructor
  · rintro ⟨-, hcode, -⟩
    exact hcode
  · intro hcode
    exact ⟨show (1 : UInt8) < 4 by decide, hcode, hasValues_requestWith method path id token payload⟩

/-- The request is written exactly if no name is too long. -/
theorem exists_encode_requestWith_iff :
    (∃ bytes, (requestWith method path id token payload).encode = .ok bytes) ↔
      ∀ name ∈ Text.pieces '/' path, Text.byteLength name ≤ 65535 := by
  rw [exists_encode_iff, dropEmpty_requestWith, entries_requestWith]
  split
  · next hpieces =>
    rw [List.isEmpty_iff.mp hpieces]
    exact iff_of_true Options.writable_nil nofun
  · rw [Options.writable_cons_iff, List.forall_mem_map]
    exact ⟨fun h => h.2.1, fun h => ⟨by decide, h, Options.writable_nil⟩⟩

/-- The names of the path are read back. -/
theorem path?_requestWith :
    (requestWith method path id token payload).onWire.path? = some (Text.pieces '/' path) := by
  have hget : (requestWith method path id token payload).options.get? .uriPath =
      Options.segmentValues? (Text.pieces '/' path) :=
    (Options.get?_setSegments ..).trans (if_pos rfl)
  rw [path?_eq_some_iff]
  show (requestWith method path id token payload).options.dropEmpty.valuesOf .uriPath = _
  rw [dropEmpty_requestWith, Options.valuesOf, hget, Options.segmentValues?]
  split
  · next hpieces =>
    rw [List.isEmpty_iff.mp hpieces]
    rfl
  · rfl

end Message

/-! ### Trees that go on -/

/-- The path of a resource leads to those with that path, in every other tree as well. -/
theorem Tree.WellFormed.findPath_eq_some_iff_pathOf {η : Type u} {t now : Tree η} (wf : t.WellFormed)
    (wfNow : now.WellFormed) {id other : ResourceId} {path : String} (hpath : t.pathOf id = some path) :
    now.findPath path = some other ↔ now.pathOf other = some path := by
  refine ⟨fun hfound => ?_, wfNow.findPath_pathOf⟩
  obtain ⟨names, route, rfl⟩ := wf.pathOf_eq_some_iff.mp hpath
  rw [wfNow.findPath_eq_some_iff, route.pieces_path wf] at hfound
  exact hfound.pathOf_eq wfNow

/-- The names in a path lead where the path leads. -/
theorem Tree.findSegments_pieces {η : Type u} (t : Tree η) (path : String) :
    t.findSegments (Text.pieces '/' path) = t.findPath path := by
  rw [findPath, findSegments, findSegments, Text.pieces, List.filter_filter]
  simp only [Bool.and_self]

variable {ν : Type}

/-! ### Requests with a resource and without -/

namespace Handling

/-- The request is for a resource: its handler is run, and the exchange names the resource. -/
structure Reaches (h : Handling ν) (id : ResourceId) : Prop where
  /-- The journal notes the resource, and what follows is up to its handler. -/
  runs : ∃ resource, h.site.tree.handler? id = some resource ∧
    h.dispatch = (h.record (.dispatched h.exchange.request (some id))).runResource id resource
  named : h.dispatch.exchange.resource = some id

/-- The request is for no resource: it is not found, and nothing else happens. -/
def Misses (h : Handling ν) : Prop :=
  h.dispatch = (h.record (.dispatched h.exchange.request none)).respondCode .notFound

variable {h : Handling ν} {id : ResourceId}

/-- What a request is for handles it. -/
theorem reaches_of_target? (htarget : h.target? = some id) : h.Reaches id := by
  obtain ⟨segments, -, hfound⟩ := Option.bind_eq_some_iff.mp htarget
  obtain ⟨resource, hhandler⟩ := Tree.exists_handler_of_findSegments hfound
  have hassigned : h.assigned? = some (id, resource) := by
    rw [assigned?, htarget, Option.bind_some, hhandler, Option.map_some]
  refine ⟨⟨resource, hhandler, ?_⟩, resource_dispatch hassigned⟩
  rw [dispatch_of_assigned hassigned, htarget]

theorem assigned?_eq_none (htarget : h.target? = none) : h.assigned? = none := by
  rw [assigned?, htarget, Option.bind_none]

theorem misses_of_target? (htarget : h.target? = none) : h.Misses := by
  rw [Misses, dispatch_eq, assigned?_eq_none htarget, htarget]

/-- The names that were read off a tree lead to the resource that has their path by now. -/
theorem target?_eq_some_iff {t : Tree (Resource ν)} (wf : t.WellFormed)
    (wfNow : h.site.tree.WellFormed) {other : ResourceId} {path : String}
    (hpath : t.pathOf id = some path) (hread : h.request.path? = some (Text.pieces '/' path)) :
    h.target? = some other ↔ h.site.tree.pathOf other = some path := by
  rw [target?, hread, Option.bind_some, Tree.findSegments_pieces,
    wf.findPath_eq_some_iff_pathOf wfNow hpath]

end Handling

namespace Server

variable {s : Server ν} {m : Addressed Message} {session : Option Session} {id : ResourceId}

/-- The retained exchange of a new request names the resource that handled it. -/
theorem deliver_of_reaches (hnew : s.dedup.find? (.ofId m) = none) (hrequest : m.data.isRequest = true)
    (hreaches : (s.handling m session).Reaches id) :
    ∃ e final, s.FirstDelivery m session (s.deliver m session).1 (s.deliver m session).2 e final ∧
      e.resource = some id := by
  obtain ⟨-, final, first⟩ := s.deliver_of_new m session hnew hrequest
  exact ⟨_, final, first, hreaches.named⟩

/-- A new request for no resource is answered with 4.04. -/
theorem deliver_of_target?_eq_none (hnew : s.dedup.find? (.ofId m) = none)
    (hrequest : m.data.isRequest = true) (htarget : (s.handling m session).target? = none) :
    ∃ e final, s.FirstDelivery m session (s.deliver m session).1 (s.deliver m session).2 e final ∧
      IsAnswer m session false final ∧ final.data.message.code = .notFound := by
  obtain ⟨e, final, first, hfinal, hgiven⟩ := s.finalDelivery m session hnew hrequest
  have hnone := Handling.assigned?_eq_none htarget
  rw [hnone] at hgiven
  rw [announces, Handling.announces, hnone, hgiven.1] at hfinal
  exact ⟨e, final, first, hfinal, hgiven.2⟩

/-- With a tree as it is, a message is for the resource with a path. -/
structure LeadsTo (now : Tree (Resource ν)) (path : String) (read : Message) : Prop where
  /-- A dispatch runs the handler of the resource with that path. -/
  reaches : ∀ h : Handling ν, h.request = read → h.site.tree = now →
    ∀ id, now.pathOf id = some path → h.Reaches id
  /-- If there is none, a dispatch finds none. -/
  misses : ∀ h : Handling ν, h.request = read → h.site.tree = now →
    (∀ id, now.pathOf id ≠ some path) → h.Misses
  /-- The exchange that a server retains for a new request names the resource. -/
  retained : ∀ (s : Server ν) (m : Addressed Message) (session : Option Session), m.data = read →
    s.site.tree = now → s.dedup.find? (.ofId m) = none → m.data.isRequest = true →
    ∀ id, now.pathOf id = some path →
      ∃ e final, s.FirstDelivery m session (s.deliver m session).1 (s.deliver m session).2 e final ∧
        e.resource = some id
  /-- If there is none, the reply to a new request is 4.04. -/
  notFound : ∀ (s : Server ν) (m : Addressed Message) (session : Option Session), m.data = read →
    s.site.tree = now → s.dedup.find? (.ofId m) = none → m.data.isRequest = true →
    (∀ id, now.pathOf id ≠ some path) →
      ∃ e final, s.FirstDelivery m session (s.deliver m session).1 (s.deliver m session).2 e final ∧
        IsAnswer m session false final ∧ final.data.message.code = .notFound

/-- The names that were read off a tree lead to the resource with their path, in every other tree. -/
theorem leadsTo {t now : Tree (Resource ν)} (wf : t.WellFormed) (wfNow : now.WellFormed) {path : String}
    (hpath : t.pathOf id = some path) {read : Message}
    (hread : read.path? = some (Text.pieces '/' path)) : LeadsTo now path read := by
  have htarget {h : Handling ν} (hrequest : h.request = read) (htree : h.site.tree = now)
      (other : ResourceId) : h.target? = some other ↔ now.pathOf other = some path := by
    subst hrequest htree
    exact Handling.target?_eq_some_iff wf wfNow hpath hread
  have hnone {h : Handling ν} (hrequest : h.request = read) (htree : h.site.tree = now)
      (hgone : ∀ other, now.pathOf other ≠ some path) : h.target? = none :=
    Option.eq_none_iff_forall_ne_some.mpr fun other hfound =>
      hgone other ((htarget hrequest htree other).mp hfound)
  constructor
  case reaches =>
    exact fun h hrequest htree other hother =>
      Handling.reaches_of_target? ((htarget hrequest htree other).mpr hother)
  case misses =>
    exact fun h hrequest htree hgone => Handling.misses_of_target? (hnone hrequest htree hgone)
  case retained =>
    intro s m session hdata htree hnew hrequest other hother
    have hreaches := Handling.reaches_of_target?
      ((htarget (h := s.handling m session) hdata htree other).mpr hother)
    exact deliver_of_reaches hnew hrequest hreaches
  case notFound =>
    intro s m session hdata htree hnew hrequest hgone
    exact deliver_of_target?_eq_none hnew hrequest
      (hnone (h := s.handling m session) hdata htree hgone)

/-- **Routing.** Every resource that there is in a tree has a path, and a request for that path is
written exactly if no name on it is too long. Its datagram is read as the request, if the code of its
method is one that the wire keeps, as those of all methods are whose class and detail are in their ranges.
Whatever happens to the tree until the datagram is handled, if anything at all, it leads to the resource
that has the path then; and if there is none, it is answered with 4.04. -/
theorem requests_routed (profile : Profile) (root : Resource ν) (ops : List (Tree.Op (Resource ν)))
    (id : ResourceId) :
    let t := (Tree.withRoot profile root).run ops
    t.contains id = true → ∃ names path, t.segmentsOf id = some names ∧ t.pathOf id = some path ∧
      ∀ (method : Method) (messageId : UInt16) (token : Token) (payload : Bytes),
        let m := Message.requestWith method path messageId token payload
        ((∃ bytes, m.encode = .ok bytes) ↔ ∀ name ∈ names, Text.byteLength name ≤ 65535) ∧
        ∀ bytes, m.encode = .ok bytes → ∃ read,
          Message.decode bytes = .ok read ∧ (read = m ↔ method.code.Fits) ∧
          ∀ later, LeadsTo (t.run later) path read := by
  intro t hlive
  have wf : t.WellFormed := (Tree.wellFormed_withRoot profile root).run ops
  obtain ⟨names, route⟩ := wf.exists_route hlive
  have hsegments := route.segmentsOf_eq wf
  have hpieces := route.pieces_path wf
  refine ⟨names, _, hsegments, route.pathOf_eq wf, fun method messageId token payload => ⟨?_, ?_⟩⟩
  · rw [Message.exists_encode_requestWith_iff, hpieces]
  · intro bytes henc
    exact ⟨_, Message.decode_eq_onWire henc, Message.onWire_requestWith_eq_self_iff ..,
      fun later => leadsTo wf (wf.run later) (route.pathOf_eq wf) (Message.path?_requestWith ..)⟩

/-- Registered methods are kept by the wire, and are those of requests. -/
example : ∀ entry ∈ Method.registered, entry.1.code.Fits ∧ entry.1.code.kind = .request := by decide

/-! ### A lamp that is taken away -/

/-- A porch below the root and a lamp below the porch, none of which says anything. -/
def porchWithLamp : Tree (Resource Unit) :=
  (Tree.withRoot default ⟨default, fun _ => .done⟩).run
    [.add { (default : Profile) with name := "porch" } ⟨default, fun _ => .done⟩,
      .addAt "porch" { (default : Profile) with name := "lamp" } ⟨default, fun _ => .done⟩]

theorem wellFormed_porchWithLamp : porchWithLamp.WellFormed := (Tree.wellFormed_withRoot _ _).run _

/-- The server with a patient resource, with another tree. -/
def planted (t : Tree (Resource Unit)) : Server Unit :=
  { patient with site := { patient.site with tree := t } }

/-- A request for the lamp. -/
def lampRequest : Addressed Message :=
  ⟨.requestWith .get "/porch/lamp" 7 .empty [1, 2], ⟨.v4 0, 5683⟩⟩

/-- The request is read from its datagram and is for the lamp, and once the lamp is removed it is
answered with 4.04. -/
theorem requests_routed_lamp :
    let lit := planted porchWithLamp
    let dark := planted (porchWithLamp.run [.remove ⟨2, 0⟩])
    porchWithLamp.contains ⟨2, 0⟩ = true ∧
      (∃ bytes, lampRequest.data.encode = .ok bytes ∧ Message.decode bytes = .ok lampRequest.data) ∧
      (∃ e final, lit.FirstDelivery lampRequest none (lit.deliver lampRequest none).1
        (lit.deliver lampRequest none).2 e final ∧ e.resource = some ⟨2, 0⟩) ∧
      ∃ final, (dark.deliver lampRequest none).2 = some final ∧ final.data.message.code = .notFound := by
  intro lit dark
  have hlive : porchWithLamp.contains ⟨2, 0⟩ = true := by decide
  obtain ⟨names, path, hnames, hpath, hrouted⟩ := requests_routed default ⟨default, fun _ => .done⟩
    [.add { (default : Profile) with name := "porch" } ⟨default, fun _ => .done⟩,
      .addAt "porch" { (default : Profile) with name := "lamp" } ⟨default, fun _ => .done⟩] ⟨2, 0⟩ hlive
  obtain rfl : names = ["porch", "lamp"] :=
    Option.some.inj (hnames.symm.trans (show porchWithLamp.segmentsOf ⟨2, 0⟩ = _ by decide))
  obtain rfl : path = "/porch/lamp" :=
    Option.some.inj (hpath.symm.trans (show porchWithLamp.pathOf ⟨2, 0⟩ = _ by decide))
  obtain ⟨hwritten, hread⟩ := hrouted .get 7 .empty [1, 2]
  obtain ⟨bytes, henc⟩ := hwritten.mpr (by decide)
  obtain ⟨read, hdecode, hsame, hleads⟩ := hread bytes henc
  obtain rfl : read = lampRequest.data := hsame.mpr (by decide)
  have hremoved : (porchWithLamp.remove ⟨2, 0⟩).2 = true :=
    wellFormed_porchWithLamp.remove_snd hlive (by decide)
  refine ⟨hlive, ⟨bytes, henc, hdecode⟩, ?_, ?_⟩
  · exact (hleads []).retained lit lampRequest none rfl rfl rfl rfl ⟨2, 0⟩ hpath
  · obtain ⟨e, final, first, -, hcode⟩ := (hleads [.remove ⟨2, 0⟩]).notFound dark lampRequest none rfl rfl
      rfl rfl (wellFormed_porchWithLamp.pathOf_remove_ne hremoved hpath)
    exact ⟨final, first.reply, hcode⟩

end Server

end Coap
