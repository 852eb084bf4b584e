import Coap.Proofs.Delivery.Histories
import Coap.Proofs.Handling.Operations

/-!
# Ids in the life of a server

Requests, handlers and those who run the server change its resources and relations in turn. Whatever
they do is a history of operations on the tree it was made with, so ids that were returned once are
not returned again, and removed resources stay away.

* `Server.Move`, `Server.move`, `Server.moved` — what can happen to a server and its tree.
* `Server.moveOps`, `Server.operations` — the operations that this comes to.
* `Server.realm_of_new?`, `Server.realm_moved` — those that a new server begins with, and those that
  follow.
* `Server.ids_unique` — ids and resources at any time in the life of a server.
-/

namespace Coap

variable {ν : Type}

/-! ### New servers -/

namespace Tree

/-- The operations that add the list of resources below a parent. -/
def coreBelow (parent : ResourceId) : List (Op (Resource ν)) :=
  [.addChild parent (Resource.core (ν := ν)).profile .core]

/-- The operations that put the list of resources in its place. -/
def coreOps (t : Tree (Resource ν)) : List (Op (Resource ν)) :=
  if (t.findSegments Resource.corePath).isSome then []
  else
    match t.child? t.root ".well-known" with
    | some parent => coreBelow parent
    | none =>
      let container : Resource ν := .container ".well-known" false
      .add container.profile container ::
        match (t.mount container).2 with
        | .ok parent => coreBelow parent
        | .error _ => []

theorem fst_mountBelow_core (t : Tree (Resource ν)) (parent : ResourceId) :
    (match t.mountBelow parent .core with
      | (t, .ok _) => (t, .ok ())
      | (t, .error e) => (t, .error e) : Tree (Resource ν) × Except TreeError Unit).1 =
      t.run (coreBelow parent) := by
  show _ = (t.mountBelow parent .core).1
  split <;> next heq => rw [heq]

/-- The list of resources is put in its place by operations of the tree. -/
theorem withCore_eq_run (t : Tree (Resource ν)) : t.withCore.1 = t.run t.coreOps := by
  unfold withCore coreOps
  split
  · rfl
  · unfold withCoreParent
    cases t.child? t.root ".well-known" with
    | some parent => exact t.fst_mountBelow_core parent
    | none =>
      dsimp only
      rcases hmount : t.mount (.container ".well-known" false) with ⟨after, result⟩
      cases result with
      | error e => exact (congrArg Prod.fst hmount).symm
      | ok parent =>
        refine (after.fst_mountBelow_core parent).trans ?_
        rw [run, run, List.foldl_cons]
        exact congrArg (fun t => List.foldl apply t _) (congrArg Prod.fst hmount).symm

end Tree

/-- What is done to the tree alone is done to the tree. -/
theorem Realm.run_map_tree {η : Type u} (r : Realm η) (ops : List (Tree.Op η)) :
    r.run (ops.map .tree) = { r with tree := r.tree.run ops } := by
  induction ops generalizing r with
  | nil => rfl
  | cons op ops ih => exact ih (r.apply (.tree op))

namespace Server

/-- A new server has the tree that it was given, with the list of resources in its place. -/
theorem realm_of_new? {config : Config} {profile : Profile} {handler : Resource ν}
    {earlier : List (Tree.Op (Resource ν))} {nonces : Nat → Nonce} {network : Udp.Network}
    {s : Server ν}
    (h : new? config ((Tree.withRoot profile handler).run earlier) nonces network = some s) :
    s.site.realm = (Realm.bare profile handler).run
      ((earlier ++ ((Tree.withRoot profile handler).run earlier).coreOps).map .tree) := by
  obtain ⟨dedup, -, rfl⟩ := Option.map_eq_some_iff.mp h
  have htree : ((Tree.withRoot profile handler).run earlier).withCore.1 =
      (Tree.withRoot profile handler).run
        (earlier ++ ((Tree.withRoot profile handler).run earlier).coreOps) := by
    rw [Tree.withCore_eq_run]
    exact List.foldl_append.symm
  rw [Realm.run_map_tree]
  exact congrArg (fun tree => (⟨tree, .none⟩ : Realm (Resource ν))) htree

variable (s : Server ν)

/-! ### Starting and stopping -/

theorem neutral_realm : Neutral fun s t : Server ν => t.site.realm = s.site.realm where
  refl _ := rfl
  trans h h' := h'.trans h
  report _ _ _ := rfl
  start s i := by
    unfold startEndpoint
    split <;> rfl
  stop s i := by
    unfold stopEndpoint
    split <;> rfl

theorem realm_driveDedup (f : Deduplicator Exchange → Deduplicator Exchange) :
    (s.driveDedup f).site.realm = s.site.realm := by
  unfold driveDedup
  split <;> rfl

theorem realm_start : s.start.1.site.realm = s.site.realm := by
  have hlaunched : s.launched.site.realm = s.site.realm := by
    refine (realm_driveDedup _ _).trans ?_
    unfold withEndpoint
    split <;> rfl
  have hall := (neutral_realm.startAll s.launched s.launched.listed).trans hlaunched
  rw [start_eq]
  dsimp only
  split
  · exact (realm_driveDedup _ _).trans hall
  · exact hall

theorem realm_stop : s.stop.site.realm = s.site.realm :=
  (realm_driveDedup _ _).trans (neutral_realm.stopAll s s.listed)

/-! ### Messages -/

/-- The operations that the delivery of a message comes to: those of a dispatch, if it is a request
under a new key. -/
def deliverOps (m : Addressed Message) (session : Option Session) : List (Realm.Op (Resource ν)) :=
  if m.data.isRequest = true ∧ s.dedup.find? (.ofId m) = none then
    (s.handling m session).dispatchOps
  else []

theorem realm_deliver (m : Addressed Message) (session : Option Session) :
    (s.deliver m session).1.site.realm = s.site.realm.run (s.deliverOps m session) := by
  unfold deliverOps
  cases hrequest : m.data.isRequest with
  | false =>
    rw [s.deliver_of_not_isRequest m session hrequest]
    rfl
  | true =>
    cases hfind : s.dedup.find? (.ofId m) with
    | none =>
      rw [deliver_of_find?_eq_none hrequest hfind]
      exact (s.handling m session).realm_dispatch
    | some e =>
      rw [deliver_of_find? hrequest hfind]
      exact Site.realm_replay s.site e _

/-! ### Moves -/

/-- The same server with other resources and relations. -/
def withRealm (r : Realm (Resource ν)) : Server ν := { s with site := s.site.withRealm r }

/-- Something that happens to a server or its tree. -/
inductive Move (ν : Type) where
  /-- A message arrives. -/
  | deliver (m : Addressed Message) (session : Option Session)
  /-- The tree or the observers are changed from outside. -/
  | operate (op : Realm.Op (Resource ν))
  /-- A resource is removed with its observe relations. -/
  | remove (id : ResourceId)
  /-- The server is started. -/
  | start
  /-- The server is stopped. -/
  | stop
  /-- Everything but resources and relations becomes what it is in another server. -/
  | meanwhile (next : Server ν)

/-- A server after a move. -/
def move : Move ν → Server ν
  | .deliver m session => (s.deliver m session).1
  | .operate op => s.withRealm (s.site.realm.apply op)
  | .remove id => (s.remove id).1
  | .start => s.start.1
  | .stop => s.stop
  | .meanwhile next => next.withRealm s.site.realm

/-- A server after some moves, one after the other. -/
def moved (moves : List (Move ν)) : Server ν := moves.foldl move s

/-- The operations that a move comes to. -/
def moveOps : Move ν → List (Realm.Op (Resource ν))
  | .deliver m session => s.deliverOps m session
  | .operate op => [op]
  | .remove id => [.tree (.remove id), .forget id]
  | .start => []
  | .stop => []
  | .meanwhile _ => []

/-- The operations that some moves come to. -/
def operations (s : Server ν) : List (Move ν) → List (Realm.Op (Resource ν))
  | [] => []
  | m :: moves => s.moveOps m ++ (s.move m).operations moves

theorem realm_move (m : Move ν) : (s.move m).site.realm = s.site.realm.run (s.moveOps m) := by
  cases m with
  | deliver m session => exact s.realm_deliver m session
  | start => exact s.realm_start
  | stop => exact s.realm_stop
  | _ => rfl

/-- Moves do to resources and relations what their operations do. -/
theorem realm_moved (moves : List (Move ν)) :
    (s.moved moves).site.realm = s.site.realm.run (s.operations moves) := by
  induction moves generalizing s with
  | nil => rfl
  | cons m moves ih =>
    rw [operations, Realm.run_append, ← s.realm_move]
    exact ih (s.move m)

variable {s}

/-- **Ids in the life of a server.** Resources and relations of a server are at any time those after a
history of operations: what was done to its tree before it was made, and what its moves came to since.
If fewer than `UInt64.size` of these removed something, and observers were noted only under ids that
the tree had returned, then the id of a resource that is added at any point differs from that of the
root and from those returned before, the new resource is there and has no relations and the sequence
number 0; and what was there at some point and no longer at a later one is absent ever after. -/
theorem ids_unique {config : Config} {profile : Profile} {handler : Resource ν}
    {earlier : List (Tree.Op (Resource ν))} {nonces : Nat → Nonce} {network : Udp.Network}
    (h : new? config ((Tree.withRoot profile handler).run earlier) nonces network = some s)
    (moves : List (Move ν)) :
    let first := Realm.bare profile handler
    let history := (earlier ++ ((Tree.withRoot profile handler).run earlier).coreOps).map .tree ++
      s.operations moves
    (s.moved moves).site.realm = first.run history ∧
    (first.removals history < UInt64.size → first.Careful [first.tree.root] history →
      (∀ front op back id, history = front ++ op :: back →
        (first.run front).added? op = some id →
          id ≠ first.tree.root ∧ id ∉ first.issued front ∧
            let after := first.run (front ++ [op])
            after.tree.contains id = true ∧
              after.observers.relations id = [] ∧ after.observers.sequence id = 0) ∧
      ∀ front mid back id, history = front ++ (mid ++ back) →
        (first.run front).tree.contains id = true →
        (first.run (front ++ mid)).tree.contains id = false →
          (first.run history).tree.Absent id) := by
  intro first history
  refine ⟨?_, fun hfew hcareful => Realm.ids_run profile handler hfew hcareful⟩
  rw [s.realm_moved, realm_of_new? h, Realm.run_append]

/-! ### A lamp that comes and goes -/

/-- A hall with no more than the list of its resources. -/
def hall : Server Unit :=
  (new? { Config.standard with lifetimeOverride := some (.ofSeconds 1) } (.withRoot default .root)
    (fun _ => default) ⟨[], true⟩).get rfl

/-- A lamp for the hall. -/
def lamp : Resource Unit := .container "lamp" true

/-- The lamp is put up. -/
def lampUp : Realm.Op (Resource Unit) := .tree (.add lamp.profile lamp)

/-- The lamp is put up, observed and changed, taken down, and put up again. -/
def lampOps : List (Realm.Op (Resource Unit)) :=
  [lampUp, .register ⟨3, 0⟩ ⟨⟨.v4 0, 5683⟩, .empty, ⟨default, 0⟩⟩, .changed ⟨3, 0⟩,
    .tree (.remove ⟨3, 0⟩), lampUp]

/-- The hall before there was anything but its root. -/
def emptyHall : Realm (Resource Unit) := .bare default .root

/-- All operations of the hall. -/
def hallOps : List (Realm.Op (Resource Unit)) := emptyHall.tree.coreOps.map .tree ++ lampOps

/-- The hall while the lamp is up for the first time. -/
def hallWithLamp : Realm (Resource Unit) := emptyHall.run (hallOps.take 5)

/-- The lamp can be taken down. -/
theorem node?_hallWithLamp : hallWithLamp.tree.node? ⟨3, 0⟩ =
    some (.ofProfile lamp.profile lamp (some ⟨0, 0⟩)) := rfl

/-- The second lamp gets the slot of the first. -/
theorem added?_lampUp : (emptyHall.run (hallOps.take 6)).added? lampUp = some ⟨3, 1⟩ := by
  show (hallWithLamp.tree.remove ⟨3, 0⟩).1.added? (.add lamp.profile lamp) = _
  rw [Tree.remove_of_leaf (by decide) node?_hallWithLamp rfl rfl]
  decide

/-- The second lamp has another id than the first and is not observed, and the first stays away. -/
theorem ids_unique_lamp :
    let after := hall.moved (lampOps.map .operate)
    ⟨3, 1⟩ ∉ emptyHall.issued (hallOps.take 6) ∧ after.site.tree.contains ⟨3, 1⟩ = true ∧
      after.site.observers.relations ⟨3, 1⟩ = [] ∧ after.site.observers.sequence ⟨3, 1⟩ = 0 ∧
        after.site.tree.Absent ⟨3, 0⟩ := by
  intro after
  have hnew : new? { Config.standard with lifetimeOverride := some (.ofSeconds 1) }
      ((Tree.withRoot default .root).run []) (fun _ => default) ⟨[], true⟩ = some hall :=
    (Option.some_get _).symm
  obtain ⟨hrealm, hids⟩ := ids_unique hnew (lampOps.map .operate)
  have htree : after.site.tree = (emptyHall.run hallOps).tree := congrArg Realm.tree hrealm
  have hobservers : after.site.observers = (emptyHall.run hallOps).observers :=
    congrArg Realm.observers hrealm
  obtain ⟨hadded, habsent⟩ := hids (by decide) (by decide)
  obtain ⟨-, hfresh, hthere, hunobserved⟩ :=
    hadded (hallOps.take 6) lampUp [] ⟨3, 1⟩ rfl added?_lampUp
  have hgone : (hallWithLamp.tree.remove ⟨3, 0⟩).1.contains ⟨3, 0⟩ = false := by
    refine (Tree.contains_remove_self ?_).2
    rw [Tree.remove_of_leaf (by decide) node?_hallWithLamp rfl rfl]
  rw [htree, hobservers]
  exact ⟨hfresh, hthere, hunobserved.1, hunobserved.2,
    habsent (hallOps.take 5) [.tree (.remove ⟨3, 0⟩)] [lampUp] ⟨3, 0⟩ rfl (by decide) hgone⟩

end Server

end Coap
