import Coap.Proofs.Delivery.Identity
import Coap.Proofs.Observers.Removal
import Coap.Proofs.Tree.Removal

/-!
# Removals that are refused

A server does not remove the root, nor what is not there. It forgets the observers of a resource before
it asks whether the resource can be removed, so a removal that is refused leaves the tree alone and drops
what is known of the observers under the id.

* `Server.remove_eq` — what a removal does, whether or not it is refused.
* `Tree.WellFormed.remove_eq_false_iff` — which removals are refused.
* `Server.Unchanged` — the same server for all who ask for resources, relations and sequence numbers.
* `Server.refused_removal` — refused removals at any time in the life of a server.
* `Server.refused_removal_forgets` — a root that is not observed any more, though it was not removed.
-/

namespace Coap

/-! ### Which removals are refused -/

namespace Tree

variable {η : Type u} {t : Tree η} {id : ResourceId}

/-- A tree that refuses a removal stays as it is. -/
theorem fst_remove_of_refused (h : (t.remove id).2 = false) : (t.remove id).1 = t := by
  rcases remove_cases t id with heq | ⟨node, parent, -, -, heq⟩
  · rw [heq]
  · rw [heq] at h
    cases h

/-- Refused are the removal of the root and of what is not there. -/
theorem WellFormed.remove_eq_false_iff (wf : t.WellFormed) :
    (t.remove id).2 = false ↔ id = t.root ∨ t.contains id = false := by
  constructor
  · intro hrefused
    by_cases hroot : id = t.root
    · exact .inl hroot
    · refine .inr (Bool.eq_false_iff.mpr fun hthere => ?_)
      cases hrefused.symm.trans (wf.remove_snd hthere hroot)
  · rintro (rfl | habsent)
    · rw [remove_root]
    · rw [(absent_iff.mpr habsent).remove]

end Tree

namespace Server

variable {ν : Type} {s : Server ν} {id : ResourceId}

/-! ### What they do -/

/-- Resources, relations and sequence numbers are the same. -/
structure Unchanged (s s' : Server ν) : Prop where
  tree : s'.site.tree = s.site.tree
  relations : ∀ r, s'.site.observers.relations r = s.site.observers.relations r
  sequence : ∀ r, s'.site.observers.sequence r = s.site.observers.sequence r

/-- A removal does what it does to the tree, and what is known of observers is forgotten in any case. -/
theorem remove_eq (s : Server ν) (id : ResourceId) :
    s.remove id =
      ({ s with site :=
          { s.site with tree := (s.site.tree.remove id).1, observers := s.site.observers.forget id } },
        (s.site.tree.remove id).2) := rfl

/-- A removal that is refused makes the server forget the observers of the resource, and nothing else. -/
theorem fst_remove_of_refused (h : (s.remove id).2 = false) :
    (s.remove id).1 = { s with site := { s.site with observers := s.site.observers.forget id } } := by
  rw [remove_eq, Tree.fst_remove_of_refused h]

/-- It changes nothing exactly if there were no relations, and no change was noted. -/
theorem unchanged_remove_iff (h : (s.remove id).2 = false) :
    s.Unchanged (s.remove id).1 ↔
      s.site.observers.relations id = [] ∧ s.site.observers.sequence id = 0 := by
  have hrelations : ∀ r, (s.remove id).1.site.observers.relations r =
      if r = id then [] else s.site.observers.relations r := s.site.observers.relations_forget
  have hsequence : ∀ r, (s.remove id).1.site.observers.sequence r =
      if r = id then 0 else s.site.observers.sequence r := s.site.observers.sequence_forget
  constructor
  · intro hsame
    rw [← hsame.relations id, ← hsame.sequence id, hrelations, hsequence, if_pos rfl, if_pos rfl]
    exact ⟨rfl, rfl⟩
  · rintro ⟨hnone, hzero⟩
    refine ⟨Tree.fst_remove_of_refused h, fun r => ?_, fun r => ?_⟩
    · rw [hrelations]
      split
      · next hr => rw [hr, hnone]
      · rfl
    · rw [hsequence]
      split
      · next hr => rw [hr, hzero]
      · rfl

/-- The same resource removed twice: the second time nothing happens. -/
theorem unchanged_remove_remove (h : (s.remove id).2 = true) :
    (s.remove id).1.Unchanged ((s.remove id).1.remove id).1 := by
  have hgone : (s.remove id).1.site.tree.contains id = false := (Tree.contains_remove_self h).2
  have hrefused : ((s.remove id).1.remove id).2 = false :=
    congrArg Prod.snd (Tree.absent_iff.mpr hgone).remove
  refine (unchanged_remove_iff hrefused).mpr ⟨?_, ?_⟩
  · exact (s.site.observers.relations_forget id).trans (if_pos rfl)
  · exact (s.site.observers.sequence_forget id).trans (if_pos rfl)

/-! ### In the life of a server -/

variable {config : Config} {profile : Profile} {handler : Resource ν}
  {earlier : List (Tree.Op (Resource ν))} {nonces : Nat → Nonce} {network : Udp.Network}

/-- The tree of a server is well formed, whatever happens to the server. -/
theorem wellFormed_moved
    (h : new? config ((Tree.withRoot profile handler).run earlier) nonces network = some s)
    (moves : List (Move ν)) : (s.moved moves).site.tree.WellFormed := by
  have hrealm := s.realm_moved moves
  rw [realm_of_new? h, ← Realm.run_append] at hrealm
  have htree : (s.moved moves).site.tree = _ := congrArg Realm.tree hrealm
  rw [htree]
  exact Realm.wellFormed_tree_run (Tree.wellFormed_withRoot profile handler) _

/-- **Refused removals.** At any time in the life of a server, a removal is refused exactly for the root
and for what is not there. The server then forgets the relations and the sequence number of that id, and
is as it was otherwise; so nothing has changed for those who ask exactly if there were no relations, and
the sequence number was 0. -/
theorem refused_removal
    (h : new? config ((Tree.withRoot profile handler).run earlier) nonces network = some s)
    (moves : List (Move ν)) (id : ResourceId) :
    let before := s.moved moves
    let after := (before.remove id).1
    ((before.remove id).2 = false ↔
      id = before.site.tree.root ∨ before.site.tree.contains id = false) ∧
    ((before.remove id).2 = false →
      after = { before with
        site := { before.site with observers := before.site.observers.forget id } } ∧
      (∀ r, r ≠ id → after.site.observers.relations r = before.site.observers.relations r ∧
        after.site.observers.sequence r = before.site.observers.sequence r) ∧
      (before.Unchanged after ↔
        before.site.observers.relations id = [] ∧ before.site.observers.sequence id = 0)) := by
  intro before after
  refine ⟨(wellFormed_moved h moves).remove_eq_false_iff, fun hrefused => ?_⟩
  have hother : ∀ r, r ≠ id → after.site.observers.relations r = before.site.observers.relations r ∧
      after.site.observers.sequence r = before.site.observers.sequence r := by
    intro r hr
    exact ⟨(before.site.observers.relations_forget r).trans (if_neg hr),
      (before.site.observers.sequence_forget r).trans (if_neg hr)⟩
  exact ⟨fst_remove_of_refused hrefused, hother, unchanged_remove_iff hrefused⟩

/-! ### A root that is observed -/

/-- A server with a root that can be observed. -/
def observableRoot : Server Unit :=
  (new? { Config.standard with lifetimeOverride := some (.ofSeconds 1) }
    (.withRoot { (default : Profile) with observable := true } plainly) (fun _ => default)
    ⟨[], true⟩).get rfl

theorem new?_observableRoot :
    new? { Config.standard with lifetimeOverride := some (.ofSeconds 1) }
      ((Tree.withRoot { (default : Profile) with observable := true } plainly).run [])
      (fun _ => default) ⟨[], true⟩ = some observableRoot := (Option.some_get _).symm

/-- A request to observe the root. -/
def observeRequest : Addressed Message :=
  ⟨(Message.new .con Method.get.code 7 .empty).setObserve 0, ⟨.v4 0, 5683⟩⟩

/-- The server while somebody observes its root. -/
def observedRoot : Server Unit := observableRoot.moved [.deliver observeRequest none]

/-- The root is observed, and of an id that names nothing nothing is known. -/
theorem relations_observedRoot :
    observedRoot.site.tree.root = ⟨0, 0⟩ ∧
      observedRoot.site.observers.relations ⟨0, 0⟩ =
        [⟨observeRequest.addr, observeRequest.data.token, ⟨observeRequest.data, 0⟩⟩] ∧
      observedRoot.site.tree.contains ⟨2, 1⟩ = false ∧
      observedRoot.site.observers.relations ⟨2, 1⟩ = [] ∧
      observedRoot.site.observers.sequence ⟨2, 1⟩ = 0 := by
  decide

/-- The removal of a resource that is not there changes nothing, and that of the root ends its
observation. -/
theorem refused_removal_observedRoot :
    ((observedRoot.remove ⟨2, 1⟩).2 = false ∧
      observedRoot.Unchanged (observedRoot.remove ⟨2, 1⟩).1) ∧
    (observedRoot.remove ⟨0, 0⟩).2 = false ∧
      ¬ observedRoot.Unchanged (observedRoot.remove ⟨0, 0⟩).1 := by
  obtain ⟨hroot, hobserved, habsent, hnone, hzero⟩ := relations_observedRoot
  obtain ⟨hrefused, hafter⟩ := refused_removal new?_observableRoot [.deliver observeRequest none] ⟨2, 1⟩
  obtain ⟨hrefused', hafter'⟩ := refused_removal new?_observableRoot [.deliver observeRequest none] ⟨0, 0⟩
  have hstale := hrefused.mpr (.inr habsent)
  have htop := hrefused'.mpr (.inl hroot.symm)
  refine ⟨⟨hstale, (hafter hstale).2.2.mpr ⟨hnone, hzero⟩⟩, htop, fun hsame => ?_⟩
  have hlost := ((hafter' htop).2.2.mp hsame).1
  cases hobserved.symm.trans hlost

/-- Not every removal that is refused leaves the server as it is. -/
theorem refused_removal_forgets :
    ¬ ∀ (config : Config) (profile : Profile) (handler : Resource Unit)
      (earlier : List (Tree.Op (Resource Unit))) (nonces : Nat → Nonce) (network : Udp.Network)
      (s : Server Unit) (moves : List (Move Unit)) (id : ResourceId),
      new? config ((Tree.withRoot profile handler).run earlier) nonces network = some s →
      ((s.moved moves).remove id).2 = false →
        (s.moved moves).Unchanged ((s.moved moves).remove id).1 := by
  intro hall
  obtain ⟨hroot, hobserved, -⟩ := relations_observedRoot
  have hrefused : (observedRoot.remove ⟨0, 0⟩).2 = false := by
    rw [remove_eq, ← hroot, Tree.remove_root]
  have hsame := hall _ _ _ _ _ _ observableRoot [.deliver observeRequest none] ⟨0, 0⟩
    new?_observableRoot hrefused
  have hlost := ((unchanged_remove_iff hrefused).mp hsame).1
  cases hobserved.symm.trans hlost

end Server

end Coap
