import Coap.Proofs.Delivery.Empty
import Coap.Proofs.Delivery.Replies
import Coap.Proofs.Handling.Isolated

/-!
# Peers that do not notice each other

All peers share one deduplicator, one tree and the relations of its resources. Still, where the handlers
keep to their requests and nothing is dropped, what a peer is sent does not depend on what others send.

* `Server.Arrival`, `Server.arrived`, `Server.transcript` — messages that arrive one after the other, and
  everything that is sent for them.
* `Server.AlikeFor` — servers that a peer cannot tell apart: they retain the same for its keys, and have
  the same relations of that peer.
* `Server.AlikeFor.deliver`, `Server.alikeFor_deliver` — a message of that peer keeps them so and is
  answered in the same way, and messages of others make no difference.
* `Server.transcript_filter` — what a peer is sent among others is what it is sent alone.
-/

namespace Coap

variable {ν : Type}

/-- Something that a server sends. -/
inductive Outgoing where
  /-- A message that is sent before the final answer. -/
  | interim (m : Addressed Message)
  /-- A reply. -/
  | reply (r : Addressed Response)
deriving DecidableEq

/-- Where it is sent. -/
def Outgoing.addr : Outgoing → Address
  | .interim m => m.addr
  | .reply r => r.addr

namespace Server

/-- A message that arrives some time after the one before it. -/
structure Arrival where
  /-- The time since. -/
  elapsed : Duration
  /-- The message. -/
  message : Addressed Message
  /-- The session in which it arrives. -/
  session : Option Session

/-- Everything that is sent for a message. -/
def outgoing (s : Server ν) (m : Addressed Message) (session : Option Session) : List Outgoing :=
  let after := s.deliver m session
  ((after.1.site.events.drop s.site.events.length).filterMap Event.sent?).map .interim ++
    after.2.toList.map .reply

/-- The server after some time. -/
def later (s : Server ν) (d : Duration) : Server ν := { s with site := s.site.wait d }

/-- The server after some messages have arrived. -/
def arrived (s : Server ν) : List Arrival → Server ν
  | [] => s
  | a :: arrivals => (((s.later a.elapsed).deliver a.message a.session).1).arrived arrivals

/-- Everything that is sent while some messages arrive. -/
def transcript (s : Server ν) : List Arrival → List Outgoing
  | [] => []
  | a :: arrivals =>
    (s.later a.elapsed).outgoing a.message a.session ++
      (((s.later a.elapsed).deliver a.message a.session).1).transcript arrivals

/-- Servers that a peer cannot tell apart. -/
structure AlikeFor (peer : Address) (s s' : Server ν) : Prop where
  tree : s.site.tree = s'.site.tree
  observers : s.site.observers.AlikeFor peer s'.site.observers
  retained : ∀ key, key.peer = peer →
    (s.dedup.find? key).map Exchange.untimed = (s'.dedup.find? key).map Exchange.untimed

namespace AlikeFor

variable {peer : Address} {s s' s'' : Server ν}

theorem refl (peer : Address) (s : Server ν) : s.AlikeFor peer s :=
  ⟨rfl, .refl peer _, fun _ _ => rfl⟩

theorem symm (h : s.AlikeFor peer s') : s'.AlikeFor peer s :=
  ⟨h.tree.symm, h.observers.symm, fun key hkey => (h.retained key hkey).symm⟩

theorem trans (h : s.AlikeFor peer s') (h' : s'.AlikeFor peer s'') : s.AlikeFor peer s'' :=
  ⟨h.tree.trans h'.tree, h.observers.trans h'.observers, fun key hkey =>
    (h.retained key hkey).trans (h'.retained key hkey)⟩

/-- A peer cannot tell the time. -/
theorem later (h : s.AlikeFor peer s') (d : Duration) : (s.later d).AlikeFor peer s' :=
  ⟨h.tree, h.observers, h.retained⟩

end AlikeFor

/-! ### What is sent for one message -/

section

variable (s : Server ν) (m : Addressed Message) (session : Option Session)

theorem outgoing_of_not_new (h : m.data.isRequest = true → s.dedup.find? (.ofId m) ≠ none) :
    s.outgoing m session = (s.deliver m session).2.toList.map .reply := by
  rw [outgoing, s.sent_of_not_new m session h, List.map_nil, List.nil_append]

/-- For a new request it is what its handler deposits in its exchange. -/
theorem outgoing_of_new (hnew : s.dedup.find? (.ofId m) = none) (hrequest : m.data.isRequest = true) :
    ∃ announced final, (s.handling m session).dispatch.exchange.responses = announced ++ [final] ∧
      s.outgoing m session =
        announced.map (fun r => .interim (r.map (·.message))) ++ [.reply final] := by
  obtain ⟨hsite, final, first⟩ := s.deliver_of_new m session hnew hrequest
  have hsent : ((s.handling m session).dispatch.site.events.drop s.site.events.length).filterMap
      Event.sent? = _ := (s.sound_handling m session).sent_dispatch
  refine ⟨_, final, first.responses, ?_⟩
  rw [outgoing, hsite, hsent, first.reply, List.map_map]
  rfl

/-- What is deposited for a request is for its peer. -/
theorem addr_of_mem_responses {r : Addressed Response}
    (hr : r ∈ (s.handling m session).dispatch.exchange.responses) : r.addr = m.addr := by
  have sound := s.sound_handling m session
  obtain ⟨-, hcomplete, hrequest, hsession, -⟩ := sound.dispatch
  obtain ⟨final, hresponses, hfinal⟩ := sound.concluded_dispatch rfl hcomplete
  rw [hrequest, hsession] at hfinal
  rw [hresponses, Exchange.announcement_eq, hrequest, List.mem_append, List.mem_singleton] at hr
  rcases hr with hr | rfl
  · split at hr
    · rw [List.mem_singleton.mp hr]
      rfl
    · cases hr
  · exact IsFinal.addr hfinal

/-- The reply to a message that is no request does not depend on the server. -/
theorem snd_deliver_of_not_isRequest (h : m.data.isRequest = false) (s' : Server ν) :
    (s.deliver m session).2 = (s'.deliver m session).2 := by
  revert h
  unfold Message.isRequest deliver
  cases m.data.type <;> cases m.data.code.kind <;> intro h <;> first | rfl | cases h

end

/-! ### One message -/

variable {peer : Address} {s s' : Server ν} {m : Addressed Message}

/-- A message that repeats a request changes nothing about what is retained. -/
theorem find?_deliver_of_find? (hrequest : m.data.isRequest = true) {e : Exchange}
    (h : s.dedup.find? (.ofId m) = some e) (session : Option Session) :
    (s.deliver m session).1.dedup.find? (.ofId m) = some e := by
  rw [deliver_of_find? hrequest h]
  exact Deduplicator.find?_of_current? (Deduplicator.current?_offer h _ _)

/-- It changes nothing about tree and relations either. -/
theorem site_replay (s : Server ν) (e : Exchange) :
    (s.replay e).1.site.tree = s.site.tree ∧ (s.replay e).1.site.observers = s.site.observers := by
  unfold replay Site.replay
  cases e.first? <;> exact ⟨rfl, rfl⟩

theorem find?_deliver_of_new (hrequest : m.data.isRequest = true)
    (hnew : s.dedup.find? (.ofId m) = none) (session : Option Session) :
    (s.deliver m session).1.dedup.find? (.ofId m) =
      some (s.handling m session).dispatch.exchange := by
  obtain ⟨-, final, first⟩ := s.deliver_of_new m session hnew hrequest
  exact Deduplicator.find?_of_current? first.retained

theorem AlikeFor.handling (alike : s.AlikeFor m.addr s') (session : Option Session) :
    (s.handling m session).Alike (s'.handling m session) :=
  ⟨rfl, rfl, alike.tree, alike.observers⟩

/-- A request that is new to both servers is dispatched by both. -/
theorem AlikeFor.deliver_of_new (alike : s.AlikeFor m.addr s') (hisolated : s.site.tree.Isolated)
    (hrequest : m.data.isRequest = true) (hnew : s.dedup.find? (.ofId m) = none)
    (session : Option Session) :
    (s.deliver m session).1.AlikeFor m.addr (s'.deliver m session).1 ∧
      s.outgoing m session = s'.outgoing m session := by
  have hnew' : s'.dedup.find? (.ofId m) = none := by
    have hretained := alike.retained (.ofId m) rfl
    rwa [hnew, Option.map_none, eq_comm, Option.map_eq_none_iff] at hretained
  have hdispatch := (alike.handling session).dispatch hisolated
  have hobservers := hdispatch.observers
  rw [((s.handling m session).confined_dispatch hisolated).own] at hobservers
  have hsite := (s.deliver_of_new m session hnew hrequest).1
  have hsite' := (s'.deliver_of_new m session hnew' hrequest).1
  refine ⟨⟨?_, ?_, fun key hkey => ?_⟩, ?_⟩
  · rw [hsite, hsite']
    exact hdispatch.tree
  · rw [hsite, hsite']
    exact hobservers
  · by_cases hid : key = .ofId m
    · rw [hid, find?_deliver_of_new hrequest hnew, find?_deliver_of_new hrequest hnew']
      exact congrArg some hdispatch.exchange
    · rw [(s.deliver_frame session hid).find?, (s'.deliver_frame session hid).find?]
      exact alike.retained key hkey
  · -- what is sent can be read off the exchanges, and these differ in times only
    obtain ⟨announced, final, hresponses, hsent⟩ := s.outgoing_of_new m session hnew hrequest
    obtain ⟨announced', final', hresponses', hsent'⟩ := s'.outgoing_of_new m session hnew' hrequest
    have hsame : announced ++ [final] = announced' ++ [final'] := by
      rw [← hresponses, ← hresponses', ← Exchange.responses_untimed, hdispatch.exchange,
        Exchange.responses_untimed]
    obtain ⟨rfl, hfinal⟩ := List.append_inj' hsame rfl
    rw [hsent, hsent', List.singleton_inj.mp hfinal]

/-- A request that is known to one server is known to the other, and gets the same. -/
theorem AlikeFor.deliver_of_known (alike : s.AlikeFor m.addr s') (hrequest : m.data.isRequest = true)
    {e : Exchange} (hfind : s.dedup.find? (.ofId m) = some e) (session : Option Session) :
    (s.deliver m session).1.AlikeFor m.addr (s'.deliver m session).1 ∧
      s.outgoing m session = s'.outgoing m session := by
  obtain ⟨e', hfind', he⟩ : ∃ e', s'.dedup.find? (.ofId m) = some e' ∧ e'.untimed = e.untimed := by
    have hretained := alike.retained (.ofId m) rfl
    rwa [hfind, Option.map_some, eq_comm, Option.map_eq_some_iff] at hretained
  have hdeliver := deliver_of_find? hrequest hfind session
  have hdeliver' := deliver_of_find? hrequest hfind' session
  refine ⟨⟨?_, ?_, fun key hkey => ?_⟩, ?_⟩
  · rw [hdeliver, hdeliver', (site_replay ..).1, (site_replay ..).1]
    exact alike.tree
  · rw [hdeliver, hdeliver', (site_replay ..).2, (site_replay ..).2]
    exact alike.observers
  · by_cases hid : key = .ofId m
    · rw [hid, find?_deliver_of_find? hrequest hfind, find?_deliver_of_find? hrequest hfind',
        Option.map_some, Option.map_some, he]
    · rw [(s.deliver_frame session hid).find?, (s'.deliver_frame session hid).find?]
      exact alike.retained key hkey
  · rw [s.outgoing_of_not_new m session (fun _ h => nomatch hfind.symm.trans h),
      s'.outgoing_of_not_new m session (fun _ h => nomatch hfind'.symm.trans h), hdeliver, hdeliver',
      replay_snd, replay_snd, ← Exchange.first?_untimed, ← he, Exchange.first?_untimed]

/-- **One message of the peer.** It is answered in the same way, and the peer still cannot tell the
servers apart. -/
theorem AlikeFor.deliver (alike : s.AlikeFor m.addr s') (hisolated : s.site.tree.Isolated)
    (session : Option Session) :
    (s.deliver m session).1.AlikeFor m.addr (s'.deliver m session).1 ∧
      s.outgoing m session = s'.outgoing m session := by
  cases hrequest : m.data.isRequest with
  | false =>
    have hnone : ∀ t : Server ν, t.outgoing m session = (t.deliver m session).2.toList.map .reply :=
      fun t => t.outgoing_of_not_new m session fun h => nomatch hrequest.symm.trans h
    rw [hnone, hnone, s.deliver_of_not_isRequest m session hrequest,
      s'.deliver_of_not_isRequest m session hrequest,
      s.snd_deliver_of_not_isRequest m session hrequest s']
    exact ⟨alike, rfl⟩
  | true =>
    cases hfind : s.dedup.find? (.ofId m) with
    | none => exact alike.deliver_of_new hisolated hrequest hfind session
    | some e => exact alike.deliver_of_known hrequest hfind session

/-- A message leaves the tree as it is, and what other peers see. -/
theorem confined_deliver (s : Server ν) (m : Addressed Message) (session : Option Session)
    (hisolated : s.site.tree.Isolated) :
    (s.deliver m session).1.site.tree = s.site.tree ∧ ∀ peer, m.addr ≠ peer →
      s.site.observers.AlikeFor peer (s.deliver m session).1.site.observers := by
  cases hrequest : m.data.isRequest with
  | false =>
    rw [s.deliver_of_not_isRequest m session hrequest]
    exact ⟨rfl, fun peer _ => .refl peer _⟩
  | true =>
    cases hfind : s.dedup.find? (.ofId m) with
    | none =>
      have confined := (s.handling m session).confined_dispatch hisolated
      rw [(s.deliver_of_new m session hfind hrequest).1]
      exact ⟨confined.tree, confined.observers⟩
    | some e =>
      rw [deliver_of_find? hrequest hfind, (site_replay ..).1, (site_replay ..).2]
      exact ⟨rfl, fun peer _ => .refl peer _⟩

/-- **One message of another peer.** It makes no difference. -/
theorem alikeFor_deliver (hpeer : m.addr ≠ peer) (hisolated : s.site.tree.Isolated)
    (session : Option Session) : s.AlikeFor peer (s.deliver m session).1 := by
  obtain ⟨htree, hobservers⟩ := s.confined_deliver m session hisolated
  refine ⟨htree.symm, hobservers peer hpeer, fun key hkey => ?_⟩
  have hid : key ≠ .ofId m := by
    rintro rfl
    exact hpeer hkey
  rw [(s.deliver_frame session hid).find?]

/-! ### Peers -/

/-- Everything that is retained was deposited for the peer of its key. -/
def Addresses (s : Server ν) : Prop :=
  s.dedup.Holds fun key e => ∀ r ∈ e.responses, r.addr = key.peer

theorem Addresses.deliver (h : s.Addresses) (m : Addressed Message) (session : Option Session) :
    (s.deliver m session).1.Addresses :=
  holds_deliver h session fun _ _ hr => s.addr_of_mem_responses m session hr

/-- Then everything that is sent for a message is for its peer. -/
theorem Addresses.addr_outgoing (h : s.Addresses) {session : Option Session} {o : Outgoing}
    (ho : o ∈ s.outgoing m session) : o.addr = m.addr := by
  by_cases hknown : m.data.isRequest = true → s.dedup.find? (.ofId m) ≠ none
  · rw [s.outgoing_of_not_new m session hknown] at ho
    obtain ⟨r, hr, rfl⟩ := List.mem_map.mp ho
    rw [Option.mem_toList] at hr
    cases hrequest : m.data.isRequest with
    | false =>
      rw [s.eq_reset_of_not_isRequest m session hrequest hr]
      rfl
    | true =>
      obtain ⟨e, hfind⟩ := Option.ne_none_iff_exists'.mp (hknown hrequest)
      rw [deliver_of_find? hrequest hfind, replay_snd] at hr
      exact h.find? hfind r (Exchange.mem_responses_of_first? hr)
  · rw [Classical.not_imp, not_not] at hknown
    obtain ⟨hrequest, hnew⟩ := hknown
    obtain ⟨announced, final, hresponses, hsent⟩ := s.outgoing_of_new m session hnew hrequest
    have haddr : ∀ r ∈ announced ++ [final], r.addr = m.addr := fun r hr =>
      s.addr_of_mem_responses m session (hresponses ▸ hr)
    rw [hsent, List.mem_append, List.mem_map, List.mem_singleton] at ho
    rcases ho with ⟨r, hr, rfl⟩ | rfl
    · exact haddr r (List.mem_append_left _ hr)
    · exact haddr final List.mem_concat_self

/-- **Many messages.** To a peer that cannot tell two servers apart, one of them sends among others what
the other one sends for the messages of that peer alone. -/
theorem AlikeFor.transcript (alike : s.AlikeFor peer s') (hisolated : s.site.tree.Isolated)
    (haddresses : s.Addresses) (arrivals : List Arrival) :
    (s.arrived arrivals).AlikeFor peer (s'.arrived (arrivals.filter fun a => a.message.addr = peer)) ∧
      (s.transcript arrivals).filter (fun o => o.addr = peer) =
        s'.transcript (arrivals.filter fun a => a.message.addr = peer) := by
  induction arrivals generalizing s s' with
  | nil => exact ⟨alike, rfl⟩
  | cons a arrivals ih =>
    -- a message leaves the tree isolated and what is retained addressed, so the hypothesis applies
    have hsent : ∀ o ∈ (s.later a.elapsed).outgoing a.message a.session, o.addr = a.message.addr :=
      fun o ho => Addresses.addr_outgoing (s := s.later a.elapsed) haddresses ho
    have htree := ((s.later a.elapsed).confined_deliver a.message a.session hisolated).1
    have hafter : ((s.later a.elapsed).deliver a.message a.session).1.site.tree.Isolated :=
      htree ▸ hisolated
    have hheld : ((s.later a.elapsed).deliver a.message a.session).1.Addresses :=
      Addresses.deliver (s := s.later a.elapsed) haddresses a.message a.session
    rw [Server.transcript, List.filter_append]
    by_cases hpeer : a.message.addr = peer
    · have halike : (s.later a.elapsed).AlikeFor a.message.addr (s'.later a.elapsed) :=
        hpeer ▸ ((alike.later a.elapsed).symm.later a.elapsed).symm
      obtain ⟨hstep, hsame⟩ := halike.deliver hisolated a.session
      obtain ⟨hrest, htranscript⟩ := ih (hpeer ▸ hstep) hafter hheld
      have hall : ((s.later a.elapsed).outgoing a.message a.session).filter
          (fun o => o.addr = peer) = (s.later a.elapsed).outgoing a.message a.session :=
        List.filter_eq_self.mpr fun o ho => decide_eq_true ((hsent o ho).trans hpeer)
      rw [List.filter_cons_of_pos (by simpa using hpeer), hall, htranscript, hsame]
      exact ⟨hrest, rfl⟩
    · have hother := alikeFor_deliver (s := s.later a.elapsed) hpeer hisolated a.session
      have hstep := hother.symm.trans (alike.later a.elapsed)
      obtain ⟨hrest, htranscript⟩ := ih hstep hafter hheld
      have hnone : ((s.later a.elapsed).outgoing a.message a.session).filter
          (fun o => o.addr = peer) = [] :=
        List.filter_eq_nil_iff.mpr fun o ho haddr =>
          hpeer ((hsent o ho).symm.trans (of_decide_eq_true haddr))
      rw [List.filter_cons_of_neg (by simpa using hpeer), hnone, htranscript]
      exact ⟨hrest, rfl⟩

/-- Messages leave the tree as it is. -/
theorem tree_arrived (s : Server ν) (hisolated : s.site.tree.Isolated) (arrivals : List Arrival) :
    (s.arrived arrivals).site.tree = s.site.tree := by
  induction arrivals generalizing s with
  | nil => rfl
  | cons a arrivals ih =>
    have htree := ((s.later a.elapsed).confined_deliver a.message a.session hisolated).1
    exact (ih _ (htree ▸ hisolated)).trans htree

/-- **Peers.** Let the resources of a server keep to their requests, whatever has happened to it since it
held nothing, and let nothing be dropped from now on. What a peer is sent while messages of any peers
arrive is what it is sent when only its own arrive, in the same order, and its relations come out the same.
No message of another peer changes an answer to it, adds one or takes one away. -/
theorem transcript_filter {s₀ : Server ν} (hblank : s₀.dedup.Blank) (acts : List (Act ν))
    (hisolated : (s₀.history acts).site.tree.Isolated) (peer : Address) (arrivals : List Arrival) :
    let s := s₀.history acts
    let own := arrivals.filter fun a => a.message.addr = peer
    (s.transcript arrivals).filter (fun o => o.addr = peer) = s.transcript own ∧
      (s.arrived arrivals).site.tree = s.site.tree ∧
      (∀ id, (s.arrived arrivals).site.observers.sequence id =
        (s.arrived own).site.observers.sequence id) ∧
      ∀ id key, key.peer = peer →
        ((s.arrived arrivals).site.observers.relation? id key).map Relation.untimed =
          ((s.arrived own).site.observers.relation? id key).map Relation.untimed := by
  intro s own
  have haddresses : s.Addresses :=
    holds_history (hblank.mono fun _ _ h => h.elim) fun s m session _ _ _ hr =>
      s.addr_of_mem_responses m session hr
  obtain ⟨halike, htranscript⟩ := (AlikeFor.refl peer s).transcript hisolated haddresses arrivals
  exact ⟨htranscript, s.tree_arrived hisolated arrivals, halike.observers.sequence,
    halike.observers.relation⟩

/-! ### Two watchers -/

/-- A server whose root can be observed. -/
def board : Server Unit :=
  { patient with
    site := { patient.site with
      tree := .rooted ⟨{ (default : Profile) with observable := true }, fun _ =>
        .respond .content fun _ => .done⟩ } }

/-- A request about the root of it, with an Observe option. -/
def watch (port : UInt16) (observe : UInt32) : Arrival :=
  ⟨⟨1⟩, ⟨(Message.new .con .get 7 .empty).setObserve observe, ⟨.v4 0, port⟩⟩, none⟩

theorem isolated_board : board.site.tree.Isolated := by
  intro id resource hresource request
  obtain ⟨node, hnode, rfl⟩ := Option.map_eq_some_iff.mp hresource
  obtain ⟨-, rfl⟩ := Tree.node?_withRoot hnode
  exact ⟨rfl, fun _ _ _ => rfl, fun _ => trivial⟩

/-- One peer watches the board. That another one with the same id and token does not want to is none of
its concern. -/
theorem transcript_filter_board :
    (board.transcript [watch 1 0, watch 2 1, watch 1 0]).filter (fun o => o.addr = ⟨.v4 0, 1⟩) =
        board.transcript [watch 1 0, watch 1 0] ∧
      ((board.arrived [watch 1 0, watch 2 1, watch 1 0]).site.observers.relation? ⟨0, 0⟩
        (.token ⟨.v4 0, 1⟩ .empty)).isSome = true := by
  have hblank : board.dedup.Blank := blank_patient
  obtain ⟨htranscript, -, -, hrelation⟩ := transcript_filter hblank [] isolated_board ⟨.v4 0, 1⟩
    [watch 1 0, watch 2 1, watch 1 0]
  refine ⟨htranscript, ?_⟩
  have hsame := congrArg Option.isSome (hrelation ⟨0, 0⟩ (.token ⟨.v4 0, 1⟩ .empty) rfl)
  rw [Option.isSome_map, Option.isSome_map] at hsame
  refine hsame.trans ?_
  decide +kernel

end Server

end Coap
