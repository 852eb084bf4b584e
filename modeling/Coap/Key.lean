import Coap.Addressed
import Coap.Message.Summary

/-!
# Keys of exchanges

Messages of one peer are told apart by their ids, and its requests by their tokens. Keys with ids
precede keys with tokens; among each, the order is by peer and then by id or token.
-/

namespace Coap

/-- What identifies a message or a request of a peer. -/
inductive Key where
  /-- A message, by its id. -/
  | mid (peer : Address) (id : UInt16)
  /-- A request, by its token. -/
  | token (peer : Address) (token : Token)
deriving DecidableEq

namespace Key

/-- The key that tells duplicates of a message. -/
def ofId (m : Addressed Message) : Key := .mid m.addr m.data.id

/-- The key that ties responses to a request. -/
def ofToken (m : Addressed Message) : Key := .token m.addr m.data.token

/-- The peer that the key belongs to. -/
def peer : Key → Address
  | .mid peer _ => peer
  | .token peer _ => peer

/-- What keys are ordered by. -/
def sortKey : Key → List Nat
  | .mid peer id => 0 :: (peer.sortKey ++ [id.toNat])
  | .token peer t => 1 :: (peer.sortKey ++ t.bytes.map UInt8.toNat)

theorem length_sortKey_peer (a : Address) : a.sortKey.length = 4 := by
  cases a with
  | mk ip port => cases ip <;> rfl

theorem sortKey_injective {a b : Key} (h : a.sortKey = b.sortKey) : a = b := by
  cases a <;> cases b
  · have h := List.append_inj (List.cons.inj h).2 (by simp [length_sortKey_peer])
    rw [Address.sortKey_injective h.1, UInt16.toNat_inj.1 (List.singleton_inj.1 h.2)]
  · exact absurd (List.cons.inj h).1 (by decide)
  · exact absurd (List.cons.inj h).1 (by decide)
  · have h := List.append_inj (List.cons.inj h).2 (by simp [length_sortKey_peer])
    rw [Address.sortKey_injective h.1,
      Token.ext ((List.map_inj_right fun _ _ => UInt8.toNat_inj.1).1 h.2)]

instance : Ord Key := ⟨compareOn sortKey⟩

instance : Std.TransOrd Key := inferInstanceAs (Std.TransCmp (compareOn sortKey))

instance : Std.LawfulEqOrd Key where
  eq_of_compare {a b} h :=
    sortKey_injective (Std.LawfulEqOrd.eq_of_compare (a := a.sortKey) (b := b.sortKey) h)

/-- The key in messages to people. -/
def text : Key → String
  | .mid peer id => "Mid \x7b peer: " ++ peer.text ++ s!", id: Id({id.toNat}) " ++ "\x7d"
  | .token peer t =>
    "Token \x7b peer: " ++ peer.text ++ ", token: Token(" ++ t.bytes.listText ++ ") \x7d"

end Key

end Coap
