import Coap.Forward.Forwarder
import Coap.Proofs.Forward.Target
import Coap.Proofs.Wire.Instances

/-!
# What origins are asked

The request that a proxy sends to an origin says what its client's request says, but where it goes is
up to the URL alone.

* `Url.contribution?` — what a URL contributes to the options of a request.
* `Url.hostOption?_of_address?` — an address is no host to name in an option.
* `Message.get?_toOrigin` — the options about the first hop are contributed by the URL, and all others
  are the client's.
* `Message.toOrigin_of_sameBut` — so it does not matter which path the client's request had.
-/

namespace Coap

/-! ### Segments -/

/-- The values of an option that is made of segments. -/
def Options.segmentValues? (segments : List String) : Option (List Bytes) :=
  if segments.isEmpty then none else some (segments.map Text.bytes)

theorem Options.get?_setSegments (options : Options) (n n' : OptionNumber)
    (segments : List String) :
    (options.setSegments n segments).get? n' =
      if n' = n then segmentValues? segments else options.get? n' := by
  unfold setSegments segmentValues?
  split
  · rw [OrderedMap.get?_erase]
  · rw [OrderedMap.get?_insert]

/-! ### Addresses -/

/-- The host of a URL is not named in a request if it is an address. -/
theorem Url.hostOption?_of_address? {u : Url} {a : Address} (h : u.address? = some a) :
    u.hostOption? = none := by
  unfold address? at h
  unfold hostOption?
  cases hhost : u.host? with
  | none => rfl
  | some host =>
    cases host with
    | name s =>
      rw [hhost] at h
      obtain ⟨ip, hip, -⟩ := Option.map_eq_some_iff.mp h
      simp [Host.name?, Ip.ofText?, hip]
    | ip4 v => rfl
    | ip6 v => rfl

/-! ### Options of a request to an origin -/

/-- What a URL contributes to an option of the requests for it. -/
def Url.contribution? (u : Url) (n : OptionNumber) : Option (List Bytes) :=
  if n = .uriPath then Options.segmentValues? (Text.pieces '/' u.path.text)
  else if n = .uriQuery then
    u.query.bind fun query => Options.segmentValues? (Text.pieces '&' query)
  else if n = .uriHost then u.hostOption?.map fun host => [Text.bytes host]
  else none

theorem Url.contribution?_uriHost (u : Url) :
    u.contribution? .uriHost = u.hostOption?.map fun host => [Text.bytes host] := by
  rw [contribution?, if_neg (by decide), if_neg (by decide), if_pos rfl]

namespace Message

variable (m : Message) (target : Url) (id : UInt16) (token : Token)

/-- Beside its options, a request to an origin is a confirmable message with the code and the payload
of the client's request. -/
theorem toOrigin_eq : ∃ options, m.toOrigin target id token =
    { Message.new .con m.code id token with options, payload := m.payload } := by
  unfold toOrigin
  dsimp only
  split <;> split <;> exact ⟨_, rfl⟩

/-- The six options about the first hop are replaced by those that the URL contributes. -/
theorem get?_toOrigin (n : OptionNumber) :
    (m.toOrigin target id token).options.get? n =
      if n ∈ [.proxyUri, .proxyScheme, .uriHost, .uriPort, .uriPath, .uriQuery] then
        target.contribution? n
      else m.options.get? n := by
  show _ = if n ∈ hopByHop then _ else _
  have hkept : (m.options.filter fun n _ => n ∉ hopByHop).get? n =
      if n ∈ hopByHop then none else m.options.get? n := by
    rw [OrderedMap.get?_filter]
    by_cases hn : n ∈ hopByHop <;> simp only [hn] <;> cases m.options.get? n <;> rfl
  unfold toOrigin
  dsimp only
  generalize m.options.filter _ = kept at hkept
  by_cases hn : n ∈ hopByHop
  · rw [if_pos hn] at hkept ⊢
    simp only [hopByHop, List.mem_cons, List.not_mem_nil, or_false] at hn
    cases hhost : target.hostOption? <;> cases hquery : target.query <;>
      rcases hn with rfl | rfl | rfl | rfl | rfl | rfl <;>
      simp +decide [setPath, setQuery, set, Options.set, Options.get?_setSegments,
        OrderedMap.get?_insert, Url.contribution?, hkept, hhost, hquery]
  · rw [if_neg hn] at hkept ⊢
    simp only [hopByHop, List.mem_cons, List.not_mem_nil, or_false, not_or] at hn
    cases target.hostOption? <;> cases target.query <;>
      simp [setPath, setQuery, set, Options.set, Options.get?_setSegments, OrderedMap.get?_insert,
        hkept, hn]

variable {m} in
/-- The path that the client's request had does not matter to the origin. -/
theorem toOrigin_of_sameBut {m' : Message} (h : m.SameBut m' .uriPath) :
    m'.toOrigin target id token = m.toOrigin target id token := by
  have hkept : (m'.options.filter fun n _ => n ∉ hopByHop) =
      m.options.filter fun n _ => n ∉ hopByHop := by
    apply OrderedMap.ext_get?
    intro n
    rw [OrderedMap.get?_filter, OrderedMap.get?_filter]
    by_cases hn : n = .uriPath
    · subst hn
      cases m.options.get? .uriPath <;> cases m'.options.get? .uriPath <;> rfl
    · rw [h.2 n hn]
  rw [toOrigin, hkept, h.1]
  rfl

end Message

end Coap
