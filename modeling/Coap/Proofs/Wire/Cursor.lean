import Coap.Proofs.Wire.Datagram

/-!
# Reading at a position

`Message.decode` drops what it has read. A reader in memory keeps all octets and moves a position, and
every step of it has a range that it could leave: the position could come to lie behind the end, octets
could be taken from there, a sum could need more bits than it has, and an option that takes up no octet
would be read for ever. `Cursor.decode` is this reader, and it halts with a `Fault` where a step leaves
its range.

A cursor that stands before the last octets of a datagram (`Cursor.before`) takes the same steps as the
reader that has only these octets; here for all steps up to a single option.

* `Cursor.readNibble_before`, `Cursor.readOption_before` — no position, no slice and no sum of 16 bits
  is ever out of range.
-/

namespace Coap

/-- What a step does that leaves its range. -/
inductive Fault where
  /-- It counts what is left from a position behind the end. -/
  | position
  /-- It takes octets that are not there. -/
  | slice
  /-- A sum exceeds 16 bits. -/
  | sum16
  /-- A sum exceeds 32 bits. -/
  | sum32
  /-- It takes up no octet, and would be taken again. -/
  | stalled
deriving DecidableEq, Repr, Inhabited

/-- Why there is no result. -/
inductive Halt (ε : Type) where
  /-- A step left its range. -/
  | fault (f : Fault)
  /-- The octets are wrong. -/
  | error (e : ε)
deriving DecidableEq, Repr

/-- The same halt with another kind of error. -/
def Halt.map {ε ε' : Type} (f : ε → ε') : Halt ε → Halt ε'
  | .fault cause => .fault cause
  | .error e => .error (f e)

/-- A place in a string of octets. -/
structure Cursor where
  /-- All octets. -/
  bytes : Bytes
  /-- How many of them were read. -/
  position : Nat
deriving DecidableEq, Repr

namespace Cursor

variable {ε α : Type}

/-! ## Steps -/

/-- A sum of 16 bits. -/
def add16 (a b : UInt16) : Except (Halt ε) UInt16 :=
  if a.toNat + b.toNat < UInt16.size then .ok (a + b) else .error (.fault .sum16)

/-- A sum of 32 bits. -/
def add32 (a b : UInt32) : Except (Halt ε) UInt32 :=
  if a.toNat + b.toNat < UInt32.size then .ok (a + b) else .error (.fault .sum32)

/-- What was asked for, or an error where it is missing. -/
def need (e : ε) : Option α × Cursor → Except (Halt ε) (α × Cursor)
  | (some a, c) => .ok (a, c)
  | (none, _) => .error (.error e)

/-- How many octets are left. -/
def remaining (c : Cursor) : Except (Halt ε) Nat :=
  if c.position ≤ c.bytes.length then .ok (c.bytes.length - c.position)
  else .error (.fault .position)

/-- The octets from the position up to `stop`. -/
def slice (c : Cursor) (stop : Nat) : Except (Halt ε) Bytes :=
  if c.position ≤ stop ∧ stop ≤ c.bytes.length then
    .ok ((c.bytes.drop c.position).take (stop - c.position))
  else .error (.fault .slice)

/-- The next `n` octets, if there are that many. -/
def peek (c : Cursor) (n : Nat) : Except (Halt ε) (Option Bytes) := do
  if (← c.remaining) < n then return none
  else return some (← c.slice (c.position + n))

/-- The next `n` octets, which are then read. -/
def takeExact (c : Cursor) (n : Nat) : Except (Halt ε) (Option Bytes × Cursor) := do
  match ← c.peek n with
  | some part => return (some part, { c with position := c.position + n })
  | none => return (none, c)

/-- The next octet, which is then read. -/
def next (c : Cursor) : Except (Halt ε) (Option UInt8 × Cursor) := do
  match ← c.takeExact 1 with
  | (some [b], c) => return (some b, c)
  | (_, c) => return (none, c)

/-- The number in the next two octets, which are then read. -/
def next16 (c : Cursor) : Except (Halt ε) (Option UInt16 × Cursor) := do
  match ← c.takeExact 2 with
  | (some [hi, lo], c) => return (some (hi.toUInt16 * 256 + lo.toUInt16), c)
  | (_, c) => return (none, c)

/-- The next octet. -/
def peekNext (c : Cursor) : Except (Halt ε) (Option UInt8) := do
  return (← c.peek 1).bind List.head?

/-- All octets that are left, which are then read. -/
def takeUntilEnd (c : Cursor) : Except (Halt ε) (Bytes × Cursor) := do
  return (← c.slice c.bytes.length, { c with position := c.bytes.length })

/-! ## Options -/

/-- The delta or length that a nibble and the octets behind it stand for. Only the sum in the longest
form can exceed 16 bits, and only this one is checked by the reader itself. -/
def readNibble (c : Cursor) (nibble : UInt8) (reserved : OptionError) :
    Except (Halt OptionError) (UInt16 × Cursor) :=
  if nibble = 15 then .error (.error reserved)
  else if nibble = 14 then do
    let (n, c) ← need .truncated (← c.next16)
    if n.toNat + 269 < UInt16.size then return (n + 269, c) else .error (.error .overflow)
  else if nibble = 13 then do
    let (b, c) ← need .truncated (← c.next)
    return (← add16 b.toUInt16 13, c)
  else .ok (nibble.toUInt16, c)

/-- One option: its distance from the one before and its value. -/
def readOption (c : Cursor) : Except (Halt OptionError) (UInt16 × Bytes × Cursor) := do
  match ← c.peekNext with
  | none => .error (.error .exhausted)
  | some b =>
    if b = Message.payloadMarker then .error (.error .exhausted)
    else
      let (head, c) ← need .exhausted (← c.next)
      let (delta, c) ← c.readNibble (head >>> 4) (.reservedDelta 15)
      let (length, c) ← c.readNibble (head &&& 0x0F) (.reservedLength 15)
      let (value, c) ← need .truncated (← c.takeExact length.toNat)
      return (delta, value, c)

/-- How many octets stand behind the position; none if it lies behind the end. -/
def left (c : Cursor) : Nat := c.bytes.length - c.position

/-- Options as long as there are any, with their absolute numbers. -/
def readOptions (number : UInt32) (done : List (OptionNumber × Bytes)) (c : Cursor) :
    Except (Halt OptionError) (List (OptionNumber × Bytes) × Cursor) :=
  match c.readOption with
  | .ok (delta, value, c') =>
    if c'.left < c.left then do
      let number ← add32 number delta.toUInt32
      readOptions number ((⟨number⟩, value) :: done) c'
    else .error (.fault .stalled)
  | .error (.error .exhausted) => .ok (done.reverse, c)
  | .error e => .error e
termination_by c.left

/-! ## Datagrams -/

/-- What stands behind the options: a marker and the payload, or nothing. -/
def readPayload (c : Cursor) : Except (Halt DecodeError) Bytes := do
  match ← c.next with
  | (none, _) => return []
  | (some _, c) =>
    match ← c.takeUntilEnd with
    | ([], _) => .error (.error .emptyPayload)
    | (payload, _) => return payload

/-- What stands behind the header, whose fields are given: the token, the options and the payload. -/
def readBody (c : Cursor) (head code : UInt8) (type : MessageType) (id : UInt16) :
    Except (Halt DecodeError) Message := do
  let tokenLength := head &&& 0x0F
  if 8 < tokenLength then .error (.error (.tokenLength tokenLength))
  else
    let (octets, c) ← need .truncated (← c.takeExact tokenLength.toNat)
    match Token.ofBytes? octets with
    | none => .error (.error (.tokenLength tokenLength))
    | some token =>
      let (instances, c) ← (c.readOptions 0 []).mapError (Halt.map .option)
      let payload ← c.readPayload
      return {
        type
        version := head >>> 6
        code := .ofByte code
        id
        token
        options := .ofInstances instances
        payload }

/-- The message in a datagram. -/
def decode (bytes : Bytes) : Except (Halt DecodeError) Message := do
  let (head, c) ← need .truncated (← next ⟨bytes, 0⟩)
  let type ← (MessageType.decode (head >>> 4 &&& 0x03)).mapError .error
  let (code, c) ← need .truncated (← c.next)
  let (id, c) ← need .truncated (← c.next16)
  c.readBody head code type id

/-! ## What is left at a position -/

/-- The cursor in `bytes` that has read all but `rest`. -/
def before (bytes rest : Bytes) : Cursor := ⟨bytes, bytes.length - rest.length⟩

@[simp] theorem ok_bind {β : Type} (a : α) (f : α → Except (Halt ε) β) : (.ok a >>= f) = f a := rfl

@[simp] theorem error_bind {β : Type} (e : Halt ε) (f : α → Except (Halt ε) β) :
    (.error e >>= f) = .error e := rfl

@[simp] theorem pure_eq_ok (a : α) : (pure a : Except (Halt ε) α) = .ok a := rfl

section

variable {bytes rest : Bytes}

@[simp] theorem left_before (h : rest <:+ bytes) : (before bytes rest).left = rest.length := by
  have := h.length_le
  simp only [left, before]
  omega

/-- The position does not lie behind the end. -/
@[simp] theorem remaining_before (h : rest <:+ bytes) :
    (before bytes rest).remaining (ε := ε) = .ok rest.length := by
  have hle : (before bytes rest).position ≤ (before bytes rest).bytes.length := Nat.sub_le _ _
  rw [remaining, if_pos hle]
  exact congrArg Except.ok (left_before h)

/-- Octets that are left can be taken. -/
theorem slice_before (h : rest <:+ bytes) {n : Nat} (hn : n ≤ rest.length) :
    (before bytes rest).slice (ε := ε) ((before bytes rest).position + n) = .ok (rest.take n) := by
  have hrest : bytes.drop (bytes.length - rest.length) = rest := (List.suffix_iff_eq_drop.mp h).symm
  have hle : bytes.length - rest.length + n ≤ bytes.length := by
    have := h.length_le
    omega
  rw [slice, if_pos ⟨Nat.le_add_right _ _, hle⟩, Nat.add_sub_cancel_left]
  exact congrArg (Except.ok <| List.take n ·) hrest

theorem peek_before (h : rest <:+ bytes) (n : Nat) :
    (before bytes rest).peek (ε := ε) n =
      .ok (if rest.length < n then none else some (rest.take n)) := by
  simp only [peek, remaining_before h, ok_bind]
  split
  · rfl
  · next hn =>
    rw [slice_before h (Nat.le_of_not_lt hn)]
    rfl

/-- Moving on over octets that are left. -/
theorem moved_before (h : rest <:+ bytes) {n : Nat} (hn : n ≤ rest.length) :
    { before bytes rest with position := (before bytes rest).position + n } =
      before bytes (rest.drop n) := by
  have := h.length_le
  simp only [before, List.length_drop, mk.injEq, true_and]
  omega

theorem takeExact_before (h : rest <:+ bytes) (n : Nat) :
    (before bytes rest).takeExact (ε := ε) n =
      match Message.takeExact n rest with
      | some (part, rest) => .ok (some part, before bytes rest)
      | none => .ok (none, before bytes rest) := by
  simp only [takeExact, peek_before h, ok_bind, Message.takeExact, List.length_take]
  by_cases hn : rest.length < n
  · simp [hn, Nat.min_eq_right (Nat.le_of_lt hn)]
  · simp [hn, Nat.min_eq_left (Nat.le_of_not_lt hn), moved_before h (Nat.le_of_not_lt hn)]

theorem next_before (h : rest <:+ bytes) :
    (before bytes rest).next (ε := ε) = .ok (rest.head?, before bytes rest.tail) := by
  simp only [next, takeExact_before h]
  cases rest with
  | nil => rfl
  | cons b rest => simp [Message.takeExact]

theorem peekNext_before (h : rest <:+ bytes) :
    (before bytes rest).peekNext (ε := ε) = .ok rest.head? := by
  simp only [peekNext, peek_before h]
  cases rest <;> simp

theorem next16_before (h : rest <:+ bytes) :
    (before bytes rest).next16 (ε := ε) =
      match rest with
      | hi :: lo :: rest => .ok (some (hi.toUInt16 * 256 + lo.toUInt16), before bytes rest)
      | _ => .ok (none, before bytes rest) := by
  simp only [next16, takeExact_before h]
  match rest with
  | [] => rfl
  | [_] => rfl
  | hi :: lo :: rest => simp [Message.takeExact]

theorem takeUntilEnd_before (h : rest <:+ bytes) :
    (before bytes rest).takeUntilEnd (ε := ε) = .ok (rest, before bytes []) := by
  have hend : (before bytes rest).position + rest.length = (before bytes rest).bytes.length :=
    Nat.sub_add_cancel h.length_le
  simp only [takeUntilEnd]
  rw [← hend, slice_before h (Nat.le_refl _), List.take_length, hend]
  rfl

/-! ## Sums of 16 bits -/

theorem toNat_octets (hi lo : UInt8) :
    (hi.toUInt16 * 256 + lo.toUInt16).toNat = hi.toNat * 256 + lo.toNat := by
  have hhi := hi.toNat_lt
  have hlo := lo.toNat_lt
  rw [UInt16.toNat_add, UInt16.toNat_mul, UInt8.toNat_toUInt16, UInt8.toNat_toUInt16]
  show (hi.toNat * 256 % 65536 + lo.toNat) % 65536 = _
  omega

/-- One octet and 13 never exceed 16 bits. -/
theorem add16_octet (b : UInt8) :
    add16 (ε := ε) b.toUInt16 13 = .ok (b.toNat + 13).toUInt16 := by
  have hb := b.toNat_lt
  have hfits : b.toUInt16.toNat + (13 : UInt16).toNat < UInt16.size := by
    simp only [UInt8.toNat_toUInt16, UInt16.reduceToNat, UInt16.size]
    omega
  rw [add16, if_pos hfits]
  have hsum : b.toUInt16 + 13 = (b.toNat + 13).toUInt16 := by
    apply UInt16.toNat_inj.mp
    rw [UInt16.toNat_add, UInt16.toNat_ofNat', UInt8.toNat_toUInt16]
    rfl
  rw [hsum]

/-- **Deltas and lengths.** From any octets that are left a nibble is read as `Nibble.decode` reads it,
and no step on the way leaves its range. -/
theorem readNibble_before (h : rest <:+ bytes) (nibble : UInt8) (reserved : OptionError) :
    (before bytes rest).readNibble nibble reserved =
      match Nibble.decode nibble rest reserved with
      | .ok (n, rest) => .ok (n.toUInt16, before bytes rest)
      | .error e => .error (.error e) := by
  unfold readNibble Nibble.decode
  -- the three forms that say more than the nibble itself, the reserved one first
  by_cases h15 : nibble = 15
  · simp [h15]
  by_cases h14 : nibble = 14
  · simp only [h14, next16_before h]
    match rest with
    | [] => rfl
    | [_] => rfl
    | hi :: lo :: rest =>
      have hn : hi.toUInt16 * 256 + lo.toUInt16 + 269 =
          (hi.toNat * 256 + lo.toNat + 269).toUInt16 := by
        apply UInt16.toNat_inj.mp
        rw [UInt16.toNat_add, toNat_octets, UInt16.toNat_ofNat']
        rfl
      have hfits : (hi.toUInt16 * 256 + lo.toUInt16).toNat + 269 < UInt16.size ↔
          ¬ 65535 < hi.toNat * 256 + lo.toNat + 269 := by
        rw [toNat_octets]
        exact Nat.lt_succ_iff.trans Nat.not_lt.symm
      simp only [need, ok_bind, hn, hfits]
      by_cases hlong : 65535 < hi.toNat * 256 + lo.toNat + 269 <;> simp [hlong]
  by_cases h13 : nibble = 13
  · simp only [h13, next_before h]
    cases rest with
    | nil => rfl
    | cons b rest =>
      simp only [need, ok_bind, add16_octet]
      rfl
  · have hn : nibble.toUInt16 = nibble.toNat.toUInt16 := by
      apply UInt16.toNat_inj.mp
      rw [UInt16.toNat_ofNat', UInt8.toNat_toUInt16]
      have := nibble.toNat_lt
      omega
    simp only [h15, h14, h13, if_false, hn]

/-! ## One option -/

theorem suffix_of_decode {nibble : UInt8} {rest tail : Bytes} {reserved : OptionError} {n : Nat}
    (hnibble : nibble.toNat < 16) (h : Nibble.decode nibble rest reserved = .ok (n, tail)) :
    tail <:+ rest := by
  obtain ⟨-, -, rfl⟩ := Nibble.eq_encode_of_decode hnibble h
  exact List.suffix_append _ _

theorem suffix_of_decodeOption {rest value tail : Bytes} {delta : Nat}
    (h : Message.decodeOption rest = .ok (delta, value, tail)) : tail <:+ rest := by
  obtain ⟨-, -, rfl⟩ := Message.eq_encodeOption_of_decodeOption h
  exact List.suffix_append _ _

/-- **One option.** From any octets that are left an option is read as `Message.decodeOption` reads it,
and no step on the way leaves its range. -/
theorem readOption_before (h : rest <:+ bytes) :
    (before bytes rest).readOption =
      match Message.decodeOption rest with
      | .ok (delta, value, rest) => .ok (delta.toUInt16, value, before bytes rest)
      | .error e => .error (.error e) := by
  unfold readOption
  rw [peekNext_before h]
  cases rest with
  | nil => rfl
  | cons head tail =>
    have hhead := head.toNat_lt
    have htail : tail <:+ bytes := (List.suffix_cons head tail).trans h
    by_cases hmark : head = Message.payloadMarker
    · simp [Message.decodeOption, hmark]
    simp only [Message.decodeOption, hmark, ok_bind, List.head?_cons, if_false, next_before h, need,
      List.tail_cons, readNibble_before htail]
    cases hd : Nibble.decode (head >>> 4) tail (.reservedDelta 15) with
    | error e => rfl
    | ok p =>
      obtain ⟨delta, mid⟩ := p
      have hmid : mid <:+ bytes :=
        (suffix_of_decode (by rw [Octet.toNat_upper]; omega) hd).trans htail
      simp only [readNibble_before hmid, bind, Except.bind]
      cases hl : Nibble.decode (head &&& 0x0F) mid (.reservedLength 15) with
      | error e => rfl
      | ok q =>
        obtain ⟨length, body⟩ := q
        have hlower : (head &&& 0x0F).toNat < 16 := by rw [Octet.toNat_lower]; omega
        have hbody : body <:+ bytes := (suffix_of_decode hlower hl).trans hmid
        -- a length has 16 bits, and keeps its value in them
        have hlength : length.toUInt16.toNat = length := by
          have hle := (Nibble.eq_encode_of_decode hlower hl).1
          rw [UInt16.toNat_ofNat']
          omega
        simp only [hlength, takeExact_before hbody]
        cases Message.takeExact length body <;> rfl

end

end Cursor

end Coap
