import Coap.Proofs.Wire.Beginnings
import Coap.Proofs.Wire.Refusals

/-!
# Datagrams that are cut off

What is read of the first octets of the datagram of a message, wherever it is cut. An option that is
cut is reported, wherever in it the cut is: each of its numbers and its value is written with a length
that is known by then, so that the octets that are missing are missed. The options before it have been
read by then, and nothing else in the datagram can go wrong.

* `Message.written`, `Message.optionsEnd` — the octets of options, and how far a datagram goes with
  them.
* `Message.decodeOption_take` — an option that is cut.
* `Message.Cut` — the places where a datagram can be cut, and what each comes to.
* `Message.decode_take_iff` — so it is for every message that fits and for every cut.
-/

namespace Coap

/-! ### Numbers -/

/-- A number that is cut is missed. -/
theorem Nibble.decode_take {n k : Nat} (hk : k < (encode n).2.length) (reserved : OptionError) :
    decode (encode n).1 ((encode n).2.take k) reserved = .error .truncated := by
  unfold encode at hk ⊢
  split at hk
  · next hlong =>
    rw [if_pos hlong]
    obtain rfl | rfl : k = 0 ∨ k = 1 := by
      simp only [List.length_cons, List.length_nil] at hk
      omega
    · rfl
    · rfl
  · next hlong =>
    split at hk
    · next hone =>
      rw [if_neg hlong, if_pos hone]
      obtain rfl : k = 0 := by simpa using hk
      rfl
    · cases hk

namespace Message

open Options

/-! ### Options -/

variable {prev : OptionNumber} {delta k : Nat} {value enc : Bytes}
  {l before after : List (OptionNumber × Bytes)}

theorem takeExact_of_short {n : Nat} {bytes : Bytes} (h : bytes.length < n) : takeExact n bytes = none :=
  if_pos (by rw [List.length_take]; omega)

/-- An option that is cut is missed: in its first number, in its second one, or in its value. -/
theorem decodeOption_take (hdelta : delta ≤ 65535) (hlen : value.length ≤ 65535) (hbegun : 0 < k)
    (hcut : k < (encodeOption delta value).length) :
    decodeOption ((encodeOption delta value).take k) = .error .truncated := by
  obtain ⟨j, rfl⟩ : ∃ j, k = j + 1 := Nat.exists_eq_add_one.mpr hbegun
  have hd := Nibble.encode_fst_lt delta
  have hl := Nibble.encode_fst_lt value.length
  simp only [encodeOption, List.length_cons, List.length_append] at hcut
  simp only [encodeOption, List.take_succ_cons, decodeOption]
  rw [if_neg (join_ne_payloadMarker hd (by omega)), Octet.upper_join (by omega) (by omega),
    Octet.lower_join (by omega) (by omega), List.append_assoc, List.take_append]
  by_cases hfirst : j < (Nibble.encode delta).2.length
  · rw [show j - (Nibble.encode delta).2.length = 0 by omega, List.take_zero, List.append_nil,
      Nibble.decode_take hfirst]
    rfl
  · rw [List.take_of_length_le (by omega), Nibble.decode_encode hdelta, List.take_append]
    dsimp only [bind, Except.bind]
    generalize hi : j - (Nibble.encode delta).2.length = i
    by_cases hsecond : i < (Nibble.encode value.length).2.length
    · rw [show i - (Nibble.encode value.length).2.length = 0 by omega, List.take_zero, List.append_nil,
        Nibble.decode_take hsecond]
    · rw [List.take_of_length_le (by omega), Nibble.decode_encode hlen]
      dsimp only
      rw [takeExact_of_short]
      rw [List.length_take]
      omega

/-- The octets of options that are written one after the other, the first of them after `prev`. -/
def written (prev : OptionNumber) : List (OptionNumber × Bytes) → Bytes
  | [] => []
  | (n, value) :: rest => encodeOption (n.val.toNat - prev.val.toNat) value ++ written n rest

theorem written_append (prev : OptionNumber) (l r : List (OptionNumber × Bytes)) :
    written prev (l ++ r) = written prev l ++ written (lastNumber prev l) r := by
  induction l generalizing prev with
  | nil => rfl
  | cons i l ih => rw [List.cons_append, written, ih, ← List.append_assoc, lastNumber_cons]; rfl

/-- If options can be written, these are their octets. -/
theorem eq_written_of_encodeOptions (h : encodeOptions prev [] l = .ok enc) : enc = written prev l := by
  induction l generalizing prev enc with
  | nil => cases h; rfl
  | cons i l ih =>
    obtain ⟨-, -, more, hmore, rfl⟩ := encodeOptions_cons_eq_ok_iff.mp h
    rw [written, ih hmore]

/-- If options can be written, so can the first of them, and those behind. -/
theorem encodeOptions_of_append (h : encodeOptions prev [] (before ++ after) = .ok enc) :
    encodeOptions prev [] before = .ok (written prev before) ∧
      ∃ more, encodeOptions (lastNumber prev before) [] after = .ok more := by
  induction before generalizing prev enc with
  | nil => exact ⟨rfl, enc, h⟩
  | cons i before ih =>
    obtain ⟨hdelta, hlen, more, hmore, rfl⟩ := encodeOptions_cons_eq_ok_iff.mp h
    obtain ⟨hbefore, hafter⟩ := ih hmore
    rw [lastNumber_cons]
    exact ⟨encodeOptions_cons_eq_ok_iff.mpr ⟨hdelta, hlen, _, hbefore, rfl⟩, hafter⟩

/-- A place among the octets of options is at the end of one of them, or inside of one. -/
theorem exists_place (prev : OptionNumber) (l : List (OptionNumber × Bytes)) {j : Nat}
    (hj : j ≤ (written prev l).length) :
    (∃ before after, l = before ++ after ∧ j = (written prev before).length) ∨
      ∃ before i after, l = before ++ i :: after ∧ (written prev before).length < j ∧
        j < (written prev (before ++ [i])).length := by
  induction l generalizing prev j with
  | nil => exact .inl ⟨[], [], rfl, by simpa [written] using hj⟩
  | cons i l ih =>
    obtain ⟨n, value⟩ := i
    rw [written, List.length_append] at hj
    by_cases hinside : j < (encodeOption (n.val.toNat - prev.val.toNat) value).length
    · by_cases hzero : j = 0
      · exact .inl ⟨[], _, rfl, hzero⟩
      · refine .inr ⟨[], _, l, rfl, Nat.pos_of_ne_zero hzero, ?_⟩
        simpa [written] using hinside
    · obtain ⟨before, after, rfl, hend⟩ | ⟨before, i, after, rfl, hbegun, hcut⟩ :=
        ih n (j := j - (encodeOption (n.val.toNat - prev.val.toNat) value).length) (by omega)
      · refine .inl ⟨(n, value) :: before, after, rfl, ?_⟩
        rw [written, List.length_append]
        omega
      · refine .inr ⟨(n, value) :: before, i, after, rfl, ?_, ?_⟩
        · rw [written, List.length_append]
          omega
        · rw [List.cons_append, written, List.length_append]
          omega

/-! ### Heads -/

/-- A head that is cut is missed. -/
theorem decode_take_encodeHead {m : Message} (hk : k < 4 + m.token.bytes.length)
    (hversion : m.version < 4) : decode (m.encodeHead.take k) = .error .truncated := by
  obtain ⟨ht, -, hl⟩ := (eq_headByte_iff (UInt8.lt_iff_toNat_lt.mp hversion)).mp rfl
  match k with
  | 0 | 1 | 2 | 3 => rfl
  | j + 4 =>
    have hshort : ¬ 8 < m.headByte &&& 0x0F := by
      rw [UInt8.lt_iff_toNat_lt, hl]
      exact Nat.not_lt.mpr m.token.length_le
    have htoken : takeExact (m.headByte &&& 0x0F).toNat (m.token.bytes.take j) = none :=
      takeExact_of_short (by rw [List.length_take]; omega)
    simp only [encodeHead, List.take_succ_cons, decode, bind, Except.bind, ht, if_neg hshort,
      MessageType.decode_eq_ok_iff.mpr rfl, htoken]

/-! ### Places -/

/-- How far the datagram of a message goes with its head and the first of its options. -/
def optionsEnd (m : Message) (before : List (OptionNumber × Bytes)) : Nat :=
  4 + m.token.bytes.length + (written ⟨0⟩ before).length

theorem length_front (m : Message) (before : List (OptionNumber × Bytes)) :
    (m.encodeHead ++ written ⟨0⟩ before).length = m.optionsEnd before := by
  rw [List.length_append, length_encodeHead]
  rfl

/-- What the first `k` octets of the datagram of a message are read as. -/
inductive Cut (m : Message) (k : Nat) : Except DecodeError Message → Prop
  /-- The header or the token is cut. -/
  | head (hcut : k < 4 + m.token.bytes.length) : Cut m k (.error .truncated)
  /-- An option is cut. -/
  | option {before after : List (OptionNumber × Bytes)} {i : OptionNumber × Bytes}
      (hoptions : m.options.instances = before ++ i :: after)
      (hbegun : m.optionsEnd before < k) (hcut : k < m.optionsEnd (before ++ [i])) :
      Cut m k (.error (.option .truncated))
  /-- The cut is between two options, or in front of them or behind them. -/
  | options {before after : List (OptionNumber × Bytes)}
      (hoptions : m.options.instances = before ++ after) (hend : k = m.optionsEnd before) :
      Cut m k (.ok { m with options := .ofInstances before, payload := [] })
  /-- The cut is behind the marker. -/
  | marker (hend : k = m.optionsEnd m.options.instances + 1) : Cut m k (.error .emptyPayload)
  /-- The payload is cut. -/
  | payload (hbegun : m.optionsEnd m.options.instances + 1 < k) :
      Cut m k (.ok { m with payload := m.payload.take (k - (m.optionsEnd m.options.instances + 1)) })

variable {m : Message} {bytes : Bytes}

/-- The datagram of a message, part by part. -/
theorem encode_eq_written (h : m.encode = .ok bytes) :
    bytes = m.encodeHead ++ (written ⟨0⟩ m.options.instances ++ encodePayload m.payload) := by
  obtain ⟨enc, henc, rfl⟩ := encode_eq_ok_iff.mp h
  rw [eq_written_of_encodeOptions henc]

/-- Every cut is at one of the places. -/
theorem exists_cut (m : Message) (k : Nat) : ∃ r, m.Cut k r := by
  by_cases hhead : k < 4 + m.token.bytes.length
  · exact ⟨_, .head hhead⟩
  by_cases hoptions : k ≤ m.optionsEnd m.options.instances
  · rcases exists_place ⟨0⟩ m.options.instances (j := k - (4 + m.token.bytes.length))
      (by unfold optionsEnd at hoptions; omega) with
      ⟨before, after, hsplit, hend⟩ | ⟨before, i, after, hsplit, hbegun, hcut⟩
    · exact ⟨_, .options hsplit (by unfold optionsEnd; omega)⟩
    · exact ⟨_, .option hsplit (by unfold optionsEnd; omega) (by unfold optionsEnd; omega)⟩
  by_cases hmarker : k = m.optionsEnd m.options.instances + 1
  · exact ⟨_, .marker hmarker⟩
  · exact ⟨_, .payload (by omega)⟩

/-- The octets of a datagram up to the end of some of its options. -/
theorem take_optionsEnd (h : m.encode = .ok bytes)
    (hoptions : m.options.instances = before ++ after) :
    bytes.take (m.optionsEnd before) = m.encodeHead ++ written ⟨0⟩ before := by
  rw [encode_eq_written h, hoptions, written_append, List.append_assoc, ← List.append_assoc,
    List.take_left' (m.length_front before)]

/-- The first options of a message have a datagram of their own: the beginning of the datagram. -/
theorem encode_take_of_options (h : m.encode = .ok bytes)
    (hoptions : m.options.instances = before ++ after) :
    { m with options := .ofInstances before, payload := [] }.encode =
      .ok (bytes.take (m.optionsEnd before)) := by
  obtain ⟨enc, henc, -⟩ := encode_eq_ok_iff.mp h
  have hinOrder : Options.InOrder (before ++ after) := hoptions ▸ Options.inOrder_instances _
  rw [hoptions] at henc
  refine encode_eq_ok_iff.mpr ⟨written ⟨0⟩ before, ?_, ?_⟩
  · rw [Options.instances_ofInstances (hinOrder.sublist (List.sublist_append_left _ _))]
    exact (encodeOptions_of_append henc).1
  · rw [take_optionsEnd h hoptions, show encodePayload [] = [] from rfl, List.append_nil]
    rfl

/-- A datagram that ends with some of its options is read up to them. -/
theorem decode_take_of_options (hfits : m.Fits) (h : m.encode = .ok bytes)
    (hoptions : m.options.instances = before ++ after) :
    decode (bytes.take (m.optionsEnd before)) =
      .ok { m with options := .ofInstances before, payload := [] } :=
  decode_of_fits ⟨hfits.1, hfits.2.1, Options.hasValues_ofInstances _⟩
    (encode_take_of_options h hoptions)

/-- If an option is cut, the options before it are read, and then it is missed. -/
theorem decode_take_of_option {i : OptionNumber × Bytes} (hfits : m.Fits) (h : m.encode = .ok bytes)
    (hoptions : m.options.instances = before ++ i :: after) (hbegun : m.optionsEnd before < k)
    (hcut : k < m.optionsEnd (before ++ [i])) :
    decode (bytes.take k) = .error (.option .truncated) := by
  obtain ⟨enc, henc, -⟩ := encode_eq_ok_iff.mp h
  have hinOrder : Options.InOrder (before ++ i :: after) := hoptions ▸ Options.inOrder_instances _
  rw [hoptions] at henc
  obtain ⟨hbefore, more, hmore⟩ := encodeOptions_of_append henc
  obtain ⟨hdelta, hlen, -⟩ := encodeOptions_cons_eq_ok_iff.mp hmore
  -- what is left of the option that is cut
  obtain ⟨j, rfl⟩ : ∃ j, k = m.optionsEnd before + j := Nat.exists_eq_add_of_le (Nat.le_of_lt hbegun)
  let octets := encodeOption (i.1.val.toNat - (lastNumber ⟨0⟩ before).val.toNat) i.2
  have hends : written ⟨0⟩ (before ++ [i]) = written ⟨0⟩ before ++ octets := by
    rw [written_append]
    exact congrArg _ (List.append_nil _)
  have hj : j < octets.length := by
    simp only [optionsEnd, hends, List.length_append] at hcut
    omega
  have hfront := take_optionsEnd h (show m.options.instances = (before ++ [i]) ++ after by
    rw [hoptions, List.append_cons])
  have htake : bytes.take (m.optionsEnd before + j) =
      m.encodeHead ++ (written ⟨0⟩ before ++ octets.take j) := by
    rw [← Nat.min_eq_left (Nat.le_of_lt hcut), ← List.take_take, hfront, hends, ← length_front,
      ← List.append_assoc, List.take_length_add_append, List.append_assoc]
  have hfirst : ∀ i ∈ before, (⟨0⟩ : OptionNumber).val.toNat ≤ i.1.val.toNat :=
    fun _ _ => Nat.zero_le _
  obtain ⟨number, hread⟩ := decodeOptions_encodeOptions_append
    (hinOrder.sublist (List.sublist_append_left _ _)) hfirst hbefore [] (octets.take j)
  have hmissed : decodeOption (octets.take j) = .error .truncated :=
    decodeOption_take hdelta hlen (show 0 < j by omega) hj
  rw [htake, decode_encodeHead ⟨hfits.1, hfits.2.1⟩, hread, decodeOptions_of_error hmissed]
  rfl

/-- The octets of a datagram up to a place behind its options. -/
theorem take_optionsEnd_add (h : m.encode = .ok bytes) (j : Nat) :
    bytes.take (m.optionsEnd m.options.instances + j) =
      bytes.take (m.optionsEnd m.options.instances) ++ (encodePayload m.payload).take j := by
  rw [take_optionsEnd h (List.append_nil _).symm, encode_eq_written h, ← List.append_assoc,
    ← length_front, List.take_length_add_append]

/-- A datagram goes beyond its options only if it has a payload. -/
theorem payload_ne_nil (h : m.encode = .ok bytes)
    (hk : m.optionsEnd m.options.instances < bytes.length) : m.payload ≠ [] := by
  intro hnone
  rw [encode_eq_written h, hnone, List.length_append, length_encodeHead, List.length_append] at hk
  simp only [optionsEnd, encodePayload, List.isEmpty_nil, if_true, List.length_nil] at hk
  omega

/-- Behind the marker the payload is missing, and from then on a part of it is there. -/
theorem decode_take_of_marker (h : m.encode = .ok bytes) (hpayload : m.payload ≠ []) :
    decode (bytes.take (m.optionsEnd m.options.instances + 1)) = .error .emptyPayload := by
  rw [take_optionsEnd_add h, encodePayload_of_ne_nil hpayload]
  exact (decode_append_marker (encode_take_of_options h (List.append_nil _).symm) rfl).2

theorem decode_take_of_cut (hfits : m.Fits) (h : m.encode = .ok bytes) (hpayload : m.payload ≠ [])
    (hbegun : m.optionsEnd m.options.instances + 1 < k) :
    decode (bytes.take k) =
      .ok { m with payload := m.payload.take (k - (m.optionsEnd m.options.instances + 1)) } := by
  have hwhole : bytes =
      m.encodeHead ++ written ⟨0⟩ m.options.instances ++ [payloadMarker] ++ m.payload := by
    rw [encode_eq_written h, encodePayload_of_ne_nil hpayload]
    simp
  have hfront : (m.encodeHead ++ written ⟨0⟩ m.options.instances ++ [payloadMarker]).length =
      m.optionsEnd m.options.instances + 1 := by
    rw [List.length_append, length_front]
    rfl
  rw [hwhole] at h ⊢
  rw [decode_take_of_encode hfits h (by omega), hfront]

/-- What the datagram is read as where it is cut. -/
theorem Cut.decode_eq {r : Except DecodeError Message} (hfits : m.Fits) (h : m.encode = .ok bytes)
    (hk : k < bytes.length) (hcut : m.Cut k r) : decode (bytes.take k) = r := by
  cases hcut with
  | head hcut =>
    rw [encode_eq_written h, List.take_append_of_le_length (by rw [length_encodeHead]; omega)]
    exact decode_take_encodeHead hcut hfits.1
  | option hoptions hbegun hcut => exact decode_take_of_option hfits h hoptions hbegun hcut
  | options hoptions hend => exact hend ▸ decode_take_of_options hfits h hoptions
  | marker hend => exact hend ▸ decode_take_of_marker h (payload_ne_nil h (by omega))
  | payload hbegun => exact decode_take_of_cut hfits h (payload_ne_nil h (by omega)) hbegun

/-- **Cuts.** The datagram of a message consists of its head, the octets of its options and its payload.
Where the message fits and the datagram is cut somewhere, what is left is read as the place of the cut
has it, and as nothing else: it is missed that the head or an option is cut, and that there is nothing
behind the marker; otherwise the message is read with those of its options and that part of its payload
which stand before the cut. -/
theorem decode_take_iff (hfits : m.Fits) (h : m.encode = .ok bytes) :
    bytes = m.encodeHead ++ (written ⟨0⟩ m.options.instances ++ encodePayload m.payload) ∧
    m.encodeHead.length = 4 + m.token.bytes.length ∧
    ∀ k, k < bytes.length → ∀ r, decode (bytes.take k) = r ↔ m.Cut k r := by
  refine ⟨encode_eq_written h, m.length_encodeHead, fun k hk r => ⟨?_, Cut.decode_eq hfits h hk⟩⟩
  rintro rfl
  obtain ⟨r, hcut⟩ := m.exists_cut k
  rwa [hcut.decode_eq hfits h hk]

/-- A message with three options, the last of them with a long number, and two octets of payload. -/
def luggage : Message := { overfull.onWire with payload := [0xFF, 0x0A] }

/-- The datagram of `luggage`: up to octet 6 its head, up to 8, 9 and 13 its options. -/
def luggageBytes : Bytes := overfullBytes ++ [0x0A]

/-- Five cuts: in the token, in the number of an option, between two options, behind the marker and in
the payload. -/
theorem decode_take_iff_luggage :
    luggage.Fits ∧ luggage.encode = .ok luggageBytes ∧
      decode (luggageBytes.take 5) = .error .truncated ∧
      decode (luggageBytes.take 11) = .error (.option .truncated) ∧
      decode (luggageBytes.take 9) =
        .ok { luggage with options := .addAll .empty ⟨11⟩ [[0x61], []], payload := [] } ∧
      decode (luggageBytes.take 14) = .error .emptyPayload ∧
      decode (luggageBytes.take 15) = .ok { luggage with payload := [0xFF] } := by
  let paths : List (OptionNumber × Bytes) := [(⟨11⟩, [0x61]), (⟨11⟩, [])]
  have hfits : luggage.Fits := by decide
  have hencode : luggage.encode = .ok luggageBytes := by rfl
  obtain ⟨-, -, hcuts⟩ := decode_take_iff hfits hencode
  have hread {k : Nat} {r : Except DecodeError Message} (hk : k < luggageBytes.length)
      (hcut : luggage.Cut k r) : decode (luggageBytes.take k) = r := (hcuts k hk r).mpr hcut
  refine ⟨hfits, hencode, hread (by decide) (.head (by decide)), hread (by decide) ?_,
    hread (by decide) ?_, hread (by decide) (.marker (by rfl)),
    hread (by decide) (.payload (by decide))⟩
  · exact .option (show luggage.options.instances = paths ++ (⟨300⟩, [0xFF]) :: [] by rfl)
      (by decide) (by decide)
  · exact .options (show luggage.options.instances = paths ++ [(⟨300⟩, [0xFF])] by rfl) (by rfl)

end Message

end Coap
