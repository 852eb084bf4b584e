import Coap.Proofs.Wire.Cursor
import Coap.Proofs.Wire.RoundTrip
import Coap.Udp.Transport

/-!
# Option numbers and their size

The number of an option is the sum of the distances up to it, which is added up in 32 bits. Nothing checks
the sum, as the sums of 16 bits are checked: beyond 32 bits there is neither a message nor an error, and
the reader halts. It takes 196612 octets of options to get there: an option that moves on by 65535 has
three octets, one for each 21845.

* `Cursor.decode_eq` — the sum of 32 bits is the one step that can leave its range; in all else
  `Message.decode` is the reader at a position.
* `Message.decode_eq_fault_iff` — it does leave it exactly if all distances together exceed 32 bits.
* `Cursor.decode_stays_in_range` — what is read are the exact sums, and no endpoint halts.
* `Cursor.decode_overlong` — a datagram whose options move on to 2 ^ 32 + 11.
-/

namespace Coap

namespace Message

/-! ## Distances -/

/-- The options that can be read, each with its distance from the one before. -/
def distances (bytes : Bytes) : List (Nat × Bytes) :=
  match _h : decodeOption bytes with
  | .ok (delta, value, rest) => (delta, value) :: distances rest
  | .error _ => []
termination_by bytes.length
decreasing_by exact length_lt_of_decodeOption ‹_›

/-- The sum of some distances. -/
def reach : List (Nat × Bytes) → Nat
  | [] => 0
  | (delta, _) :: l => delta + reach l

/-- How far the options that can be read move on. -/
def span (bytes : Bytes) : Nat := reach (distances bytes)

/-- Options with their numbers, for their distances and the number before. -/
def numbered (number : Nat) : List (Nat × Bytes) → List (Nat × Bytes)
  | [] => []
  | (delta, value) :: l => (number + delta, value) :: numbered (number + delta) l

section

variable {bytes value rest : Bytes} {delta : Nat}

theorem distances_of_ok (h : decodeOption bytes = .ok (delta, value, rest)) :
    distances bytes = (delta, value) :: distances rest := by
  rw [distances]
  split
  · next h' => rw [h] at h'; cases h'; rfl
  · next h' => rw [h] at h'; cases h'

theorem distances_of_error {e : OptionError} (h : decodeOption bytes = .error e) :
    distances bytes = [] := by
  rw [distances]
  split
  · next h' => rw [h] at h'; cases h'
  · rfl

theorem span_of_ok (h : decodeOption bytes = .ok (delta, value, rest)) :
    span bytes = delta + span rest := by
  rw [span, distances_of_ok h]
  rfl

theorem span_of_error {e : OptionError} (h : decodeOption bytes = .error e) : span bytes = 0 := by
  rw [span, distances_of_error h]
  rfl

/-- An option has one octet for each 21845 that it moves on. -/
theorem delta_le_of_decodeOption (h : decodeOption bytes = .ok (delta, value, rest)) :
    delta + 21845 * rest.length ≤ 21845 * bytes.length := by
  obtain ⟨hdelta, -, rfl⟩ := eq_encodeOption_of_decodeOption h
  have hext : delta ≤ 21845 * (1 + (Nibble.encode delta).2.length) := by
    unfold Nibble.encode
    split
    · simp only [List.length_cons, List.length_nil]
      omega
    · split <;> simp only [List.length_cons, List.length_nil] <;> omega
  have hlen : 1 + (Nibble.encode delta).2.length ≤ (encodeOption delta value).length := by
    simp only [encodeOption, List.length_cons, List.length_append]
    omega
  rw [List.length_append]
  omega

/-- So does a list of options. -/
theorem span_le (bytes : Bytes) : span bytes ≤ 21845 * bytes.length := by
  induction bytes using distances.induct with
  | case1 bytes delta value rest h ih =>
    have := delta_le_of_decodeOption h
    rw [span_of_ok h]
    omega
  | case2 bytes e h =>
    rw [span_of_error h]
    exact Nat.zero_le _

end

/-! ## Numbers -/

/-- The numbers that are read are the exact sums of the distances. -/
theorem eq_numbered_of_decodeOptions {number : UInt32} {done l : List (OptionNumber × Bytes)}
    {bytes tail : Bytes} (h : decodeOptions number done bytes = .ok (l, tail)) :
    ∃ new, l = done.reverse ++ new ∧
      new.map (fun i => (i.1.val.toNat, i.2)) = numbered number.toNat (distances bytes) := by
  induction number, done, bytes using decodeOptions.induct with
  | case1 number done bytes delta value rest hd hfits next ih =>
    rw [decodeOptions_of_ok hd, if_pos hfits] at h
    obtain ⟨new, rfl, hnew⟩ := ih h
    have hnext : next.toNat = number.toNat + delta := toNat_add_delta hfits
    refine ⟨(⟨next⟩, value) :: new, by simp, ?_⟩
    rw [distances_of_ok hd, numbered, List.map_cons, hnew, hnext]
  | case2 number done bytes delta value rest hd hlong =>
    rw [decodeOptions_of_ok hd, if_neg hlong] at h
    cases h
  | case3 number done bytes hd =>
    rw [decodeOptions_of_exhausted hd] at h
    cases h
    exact ⟨[], by simp, by rw [distances_of_error hd]; rfl⟩
  | case4 number done bytes e he hd =>
    rw [decodeOptions_of_error hd, if_neg he] at h
    cases h

/-- Reading halts exactly if the distances together exceed 32 bits: the sums grow, so that the last one
decides. -/
theorem decodeOptions_eq_fault_iff {number : UInt32} {done : List (OptionNumber × Bytes)}
    {bytes : Bytes} :
    decodeOptions number done bytes = .error .fault ↔ UInt32.size ≤ number.toNat + span bytes := by
  induction number, done, bytes using decodeOptions.induct with
  | case1 number done bytes delta value rest hd hfits next ih =>
    have hnext : next.toNat = number.toNat + delta := toNat_add_delta hfits
    rw [decodeOptions_of_ok hd, if_pos hfits, ih, hnext, span_of_ok hd, Nat.add_assoc]
  | case2 number done bytes delta value rest hd hlong =>
    rw [decodeOptions_of_ok hd, if_neg hlong, span_of_ok hd]
    exact iff_of_true rfl (by omega)
  | case3 number done bytes hd =>
    have hsize := number.toNat_lt_size
    rw [decodeOptions_of_exhausted hd, span_of_error hd]
    exact iff_of_false (by simp) (by omega)
  | case4 number done bytes e he hd =>
    have hsize := number.toNat_lt_size
    rw [decodeOptions_of_error hd, if_neg he, span_of_error hd]
    exact iff_of_false (by simp) (by omega)

/-- All that is reported is an error of one option. The end of the options is none: it ends the loop. -/
theorem error_of_decodeOptions {number : UInt32} {done : List (OptionNumber × Bytes)} {bytes : Bytes}
    {e : DecodeError} (h : decodeOptions number done bytes = .error e) :
    e = .fault ∨ ∃ cause, cause ≠ .exhausted ∧ e = .option cause := by
  induction number, done, bytes using decodeOptions.induct with
  | case1 number done bytes delta value rest hd hfits next ih =>
    rw [decodeOptions_of_ok hd, if_pos hfits] at h
    exact ih h
  | case2 number done bytes delta value rest hd hlong =>
    rw [decodeOptions_of_ok hd, if_neg hlong] at h
    cases h
    exact .inl rfl
  | case3 number done bytes hd =>
    rw [decodeOptions_of_exhausted hd] at h
    cases h
  | case4 number done bytes cause hne hd =>
    rw [decodeOptions_of_error hd, if_neg hne] at h
    cases h
    exact .inr ⟨cause, hne, rfl⟩

/-! ## Behind the token -/

/-- The octets from the options on; none where the header or the token is wrong. -/
def optionOctets : Bytes → Bytes
  | head :: _ :: _ :: _ :: rest =>
    if 8 < head &&& 0x0F then [] else rest.drop (head &&& 0x0F).toNat
  | _ => []

theorem length_optionOctets_le (bytes : Bytes) : (optionOctets bytes).length ≤ bytes.length - 4 := by
  unfold optionOctets
  split
  · split
    · exact Nat.zero_le _
    · simp only [List.length_drop, List.length_cons]
      omega
  · exact Nat.zero_le _

@[simp] theorem span_nil : span [] = 0 := span_of_error (e := .exhausted) rfl

/-- The reader of options begins at `optionOctets`. -/
theorem optionOctets_of_decode {bytes : Bytes} {m : Message} (h : decode bytes = .ok m) :
    ∃ instances tail, decodeOptions 0 [] (optionOctets bytes) = .ok (instances, tail) ∧
      m.options = .ofInstances instances := by
  obtain ⟨⟨hversion, -⟩, body, instances, tail, rfl, ho, hoptions, -⟩ := parts_of_decode h
  have hlen := ((eq_headByte_iff (UInt8.lt_iff_toNat_lt.mp hversion)).mp rfl).2.2
  have hshort : ¬ 8 < m.headByte &&& 0x0F := by
    rw [UInt8.lt_iff_toNat_lt, hlen]
    exact Nat.not_lt.mpr m.token.length_le
  refine ⟨instances, tail, ?_, hoptions⟩
  simpa [encodeHead, optionOctets, hshort, hlen] using ho

/-! ## What is never reported -/

/-- The header has two bits for the type, and each of their values is that of a type. -/
theorem decodeType_head (head : UInt8) :
    ∃ type, MessageType.decode (head >>> 4 &&& 0x03) = .ok type := by
  have hn : (head >>> 4 &&& 0x03).toNat = head.toNat / 16 % 4 := by
    rw [Octet.toNat_and_mask (k := 2) (m := 4) rfl rfl, Octet.toNat_upper]
  generalize head >>> 4 &&& 0x03 = b at hn
  have hb : b.toNat = 0 ∨ b.toNat = 1 ∨ b.toNat = 2 ∨ b.toNat = 3 := by omega
  rcases hb with hb | hb | hb | hb
  · exact ⟨.con, MessageType.decode_eq_ok_iff.mpr (UInt8.toNat_inj.mp hb)⟩
  · exact ⟨.non, MessageType.decode_eq_ok_iff.mpr (UInt8.toNat_inj.mp hb)⟩
  · exact ⟨.ack, MessageType.decode_eq_ok_iff.mpr (UInt8.toNat_inj.mp hb)⟩
  · exact ⟨.rst, MessageType.decode_eq_ok_iff.mpr (UInt8.toNat_inj.mp hb)⟩

theorem eq_emptyPayload_of_decodePayload {tail : Bytes} {e : DecodeError}
    (h : decodePayload tail = .error e) : e = .emptyPayload := by
  match tail with
  | [] => cases h
  | [_] => cases h; rfl
  | _ :: _ :: _ => cases h

theorem exists_token_of_length_le {octets : Bytes} (h : octets.length ≤ 8) :
    ∃ token, Token.ofBytes? octets = some token := by
  rw [Token.ofBytes?, dif_pos h]
  exact ⟨_, rfl⟩

theorem drop_of_takeExact_eq_none {n : Nat} {bytes : Bytes} (h : takeExact n bytes = none) :
    bytes.drop n = [] := by
  unfold takeExact at h
  dsimp only at h
  split at h
  · next hshort =>
    rw [List.length_take] at hshort
    exact List.drop_eq_nil_of_le (by omega)
  · cases h

/-- What is wrong with a datagram is wrong before its options, with its options, or behind them. -/
theorem error_of_decode {bytes : Bytes} {e : DecodeError} (h : decode bytes = .error e) :
    ((e = .truncated ∨ ∃ n, e = .tokenLength n) ∧ optionOctets bytes = []) ∨
      decodeOptions 0 [] (optionOctets bytes) = .error e ∨
      (e = .emptyPayload ∧ ∃ read, decodeOptions 0 [] (optionOctets bytes) = .ok read) := by
  unfold decode at h
  split at h
  · next head code hi lo rest =>
    obtain ⟨type, htype⟩ := decodeType_head head
    simp only [htype, bind, Except.bind] at h
    rw [optionOctets]
    split at h
    · next hlong =>
      cases h
      exact .inl ⟨.inr ⟨_, rfl⟩, if_pos hlong⟩
    · next hshort =>
      rw [if_neg hshort]
      split at h
      · next hnone =>
        cases h
        exact .inl ⟨.inl rfl, drop_of_takeExact_eq_none hnone⟩
      · next octets body hsome =>
        obtain ⟨hlen, rfl⟩ := takeExact_eq_some_iff.mp hsome
        have hbody : (octets ++ body).drop (head &&& 0x0F).toNat = body := by simp [← hlen]
        have hle : octets.length ≤ 8 := by
          rw [hlen]
          exact UInt8.le_iff_toNat_le.mp (UInt8.not_lt.mp hshort)
        obtain ⟨token, htoken⟩ := exists_token_of_length_le hle
        rw [hbody]
        rw [htoken] at h
        cases ho : decodeOptions 0 [] body with
        | error cause =>
          rw [ho] at h
          cases h
          exact .inr (.inl rfl)
        | ok read =>
          cases hp : decodePayload read.2 with
          | error cause =>
            obtain rfl := eq_emptyPayload_of_decodePayload hp
            simp only [ho, hp] at h
            cases h
            exact .inr (.inr ⟨rfl, read, rfl⟩)
          | ok payload =>
            simp only [ho, hp] at h
            cases h
  · next hnone =>
    cases h
    refine .inl ⟨.inl rfl, ?_⟩
    unfold optionOctets
    split
    · exact absurd rfl (hnone _ _ _ _ _)
    · rfl

/-- Of the errors, two are never reported. -/
theorem ne_of_decode_eq_error {bytes : Bytes} {e : DecodeError} (h : decode bytes = .error e) :
    (∀ n, e ≠ .invalidType n) ∧ e ≠ .option .exhausted := by
  obtain ⟨rfl | ⟨n, rfl⟩, -⟩ | ho | ⟨rfl, -⟩ := error_of_decode h
  · exact ⟨nofun, nofun⟩
  · exact ⟨nofun, nofun⟩
  · obtain rfl | ⟨cause, hcause, rfl⟩ := error_of_decodeOptions ho
    · exact ⟨nofun, nofun⟩
    · exact ⟨nofun, fun he => hcause (DecodeError.option.inj he)⟩
  · exact ⟨nofun, nofun⟩

/-- **Where reading halts.** A datagram is not read to its end exactly if the distances of its options
together exceed 32 bits. -/
theorem decode_eq_fault_iff {bytes : Bytes} :
    decode bytes = .error .fault ↔ UInt32.size ≤ span (optionOctets bytes) := by
  have hiff : decodeOptions 0 [] (optionOctets bytes) = .error .fault ↔ _ :=
    decodeOptions_eq_fault_iff
  rw [UInt32.toNat_zero, Nat.zero_add] at hiff
  rw [← hiff]
  constructor
  · intro h
    obtain ⟨hcause | ⟨n, hcause⟩, -⟩ | ho | ⟨hcause, -⟩ := error_of_decode h
    · cases hcause
    · cases hcause
    · exact ho
    · cases hcause
  · intro hfault
    cases h : decode bytes with
    | ok m =>
      obtain ⟨instances, tail, ho, -⟩ := optionOctets_of_decode h
      rw [hfault] at ho
      cases ho
    | error e =>
      obtain ⟨-, hnone⟩ | ho | ⟨-, read, ho⟩ := error_of_decode h
      · rw [hnone, decodeOptions_of_exhausted rfl] at hfault
        cases hfault
      · exact congrArg _ (Except.error.inj (ho.symm.trans hfault))
      · rw [hfault] at ho
        cases ho

/-- No datagram of up to 196615 octets holds that many options. -/
theorem span_lt_of_length_le {bytes : Bytes} (h : bytes.length ≤ 196615) :
    span (optionOctets bytes) < UInt32.size := by
  have hspan := span_le (optionOctets bytes)
  have hoctets := length_optionOctets_le bytes
  have hsize : UInt32.size = 4294967296 := rfl
  omega

end Message

/-- An endpoint reads so few octets of a datagram that it never halts. -/
theorem Udp.read_ne_fault (datagram : Addressed Bytes) : read datagram ≠ .error .fault := by
  intro h
  have hfault : Message.decode (received datagram.data) = .error .fault := by
    rw [read] at h
    cases hread : Message.decode (received datagram.data) <;> rw [hread] at h <;> cases h
    rfl
  have hlen : (received datagram.data).length ≤ 196615 :=
    Nat.le_trans (List.length_take_le _ _) (by decide)
  exact Nat.not_le.mpr (Message.span_lt_of_length_le hlen) (Message.decode_eq_fault_iff.mp hfault)

/-! ## The loop and the datagram, at a position -/

/-- Where the reader at a position halts. -/
def Halt.ofError : DecodeError → Halt DecodeError
  | .fault => .fault .sum32
  | e => .error e

/-- A step leaves its range, and it is the sum of 32 bits, exactly where reading halts. -/
theorem Halt.ofError_eq_fault_iff {e : DecodeError} {f : Fault} :
    ofError e = .fault f ↔ e = .fault ∧ f = .sum32 := by
  cases e <;> simp [ofError, eq_comm]

namespace Cursor

open Message (decodeOption decodeOptions span optionOctets)

variable {bytes rest : Bytes}

/-- A sum with a distance, which has 16 bits of its own. -/
theorem add32_delta (number : UInt32) {delta : Nat} (h : delta ≤ 65535) :
    add32 (ε := OptionError) number delta.toUInt16.toUInt32 =
      if number.toNat + delta < UInt32.size then .ok (number + delta.toUInt32)
      else .error (.fault .sum32) := by
  have hdelta : delta.toUInt16.toUInt32 = delta.toUInt32 := by
    apply UInt32.toNat_inj.mp
    rw [UInt16.toNat_toUInt32, UInt16.toNat_ofNat', UInt32.toNat_ofNat']
    omega
  have hn : delta.toUInt32.toNat = delta := by
    rw [UInt32.toNat_ofNat']
    omega
  rw [add32, hdelta, hn]

/-- Behind an option the others follow, unless the sum exceeds 32 bits. -/
theorem readOptions_of_ok {value tail : Bytes} {delta : Nat} (h : rest <:+ bytes)
    (hd : decodeOption rest = .ok (delta, value, tail)) (number : UInt32)
    (done : List (OptionNumber × Bytes)) :
    (before bytes rest).readOptions number done =
      if number.toNat + delta < UInt32.size then
        (before bytes tail).readOptions (number + delta.toUInt32)
          ((⟨number + delta.toUInt32⟩, value) :: done)
      else .error (.fault .sum32) := by
  have htail := (suffix_of_decodeOption hd).trans h
  have hdelta := (Message.eq_encodeOption_of_decodeOption hd).1
  rw [readOptions, readOption_before h, hd]
  simp only [left_before h, left_before htail, if_pos (Message.length_lt_of_decodeOption hd),
    add32_delta number hdelta]
  split <;> rfl

/-- **Options.** From any octets that are left the options are read as `Message.decodeOptions` reads
them. -/
theorem readOptions_before (h : rest <:+ bytes) (number : UInt32)
    (done : List (OptionNumber × Bytes)) :
    ((before bytes rest).readOptions number done).mapError (Halt.map .option) =
      match decodeOptions number done rest with
      | .ok (l, tail) => .ok (l, before bytes tail)
      | .error e => .error (.ofError e) := by
  induction number, done, rest using Message.decodeOptions.induct with
  | case1 number done rest delta value tail hd hfits next ih =>
    rw [readOptions_of_ok h hd, Message.decodeOptions_of_ok hd, if_pos hfits, if_pos hfits]
    exact ih ((suffix_of_decodeOption hd).trans h)
  | case2 number done rest delta value tail hd hlong =>
    rw [readOptions_of_ok h hd, Message.decodeOptions_of_ok hd, if_neg hlong, if_neg hlong]
    rfl
  | case3 number done rest hd =>
    rw [readOptions, readOption_before h, hd, Message.decodeOptions_of_exhausted hd]
    rfl
  | case4 number done rest e he hd =>
    rw [readOptions, readOption_before h, hd, Message.decodeOptions_of_error hd, if_neg he]
    cases e <;> first | exact absurd rfl he | rfl

theorem readPayload_before (h : rest <:+ bytes) :
    (before bytes rest).readPayload = (Message.decodePayload rest).mapError .ofError := by
  unfold readPayload
  rw [next_before h]
  cases rest with
  | nil => rfl
  | cons marker rest =>
    simp only [ok_bind, List.head?_cons, List.tail_cons,
      takeUntilEnd_before ((List.suffix_cons marker rest).trans h)]
    cases rest <;> rfl

theorem suffix_of_decodeOptions {number : UInt32} {done l : List (OptionNumber × Bytes)}
    {tail : Bytes} (h : decodeOptions number done rest = .ok (l, tail)) : tail <:+ rest := by
  obtain ⟨-, enc, -, -, -, -, rfl, -⟩ := Message.encodeOptions_of_decodeOptions h
  exact List.suffix_append enc tail

/-- Behind the header the datagram is read as `Message.decode` reads it. -/
theorem readBody_before {head : UInt8} {type : MessageType}
    (htype : MessageType.decode (head >>> 4 &&& 0x03) = .ok type) (h : rest <:+ bytes)
    (code hi lo : UInt8) :
    (before bytes rest).readBody head code type (hi.toUInt16 * 256 + lo.toUInt16) =
      (Message.decode (head :: code :: hi :: lo :: rest)).mapError .ofError := by
  simp only [readBody, Message.decode, htype, takeExact_before h]
  by_cases hlong : 8 < head &&& 0x0F
  · simp only [hlong, if_true]
    rfl
  simp only [hlong, if_false, bind, Except.bind]
  cases htoken : Message.takeExact (head &&& 0x0F).toNat rest with
  | none => rfl
  | some p =>
    obtain ⟨octets, body⟩ := p
    obtain ⟨-, rfl⟩ := Message.takeExact_eq_some_iff.mp htoken
    simp only [need]
    cases Token.ofBytes? octets with
    | none => rfl
    | some token =>
      have hsuffix : body <:+ bytes := (List.suffix_append octets body).trans h
      simp only [readOptions_before hsuffix]
      cases ho : decodeOptions 0 [] body with
      | error e => rfl
      | ok p =>
        obtain ⟨instances, tail⟩ := p
        have htail := (suffix_of_decodeOptions ho).trans hsuffix
        simp only [readPayload_before htail]
        cases Message.decodePayload tail <;> rfl

/-- A datagram that ends in its header. -/
theorem decode_of_short (h : bytes.length < 4) : decode bytes = .error (.error .truncated) := by
  have hstart : (⟨bytes, 0⟩ : Cursor) = before bytes bytes := by simp [before]
  rw [decode, hstart, next_before List.suffix_rfl]
  rcases bytes with _ | ⟨head, tail⟩
  · rfl
  obtain ⟨type, htype⟩ := Message.decodeType_head head
  simp only [need, ok_bind, List.head?_cons, List.tail_cons, htype, Message.mapError_ok,
    next_before (List.suffix_cons head tail)]
  rcases tail with _ | ⟨code, _ | ⟨hi, _ | ⟨lo, rest⟩⟩⟩
  · rfl
  · rfl
  · rfl
  · simp only [List.length_cons] at h
    omega

/-- **Only the option numbers leave their range.** Of all steps that read a datagram, the sum of 32 bits
is the only one that can, and there `Message.decode` halts; in all else the two readers agree. -/
theorem decode_eq (bytes : Bytes) : decode bytes = (Message.decode bytes).mapError .ofError := by
  match bytes with
  | [] | [_] | [_, _] | [_, _, _] => exact decode_of_short (by simp)
  | head :: code :: hi :: lo :: rest =>
    obtain ⟨type, htype⟩ := Message.decodeType_head head
    rw [← readBody_before htype (List.suffix_append [head, code, hi, lo] rest)]
    have hstart : (⟨head :: code :: hi :: lo :: rest, 0⟩ : Cursor) =
        before (head :: code :: hi :: lo :: rest) (head :: code :: hi :: lo :: rest) := by
      simp [before]
    have hsuffix : code :: hi :: lo :: rest <:+ head :: code :: hi :: lo :: rest :=
      List.suffix_cons _ _
    rw [decode, hstart, next_before List.suffix_rfl]
    simp only [need, ok_bind, List.head?_cons, List.tail_cons, htype, Message.mapError_ok,
      next_before hsuffix, next16_before ((List.suffix_cons _ _).trans hsuffix)]
    rfl

theorem decode_eq_fault_iff {f : Fault} :
    decode bytes = .error (.fault f) ↔ Message.decode bytes = .error .fault ∧ f = .sum32 := by
  rw [decode_eq]
  cases Message.decode bytes with
  | ok m => exact iff_of_false nofun nofun
  | error e =>
    change Except.error (Halt.ofError e) = Except.error (Halt.fault f) ↔ _
    rw [Except.error.injEq, Except.error.injEq, Halt.ofError_eq_fault_iff]

/-- **Reading stays in range.** No datagram makes a step leave its range, but for one whose distances
together exceed 32 bits: there the sum of 32 bits does, and reading halts without a message or an error.
It takes more than 196615 octets, so that no endpoint halts, which reads no more than 1152. All other
datagrams are read as the reader at a position reads them, and the numbers of the options are the sums of
the distances up to them. That a type is invalid, or that there are no more options, is never reported. -/
theorem decode_stays_in_range (bytes : Bytes) :
    (∀ f, decode bytes = .error (.fault f) ↔
        f = .sum32 ∧ UInt32.size ≤ span (optionOctets bytes)) ∧
      (Message.decode bytes = .error .fault ↔ UInt32.size ≤ span (optionOctets bytes)) ∧
      decode bytes = (Message.decode bytes).mapError .ofError ∧
      (∀ m, Message.decode bytes = .ok m → ∃ instances, m.options = .ofInstances instances ∧
        instances.map (fun i => (i.1.val.toNat, i.2)) =
          Message.numbered 0 (Message.distances (optionOctets bytes))) ∧
      (bytes.length ≤ 196615 → span (optionOctets bytes) < UInt32.size) ∧
      (∀ peer, Udp.read ⟨bytes, peer⟩ ≠ .error .fault) ∧
      ∀ e, Message.decode bytes = .error e → (∀ n, e ≠ .invalidType n) ∧ e ≠ .option .exhausted := by
  refine ⟨fun f => ?faults, Message.decode_eq_fault_iff, decode_eq bytes, fun m h => ?sums,
    Message.span_lt_of_length_le, fun peer h => ?endpoint, fun e => Message.ne_of_decode_eq_error⟩
  case faults => rw [decode_eq_fault_iff, Message.decode_eq_fault_iff, and_comm]
  case sums =>
    obtain ⟨instances, tail, ho, hoptions⟩ := Message.optionOctets_of_decode h
    obtain ⟨new, rfl, hnew⟩ := Message.eq_numbered_of_decodeOptions ho
    exact ⟨_, hoptions, hnew⟩
  case endpoint => exact Udp.read_ne_fault _ h

theorem distances_overfull :
    Message.distances (optionOctets Message.overfullBytes) =
      [(11, [0x61]), (0, []), (289, [0xFF])] := by
  have hoctets : optionOctets Message.overfullBytes =
      [0xB1, 0x61, 0x00, 0xE1, 0x00, 0x14, 0xFF, 0xFF, 0xFF] := by decide
  rw [hoctets, Message.distances_of_ok rfl, Message.distances_of_ok rfl,
    Message.distances_of_ok rfl, Message.distances_of_error rfl]
  decide

theorem decode_stays_in_range_overfull :
    decode Message.overfullBytes = .ok Message.overfull.onWire ∧
      ∃ instances, Message.overfull.onWire.options = .ofInstances instances ∧
        instances.map (fun i => (i.1.val.toNat, i.2)) =
          [(11, [0x61]), (11, []), (300, [0xFF])] := by
  have hread : Message.decode Message.overfullBytes = .ok Message.overfull.onWire :=
    Message.decode_eq_onWire Message.encode_overfull
  obtain ⟨-, -, hsame, hsums, -⟩ := decode_stays_in_range Message.overfullBytes
  obtain ⟨instances, hoptions, hnumbers⟩ := hsums _ hread
  rw [distances_overfull] at hnumbers
  exact ⟨by rw [hsame, hread, Message.mapError_ok], instances, hoptions, hnumbers⟩

/-! ### Beyond 32 bits -/

/-- An option without a value that moves on by 57837. -/
def stride : Bytes := [0xE0, 0xE0, 0xE0]

theorem decodeOption_stride (rest : Bytes) :
    decodeOption (stride ++ rest) = .ok (57837, [], rest) := rfl

theorem span_strides (k : Nat) (rest : Bytes) :
    span ((List.replicate k stride).flatten ++ rest) = 57837 * k + span rest := by
  induction k with
  | zero => simp
  | succ k ih =>
    rw [List.replicate_succ, List.flatten_cons, List.append_assoc,
      Message.span_of_ok (decodeOption_stride _), ih]
    omega

/-- A request whose options move on to 2 ^ 32 + 11. In 32 bits that is 11, the number of a part of the
path, and the last option has the value `a`. -/
def overlong : Bytes :=
  [0x40, 0x01, 0x00, 0x07] ++
    ((List.replicate 74259 stride).flatten ++ [0xE1, 0xC0, 0x67, 0x61])

theorem optionOctets_overlong :
    optionOctets overlong = (List.replicate 74259 stride).flatten ++ [0xE1, 0xC0, 0x67, 0x61] := rfl

theorem decodeOption_last : decodeOption [0xE1, 0xC0, 0x67, 0x61] = .ok (49524, [0x61], []) := rfl

theorem span_overlong : span (optionOctets overlong) = UInt32.size + 11 := by
  rw [optionOctets_overlong, span_strides, Message.span_of_ok decodeOption_last, Message.span_nil]

/-- There is neither a message nor an error for a datagram whose distances add up to 2 ^ 32 + 11. -/
theorem decode_overlong :
    decode overlong = .error (.fault .sum32) ∧ span (optionOctets overlong) = UInt32.size + 11 ∧
      Message.decode overlong = .error .fault := by
  have hfault : Message.decode overlong = .error .fault :=
    Message.decode_eq_fault_iff.mpr (span_overlong ▸ Nat.le_add_right _ _)
  exact ⟨decode_eq_fault_iff.mpr ⟨hfault, rfl⟩, span_overlong, hfault⟩

end Cursor

end Coap
