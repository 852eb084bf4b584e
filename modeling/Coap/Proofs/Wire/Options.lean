import Coap.Proofs.Wire.Instances
import Coap.Proofs.Wire.Nibble

/-!
# Options on the wire

A single option is read back from any octets that begin with it, and only its own octets are read as
it. Over a list this carries to all options of a message: the reader stops where no option begins, that
is at the payload marker or at the end, and it knows the marker from the head of an option because no
nibble of a head is 15.

* `Message.decodeOptions_encodeOptions` — options that are in order are read as they were written.
* `Message.encodeOptions_of_decodeOptions` — what was read is in order, and is written as it was read.
-/

namespace Coap.Message

/-! ### Parts of a given length -/

/-- A part of a given length is split off exactly if there is one. -/
theorem takeExact_eq_some_iff {n : Nat} {bytes part rest : Bytes} :
    takeExact n bytes = some (part, rest) ↔ part.length = n ∧ bytes = part ++ rest := by
  unfold takeExact
  dsimp only
  constructor
  · intro h
    split at h
    · cases h
    · next hlen =>
      cases h
      rw [List.length_take] at hlen ⊢
      exact ⟨by omega, (List.take_append_drop n bytes).symm⟩
  · rintro ⟨rfl, rfl⟩
    simp

/-! ### One option -/

/-- The head of an option is no payload marker, for its upper half is no 15. -/
theorem join_ne_payloadMarker {hi lo : UInt8} (hhi : hi.toNat < 15) (hlo : lo.toNat < 16) :
    (hi <<< 4) ||| lo ≠ payloadMarker := by
  intro h
  have hnum := congrArg UInt8.toNat h
  rw [Octet.toNat_join (by omega) hlo] at hnum
  have : payloadMarker.toNat = 255 := rfl
  omega

/-- An option is read back, and what follows it is left. -/
theorem decodeOption_encodeOption {delta : Nat} {value : Bytes} (hdelta : delta ≤ 65535)
    (hlen : value.length ≤ 65535) (rest : Bytes) :
    decodeOption (encodeOption delta value ++ rest) = .ok (delta, value, rest) := by
  have hd := Nibble.encode_fst_lt delta
  have hl := Nibble.encode_fst_lt value.length
  have hvalue : takeExact value.length (value ++ rest) = some (value, rest) :=
    takeExact_eq_some_iff.mpr ⟨rfl, rfl⟩
  unfold encodeOption decodeOption
  dsimp only [List.cons_append]
  rw [if_neg (join_ne_payloadMarker hd (by omega)), Octet.upper_join (by omega) (by omega),
    Octet.lower_join (by omega) (by omega), List.append_assoc, List.append_assoc,
    Nibble.decode_encode hdelta]
  dsimp only [bind, Except.bind]
  rw [Nibble.decode_encode hlen]
  dsimp only
  rw [hvalue]

/-- What it takes to read an option: a head that is no marker, two numbers, and a value. -/
theorem decodeOption_eq_ok {bytes value rest : Bytes} {delta : Nat}
    (h : decodeOption bytes = .ok (delta, value, rest)) :
    ∃ head tail mid, bytes = head :: tail ∧
      Nibble.decode (head >>> 4) tail (.reservedDelta 15) = .ok (delta, mid) ∧
      Nibble.decode (head &&& 0x0F) mid (.reservedLength 15) = .ok (value.length, value ++ rest) := by
  unfold decodeOption at h
  split at h
  · cases h
  · next head tail =>
    split at h
    · cases h
    · cases hd : Nibble.decode (head >>> 4) tail (.reservedDelta 15) with
      | error e => rw [hd] at h; cases h
      | ok p =>
        obtain ⟨d, mid⟩ := p
        cases hl : Nibble.decode (head &&& 0x0F) mid (.reservedLength 15) with
        | error e => simp [hd, hl, bind, Except.bind] at h
        | ok q =>
          obtain ⟨length, body⟩ := q
          simp only [hd, hl, bind, Except.bind] at h
          split at h
          · next hvalue =>
            cases h
            obtain ⟨rfl, rfl⟩ := takeExact_eq_some_iff.mp hvalue
            exact ⟨head, tail, mid, rfl, hd, hl⟩
          · cases h

/-- Only the octets of an option are read as it. -/
theorem eq_encodeOption_of_decodeOption {bytes value rest : Bytes} {delta : Nat}
    (h : decodeOption bytes = .ok (delta, value, rest)) :
    delta ≤ 65535 ∧ value.length ≤ 65535 ∧ bytes = encodeOption delta value ++ rest := by
  obtain ⟨head, tail, mid, rfl, hd, hl⟩ := decodeOption_eq_ok h
  have hhead := head.toNat_lt
  obtain ⟨hdelta, hupper, rfl⟩ :=
    Nibble.eq_encode_of_decode (by rw [Octet.toNat_upper]; omega) hd
  obtain ⟨hlen, hlower, rfl⟩ :=
    Nibble.eq_encode_of_decode (by rw [Octet.toNat_lower]; omega) hl
  refine ⟨hdelta, hlen, ?_⟩
  unfold encodeOption
  dsimp only
  rw [← hupper, ← hlower, Octet.join_halves]
  simp

/-- Where no option begins: at the end, and at the payload marker. -/
theorem decodeOption_eq_exhausted_iff {bytes : Bytes} :
    decodeOption bytes = .error .exhausted ↔ bytes = [] ∨ ∃ rest, bytes = payloadMarker :: rest := by
  constructor
  · intro h
    cases bytes with
    | nil => exact .inl rfl
    | cons head tail =>
      rw [decodeOption] at h
      split at h
      · next hmark => exact .inr ⟨tail, by rw [hmark]⟩
      · -- Neither number and no value that is cut short ends the options.
        exfalso
        cases hd : Nibble.decode (head >>> 4) tail (.reservedDelta 15) with
        | error e =>
          rw [hd] at h
          cases h
          exact Nibble.ne_exhausted_of_decode (by decide) hd
        | ok p =>
          obtain ⟨d, mid⟩ := p
          cases hl : Nibble.decode (head &&& 0x0F) mid (.reservedLength 15) with
          | error e =>
            simp only [hd, hl, bind, Except.bind] at h
            cases h
            exact Nibble.ne_exhausted_of_decode (by decide) hl
          | ok q =>
            simp only [hd, hl, bind, Except.bind] at h
            split at h <;> cases h
  · rintro (rfl | ⟨rest, rfl⟩)
    · rfl
    · rfl

/-! ### Writing options one after the other -/

/-- The octets of the options before stand in front. -/
theorem encodeOptions_eq_map (prev : OptionNumber) (done : List Bytes)
    (l : List (OptionNumber × Bytes)) :
    encodeOptions prev done l = (encodeOptions prev [] l).map (done.reverse.flatten ++ ·) := by
  induction l generalizing prev done with
  | nil => simp [encodeOptions, Except.map]
  | cons i l ih =>
    unfold encodeOptions
    dsimp only
    split
    · rfl
    · split
      · rfl
      · rw [ih i.1 (_ :: done), ih i.1 [_]]
        cases encodeOptions i.1 [] l <;> simp [Except.map]

/-- The options are written if the first one is, and so are those behind it. -/
theorem encodeOptions_cons_eq_ok_iff {prev n : OptionNumber} {value enc : Bytes}
    {l : List (OptionNumber × Bytes)} :
    encodeOptions prev [] ((n, value) :: l) = .ok enc ↔
      n.val.toNat - prev.val.toNat ≤ 65535 ∧ value.length ≤ 65535 ∧
        ∃ more, encodeOptions n [] l = .ok more ∧
          enc = encodeOption (n.val.toNat - prev.val.toNat) value ++ more := by
  rw [encodeOptions]
  split
  · next hlong => exact ⟨nofun, fun h => absurd h.1 (by omega)⟩
  · next hdelta =>
    split
    · next hlong => exact ⟨nofun, fun h => absurd h.2.1 (by omega)⟩
    · next hlen =>
      have hrange := And.intro (Nat.le_of_not_lt hdelta) (Nat.le_of_not_lt hlen)
      rw [encodeOptions_eq_map]
      cases encodeOptions n [] l with
      | error e => simp [Except.map]
      | ok more => simp [Except.map, hrange, eq_comm]

/-! ### Reading options one after the other -/

theorem decodeOptions_of_ok {number : UInt32} {done : List (OptionNumber × Bytes)}
    {bytes value rest : Bytes} {delta : Nat} (h : decodeOption bytes = .ok (delta, value, rest)) :
    decodeOptions number done bytes =
      if number.toNat + delta < UInt32.size then
        decodeOptions (number + delta.toUInt32) ((⟨number + delta.toUInt32⟩, value) :: done) rest
      else .error .fault := by
  rw [decodeOptions]
  split
  · next h' => rw [h] at h'; cases h'; rfl
  · next h' => rw [h] at h'; cases h'
  · next h' => rw [h] at h'; cases h'

theorem decodeOptions_of_error {number : UInt32} {done : List (OptionNumber × Bytes)}
    {bytes : Bytes} {e : OptionError} (h : decodeOption bytes = .error e) :
    decodeOptions number done bytes =
      if e = .exhausted then .ok (done.reverse, bytes) else .error (.option e) := by
  rw [decodeOptions]
  split
  · next h' => rw [h] at h'; cases h'
  · next h' => rw [h] at h'; cases h'; rfl
  · next hne h' =>
    rw [h] at h'
    cases h'
    rw [if_neg hne]

theorem decodeOptions_of_exhausted {number : UInt32} {done : List (OptionNumber × Bytes)}
    {bytes : Bytes} (h : decodeOption bytes = .error .exhausted) :
    decodeOptions number done bytes = .ok (done.reverse, bytes) := by
  rw [decodeOptions_of_error h, if_pos rfl]

/-- A sum that fits is exact. -/
theorem toNat_add_delta {number : UInt32} {delta : Nat} (h : number.toNat + delta < UInt32.size) :
    (number + delta.toUInt32).toNat = number.toNat + delta := by
  rw [UInt32.toNat_add, UInt32.toNat_ofNat', Nat.add_mod_mod]
  exact Nat.mod_eq_of_lt h

/-- The number of an option is that of the one before and the distance. -/
theorem add_delta {prev n : UInt32} (h : prev.toNat ≤ n.toNat) :
    prev + (n.toNat - prev.toNat).toUInt32 = n := by
  have hn := n.toNat_lt
  apply UInt32.toNat_inj.mp
  rw [UInt32.toNat_add, UInt32.toNat_ofNat']
  omega

/-- Behind options that were written the reader goes on, having read them. -/
theorem decodeOptions_encodeOptions_append {prev : OptionNumber}
    {l : List (OptionNumber × Bytes)} {enc : Bytes} (hl : Options.InOrder l)
    (hprev : ∀ i ∈ l, prev.val.toNat ≤ i.1.val.toNat) (henc : encodeOptions prev [] l = .ok enc)
    (done : List (OptionNumber × Bytes)) (tail : Bytes) :
    ∃ number, decodeOptions prev.val done (enc ++ tail) =
      decodeOptions number (l.reverse ++ done) tail := by
  -- the number read so far moves along with the list, and so does what was read
  induction l generalizing prev done enc with
  | nil =>
    cases henc
    exact ⟨prev.val, rfl⟩
  | cons i l ih =>
    obtain ⟨hhead, hrest⟩ := List.pairwise_cons.mp hl
    obtain ⟨hdelta, hlen, more, hmore, rfl⟩ := encodeOptions_cons_eq_ok_iff.mp henc
    obtain ⟨number, hread⟩ := ih hrest hhead hmore (i :: done)
    have hle := hprev i List.mem_cons_self
    -- the sum is the number of the option, which has 32 bits itself
    have hsum : prev.val.toNat + (i.1.val.toNat - prev.val.toNat) < UInt32.size := by
      rw [Nat.add_sub_cancel' hle]
      exact i.1.val.toNat_lt_size
    rw [List.append_assoc, decodeOptions_of_ok (decodeOption_encodeOption hdelta hlen _), if_pos hsum,
      add_delta hle]
    exact ⟨number, by rw [hread, List.reverse_cons, List.append_assoc]; rfl⟩

/-- Options that are in order are read as they were written, up to where no option begins. -/
theorem decodeOptions_encodeOptions {prev : OptionNumber} {l done : List (OptionNumber × Bytes)}
    {enc tail : Bytes} (hl : Options.InOrder l) (hprev : ∀ i ∈ l, prev.val.toNat ≤ i.1.val.toNat)
    (henc : encodeOptions prev [] l = .ok enc) (htail : decodeOption tail = .error .exhausted) :
    decodeOptions prev.val done (enc ++ tail) = .ok (done.reverse ++ l, tail) := by
  obtain ⟨number, hread⟩ := decodeOptions_encodeOptions_append hl hprev henc done tail
  rw [hread, decodeOptions_of_exhausted htail, List.reverse_append, List.reverse_reverse]

/-- What was read is in order, and is written as it was read: no sum of distances exceeded 32 bits. -/
theorem encodeOptions_of_decodeOptions {number : UInt32} {done l : List (OptionNumber × Bytes)}
    {bytes tail : Bytes} (h : decodeOptions number done bytes = .ok (l, tail)) :
    ∃ new enc, l = done.reverse ++ new ∧ Options.InOrder new ∧
      (∀ i ∈ new, number.toNat ≤ i.1.val.toNat) ∧ encodeOptions ⟨number⟩ [] new = .ok enc ∧
      bytes = enc ++ tail ∧ decodeOption tail = .error .exhausted := by
  induction number, done, bytes using decodeOptions.induct with
  | case1 number done bytes delta value rest hd hfits next ih =>
    rw [decodeOptions_of_ok hd, if_pos hfits] at h
    obtain ⟨hdelta, hlen, hbytes⟩ := eq_encodeOption_of_decodeOption hd
    have hnext : next.toNat = number.toNat + delta := toNat_add_delta hfits
    obtain ⟨new, enc, rfl, hnew, hle, henc, rfl, htail⟩ := ih h
    refine ⟨(⟨next⟩, value) :: new, encodeOption delta value ++ enc, by simp, ?_, ?_, ?_,
      by rw [hbytes, List.append_assoc], htail⟩
    · exact List.pairwise_cons.mpr ⟨hle, hnew⟩
    · intro i hi
      rcases List.mem_cons.mp hi with rfl | hi
      · show number.toNat ≤ next.toNat
        omega
      · have := hle i hi
        omega
    · rw [encodeOptions_cons_eq_ok_iff]
      dsimp only
      rw [hnext, Nat.add_sub_cancel_left]
      exact ⟨hdelta, hlen, enc, henc, rfl⟩
  | case2 number done bytes delta value rest hd hlong =>
    rw [decodeOptions_of_ok hd, if_neg hlong] at h
    cases h
  | case3 number done bytes hd =>
    rw [decodeOptions_of_exhausted hd] at h
    cases h
    exact ⟨[], [], by simp, List.Pairwise.nil, by simp, rfl, rfl, hd⟩
  | case4 number done bytes e he hd =>
    rw [decodeOptions_of_error hd, if_neg he] at h
    cases h

end Coap.Message
