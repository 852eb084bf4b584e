import Coap.Proofs.Wire.RoundTrip

/-!
# Beginnings of datagrams

What is read of the first octets of a datagram. The format does not say how long a datagram is, so its
beginning may be read as a message as well. Reading is stable: an option that was read is read again,
whatever stands behind it. So the two readings take the same steps until the shorter one ends, and the
message in the beginning goes as far as it can with the message in the whole.

* `Message.Begins` — a message that stops before the options or the payload of another one end.
* `Message.begins_of_decode` — the beginning of a datagram holds no other messages.
* `Message.decode_take_of_payload` — which one it holds, if it ends within the payload.
* `Message.decode_append_marker` — a beginning that is read though the whole is not.
-/

namespace Coap.Message

/-! ### Options -/

/-- An option that was read is read again, whatever follows. -/
theorem decodeOption_append {bytes value rest : Bytes} {delta : Nat}
    (h : decodeOption bytes = .ok (delta, value, rest)) (more : Bytes) :
    decodeOption (bytes ++ more) = .ok (delta, value, rest ++ more) := by
  obtain ⟨hdelta, hlen, rfl⟩ := eq_encodeOption_of_decodeOption h
  rw [List.append_assoc, decodeOption_encodeOption hdelta hlen]

/-- The options read before stand in front. -/
theorem reverse_prefix_of_decodeOptions {number : UInt32} {done l : List (OptionNumber × Bytes)}
    {bytes tail : Bytes} (h : decodeOptions number done bytes = .ok (l, tail)) : done.reverse <+: l := by
  induction number, done, bytes using decodeOptions.induct with
  | case1 number done bytes delta value rest hd hfits next ih =>
    rw [decodeOptions_of_ok hd, if_pos hfits] at h
    exact (List.prefix_append _ _).trans (List.reverse_cons ▸ ih h)
  | case2 number done bytes delta value rest hd hlong =>
    rw [decodeOptions_of_ok hd, if_neg hlong] at h
    cases h
  | case3 number done bytes hd =>
    rw [decodeOptions_of_exhausted hd] at h
    cases h
    exact List.prefix_rfl
  | case4 number done bytes e he hd =>
    rw [decodeOptions_of_error hd, if_neg he] at h
    cases h

/-- The options in the beginning are the first of those in the whole, and all of them if the beginning
goes on to the payload marker. -/
theorem decodeOptions_append {number : UInt32} {done l l' : List (OptionNumber × Bytes)}
    {bytes more tail tail' : Bytes} (h : decodeOptions number done bytes = .ok (l, tail))
    (hmore : decodeOptions number done (bytes ++ more) = .ok (l', tail')) :
    l <+: l' ∧ (tail ≠ [] → l = l' ∧ tail' = tail ++ more) := by
  induction number, done, bytes using decodeOptions.induct with
  | case1 number done bytes delta value rest hd hfits next ih =>
    rw [decodeOptions_of_ok hd, if_pos hfits] at h
    rw [decodeOptions_of_ok (decodeOption_append hd more), if_pos hfits] at hmore
    exact ih h hmore
  | case2 number done bytes delta value rest hd hlong =>
    rw [decodeOptions_of_ok hd, if_neg hlong] at h
    cases h
  | case3 number done bytes hd =>
    rw [decodeOptions_of_exhausted hd] at h
    cases h
    refine ⟨reverse_prefix_of_decodeOptions hmore, fun htail => ?_⟩
    obtain ⟨rest, rfl⟩ := (decodeOption_eq_exhausted_iff.mp hd).resolve_left htail
    have hend : decodeOption (payloadMarker :: rest ++ more) = .error .exhausted :=
      decodeOption_eq_exhausted_iff.mpr (.inr ⟨rest ++ more, rfl⟩)
    rw [decodeOptions_of_exhausted hend] at hmore
    cases hmore
    exact ⟨rfl, rfl⟩
  | case4 number done bytes e he hd =>
    rw [decodeOptions_of_error hd, if_neg he] at h
    cases h

/-! ### Payload -/

theorem decodePayload_append {tail payload : Bytes} (h : decodePayload tail = .ok payload)
    (htail : tail ≠ []) (more : Bytes) : decodePayload (tail ++ more) = .ok (payload ++ more) := by
  match tail with
  | [] => exact absurd rfl htail
  | [_] => cases h
  | _ :: b :: rest => cases h; rfl

/-! ### Messages -/

/-- A message that goes along with another one until it ends: it has the same header, and either the first
of the options and no payload, or all of them and the first octets of the payload. -/
structure Begins (m whole : Message) : Prop where
  header : m = { whole with options := m.options, payload := m.payload }
  options : m.options.instances <+: whole.options.instances
  payload : m.payload <+: whole.payload
  /-- There is no payload before the options end. -/
  complete : m.payload ≠ [] → m.options = whole.options

/-- Octets that begin with two heads begin with one. -/
theorem head_unique {m m' : Message} {rest rest' : Bytes} (hm : m.version < 4 ∧ m.code.Fits)
    (hm' : m'.version < 4 ∧ m'.code.Fits) (h : m.encodeHead ++ rest = m'.encodeHead ++ rest') :
    m = { m' with options := m.options, payload := m.payload } ∧ rest = rest' := by
  obtain ⟨hbyte, hcode, hhi, hlo, htokens⟩ : m.headByte = m'.headByte ∧ m.code.toByte = m'.code.toByte ∧
      (m.id >>> 8).toUInt8 = (m'.id >>> 8).toUInt8 ∧ m.id.toUInt8 = m'.id.toUInt8 ∧
        m.token.bytes ++ rest = m'.token.bytes ++ rest' := by
    simpa only [encodeHead, List.cons_append, List.cons.injEq] using h
  -- the first octet says how long the token is, so that both end together
  obtain ⟨ht, hv, hl⟩ := (eq_headByte_iff (UInt8.lt_iff_toNat_lt.mp hm.1)).mp rfl
  obtain ⟨ht', hv', hl'⟩ := (eq_headByte_iff (UInt8.lt_iff_toNat_lt.mp hm'.1)).mp rfl
  rw [hbyte] at ht hv hl
  obtain ⟨htoken, hrest⟩ := List.append_inj htokens (hl.symm.trans hl')
  have htype : m.type = m'.type := by
    have hread := MessageType.decode_eq_ok_iff.mpr (ht.symm.trans ht')
    rw [MessageType.decode_eq_ok_iff.mpr rfl] at hread
    exact Except.ok.inj hread
  have hcodes : m.code = m'.code := by
    rw [← (Code.ofByte_toByte_iff m.code).mpr hm.2, hcode, (Code.ofByte_toByte_iff m'.code).mpr hm'.2]
  have hid : m.id = m'.id := by
    rw [← id_of_octets m.id, hhi, hlo, id_of_octets]
  refine ⟨?_, hrest⟩
  cases m
  cases m'
  cases htype
  cases hv.symm.trans hv'
  cases hcodes
  cases hid
  cases Token.ext htoken
  rfl

/-- Options that were read are listed as they were read. -/
theorem instances_of_decodeOptions {body tail : Bytes} {l : List (OptionNumber × Bytes)}
    (h : decodeOptions 0 [] body = .ok (l, tail)) : (Options.ofInstances l).instances = l := by
  obtain ⟨_, _, rfl, hinOrder, -⟩ := encodeOptions_of_decodeOptions h
  exact Options.instances_ofInstances hinOrder

/-- What is read of the beginning of a datagram goes along with what is read of the whole. -/
theorem begins_of_decode {bytes more : Bytes} {m whole : Message} (h : decode bytes = .ok m)
    (hwhole : decode (bytes ++ more) = .ok whole) : m.Begins whole := by
  obtain ⟨hfields, body, l, tail, rfl, ho, hoptions, hp⟩ := parts_of_decode h
  obtain ⟨hfields', body', l', tail', hbytes, ho', hoptions', hp'⟩ := parts_of_decode hwhole
  rw [List.append_assoc] at hbytes
  obtain ⟨hheader, rfl⟩ := head_unique hfields hfields' hbytes
  obtain ⟨hl, hcomplete⟩ := decodeOptions_append ho ho'
  have hprefix : m.options.instances <+: whole.options.instances := by
    rwa [hoptions, hoptions', instances_of_decodeOptions ho, instances_of_decodeOptions ho']
  by_cases htail : tail = []
  · -- the beginning ends with its options
    subst htail
    obtain hnone : [] = m.payload := Except.ok.inj hp
    exact ⟨hheader, hprefix, hnone ▸ List.nil_prefix, fun hsome => absurd hnone.symm hsome⟩
  · obtain ⟨rfl, rfl⟩ := hcomplete htail
    obtain hmore : m.payload ++ more = whole.payload :=
      Except.ok.inj ((decodePayload_append hp htail more).symm.trans hp')
    exact ⟨hheader, hprefix, ⟨more, hmore⟩, fun _ => hoptions.trans hoptions'.symm⟩

/-- The two readings differ, for a datagram is that of one message only. -/
theorem ne_of_decode {bytes more : Bytes} {m whole : Message} (hmore : more ≠ [])
    (h : decode bytes = .ok m) (hwhole : decode (bytes ++ more) = .ok whole) : m ≠ whole := by
  rintro rfl
  obtain ⟨-, henc⟩ := fits_and_encode_of_decode h
  obtain ⟨-, henc'⟩ := fits_and_encode_of_decode hwhole
  exact hmore (List.append_right_eq_self.mp (Except.ok.inj (henc'.symm.trans henc)))

theorem encodePayload_of_ne_nil {payload : Bytes} (h : payload ≠ []) :
    encodePayload payload = payloadMarker :: payload :=
  if_neg (by simpa using h)

/-- Messages that differ in the payload alone have datagrams that differ there alone. -/
theorem encode_of_payload {front payload : Bytes} {m : Message} (h : m.encode = .ok (front ++ m.payload))
    (hm : m.payload ≠ []) (hpayload : payload ≠ []) :
    { m with payload }.encode = .ok (front ++ payload) := by
  obtain ⟨enc, hoptions, hbytes⟩ := encode_eq_ok_iff.mp h
  rw [encodePayload_of_ne_nil hm, List.append_cons, ← List.append_assoc, ← List.append_assoc] at hbytes
  refine encode_eq_ok_iff.mpr ⟨enc, hoptions, ?_⟩
  rw [encodePayload_of_ne_nil hpayload, List.append_cons, ← List.append_assoc, ← List.append_assoc,
    List.append_cancel_right hbytes]
  rfl

/-- If the beginning of a datagram ends within the payload, its message has the beginning of the
payload. -/
theorem decode_take_of_encode {front : Bytes} {m : Message} {n : Nat} (hfits : m.Fits)
    (henc : m.encode = .ok (front ++ m.payload)) (hn : front.length < n) :
    decode ((front ++ m.payload).take n) = .ok { m with payload := m.payload.take (n - front.length) } := by
  rw [List.take_append, List.take_of_length_le (Nat.le_of_lt hn)]
  by_cases hm : m.payload = []
  · rw [hm, List.take_nil, ← hm]
    exact decode_of_fits hfits henc
  · have hcut : m.payload.take (n - front.length) ≠ [] := by
      rw [Ne, List.take_eq_nil_iff]
      exact fun hnone => hnone.elim (by omega) hm
    exact decode_of_fits hfits (encode_of_payload henc hm hcut)

theorem decode_take_of_payload {front : Bytes} {m : Message} {n : Nat}
    (h : decode (front ++ m.payload) = .ok m) (hn : front.length < n) :
    decode ((front ++ m.payload).take n) = .ok { m with payload := m.payload.take (n - front.length) } := by
  obtain ⟨hfits, henc⟩ := fits_and_encode_of_decode h
  exact decode_take_of_encode hfits henc hn

/-- A marker with nothing behind it makes a datagram unreadable, but not its beginning. -/
theorem decode_append_marker {bytes : Bytes} {m : Message} (h : m.encode = .ok bytes)
    (hpayload : m.payload = []) :
    decode bytes = .ok m.onWire ∧ decode (bytes ++ [payloadMarker]) = .error .emptyPayload := by
  refine ⟨decode_eq_onWire h, ?_⟩
  obtain ⟨enc, henc, rfl⟩ := encode_eq_ok_iff.mp h
  obtain ⟨hversion, hcode, -⟩ := m.fits_onWire
  have hoptions : decodeOptions 0 [] (enc ++ [payloadMarker]) =
      .ok (m.options.instances, [payloadMarker]) :=
    decodeOptions_encodeOptions (Options.inOrder_instances _) (fun _ _ => Nat.zero_le _) henc rfl
  rw [← encodeHead_onWire, hpayload, show encodePayload [] = [] from rfl, List.append_nil,
    List.append_assoc, decode_encodeHead_append ⟨hversion, hcode⟩ hoptions]
  rfl

end Coap.Message
