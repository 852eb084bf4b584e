import Coap.Proofs.Wire.Datagram
import Mathlib.Data.List.Chain

/-!
# Messages without a datagram

A message has a datagram unless one of its options cannot be written: because its number is too far from
the one before, or because one of its values is too long. The first of these that is met is reported, in
the order of the numbers and then of the values, and the distance of an option before the length of its
values. Options without values are passed over, and no distance counts from them.

* `Options.Writable` — options that can be written one after the other.
* `Options.writable_or_refused` — if some cannot, there is a first one that is `TooFar` or `TooLong`.
* `Options.Single` — a few short options, which can always be written.
* `Message.encode_outcome` — which messages are written, and what is reported of the others.
-/

namespace Coap

namespace Options

/-- A number is not too far from the one before. -/
def Near (prev n : OptionNumber) : Prop := n.val.toNat ≤ prev.val.toNat + 65535

instance (prev n : OptionNumber) : Decidable (Near prev n) := inferInstanceAs (Decidable (_ ≤ _))

/-- The number from which the next distance counts: that of the last option, or `prev` if there is none. -/
def lastNumber {α : Type} (prev : OptionNumber) (l : List (OptionNumber × α)) : OptionNumber :=
  (l.map Prod.fst).getLastD prev

/-- Options with their values that can be written one after the other behind the number `prev`. -/
structure Writable (prev : OptionNumber) (entries : List (OptionNumber × List Bytes)) : Prop where
  /-- No number is too far from the one before. -/
  near : List.IsChain Near (prev :: entries.map Prod.fst)
  /-- No value is too long. -/
  short : ∀ entry ∈ entries, ∀ value ∈ entry.2, value.length ≤ 65535

/-- The option `n` is the first that cannot be written, for it is too far from the one before. -/
def TooFar (prev : OptionNumber) (entries : List (OptionNumber × List Bytes)) (n : OptionNumber) : Prop :=
  ∃ before values after, entries = before ++ (n, values) :: after ∧ Writable prev before ∧
    ¬ Near (lastNumber prev before) n

/-- The option `n` is the first that cannot be written. It is not too far from the one before, and the
first of its values that is too long has the given length. -/
def TooLong (prev : OptionNumber) (entries : List (OptionNumber × List Bytes)) (n : OptionNumber)
    (length : Nat) : Prop :=
  ∃ before short value long after, entries = before ++ (n, short ++ value :: long) :: after ∧
    Writable prev before ∧ Near (lastNumber prev before) n ∧ (∀ v ∈ short, v.length ≤ 65535) ∧
    value.length = length ∧ 65535 < length

variable {α : Type} {prev n n' : OptionNumber} {values : List Bytes} {length : Nat}
  {entries rest : List (OptionNumber × List Bytes)}

/-! ### The first that cannot be written -/

@[simp] theorem lastNumber_nil : lastNumber prev ([] : List (OptionNumber × α)) = prev := rfl

@[simp] theorem lastNumber_cons (i : OptionNumber × α) (l : List (OptionNumber × α)) :
    lastNumber prev (i :: l) = lastNumber i.1 l := List.getLastD_cons ..

theorem writable_nil : Writable prev [] := ⟨.singleton _, nofun⟩

theorem writable_cons_iff :
    Writable prev ((n, values) :: rest) ↔
      Near prev n ∧ (∀ value ∈ values, value.length ≤ 65535) ∧ Writable n rest := by
  constructor
  · rintro ⟨hnear, hshort⟩
    obtain ⟨hn, hrest⟩ := List.isChain_cons_cons.mp hnear
    obtain ⟨hvalues, hmore⟩ := List.forall_mem_cons.mp hshort
    exact ⟨hn, hvalues, hrest, hmore⟩
  · rintro ⟨hn, hvalues, hrest, hmore⟩
    exact ⟨List.isChain_cons_cons.mpr ⟨hn, hrest⟩, List.forall_mem_cons.mpr ⟨hvalues, hmore⟩⟩

/-- An option that can be written moves on to those behind it. -/
theorem TooFar.cons (hn : Near prev n) (hvalues : ∀ value ∈ values, value.length ≤ 65535)
    (h : TooFar n rest n') : TooFar prev ((n, values) :: rest) n' := by
  obtain ⟨before, others, after, rfl, hbefore, hfar⟩ := h
  exact ⟨(n, values) :: before, others, after, rfl, writable_cons_iff.mpr ⟨hn, hvalues, hbefore⟩,
    by rwa [lastNumber_cons]⟩

theorem TooLong.cons (hn : Near prev n) (hvalues : ∀ value ∈ values, value.length ≤ 65535)
    (h : TooLong n rest n' length) : TooLong prev ((n, values) :: rest) n' length := by
  obtain ⟨before, short, value, long, after, rfl, hbefore, hnear, hlong⟩ := h
  exact ⟨(n, values) :: before, short, value, long, after, rfl,
    writable_cons_iff.mpr ⟨hn, hvalues, hbefore⟩, by rwa [lastNumber_cons], hlong⟩

/-- Options can be written, or there is a first one that cannot. -/
theorem writable_or_refused (prev : OptionNumber) (entries : List (OptionNumber × List Bytes)) :
    Writable prev entries ∨ (∃ n, TooFar prev entries n) ∨ ∃ n length, TooLong prev entries n length := by
  induction entries generalizing prev with
  | nil => exact .inl writable_nil
  | cons entry rest ih =>
    obtain ⟨n, values⟩ := entry
    by_cases hn : Near prev n
    · cases hfind : values.find? fun value => 65535 < value.length with
      | some value =>
        obtain ⟨hlong, short, long, rfl, hshort⟩ := List.find?_eq_some_iff_append.mp hfind
        refine .inr (.inr ⟨n, value.length, [], short, value, long, rest, rfl, writable_nil, hn, ?_, rfl,
          by simpa using hlong⟩)
        exact fun v hv => by simpa using hshort v hv
      | none =>
        have hvalues : ∀ value ∈ values, value.length ≤ 65535 := by simpa using hfind
        rcases ih n with hrest | ⟨n', hfar⟩ | ⟨n', length, hlong⟩
        · exact .inl (writable_cons_iff.mpr ⟨hn, hvalues, hrest⟩)
        · exact .inr (.inl ⟨n', hfar.cons hn hvalues⟩)
        · exact .inr (.inr ⟨n', length, hlong.cons hn hvalues⟩)
    · exact .inr (.inl ⟨n, [], values, rest, rfl, writable_nil, hn⟩)

/-! ### Single options -/

/-- The single options of some entries, in wire order. -/
def listed (entries : List (OptionNumber × List Bytes)) : List (OptionNumber × Bytes) :=
  entries.flatMap fun entry => entry.2.map fun value => (entry.1, value)

theorem listed_cons (entry : OptionNumber × List Bytes) (rest : List (OptionNumber × List Bytes)) :
    listed (entry :: rest) = (entry.2.map fun value => (entry.1, value)) ++ listed rest :=
  List.flatMap_cons

theorem listed_append (l r : List (OptionNumber × List Bytes)) : listed (l ++ r) = listed l ++ listed r :=
  List.flatMap_append

/-- Options without values are not listed. -/
theorem instances_eq_listed (o : Options) : o.instances = listed o.dropEmpty.entries := by
  rw [← instances_ofInstances (inOrder_instances o), ofInstances_instances]
  rfl

theorem lastNumber_append (l r : List (OptionNumber × α)) :
    lastNumber prev (l ++ r) = lastNumber (lastNumber prev l) r := by
  induction l generalizing prev with
  | nil => rfl
  | cons i l ih => rw [List.cons_append, lastNumber_cons, lastNumber_cons, ih]

/-- The last number of the values of an option is its own, if there are any. -/
theorem lastNumber_map (hvalues : values ≠ []) :
    lastNumber prev (values.map fun value => (n, value)) = n := by
  induction values generalizing prev with
  | nil => exact absurd rfl hvalues
  | cons value values ih =>
    cases values with
    | nil => rfl
    | cons next values => exact (lastNumber_cons ..).trans (ih (List.cons_ne_nil _ _))

/-- Further values of an option are never too far. -/
theorem near_lastNumber_map (hn : Near prev n) (values : List Bytes) :
    Near (lastNumber prev (values.map fun value => (n, value))) n := by
  by_cases hvalues : values = []
  · rwa [hvalues]
  · rw [lastNumber_map hvalues]
    exact Nat.le_add_right _ _

/-! ### A few short options -/

/-- Each option has one value, and neither its number nor the length of its value is beyond 16 bits. -/
def Single (o : Options) : Prop :=
  ∀ n values, o.get? n = some values →
    n.val.toNat ≤ 65535 ∧ ∃ value : Bytes, values = [value] ∧ value.length ≤ 65535

variable {o : Options}

theorem single_empty : Single .empty := nofun

theorem Single.set (h : o.Single) {n : OptionNumber} {value : Bytes} (hn : n.val.toNat ≤ 65535)
    (hvalue : value.length ≤ 65535) : (o.set n value).Single := by
  intro n' values hget
  rw [Options.set, OrderedMap.get?_insert] at hget
  split at hget
  · next heq =>
    obtain rfl := Option.some.inj hget
    exact ⟨heq ▸ hn, value, rfl, hvalue⟩
  · exact h n' values hget

theorem Single.hasValues (h : o.Single) : o.HasValues := by
  refine hasValues_iff.mpr fun n values hget => ?_
  obtain ⟨-, value, rfl, -⟩ := h n values hget
  exact List.cons_ne_nil _ _

theorem writable_of_small {prev : OptionNumber} {entries : List (OptionNumber × List Bytes)}
    (h : ∀ entry ∈ entries, entry.1.val.toNat ≤ 65535 ∧ ∀ value ∈ entry.2, value.length ≤ 65535) :
    Writable prev entries := by
  induction entries generalizing prev with
  | nil => exact writable_nil
  | cons entry entries ih =>
    obtain ⟨⟨hn, hvalues⟩, hrest⟩ := List.forall_mem_cons.mp h
    exact writable_cons_iff.mpr ⟨Nat.le_trans hn (Nat.le_add_left _ _), hvalues, ih hrest⟩

theorem Single.writable (h : o.Single) : Writable ⟨0⟩ o.dropEmpty.entries := by
  rw [(dropEmpty_eq_self_iff o).mpr h.hasValues]
  refine writable_of_small fun entry hmem => ?_
  obtain ⟨hn, value, hvalues, hshort⟩ := h entry.1 entry.2 (OrderedMap.get?_eq_some_iff.mpr hmem)
  refine ⟨hn, fun other hother => ?_⟩
  rw [hvalues, List.mem_singleton] at hother
  rwa [hother]

end Options

namespace Message

open Options

variable {prev n : OptionNumber} {value enc : Bytes} {values : List Bytes} {length : Nat}
  {l : List (OptionNumber × Bytes)} {entries : List (OptionNumber × List Bytes)}

/-! ### Writing single options -/

/-- An option that is too far is reported, whatever its value. -/
theorem encodeOptions_of_far (hn : ¬ Near prev n) (value : Bytes) (l : List (OptionNumber × Bytes)) :
    encodeOptions prev [] ((n, value) :: l) = .error (.deltaTooLarge n) := by
  rw [encodeOptions]
  exact if_pos (by unfold Near at hn; omega)

/-- A value that is too long is reported with its length. -/
theorem encodeOptions_of_long (hn : Near prev n) (hlong : 65535 < value.length)
    (l : List (OptionNumber × Bytes)) :
    encodeOptions prev [] ((n, value) :: l) = .error (.valueTooLong n value.length) := by
  rw [encodeOptions, if_neg (by unfold Near at hn; omega), if_pos hlong]

/-- Any other option is written in front of those behind it. -/
theorem encodeOptions_of_near (hn : Near prev n) (hlen : value.length ≤ 65535)
    (l : List (OptionNumber × Bytes)) :
    encodeOptions prev [] ((n, value) :: l) =
      (encodeOptions n [] l).map (encodeOption (n.val.toNat - prev.val.toNat) value ++ ·) := by
  rw [encodeOptions, if_neg (by unfold Near at hn; omega), if_neg (Nat.not_lt.mpr hlen), encodeOptions_eq_map]
  simp

/-- Options are written behind others from the number of the last one on. -/
theorem encodeOptions_append (h : encodeOptions prev [] l = .ok enc) (r : List (OptionNumber × Bytes)) :
    encodeOptions prev [] (l ++ r) = (encodeOptions (lastNumber prev l) [] r).map (enc ++ ·) := by
  induction l generalizing prev enc with
  | nil =>
    cases h
    show encodeOptions prev [] r = (encodeOptions prev [] r).map ([] ++ ·)
    cases encodeOptions prev [] r <;> rfl
  | cons i l ih =>
    obtain ⟨hdelta, hlen, more, hmore, rfl⟩ := encodeOptions_cons_eq_ok_iff.mp h
    have hn : Near prev i.1 := by unfold Near; omega
    rw [List.cons_append, encodeOptions_of_near hn hlen, ih hmore, lastNumber_cons]
    cases encodeOptions (lastNumber i.1 l) [] r <;> simp [Except.map]

/-! ### Writing options with their values -/

theorem exists_encodeOptions_map (hn : Near prev n) (hvalues : ∀ value ∈ values, value.length ≤ 65535) :
    ∃ enc, encodeOptions prev [] (values.map fun value => (n, value)) = .ok enc := by
  induction values generalizing prev with
  | nil => exact ⟨[], rfl⟩
  | cons value values ih =>
    obtain ⟨hvalue, hvalues⟩ := List.forall_mem_cons.mp hvalues
    obtain ⟨enc, henc⟩ := ih (Nat.le_add_right _ _) hvalues
    exact ⟨_, by rw [List.map_cons, encodeOptions_of_near hn hvalue, henc]; rfl⟩

/-- What can be written is written, up to its last number. -/
theorem exists_encodeOptions_listed (hentries : ∀ entry ∈ entries, entry.2 ≠ [])
    (h : Writable prev entries) :
    lastNumber prev (listed entries) = lastNumber prev entries ∧
      ∃ enc, encodeOptions prev [] (listed entries) = .ok enc := by
  induction entries generalizing prev with
  | nil => exact ⟨rfl, [], rfl⟩
  | cons entry rest ih =>
    obtain ⟨hvalues, hrest⟩ := List.forall_mem_cons.mp hentries
    obtain ⟨hn, hshort, hwritable⟩ := writable_cons_iff.mp h
    obtain ⟨hlast, enc, henc⟩ := ih hrest hwritable
    obtain ⟨front, hfront⟩ := exists_encodeOptions_map hn hshort
    rw [listed_cons, lastNumber_append, lastNumber_map hvalues, lastNumber_cons,
      encodeOptions_append hfront, lastNumber_map hvalues, henc]
    exact ⟨hlast, _, rfl⟩

theorem encodeOptions_of_tooFar (hentries : ∀ entry ∈ entries, entry.2 ≠ [])
    (h : TooFar prev entries n) :
    encodeOptions prev [] (listed entries) = .error (.deltaTooLarge n) := by
  obtain ⟨before, values, after, rfl, hbefore, hfar⟩ := h
  obtain ⟨hfront, hback⟩ := List.forall_mem_append.mp hentries
  obtain ⟨value, values, rfl⟩ := List.exists_cons_of_ne_nil (hback _ List.mem_cons_self)
  obtain ⟨hlast, enc, henc⟩ := exists_encodeOptions_listed hfront hbefore
  rw [listed_append, encodeOptions_append henc, hlast, listed_cons, List.map_cons, List.cons_append,
    encodeOptions_of_far hfar]
  rfl

theorem encodeOptions_of_tooLong (hentries : ∀ entry ∈ entries, entry.2 ≠ [])
    (h : TooLong prev entries n length) :
    encodeOptions prev [] (listed entries) = .error (.valueTooLong n length) := by
  obtain ⟨before, short, value, long, after, rfl, hbefore, hn, hshort, rfl, hlong⟩ := h
  obtain ⟨hfront, -⟩ := List.forall_mem_append.mp hentries
  obtain ⟨hlast, enc, henc⟩ := exists_encodeOptions_listed hfront hbefore
  obtain ⟨front, hmap⟩ := exists_encodeOptions_map hn hshort
  rw [listed_append, encodeOptions_append henc, hlast, listed_cons, List.map_append, List.append_assoc,
    encodeOptions_append hmap, List.map_cons, List.cons_append,
    encodeOptions_of_long (near_lastNumber_map hn short) hlong]
  rfl

/-! ### Writing messages -/

variable {m : Message}

theorem encode_eq_error_iff {e : EncodeError} :
    m.encode = .error e ↔ encodeOptions ⟨0⟩ [] m.options.instances = .error e := by
  unfold encode
  cases encodeOptions ⟨0⟩ [] m.options.instances <;> simp [Except.map]

theorem exists_encode_of_writable (h : Writable ⟨0⟩ m.options.dropEmpty.entries) :
    ∃ bytes, m.encode = .ok bytes := by
  obtain ⟨-, enc, henc⟩ := exists_encodeOptions_listed (hasValues_dropEmpty m.options) h
  rw [← instances_eq_listed] at henc
  exact ⟨_, encode_eq_ok_iff.mpr ⟨enc, henc, rfl⟩⟩

theorem encode_of_tooFar (h : TooFar ⟨0⟩ m.options.dropEmpty.entries n) :
    m.encode = .error (.deltaTooLarge n) := by
  rw [encode_eq_error_iff, instances_eq_listed]
  exact encodeOptions_of_tooFar (hasValues_dropEmpty m.options) h

theorem encode_of_tooLong (h : TooLong ⟨0⟩ m.options.dropEmpty.entries n length) :
    m.encode = .error (.valueTooLong n length) := by
  rw [encode_eq_error_iff, instances_eq_listed]
  exact encodeOptions_of_tooLong (hasValues_dropEmpty m.options) h

/-- A message is written exactly if its options can be. -/
theorem exists_encode_iff :
    (∃ bytes, m.encode = .ok bytes) ↔ Writable ⟨0⟩ m.options.dropEmpty.entries := by
  refine ⟨fun ⟨bytes, henc⟩ => ?_, exists_encode_of_writable⟩
  rcases writable_or_refused ⟨0⟩ m.options.dropEmpty.entries with h | ⟨n, h⟩ | ⟨n, length, h⟩
  · exact h
  · cases henc.symm.trans (encode_of_tooFar h)
  · cases henc.symm.trans (encode_of_tooLong h)

theorem encode_eq_deltaTooLarge_iff :
    m.encode = .error (.deltaTooLarge n) ↔ TooFar ⟨0⟩ m.options.dropEmpty.entries n := by
  refine ⟨fun herror => ?_, encode_of_tooFar⟩
  rcases writable_or_refused ⟨0⟩ m.options.dropEmpty.entries with h | ⟨n', h⟩ | ⟨n', length, h⟩
  · obtain ⟨bytes, henc⟩ := exists_encode_of_writable h
    cases herror.symm.trans henc
  · cases herror.symm.trans (encode_of_tooFar h)
    exact h
  · cases herror.symm.trans (encode_of_tooLong h)

theorem encode_eq_valueTooLong_iff :
    m.encode = .error (.valueTooLong n length) ↔
      TooLong ⟨0⟩ m.options.dropEmpty.entries n length := by
  refine ⟨fun herror => ?_, encode_of_tooLong⟩
  rcases writable_or_refused ⟨0⟩ m.options.dropEmpty.entries with h | ⟨n', h⟩ | ⟨n', length', h⟩
  · obtain ⟨bytes, henc⟩ := exists_encode_of_writable h
    cases herror.symm.trans henc
  · cases herror.symm.trans (encode_of_tooFar h)
  · cases herror.symm.trans (encode_of_tooLong h)
    exact h

/-- **Outcome of writing.** A message is written exactly if, of its options that have values, each number
is near the one before, the first one near 0, and no value is too long. Otherwise the first option that
cannot be written is reported: for its distance if that is too large, and else for the first of its values
that is too long, with the length of that. The numbers ascend, so that no distance is negative. -/
theorem encode_outcome (m : Message) :
    let carriers := m.options.dropEmpty.entries
    (carriers.Pairwise fun a b => a.1.val.toNat < b.1.val.toNat) ∧
    ((∃ bytes, m.encode = .ok bytes) ↔ Writable ⟨0⟩ carriers) ∧
    (∀ n, m.encode = .error (.deltaTooLarge n) ↔ TooFar ⟨0⟩ carriers n) ∧
    ∀ n length, m.encode = .error (.valueTooLong n length) ↔ TooLong ⟨0⟩ carriers n length :=
  ⟨m.options.dropEmpty.ascending.imp OptionNumber.compare_eq_lt.mp, exists_encode_iff,
    fun _ => encode_eq_deltaTooLarge_iff, fun _ _ => encode_eq_valueTooLong_iff⟩

/-- No distance counts from an option without values. -/
example : { (default : Message) with
    options := (Options.addAll .empty ⟨1⟩ []).add ⟨65536⟩ [] }.encode =
      .error (.deltaTooLarge ⟨65536⟩) := by rfl

end Message

end Coap
