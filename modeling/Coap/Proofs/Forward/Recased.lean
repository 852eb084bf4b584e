import Coap.Forward.Http
import Coap.Proofs.Forward.Directives
import Coap.Proofs.Text.Utf8
import Mathlib.Data.List.Forall2

/-!
# Responses in other letters

Two responses may differ in nothing but the letters, capital or small, of the field that says how long to
keep them. What is read of them is then the same in small letters.

* `Http.Recased` — such responses.
* `Http.Response.recase` — a response with other letters in that field.
* `Http.Recased.text?` — what is read of two such responses.
* `Http.text?_recase_small`, `Http.notMem_of_text?_recase` — what is read of a response in small and in
  capital letters.
-/

namespace Coap

namespace Http

/-! ### Responses that differ in letters -/

/-- The small form of an octet. -/
def small (b : UInt8) : UInt8 := if 0x41 ≤ b ∧ b ≤ 0x5A then b + 0x20 else b

/-- The capital form of an octet. -/
def capital (b : UInt8) : UInt8 := if 0x61 ≤ b ∧ b ≤ 0x7A then b - 0x20 else b

theorem toNat_small (b : UInt8) :
    (small b).toNat = if 0x41 ≤ b.toNat ∧ b.toNat ≤ 0x5A then b.toNat + 0x20 else b.toNat := by
  have hiff : (0x41 ≤ b ∧ b ≤ 0x5A) ↔ 0x41 ≤ b.toNat ∧ b.toNat ≤ 0x5A := by
    simp only [UInt8.le_iff_toNat_le]
    rfl
  unfold small
  split
  · next h =>
    rw [if_pos (hiff.mp h), UInt8.toNat_add]
    have := (hiff.mp h).2
    simp
    omega
  · next h => rw [if_neg (mt hiff.mpr h)]

theorem toNat_capital (b : UInt8) :
    (capital b).toNat = if 0x61 ≤ b.toNat ∧ b.toNat ≤ 0x7A then b.toNat - 0x20 else b.toNat := by
  have hiff : (0x61 ≤ b ∧ b ≤ 0x7A) ↔ 0x61 ≤ b.toNat ∧ b.toNat ≤ 0x7A := by
    simp only [UInt8.le_iff_toNat_le]
    rfl
  unfold capital
  split
  · next h =>
    have hle : (0x20 : UInt8) ≤ b := UInt8.le_iff_toNat_le.mpr (Nat.le_trans (by decide) (hiff.mp h).1)
    rw [if_pos (hiff.mp h), UInt8.toNat_sub_of_le _ _ hle]
    rfl
  · next h => rw [if_neg (mt hiff.mpr h)]

theorem small_small (b : UInt8) : small (small b) = small b := by
  refine UInt8.toNat_inj.mp ?_
  rw [toNat_small (small b), toNat_small b]
  split_ifs <;> omega

theorem small_capital (b : UInt8) : small (capital b) = small b := by
  refine UInt8.toNat_inj.mp ?_
  rw [toNat_small (capital b), toNat_small b, toNat_capital]
  split_ifs <;> omega

/-- Two header fields are the same but for the letters of a value that says how long to keep a response. -/
def SameField (h h' : String × Bytes) : Prop :=
  h'.1 = h.1 ∧ (h'.2 = h.2 ∨ h.1 = "cache-control" ∧ h'.2.map small = h.2.map small)

/-- Two responses differ in the letters of these values only. -/
structure Recased (r r' : Response) : Prop where
  status : r'.status = r.status
  body : r'.body = r.body
  headers : List.Forall₂ SameField r.headers r'.headers

/-- A header field with other letters, if it says how long to keep a response. -/
def recaseField (f : UInt8 → UInt8) (h : String × Bytes) : String × Bytes :=
  if h.1 = "cache-control" then (h.1, h.2.map f) else h

/-- A response with other letters in these values. -/
def Response.recase (f : UInt8 → UInt8) (r : Response) : Response :=
  { r with headers := r.headers.map (recaseField f) }

theorem recased_recase {f : UInt8 → UInt8} (hf : ∀ b, small (f b) = small b) (r : Response) :
    Recased r (r.recase f) := by
  refine ⟨rfl, rfl, List.forall₂_map_right_iff.mpr (List.forall₂_same.mpr fun h _ => ?_)⟩
  unfold recaseField
  split
  · next hname =>
    refine ⟨rfl, .inr ⟨hname, ?_⟩⟩
    rw [List.map_map]
    exact List.map_congr_left fun b _ => hf b
  · exact ⟨rfl, .inl rfl⟩

/-! ### Reading them -/

/-- The character for an octet of ASCII. -/
def char (b : UInt8) : Char := .ofNat b.toNat

/-- The text of a header field. -/
def read? (value : Bytes) : Option String := if value.all isVisible then Text.ofBytes? value else none

theorem text?_eq (r : Response) (name : String) :
    r.text? name = (r.headers.find? fun h => h.1 = name).bind fun h => read? h.2 := by
  unfold Response.text?
  cases r.headers.find? fun h => h.1 = name <;> rfl

theorem isVisible_iff {b : UInt8} :
    isVisible b = true ↔ 0x20 ≤ b.toNat ∧ b.toNat < 0x7F ∨ b.toNat = 0x09 := by
  simp only [isVisible, Bool.or_eq_true, Bool.and_eq_true, decide_eq_true_eq, beq_iff_eq,
    UInt8.le_iff_toNat_le, UInt8.lt_iff_toNat_lt, ← UInt8.toNat_inj]
  rfl

theorem isVisible_small (b : UInt8) : isVisible (small b) = isVisible b := by
  rw [Bool.eq_iff_iff, isVisible_iff, isVisible_iff, toNat_small]
  split_ifs <;> omega

theorem toNat_char {b : UInt8} (h : isVisible b = true) : (char b).toNat = b.toNat :=
  Utf8.toNat_ofNat (by have := isVisible_iff.mp h; omega)

theorem toLower_char {b : UInt8} (h : isVisible b = true) : (char b).toLower = char (small b) := by
  refine Char.toNat_inj.mp ?_
  rw [Percent.toNat_toLower, toNat_char h, toNat_char ((isVisible_small b).trans h), toNat_small]

/-- Visible octets are read one by one. -/
theorem read?_eq (value : Bytes) :
    read? value = if value.all isVisible then some (String.ofList (value.map char)) else none := by
  unfold read?
  split
  · next h =>
    have hvisible := List.all_eq_true.mp h
    refine Text.ofBytes?_eq_some_iff.mpr ?_
    rw [Text.bytes, String.toList_ofList, Percent.encode_of_lt, List.map_map]
    · refine (List.map_id value).symm.trans (List.map_congr_left fun b hb => UInt8.toNat_inj.mp ?_)
      have hb' := isVisible_iff.mp (hvisible b hb)
      simp only [Function.comp, toNat_char (hvisible b hb), id]
      simp
    · intro c hc
      obtain ⟨b, hb, rfl⟩ := List.mem_map.mp hc
      have hb' := isVisible_iff.mp (hvisible b hb)
      rw [toNat_char (hvisible b hb)]
      omega
  · rfl

theorem map_lowered_read? (value : Bytes) : (read? value).map lowered = read? (value.map small) := by
  rw [read?_eq, read?_eq, List.all_map]
  have hall : value.all (isVisible ∘ small) = value.all isVisible :=
    congrArg _ (funext isVisible_small)
  rw [hall]
  split
  · next h =>
    have hvisible := List.all_eq_true.mp h
    refine congrArg some (congrArg String.ofList ?_)
    rw [String.toList_ofList, List.map_map, List.map_map]
    exact List.map_congr_left fun b hb => toLower_char (hvisible b hb)
  · rfl

/-- Fields of one name are found in the same place. -/
theorem find?_sameField {headers headers' : List (String × Bytes)}
    (h : List.Forall₂ SameField headers headers') (name : String) :
    Option.Rel SameField (headers.find? fun h => h.1 = name) (headers'.find? fun h => h.1 = name) := by
  induction h with
  | nil => exact .none
  | @cons a b headers headers' hfield _ ih =>
    by_cases hname : a.1 = name
    · rw [List.find?_cons_of_pos (by simpa using hname),
        List.find?_cons_of_pos (by simpa [hfield.1] using hname)]
      exact .some hfield
    · rwa [List.find?_cons_of_neg (by simpa using hname),
        List.find?_cons_of_neg (by simpa [hfield.1] using hname)]

variable {r r' : Response}

/-- The texts of these fields are the same in small letters. -/
theorem Recased.text? (h : Recased r r') :
    (r'.text? "cache-control").map lowered = (r.text? "cache-control").map lowered := by
  have hfound := find?_sameField h.headers "cache-control"
  rw [text?_eq, text?_eq]
  generalize r.headers.find? _ = found at hfound ⊢
  generalize r'.headers.find? _ = found' at hfound ⊢
  cases hfound with
  | none => rfl
  | some hfield =>
    simp only [Option.bind_some, map_lowered_read?]
    rcases hfield.2 with heq | ⟨-, heq⟩ <;> rw [heq]

theorem text?_recase (f : UInt8 → UInt8) (r : Response) :
    (r.recase f).text? "cache-control" =
      (r.headers.find? fun h => h.1 = "cache-control").bind fun h => read? (h.2.map f) := by
  have hname : (fun h : String × Bytes => decide (h.1 = "cache-control")) ∘ recaseField f =
      fun h => decide (h.1 = "cache-control") := by
    funext h
    simp only [Function.comp, recaseField]
    split <;> rfl
  rw [text?_eq, Response.recase, List.find?_map, hname]
  cases hfound : r.headers.find? fun h => h.1 = "cache-control" with
  | none => rfl
  | some h =>
    have hcontrol : h.1 = "cache-control" := by simpa using List.find?_some hfound
    simp only [Option.map_some, Option.bind_some, recaseField, if_pos hcontrol]

theorem text?_recase_small (r : Response) :
    (r.recase small).text? "cache-control" = (r.text? "cache-control").map lowered := by
  rw [text?_recase, text?_eq, Option.map_bind]
  simp only [← map_lowered_read?]
  rfl

/-- There are no small letters in capital form. -/
theorem notMem_of_text?_recase {field : String}
    (h : (r.recase capital).text? "cache-control" = some field) : 'm' ∉ field.toList := by
  rw [text?_recase, Option.bind_eq_some_iff] at h
  obtain ⟨⟨name, value⟩, -, hread⟩ := h
  rw [read?_eq] at hread
  split at hread
  · next hall =>
    obtain rfl := Option.some.inj hread
    rw [String.toList_ofList]
    intro hmem
    obtain ⟨b, hb, hchar⟩ := List.mem_map.mp hmem
    obtain ⟨c, -, rfl⟩ := List.mem_map.mp hb
    have htoNat := congrArg Char.toNat hchar
    rw [toNat_char (List.all_eq_true.mp hall _ hb), toNat_capital] at htoNat
    have hm : 'm'.toNat = 0x6D := rfl
    split_ifs at htoNat <;> omega
  · cases hread

end Http

end Coap
