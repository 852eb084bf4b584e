import Coap.Forward.Target
import Coap.Proofs.Observers.Settlement
import Coap.Proofs.Text.Utf8

/-!
# URLs that requests target

A proxied request names its target as a whole or in parts. Where it names none that can be read, it is
refused for a bad option.

* `Message.Targets` — the URL that a request targets.
* `Message.proxyTarget_eq_ok_iff`, `Message.badOption_of_proxyTarget` — that URL is found, and without
  it there is a bad option.
* `Message.sameBut_dropPath` — a path that is taken off a request is all that is.
-/

namespace Coap

/-! ### Results with other errors -/

theorem mapError_eq_ok_iff {ε ε' α : Type} {f : ε → ε'} {x : Except ε α} {a : α} :
    x.mapError f = .ok a ↔ x = .ok a := by
  cases x <;> simp [Except.mapError]

theorem mapError_eq_error_iff {ε ε' α : Type} {f : ε → ε'} {x : Except ε α} {e' : ε'} :
    x.mapError f = .error e' ↔ ∃ e, x = .error e ∧ e' = f e := by
  cases x <;> simp [Except.mapError, eq_comm]

namespace Message

/-! ### Targets -/

/-- The URL that a request targets. A Proxy-Uri option holds it as a whole; without one it is put
together from a Proxy-Scheme option, a Uri-Host option, and the port, path and query. -/
inductive Targets (m : Message) (u : Url) : Prop where
  /-- The request names the URL. -/
  | whole {value : Bytes} {text : String} (given : m.options.first? .proxyUri = some value)
      (utf8 : Text.ofBytes? value = some text) (url : Url.ofText text = .ok u)
  /-- The request names its parts. -/
  | parts {value : Bytes} {scheme host : String} (absent : m.options.first? .proxyUri = none)
      (given : m.options.first? .proxyScheme = some value) (utf8 : Text.ofBytes? value = some scheme)
      (served : m.text? .uriHost = some host)
      (url : Url.ofText (m.assembledTarget scheme host) = .ok u)

variable {m : Message} {u : Url}

/-- The URL that is found is the one that the request targets. -/
theorem proxyTarget_eq_ok_iff : m.proxyTarget = .ok u ↔ m.Targets u := by
  constructor
  · intro h
    unfold proxyTarget at h
    dsimp only at h
    split at h
    · next value hvalue =>
      split at h
      · next text htext => exact .whole hvalue htext (mapError_eq_ok_iff.mp h)
      · cases h
    · next hnone =>
      split at h
      · cases h
      · next value hvalue =>
        split at h
        · cases h
        · next scheme hscheme =>
          split at h
          · cases h
          · next host hhost => exact .parts hnone hvalue hscheme hhost (mapError_eq_ok_iff.mp h)
  · intro h
    cases h with
    | whole given utf8 url =>
      simp only [proxyTarget, given, utf8, url]
      rfl
    | parts absent given utf8 served url =>
      simp only [proxyTarget, absent, given, utf8, served, url]
      rfl

/-- A target that is missing, that is no text in UTF-8 or that is no URL is a bad option. -/
theorem badOption_of_proxyTarget {e : ForwardError} (h : m.proxyTarget = .error e) :
    ∃ cause, e = .badOption cause := by
  unfold proxyTarget at h
  dsimp only at h
  split at h
  · split at h
    · obtain ⟨_, -, rfl⟩ := mapError_eq_error_iff.mp h
      exact ⟨_, rfl⟩
    · cases h
      exact ⟨_, rfl⟩
  · split at h
    · cases h
      exact ⟨_, rfl⟩
    · split at h
      · cases h
        exact ⟨_, rfl⟩
      · split at h
        · cases h
          exact ⟨_, rfl⟩
        · obtain ⟨_, -, rfl⟩ := mapError_eq_error_iff.mp h
          exact ⟨_, rfl⟩

/-- A request targets one URL at most. -/
theorem Targets.unique {u' : Url} (h : m.Targets u) (h' : m.Targets u') : u = u' := by
  rw [← proxyTarget_eq_ok_iff] at h h'
  exact Except.ok.inj (h.symm.trans h')

/-! ### Paths that can be read -/

/-- The values of a path are texts where it can be read. -/
theorem path?_eq_some_iff {segments : List String} :
    m.path? = some segments ↔ m.options.valuesOf .uriPath = segments.map Text.bytes := by
  rw [path?, Text.mapM_eq_some_iff]
  constructor
  · intro h
    have hlength := congrArg List.length h
    refine List.ext_getElem (by simpa using hlength) fun i hi hi' => ?_
    have hread := List.getElem_of_eq h (by simpa using hi)
    simp only [List.getElem_map] at hread ⊢
    exact Text.ofBytes?_eq_some_iff.mp hread
  · intro h
    rw [h, List.map_map]
    exact List.map_congr_left fun segment _ => Text.ofBytes?_eq_some_iff.mpr rfl

/-! ### Paths that are taken off -/

theorem SameBut.refl (m : Message) (n : OptionNumber) : m.SameBut m n := ⟨rfl, fun _ _ => rfl⟩

theorem SameBut.first?_eq {m' : Message} {n n' : OptionNumber} (h : m.SameBut m' n) (hne : n' ≠ n) :
    m'.options.first? n' = m.options.first? n' := by
  rw [Options.first?, Options.valuesOf, h.2 n' hne]
  rfl

theorem SameBut.contentFormat?_eq {m' : Message} {n : OptionNumber} (h : m.SameBut m' n)
    (hne : .contentFormat ≠ n) : m'.contentFormat? = m.contentFormat? := by
  rw [contentFormat?, uint?, h.first?_eq hne]
  rfl

theorem SameBut.accept?_eq {m' : Message} {n : OptionNumber} (h : m.SameBut m' n)
    (hne : .accept ≠ n) : m'.accept? = m.accept? := by
  rw [accept?, uint?, h.first?_eq hne]
  rfl

/-- The path of a resource that is taken off a request is taken off its path. -/
theorem sameBut_dropPath (m : Message) (path : String) : m.SameBut (m.dropPath path) .uriPath := by
  unfold dropPath
  dsimp only
  split
  · exact .refl m .uriPath
  · split
    · exact .refl m .uriPath
    · split
      · exact m.sameBut_remove .uriPath
      · refine ⟨rfl, fun n hn => ?_⟩
        rw [OrderedMap.get?_insert, if_neg hn]

end Message

end Coap
