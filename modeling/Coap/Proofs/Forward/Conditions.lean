import Coap.Proofs.Forward.Carried

/-!
# Entity-tags that a client sends

The entity-tags in the options of a request stand in its conditions for HTTP, in hexadecimal digits and in
quotes. An origin that has such a tag gives it back as it is, or marks it as weak. Mark and quotes are then
taken off again, and nothing else is, so that a tag of up to eight octets comes back as the client has it.

* `Http.mark`, `Http.Response.Bears` — entity-tags as they stand in a response.
* `Http.bare` — what is left of an entity-tag without its mark and its quotes.
* `Http.conditions_return` — from the options of a request to that of a response.
-/

namespace Coap

namespace Http

variable {t : String} {weak : Bool} {r : Response} {tag : Bytes}

/-- What stands before an entity-tag: the mark of a weak one, or nothing. -/
def mark (weak : Bool) : String := if weak then "W/" else ""

/-- Has a response a given entity-tag, with its quotes and its mark? -/
def Response.Bears (r : Response) (value : String) : Prop :=
  r.headers.find? (fun h => h.1 = "etag") = some ("etag", Text.bytes value)

/-- An entity-tag without its mark and its quotes. -/
def bare (value : String) : String :=
  String.ofList (Text.trimChars (· == '"') (dropWeak value.toList))

/-! ### Marks and quotes -/

/-- The option is read from what is left. -/
theorem etag_eq (value : String) :
    etag value = (unhex? (bare value)).getD ((Text.bytes (bare value)).take 8) := rfl

/-- Nothing but mark and quotes is taken off. -/
theorem bare_mark (weak : Bool) (ht : IsTag t) : bare (mark weak ++ strong t) = t := by
  have hmark : dropWeak (mark weak ++ strong t).toList = (strong t).toList := by
    rw [String.toList_append, toList_strong]
    cases weak <;> rfl
  rw [bare, hmark, toList_strong, trimChars_strong fun c hc => (isTagChar_iff.mp (ht c hc)).2.2,
    String.ofList_toList]

theorem Response.Bears.text? (h : r.Bears (mark weak ++ strong t)) (ht : IsTag t) :
    r.text? "etag" = some (mark weak ++ strong t) := by
  have hmark : (mark weak).toList.all (fun c => 0x20 ≤ c.toNat && c.toNat < 0x7F) = true := by
    cases weak <;> rfl
  have hvisible : (Text.bytes (mark weak ++ strong t)).all isVisible = true := by
    refine all_isVisible_bytes fun c hc => ?_
    rw [String.toList_append, List.mem_append] at hc
    rcases hc with hc | hc
    · simpa using List.all_eq_true.mp hmark c hc
    · exact visible_of_mem_strong ht hc
  rw [Response.text?, h]
  simp only [hvisible, if_true]
  exact Text.ofBytes?_eq_some_iff.mpr rfl

/-! ### Octets -/

/-- The digits for octets can stand in an entity-tag. -/
theorem isTag_toHex (tag : Bytes) : IsTag (Bytes.toHex tag) := by
  have hdigit : ∀ n : Fin 16, isTagChar (Bytes.hexDigit n) = true := by decide
  intro c hc
  rw [Bytes.toHex, String.toList_ofList] at hc
  obtain ⟨b, -, hc⟩ := List.mem_flatMap.mp hc
  have hb := b.toNat_lt
  rcases List.mem_pair.mp hc with rfl | rfl
  · exact hdigit ⟨b.toNat / 16, by omega⟩
  · exact hdigit ⟨b.toNat % 16, by omega⟩

/-- Octets come back from their digits exactly if they are no more than eight. -/
theorem etag_mark_toHex (weak : Bool) (tag : Bytes) :
    etag (mark weak ++ strong (Bytes.toHex tag)) = tag ↔ tag.length ≤ 8 := by
  constructor
  · intro h
    rw [← h]
    exact length_etag _
  · intro h
    rw [etag_eq, bare_mark weak (isTag_toHex tag), unhex?_toHex h, Option.getD_some]

/-! ### There and back -/

/-- **Conditions.** A request has one condition for each of its entity-tags, in their order. Every response
with a response code for its status that has the tag of a condition, be it marked as weak or not, becomes a
message, and nothing but the mark and the quotes is taken off the tag. The message has the entity-tag of
the request exactly if that is one of eight octets at most. -/
theorem conditions_return {m : Message} {target : Url} {q : Request} (h : m.toHttp target = .ok q) :
    q.conditions.length = (m.options.valuesOf .etag).length ∧
    ∀ (i : Nat) (tag : Bytes), (m.options.valuesOf .etag)[i]? = some tag →
      ∃ condition, q.conditions[i]? = some condition ∧
        ∀ weak (r : Response) method, HasCode r.status → r.Bears (mark weak ++ condition) →
          bare (mark weak ++ condition) = Bytes.toHex tag ∧
          ∃ resp, Coap.Response.ofHttp r method = .ok resp ∧
            (resp.message.options.get? .etag = some [tag] ↔ tag.length ≤ 8) := by
  rw [Message.conditions_toHttp h, List.length_map]
  refine ⟨rfl, fun i tag hi => ⟨strong (Bytes.toHex tag), ?_, fun weak r method hcode hbears => ?_⟩⟩
  · rw [List.getElem?_map, hi, Option.map_some]
  · have ht := isTag_toHex tag
    obtain ⟨resp, hresp, -⟩ := (response_carried r method).2 hcode
    refine ⟨bare_mark weak ht, resp, hresp, ?_⟩
    rw [Response.get?_etag_ofHttp (hbears.text? ht) hresp, ← etag_mark_toHex weak tag]
    simp

/-- A request for a thing that has the empty entity-tag, or one whose octets are those of a quote and of
the mark among others. -/
def revalidations : Message :=
  (revalidation []).add .etag [0xDE, 0xAD, 0xBE, 0xEF, 0x00, 0x22, 0x57, 0x2F]

/-- What becomes of it. -/
def revalidationsInHttp : Request :=
  ⟨"GET", ⟨some "http", "1.2.3.4", "/t", none⟩,
    [("if-none-match", "\"\""), ("if-none-match", "\"deadbeef0022572f\"")], []⟩

theorem toHttp_revalidations :
    revalidations.toHttp Forwarder.httpThing = .ok revalidationsInHttp := by
  decide

/-- A thing that is still as it was. -/
def unmodified (value : String) : Response := ⟨304, [("etag", Text.bytes value)], []⟩

/-- Both tags come back. -/
theorem conditions_return_revalidations :
    (∃ resp, Coap.Response.ofHttp (unmodified "W/\"\"") .get = .ok resp ∧
      resp.message.options.get? .etag = some [[]]) ∧
    ∃ resp, Coap.Response.ofHttp (unmodified "\"deadbeef0022572f\"") .get = .ok resp ∧
      resp.message.options.get? .etag = some [[0xDE, 0xAD, 0xBE, 0xEF, 0x00, 0x22, 0x57, 0x2F]] := by
  obtain ⟨-, hreturn⟩ := conditions_return toHttp_revalidations
  constructor
  · obtain ⟨condition, hcondition, hback⟩ := hreturn 0 [] rfl
    obtain rfl := Option.some.inj hcondition
    obtain ⟨-, resp, hresp, htag⟩ := hback true (unmodified "W/\"\"") .get (.inl rfl) rfl
    exact ⟨resp, hresp, htag.mpr (by decide)⟩
  · obtain ⟨condition, hcondition, hback⟩ := hreturn 1 _ rfl
    obtain rfl := Option.some.inj hcondition
    obtain ⟨-, resp, hresp, htag⟩ := hback false (unmodified "\"deadbeef0022572f\"") .get (.inl rfl) rfl
    exact ⟨resp, hresp, htag.mpr (by decide)⟩

end Http

end Coap
