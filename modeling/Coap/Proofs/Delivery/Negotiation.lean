import Coap.Proofs.Delivery.Replies

/-!
# Negotiating the format of links

The list of resources is written in the format that the Accept option of a request asks for, if that is
one of the three that are offered. The option asks for the number that its octets stand for. It is taken
for the lowest 16 bits of that number, and if it has more than four octets it is not seen at all.

* `Link.asked?`, `Link.served?` — the format that an Accept option asks for, and the one it gets.
* `Link.Understood` — the options for which these are the same, by `Link.served?_eq_asked?_iff`.
* `Link.Presents` — a message that has links in a format, or says that there is none.
* `Server.links_negotiated` — so what each request for the list of resources is answered.
-/

namespace Coap

/-! ### Formats -/

namespace Link

/-- Links as they are written in a format, if it is one of those offered. -/
def written? (links : List Link) : ContentFormat → Option Bytes
  | .linkFormat => some (Text.bytes (document links))
  | .json => some (json links).bytes
  | .cbor => some (cbor links).bytes
  | _ => none

/-- The number of a format that is offered stands for no other one. -/
theorem ofNumber_number_of_written? {links : List Link} {f : ContentFormat} {payload : Bytes}
    (h : written? links f = some payload) : ContentFormat.ofNumber f.number = f := by
  cases f with
  | linkFormat => rfl
  | json => rfl
  | cbor => rfl
  | _ => cases h

/-- The offered format with a number. -/
def offered? (number : Nat) : Option ContentFormat :=
  if number = 40 then some .linkFormat
  else if number = 50 then some .json
  else if number = 60 then some .cbor
  else none

/-- The offered format that an Accept option asks for, if there is one. -/
def asked? : Option Bytes → Option ContentFormat
  | none => some .linkFormat
  | some value => offered? (OptionValue.toNat value)

/-- The format in which links are written for an Accept option, if they are. -/
def served? : Option Bytes → Option ContentFormat
  | none => some .linkFormat
  | some value =>
    if 4 < value.length then some .linkFormat else offered? (OptionValue.toNat value % 65536)

/-- An Accept option is taken for what it asks for. Either it is missing; or it has four octets at most,
and cutting its number to 16 bits does not make an offered format of it; or it has more octets, and asks
for the format that one gets without the option. -/
def Understood : Option Bytes → Prop
  | none => True
  | some value =>
    let number := OptionValue.toNat value
    if 4 < value.length then number = 40 else number < 65536 ∨ offered? (number % 65536) = none

theorem offered?_of_le {number : Nat} (h : 65536 ≤ number) : offered? number = none := by
  rw [offered?, if_neg (by omega), if_neg (by omega), if_neg (by omega)]

theorem offered?_eq_linkFormat_iff {number : Nat} :
    offered? number = some .linkFormat ↔ number = 40 := by
  unfold offered?
  split_ifs <;> simp_all

theorem served?_eq_asked?_iff {accept : Option Bytes} :
    served? accept = asked? accept ↔ Understood accept := by
  cases accept with
  | none => exact iff_of_true rfl trivial
  | some value =>
    simp only [served?, asked?, Understood]
    by_cases hlong : 4 < value.length
    · rw [if_pos hlong, if_pos hlong, eq_comm, offered?_eq_linkFormat_iff]
    · rw [if_neg hlong, if_neg hlong]
      by_cases hsmall : OptionValue.toNat value < 65536
      · rw [Nat.mod_eq_of_lt hsmall]
        exact iff_of_true rfl (.inl hsmall)
      · rw [offered?_of_le (Nat.not_lt.mp hsmall)]
        exact ⟨.inr, fun h => h.resolve_left hsmall⟩

/-- The format in which links are written when another one was read from an Accept option, or none. -/
def chosen? : Option ContentFormat → Option ContentFormat
  | none => some .linkFormat
  | some .linkFormat => some .linkFormat
  | some .json => some .json
  | some .cbor => some .cbor
  | some _ => none

theorem chosen?_ofNumber (n : UInt16) : chosen? (some (.ofNumber n)) = offered? n.toNat := by
  simp only [ContentFormat.ofNumber, ← UInt16.toNat_inj, UInt16.reduceToNat, offered?]
  split_ifs <;> first | rfl | omega

theorem chosen?_accept? (m : Message) : chosen? m.accept? = served? (m.options.first? .accept) := by
  rw [Message.accept?, Message.uint?]
  cases m.options.first? .accept with
  | none => rfl
  | some value =>
    show chosen? ((OptionValue.toUInt? value).map (ContentFormat.ofNumber ∘ UInt32.toUInt16)) = _
    rw [← Option.map_map, OptionValue.map_toUInt16_toUInt?, served?]
    split
    · rfl
    · rw [Option.map_some, chosen?_ofNumber]
      simp

/-! ### Messages with links -/

/-- A message that has links in a format, which it states, or says that there is no such format. -/
def Presents (m : Message) (links : List Link) : Option ContentFormat → Prop
  | some f =>
    m.code = .content ∧
      m.options.get? .contentFormat = some [OptionValue.ofUInt f.number.toUInt32] ∧
      written? links f = some m.payload
  | none => m.code = .badOption ∧ m.options.get? .contentFormat = none ∧ m.payload = []

theorem Presents.unique {m : Message} {links : List Link} {f f' : Option ContentFormat}
    (h : Presents m links f) (h' : Presents m links f') : f = f' := by
  cases f with
  | none =>
    cases f' with
    | none => rfl
    | some f' => exact nomatch h.1.symm.trans h'.1
  | some f =>
    cases f' with
    | none => exact nomatch h.1.symm.trans h'.1
    | some f' =>
      obtain ⟨-, hformat, hwritten⟩ := h
      obtain ⟨-, hformat', hwritten'⟩ := h'
      -- the numbers are read back from the values of the option
      have hvalue : OptionValue.ofUInt f.number.toUInt32 = OptionValue.ofUInt f'.number.toUInt32 :=
        List.singleton_inj.mp (Option.some.inj (hformat.symm.trans hformat'))
      have hread := congrArg OptionValue.toUInt? hvalue
      rw [OptionValue.toUInt?_ofUInt, OptionValue.toUInt?_ofUInt] at hread
      have hnumber : f.number = f'.number := UInt16.toUInt32_inj.mp (Option.some.inj hread)
      rw [← ofNumber_number_of_written? hwritten, hnumber, ofNumber_number_of_written? hwritten']

/-- A message presents links by its code, its payload and its Content-Format alone. -/
theorem Presents.congr {m m' : Message} {links : List Link} {f : Option ContentFormat}
    (h : Presents m links f) (hcode : m'.code = m.code) (hpayload : m'.payload = m.payload)
    (hformat : m'.options.get? .contentFormat = m.options.get? .contentFormat) :
    Presents m' links f := by
  cases f with
  | none => rwa [Presents, hcode, hpayload, hformat]
  | some f => rwa [Presents, hcode, hpayload, hformat]

end Link

/-! ### The list of resources -/

namespace Handling

variable {ν : Type} {h : Handling ν} {links : List Link} {f : Option ContentFormat}

/-- An answer presents what it was given. -/
theorem presents_answer (hshaping : h.shaping = .standard) {r : Response}
    (hr : Link.Presents r.message links f) : Link.Presents (h.answer r).data.message links f := by
  refine hr.congr (h.code_answer r) (h.payload_answer r) ?_
  rw [(h.sameBut_answer hshaping r).2 .contentFormat (by decide), fitted_eq]

/-- Links are given in the format that is chosen, with the first answer. -/
theorem final?_respondLinks (h : Handling ν) (accept : Option ContentFormat) (links : List Link) :
    ∃ r, (Resource.respondLinks accept links).final? h = some (h.answer r) ∧
      r.message.code.kind = .response ∧ Link.Presents r.message links (Link.chosen? accept) := by
  have hcontent (payload : Bytes) (f : ContentFormat)
      (hwritten : Link.written? links f = some payload) :
      ∃ r, (Program.respondContent .content payload f fun _ => .done).final? h = some (h.answer r) ∧
        r.message.code.kind = .response ∧ Link.Presents r.message links (some f) := by
    refine ⟨_, rfl, rfl, rfl, ?_, hwritten⟩
    rw [Message.setContentFormat, Message.setUInt, Message.set, Options.set, OrderedMap.get?_insert,
      if_pos rfl]
  have hrefused : ∃ r, (Program.respond .badOption fun _ => .done).final? h = some (h.answer r) ∧
      r.message.code.kind = .response ∧ Link.Presents r.message links none :=
    ⟨_, rfl, rfl, rfl, rfl, rfl⟩
  cases accept with
  | none => exact hcontent _ .linkFormat rfl
  | some accept =>
    cases accept with
    | linkFormat => exact hcontent _ .linkFormat rfl
    | json => exact hcontent _ .json rfl
    | cbor => exact hcontent _ .cbor rfl
    | text => exact hrefused
    | xml => exact hrefused
    | octetStream => exact hrefused
    | exi => exact hrefused
    | other number => exact hrefused

end Handling

namespace Server

variable {ν : Type} (s : Server ν) (m : Addressed Message) (session : Option Session)
  {segments : List String} {id : ResourceId}

/-- A new GET request for the list of resources is answered in the format that is served for its first
Accept option. -/
theorem presents_served (hnew : s.dedup.find? (.ofId m) = none) (hrequest : m.data.isRequest = true)
    (hget : m.data.code = Method.get.code) (hpath : m.data.path? = some segments)
    (hfound : s.site.tree.findSegments segments = some id)
    (hcore : s.site.tree.handler? id = some .core) :
    ∃ final, (s.deliver m session).2 = some final ∧ IsAnswer m session false final ∧
      Link.Presents final.data.message (Link.select s.site.tree.walk m.data.query)
        (Link.served? (m.data.options.first? .accept)) := by
  let h := (s.handling m session).entered id
  let links := Link.select s.site.tree.walk m.data.query
  obtain ⟨e, final, first, -, hgiven⟩ := s.finalDelivery m session hnew hrequest
  rw [s.assigned?_handling m session hpath hfound hcore] at hgiven
  obtain ⟨r, hfinal, hcode, hpresents⟩ := h.final?_respondLinks m.data.accept? links
  have hprogram : (Resource.core.handler m).final? h = some (h.answer r) := by
    rw [← hfinal]
    show (Program.byMethod _ m).final? h = _
    rw [Program.byMethod, hget]
    rfl
  dsimp only at hgiven
  rw [show (Resource.core.handler m).final? ((s.handling m session).entered id) = _ from hprogram]
    at hgiven
  obtain rfl : final = h.answer r := hgiven
  rw [Link.chosen?_accept?] at hpresents
  exact ⟨_, first.reply, h.isAnswer_settled hcode, Handling.presents_answer rfl hpresents⟩

/-- **Negotiation.** A new GET request for the list of resources is answered with the links that its
query selects, in the format that is served for its first Accept option, or with 4.02 if none is. That
is what the option asks for exactly if it is understood. -/
theorem links_negotiated (hnew : s.dedup.find? (.ofId m) = none) (hrequest : m.data.isRequest = true)
    (hget : m.data.code = Method.get.code) (hpath : m.data.path? = some segments)
    (hfound : s.site.tree.findSegments segments = some id)
    (hcore : s.site.tree.handler? id = some .core) :
    let accept := m.data.options.first? .accept
    let links := Link.select s.site.tree.walk m.data.query
    ∃ final, (s.deliver m session).2 = some final ∧ IsAnswer m session false final ∧
      Link.Presents final.data.message links (Link.served? accept) ∧
      (Link.Presents final.data.message links (Link.asked? accept) ↔ Link.Understood accept) := by
  intro accept links
  obtain ⟨final, hreply, hanswer, hserved⟩ :=
    s.presents_served m session hnew hrequest hget hpath hfound hcore
  refine ⟨final, hreply, hanswer, hserved, ?_⟩
  rw [← Link.served?_eq_asked?_iff]
  exact ⟨hserved.unique, fun heq => heq ▸ hserved⟩

/-! ### A server with nothing else -/

/-- A server to whose tree nothing was added but the list of resources. -/
def library : Server Unit :=
  { patient with site := { patient.site with tree := (Tree.rooted .root).withCore.1 } }

/-- A request for the list of resources with a given Accept option. -/
def inquiry (accept : Bytes) : Addressed Message :=
  ⟨((Message.new .con Method.get.code 7 .empty).setPath ".well-known/core").set .accept accept,
    ⟨.v4 0, 5683⟩⟩

theorem first?_inquiry (accept : Bytes) :
    (inquiry accept).data.options.first? .accept = some accept := by
  simp only [inquiry, Message.set, Options.first?, Options.valuesOf, Options.set,
    OrderedMap.get?_insert, if_true]
  rfl

theorem path?_inquiry (accept : Bytes) : (inquiry accept).data.path? = some Resource.corePath := by
  have hpath : ((Message.new .con Method.get.code 7 .empty).setPath ".well-known/core").path? =
      some Resource.corePath := by
    decide +kernel
  rw [← hpath]
  simp only [inquiry, Message.path?, Message.set, Options.valuesOf, Options.set, OrderedMap.get?_insert]
  rfl

theorem findSegments_library : library.site.tree.findSegments Resource.corePath = some ⟨2, 0⟩ := by
  decide

/-- The number 60 asks for CBOR, with a leading zero or not. The number 65576 asks for nothing that is
offered, but gets what the number 40 gets. -/
theorem links_negotiated_library :
    (∃ final, (library.deliver (inquiry [0, 60]) none).2 = some final ∧
      Link.Presents final.data.message
        (Link.select library.site.tree.walk (inquiry [0, 60]).data.query) (some .cbor)) ∧
    ∃ final, (library.deliver (inquiry [1, 0, 40]) none).2 = some final ∧
      Link.Presents final.data.message
        (Link.select library.site.tree.walk (inquiry [1, 0, 40]).data.query) (some .linkFormat) := by
  have hcbor : Link.asked? (some [0, 60]) = some .cbor := by decide
  have hcut : Link.served? (some [1, 0, 40]) = some .linkFormat := by decide
  constructor
  · obtain ⟨final, hreply, -, -, hasked⟩ := links_negotiated library (inquiry [0, 60]) none rfl rfl rfl
      (path?_inquiry _) findSegments_library rfl
    rw [first?_inquiry, hcbor] at hasked
    exact ⟨final, hreply, hasked.mpr (.inl (by decide))⟩
  · obtain ⟨final, hreply, -, hserved, -⟩ := links_negotiated library (inquiry [1, 0, 40]) none rfl rfl
      rfl (path?_inquiry _) findSegments_library rfl
    rw [first?_inquiry, hcut] at hserved
    exact ⟨final, hreply, hserved⟩

/-- Not every request gets what it asks for. -/
theorem links_not_as_asked :
    ¬ ∀ (s : Server Unit) (m : Addressed Message) (session : Option Session) (segments : List String)
      (id : ResourceId), s.dedup.find? (.ofId m) = none → m.data.isRequest = true →
      m.data.code = Method.get.code → m.data.path? = some segments →
      s.site.tree.findSegments segments = some id → s.site.tree.handler? id = some .core →
      ∃ final, (s.deliver m session).2 = some final ∧
        Link.Presents final.data.message (Link.select s.site.tree.walk m.data.query)
          (Link.asked? (m.data.options.first? .accept)) := by
  intro h
  obtain ⟨final, hreply, hasked⟩ := h library (inquiry [1, 0, 40]) none Resource.corePath ⟨2, 0⟩ rfl rfl
    rfl (path?_inquiry _) findSegments_library rfl
  obtain ⟨_, hreply', -, hserved⟩ := presents_served library (inquiry [1, 0, 40]) none rfl rfl rfl
    (path?_inquiry _) findSegments_library rfl
  obtain rfl := Option.some.inj (hreply.symm.trans hreply')
  have hunlike := hserved.unique hasked
  rw [first?_inquiry] at hunlike
  exact absurd hunlike (by decide)

end Server

end Coap
