import FlowRules.Proofs.Json.RoundTrip
import FlowRules.Proofs.Layout.Reordering
import FlowRules.Proofs.Table.Filling

/-!
# The documents that a rule is read from

A rule is written as one JSON object, but many objects are read as the rule. Its members may
stand in any order, those that say no more than the default rule may be left out, members with
unknown names may be added, and the identifiers of a set may be listed in any order and
repeatedly. `Condition.Respells` closes the members that are written under these changes. Each
of the changes keeps what is read (`Condition.Respells.read`), because a field of the record
finds the same afterwards. No object is read in which a field is given twice
(`Condition.rejects_repeated`).

Nor does it matter how the object is spelled. So any text of such an object is read as the
rule, and the text that is written of it again is the one that is written of the rule
(`Condition.decode_respelled`).
-/

namespace FlowRules

/-! ## Lists of identifiers -/

section

variable {ε α β : Type} {f : α → Except ε β}

theorem mem_of_mapM_eq_ok {as : List α} {bs : List β} (h : as.mapM f = .ok bs) :
    (∀ a ∈ as, ∃ b, f a = .ok b) ∧ ∀ b, b ∈ bs ↔ ∃ a ∈ as, f a = .ok b := by
  induction as generalizing bs with
  | nil =>
    cases h
    simp
  | cons a as ih =>
    rw [List.mapM_cons] at h
    cases ha : f a with
    | error e => simp [ha, bind, Except.bind] at h
    | ok b =>
      cases has : as.mapM f with
      | error e => simp [ha, has, bind, Except.bind] at h
      | ok bs' =>
        obtain rfl : b :: bs' = bs := by
          simpa [ha, has, bind, Except.bind, pure, Except.pure] using h
        obtain ⟨hall, hmem⟩ := ih has
        refine ⟨List.forall_mem_cons.mpr ⟨⟨b, ha⟩, hall⟩, fun b' => ?_⟩
        simp [hmem, ha, eq_comm]

theorem exists_mapM_eq_ok {as : List α} (h : ∀ a ∈ as, ∃ b, f a = .ok b) :
    ∃ bs, as.mapM f = .ok bs := by
  induction as with
  | nil => exact ⟨[], rfl⟩
  | cons a as ih =>
    obtain ⟨⟨b, hb⟩, has⟩ := List.forall_mem_cons.mp h
    obtain ⟨bs, hbs⟩ := ih has
    exact ⟨b :: bs, by rw [List.mapM_cons, hb, hbs]; rfl⟩

end

namespace Id

variable {kind : Entity} {vs vs' : List Json}

theorem read_setLayout (vs : List Json) :
    (setLayout : Layout (KeySet (Id kind))).read Json.reader (.list vs) =
      (vs.mapM ((layout : Layout (Id kind)).read Json.reader)).map KeySet.ofList := by
  have hitems : Json.reader.list? (.list vs) = some { values := vs } := rfl
  simp only [setLayout, Layout.read, hitems, recognised, bind, Except.bind, ensure, if_pos]
  cases vs.mapM ((layout : Layout (Id kind)).read Json.reader) <;> rfl

/-- A set of identifiers may be listed in any order, and with repetitions. -/
theorem read_relisted (h : ∀ v, v ∈ vs ↔ v ∈ vs') {set : KeySet (Id kind)}
    (hread : setLayout.read Json.reader (.list vs) = .ok set) :
    setLayout.read Json.reader (.list vs') = .ok set := by
  rw [read_setLayout] at hread ⊢
  cases hids : vs.mapM ((layout : Layout (Id kind)).read Json.reader) with
  | error e =>
    rw [hids] at hread
    exact absurd hread (by simp [Except.map])
  | ok ids =>
    obtain ⟨hall, hmem⟩ := mem_of_mapM_eq_ok hids
    obtain ⟨ids', hids'⟩ := exists_mapM_eq_ok fun v hv => hall v ((h v).mpr hv)
    obtain ⟨-, hmem'⟩ := mem_of_mapM_eq_ok hids'
    rw [hids] at hread
    rw [hids', ← hread]
    exact congrArg Except.ok (KeySet.ofList_congr fun id => by simp only [hmem, hmem', h])

theorem readOptional_list {α : Type} (read : Json → Except DecodeError α) (vs : List Json) :
    Json.reader.readOptional read (.list vs) = (read (.list vs)).map some := by
  have hpresent : Json.reader.optional? (.list vs) = some (some (.list vs, true)) := rfl
  simp only [DataReader.readOptional, hpresent, recognised, bind, Except.bind, ensure, if_pos]
  cases read (.list vs) <;> rfl

theorem readOptional_relisted (h : ∀ v, v ∈ vs ↔ v ∈ vs') {o : Option (KeySet (Id kind))}
    (hread : Json.reader.readOptional (setLayout.read Json.reader) (.list vs) = .ok o) :
    Json.reader.readOptional (setLayout.read Json.reader) (.list vs') = .ok o := by
  rw [readOptional_list] at hread ⊢
  cases hset : (setLayout : Layout (KeySet (Id kind))).read Json.reader (.list vs) with
  | error e =>
    rw [hset] at hread
    exact absurd hread (by simp [Except.map])
  | ok set => rwa [read_relisted h hset, ← hset]

end Id

/-! ## Types that are stored as records -/

/-- A layout as that of the record which the values are stored as. -/
structure Layout.AsRecord {β : Type} (l : Layout β) where
  {α : Type}
  name : String
  fields : Fields α
  make : α → β
  parts : β → α
  make_parts : ∀ b, make (parts b) = b
  eq_via : l = .via make parts make_parts (.record name fields)

theorem Layout.AsRecord.ofJson_object {β : Type} {l : Layout β} (record : l.AsRecord)
    (ms : List (Option String × Json)) (closed : Bool) :
    l.ofJson (.object ms closed) =
      (record.fields.read Json.reader (.named { values := ms, closed })).map record.make := by
  obtain ⟨name, fields, make, parts, make_parts, rfl⟩ := record
  rw [ofJson, read, read]
  rfl

namespace Condition

/-- A rule as the record of its fields. -/
def asRecord : layout.AsRecord := ⟨_, _, _, _, _, rfl⟩

/-- The names of the members that are not skipped. -/
def fieldNames : List String := asRecord.fields.names

/-- The members of the object that is written of a rule, in order. -/
def members (c : Condition) : List (String × Json) :=
  asRecord.fields.write Json.writer (asRecord.parts c)

/-- The default rule has every field written out. -/
theorem members_matchAny : matchAny.members = [("conjunction_inv", .bool false),
    ("in_port_ids", .null), ("in_port_inv", .bool false),
    ("out_port_ids", .null), ("out_port_inv", .bool false),
    ("port_group", .null), ("port_group_inv", .bool false),
    ("nw_tos", .null), ("nw_tos_inv", .bool false),
    ("nw_proto", .null), ("nw_proto_inv", .bool false),
    ("nw_src_ip", .null), ("nw_src_inv", .bool false),
    ("nw_dst_ip", .null), ("nw_dst_inv", .bool false),
    ("tp_src_start", .nat 0), ("tp_src_end", .nat 65535), ("tp_src_inv", .bool false),
    ("tp_dst_start", .nat 0), ("tp_dst_end", .nat 65535), ("tp_dst_inv", .bool false),
    ("match_forward_flow", .bool false), ("match_return_flow", .bool false)] := rfl

theorem nodup_fieldNames : fieldNames.Nodup := by decide +kernel

theorem wellFormed_fields : asRecord.fields.wellFormed (fun _ => true) = true := by
  decide +kernel

theorem isDefault_matchAny : asRecord.fields.IsDefault (asRecord.parts matchAny) := by
  simp [asRecord, Fields.IsDefault, Fields.flag, Fields.clause, Fields.portClause, matchAny]

/-- A set of ports is read under each of these names. -/
theorem mem_slots_of_ids {name : String} (h : name = "in_port_ids" ∨ name = "out_port_ids") :
    ⟨Option (KeySet PortId), name, some none,
      Json.reader.readOptional (Id.setLayout.read Json.reader)⟩ ∈
        asRecord.fields.slots Json.reader := by
  rcases h with rfl | rfl
  · exact .tail _ <| .head _
  · exact .tail _ <| .tail _ <| .tail _ <| .head _

/-! ## Other members of the same rule -/

/-- The members that are written of a rule, listed in another way. Nothing but the default is
left out, and nothing that is inserted has the name of a field. -/
inductive Respells (c : Condition) : List (String × Json) → Prop
  | written : Respells c c.members
  | reordered {ms ms' : List (String × Json)} : Respells c ms → ms.Perm ms' → Respells c ms'
  | leftOut {m : String × Json} {ms : List (String × Json)} :
    Respells c (m :: ms) → m ∈ matchAny.members → Respells c ms
  | inserted {name : String} {v : Json} {ms : List (String × Json)} :
    Respells c ms → name ∉ fieldNames → v.wellFormed = true → Respells c ((name, v) :: ms)
  | relisted {name : String} {ids ids' : List Json} {ms : List (String × Json)} :
    Respells c ((name, .list ids) :: ms) → name = "in_port_ids" ∨ name = "out_port_ids" →
    (∀ id, id ∈ ids ↔ id ∈ ids') → Respells c ((name, .list ids') :: ms)

namespace Respells

variable {c : Condition} {ms : List (String × Json)}

/-- Each change keeps what is read. -/
theorem read (h : c.Respells ms) :
    asRecord.fields.read Json.reader (.named (.ofMembers ms)) = .ok (asRecord.parts c) := by
  induction h with
  | written =>
    exact Fields.read_write Json.reader_inverts _ nodup_fieldNames wellFormed_fields
      (Json.hold_ofMembers c.members)
  | reordered _ hperm ih => exact Fields.read_perm ih hperm
  | leftOut _ hm ih =>
    obtain ⟨s, hs, hname, hv⟩ := Fields.exists_slot_of_default Json.reader_inverts _
      wellFormed_fields isDefault_matchAny _ hm _ rfl
    exact Fields.read_tail nodup_fieldNames hs hv (hname ▸ ih)
  | inserted _ hname hv ih => exact Fields.read_cons_of_notMem ih hname hv
  | relisted _ hname hids ih =>
    exact Fields.read_replaced nodup_fieldNames (mem_slots_of_ids hname)
      (fun _ => Id.readOptional_relisted hids) ih

theorem ofJson (h : c.Respells ms) : layout.ofJson (.dict ms) = .ok c := by
  rw [Json.dict, asRecord.ofJson_object]
  exact (congrArg (Except.map asRecord.make) h.read).trans (congrArg _ (asRecord.make_parts c))

/-- The members of the default rule may be left out wherever they stand. -/
theorem filter (h : c.Respells ms) (keep : String → Bool)
    (hdefault : ∀ m ∈ ms, keep m.1 = false → m ∈ matchAny.members) :
    c.Respells (ms.filter fun m => keep m.1) := by
  have hfront : ∀ front back : List (String × Json), (∀ m ∈ front, m ∈ matchAny.members) →
      c.Respells (front ++ back) → c.Respells back := by
    intro front back hfront hall
    induction front with
    | nil => exact hall
    | cons m front ih =>
      obtain ⟨hm, hfront⟩ := List.forall_mem_cons.mp hfront
      exact ih hfront (hall.leftOut hm)
  refine hfront (ms.filter fun m => !keep m.1) _ (fun m hm => ?_) (h.reordered ?_)
  · obtain ⟨hm, hkeep⟩ := List.mem_filter.mp hm
    exact hdefault m hm (by simpa using hkeep)
  · exact (List.filter_append_perm (fun m => !keep m.1) ms).symm.trans (by simp)

end Respells

/-- No object is read in which a field is given twice. -/
theorem rejects_repeated {ms : List (Option String × Json)} {closed : Bool} {name : String}
    (hname : name ∈ fieldNames) (hcount : 2 ≤ (ms.map Prod.fst).count (some name)) :
    ∃ e, layout.ofJson (.object ms closed) = .error e := by
  have hread : ∃ e, asRecord.fields.read Json.reader (.named { values := ms, closed }) =
      .error e := asRecord.fields.read_repeated hname hcount
  obtain ⟨e, he⟩ := hread
  exact ⟨e, by rw [asRecord.ofJson_object, he]; rfl⟩

/-! ## Texts of a rule -/

/-- What is written of a rule is one of the texts of its members. From every text of members
that say the same the rule is read, and written again it gives that one text. A text of an
object that gives a field twice, among whatever other members, is rejected. -/
theorem decode_respelled (c : Condition) :
    (∃ text : Json.Spelling, text.bytes = Encoding.json.encode layout c ∧
      text.content = .dict c.members) ∧
    (∀ (text : Json.Spelling) (ms : List (String × Json)), text.content = .dict ms →
      c.Respells ms →
      Encoding.json.decode layout text.bytes = .ok c ∧
      (Encoding.json.decode layout text.bytes).map (Encoding.json.encode layout) =
        .ok (Encoding.json.encode layout c)) ∧
    ∀ (text : Json.Spelling) (ms : List (Option String × Json)) (name : String),
      text.content = .object ms true → name ∈ fieldNames →
      2 ≤ (ms.map Prod.fst).count (some name) →
      ∃ e, Encoding.json.decode layout text.bytes = .error e := by
  refine ⟨⟨_, layout.spelling_toJson c⟩, fun text ms hcontent hms => ?_,
    fun text ms name hcontent hname hcount => ?_⟩
  · have hdecode : Encoding.json.decode layout text.bytes = .ok c := by
      rw [Encoding.decode, layout.decodeJson_bytes, hcontent, hms.ofJson]
    exact ⟨hdecode, congrArg _ hdecode⟩
  · rw [Encoding.decode, layout.decodeJson_bytes, hcontent]
    exact rejects_repeated hname hcount

/-- A rule for two ports and a type of service. -/
def samplePortRule : Condition :=
  { inPorts := ⟨some (KeySet.ofList [⟨1⟩, ⟨2⟩]), false⟩, tos := ⟨some 16, false⟩ }

/-- A number with everything that a number can have, and an object with a name that is half of
a surrogate pair. -/
def sampleNote : Json.Spelling :=
  .array [.space] [
    .number { negative := true, whole := 1,
              fraction := some ⟨⟨5, by decide⟩, [⟨0, by decide⟩]⟩,
              exponent := some ⟨true, some false, ⟨⟨3, by decide⟩, []⟩⟩ },
    .object [] [({ parts := [.unit ⟨⟨0xD, by decide⟩, true⟩ ⟨⟨8, by decide⟩, false⟩
                                   ⟨⟨0, by decide⟩, false⟩ ⟨⟨0, by decide⟩, false⟩] },
      .padded [.tab] (.string [.escaped .quote]) [.carriageReturn])]]

/-- The text of an object for the rule, with the note under the name. -/
def sampleText (name : String) : Json.Spelling :=
  let port (id : PortId) : Json.Spelling := .string (Json.printedParts id.text)
  .padded [.lineFeed] (.object [.space] [
    ({ parts := Json.printedParts "nw_tos", after := [.space] }, .number { whole := 16 }),
    ({ parts := Json.printedParts name }, sampleNote),
    ({ before := [.lineFeed], parts := Json.printedParts "in_port_ids" },
      .array [] [port ⟨2⟩, port ⟨1⟩, port ⟨2⟩])]) []

/-- The ports in a document. -/
def portTexts (ids : List PortId) : Json := .list (ids.map fun id => .text id.text)

def sampleMembers (name : String) : List (String × Json) :=
  [("nw_tos", .nat 16), (name, sampleNote.content), ("in_port_ids", portTexts [⟨2⟩, ⟨1⟩, ⟨2⟩])]

theorem content_sampleText (name : String) :
    (sampleText name).content = .dict (sampleMembers name) := by
  simp [sampleText, sampleMembers, portTexts, Json.Spelling.content, Json.Spelling.itemsContent,
    Json.Spelling.membersContent, Json.stringContent_printedParts, Json.NumberSpelling.content,
    Json.NumberSpelling.fractionText, Json.NumberSpelling.exponentText, Json.dict, Json.list,
    Json.text, Json.nat]

theorem respells_sampleMembers : samplePortRule.Respells (sampleMembers "note") := by
  have hwritten : samplePortRule.members = ("conjunction_inv", .bool false) ::
      ("in_port_ids", portTexts [⟨1⟩, ⟨2⟩]) :: ((matchAny.members.drop 2).take 5 ++
        ("nw_tos", .nat 16) :: matchAny.members.drop 8) := rfl
  have hkept : samplePortRule.Respells
      [("in_port_ids", portTexts [⟨1⟩, ⟨2⟩]), ("nw_tos", .nat 16)] := by
    refine Respells.written.filter ["in_port_ids", "nw_tos"].contains ?_
    rw [hwritten, members_matchAny]
    simp
  have hlisted : samplePortRule.Respells
      [("in_port_ids", portTexts [⟨2⟩, ⟨1⟩, ⟨2⟩]), ("nw_tos", .nat 16)] :=
    hkept.relisted (.inl rfl) (by simp [or_comm])
  have hnamed : "note" ∉ fieldNames := by decide +kernel
  exact (hlisted.inserted hnamed sampleNote.wellFormed_content).reordered
    (List.perm_append_comm : ([_, _] ++ [_]).Perm _)

/-- The rule is read from the text with the note. If the note is named as a field is, there are
two of the name, and the text is rejected. -/
theorem sampleText_decoded :
    Encoding.json.decode layout (sampleText "note").bytes = .ok samplePortRule ∧
      ∃ e, Encoding.json.decode layout (sampleText "nw_tos").bytes = .error e :=
  ⟨((decode_respelled samplePortRule).2.1 (sampleText "note") (sampleMembers "note")
      (content_sampleText "note") respells_sampleMembers).1,
    (decode_respelled samplePortRule).2.2 (sampleText "nw_tos") _ "nw_tos"
      (content_sampleText "nw_tos") (by decide +kernel) (by decide +kernel)⟩

end Condition

end FlowRules
