import FlowRules.Encoding
import FlowRules.Proofs.Layout.ReadWrite
import FlowRules.Proofs.Ron.Parsing
import FlowRules.Proofs.Text.Identifier
import FlowRules.Rules.RuleSet

/-!
# Values in RON read back

A well-formed layout whose names are names in RON writes documents that are parsed back
(`Layout.plain_write_ron`), and what the writer makes is recognised by the reader without
any extension switched on (`reader_inverts`). Together `StoredType.decode_ron` : each value
is read back from its bytes, and a set of rules also from their text by the function that
reads what was written by hand.
-/

namespace FlowRules

namespace Ron

/-! ## The trees of values -/

theorem plainItems_eq_all (vs : List Ron) : plainItems vs = vs.all plain := by
  induction vs with
  | nil => rfl
  | cons v vs ih => rw [plainItems, ih, List.all_cons]

theorem plain_nat (n : Nat) : (nat n).plain = true := by
  simp [nat, plain]

theorem plain_list {vs : List Ron} (h : ∀ v ∈ vs, v.plain = true) :
    (list vs true).plain = true := by
  rw [plain, plainItems_eq_all, Bool.true_and, List.all_eq_true]
  exact h

theorem plain_ofDict {entries : List (String × Ron)} (h : ∀ e ∈ entries, e.2.plain = true) :
    (ofDict entries).plain = true := by
  rw [ofDict, plain, Bool.true_and]
  induction entries with
  | nil => rfl
  | cons e es ih =>
    rw [List.map_cons, plainEntries, h e (List.mem_cons_self ..), Bool.true_and]
    exact ih fun e' he' => h e' (List.mem_cons_of_mem e he')

theorem plain_parens {items : List Ron} (hne : items.isEmpty = false)
    (h : ∀ v ∈ items, v.plain = true) : (tuple .nothing items true).plain = true := by
  have hall : items.all plain = true := List.all_eq_true.mpr h
  rw [plain, plainItems_eq_all, hne, hall]
  rfl

theorem plain_single {label : Label} {v : Ron} (hlabel : label.plain = true) (h : v.plain = true) :
    (tuple label [v] true).plain = true := by
  simp [plain, plainItems, hlabel, h]

theorem plain_fields {label : Label} {members : List (String × Ron)} (hlabel : label.plain = true)
    (hne : members.isEmpty = false) (h : plainMembers members = true) :
    (fields label members true).plain = true := by
  simp [plain, hlabel, hne, h]

theorem plainMembers_cons {name : String} {v : Ron} {members : List (String × Ron)}
    (hname : isName name = true) (hv : v.plain = true) (h : plainMembers members = true) :
    plainMembers ((name, v) :: members) = true := by
  simp [plainMembers, hname, hv, h]

end Ron

/-- Every field is written, also one that is absent. -/
theorem Fields.names_write_ron : {α : Type} → (fields : Fields α) → (a : α) →
    (fields.write Ron.writer a).map Prod.fst = fields.names
  | _, .nil, _ => rfl
  | _, .needed name _ _ rest, (_, b) => congrArg (name :: ·) (Fields.names_write_ron rest b)
  | _, .optional name _ _ rest, (_, b) => congrArg (name :: ·) (Fields.names_write_ron rest b)

theorem Fields.isEmpty_write_ron {α : Type} (fields : Fields α) (a : α) :
    (fields.write Ron.writer a).isEmpty = fields.names.isEmpty := by
  rw [← Fields.names_write_ron fields a, List.isEmpty_map]

mutual

/-- Every well-formed layout writes plain documents. -/
theorem Layout.plain_write_ron : {α : Type} → (l : Layout α) → (a : α) →
    l.wellFormed Ron.isName = true → (l.write Ron.writer a).plain = true
  | _, .bool, _, _ => rfl
  | _, .word _, x, _ => Ron.plain_nat x.toNat
  | _, .prefixLen, len, _ => Ron.plain_nat len.val
  | _, .text, _, _ => rfl
  | _, .uuid, _, _ => rfl
  | _, .octets n, v, hl => by
    have hpos : 0 < n := of_decide_eq_true hl
    refine Ron.plain_parens ?_ fun v hv => ?_
    · simp [Nat.ne_of_gt hpos]
    · obtain ⟨o, -, rfl⟩ := List.mem_map.mp hv
      exact Ron.plain_nat o.toNat
  | _, .list l, as, hl => by
    refine Ron.plain_list fun v hv => ?_
    obtain ⟨a, -, rfl⟩ := List.mem_map.mp hv
    exact Layout.plain_write_ron l a hl
  | _, .dict l, entries, hl => by
    refine Ron.plain_ofDict fun m hm => ?_
    obtain ⟨e, -, rfl⟩ := List.mem_map.mp hm
    exact Layout.plain_write_ron l e.2 hl
  | _, .record _ fields, a, hl => by
    simp only [Layout.wellFormed, Bool.and_eq_true] at hl
    exact Ron.plain_fields rfl ((Fields.isEmpty_write_ron fields a).trans (by simpa using hl.1.1))
      (Fields.plain_write_ron fields a hl.2)
  | _, .choice variants, a, hl => by
    simp only [Layout.wellFormed, Bool.and_eq_true] at hl
    exact Variants.plain_write_ron variants a hl.2
  | _, .via _ parts _ l, b, hl => Layout.plain_write_ron l (parts b) hl

theorem Fields.plain_write_ron : {α : Type} → (fields : Fields α) → (a : α) →
    fields.wellFormed Ron.isName = true → Ron.plainMembers (fields.write Ron.writer a) = true
  | _, .nil, _, _ => rfl
  | _, .needed _ _ l rest, (a, b), hl => by
    simp only [Fields.wellFormed, Bool.and_eq_true] at hl
    exact Ron.plainMembers_cons hl.1.1 (Layout.plain_write_ron l a hl.1.2)
      (Fields.plain_write_ron rest b hl.2)
  | _, .optional _ _ l rest, (none, b), hl => by
    simp only [Fields.wellFormed, Bool.and_eq_true] at hl
    exact Ron.plainMembers_cons hl.1.1 rfl (Fields.plain_write_ron rest b hl.2)
  | _, .optional _ _ l rest, (some a, b), hl => by
    simp only [Fields.wellFormed, Bool.and_eq_true] at hl
    refine Ron.plainMembers_cons hl.1.1 ?_ (Fields.plain_write_ron rest b hl.2)
    exact Ron.plain_single rfl (Layout.plain_write_ron l a hl.1.2)

theorem Payload.plain_write_ron : {α : Type} → (payload : Payload α) → (a : α) → {name : String} →
    Ron.isName name = true → payload.wellFormed Ron.isName = true →
      (Ron.ofVariant name (payload.write Ron.writer a)).plain = true
  | _, .nothing, _, _, hname, _ => hname
  | _, .value l, a, _, hname, hl => Ron.plain_single hname (Layout.plain_write_ron l a hl)
  | _, .fields fields, a, _, hname, hl => by
    simp only [Payload.wellFormed, Bool.and_eq_true] at hl
    exact Ron.plain_fields hname
      ((Fields.isEmpty_write_ron fields a).trans (by simpa using hl.1.1))
      (Fields.plain_write_ron fields a hl.2)

theorem Variants.plain_write_ron : {α : Type} → (variants : Variants α) → (a : α) →
    variants.wellFormed Ron.isName = true → (variants.write Ron.writer a).plain = true
  | _, .nil, e, _ => nomatch e
  | _, .cons _ payload rest, .inl a, hl => by
    simp only [Variants.wellFormed, Bool.and_eq_true] at hl
    exact Payload.plain_write_ron payload a hl.1.1 hl.1.2
  | _, .cons _ _ rest, .inr b, hl => by
    simp only [Variants.wellFormed, Bool.and_eq_true] at hl
    exact Variants.plain_write_ron rest b hl.2

end

/-! ## What is recognised -/

namespace Ron

/-- Does the tree stand at the place, with all its parentheses its own? -/
def StandsAt (p : Place) (v : Ron) : Prop := p.value = v ∧ p.shared = false

theorem own?_of_standsAt {p : Place} {v : Ron} (h : StandsAt p v) : p.own? = some v := by
  simp [Place.own?, h.1, h.2]

theorem forall₂_inner (p : Place) (steps : Nat) (vs : List Ron) :
    List.Forall₂ StandsAt (vs.map (p.inner steps)) vs :=
  List.forall₂_map_left_iff.mpr (List.forall₂_same.mpr fun _ _ => ⟨rfl, rfl⟩)

/-- The members of a value, each at its place. -/
def membersAt (p : Place) (members : List (String × Ron)) : List (String × Place) :=
  members.map fun m => (m.1, p.inner 2 m.2)

theorem membersStand_membersAt (p : Place) (members : List (String × Ron)) :
    MembersStand StandsAt (membersAt p members) members :=
  List.forall₂_map_left_iff.mpr (List.forall₂_same.mpr fun _ _ => ⟨rfl, rfl, rfl⟩)

theorem parts_hold (p : Place) (members : List (String × Ron)) :
    (p.parts members true).Hold StandsAt members := by
  refine ⟨membersAt p members, members, ?_, membersStand_membersAt p members, .refl _⟩
  simp [Place.parts, Entries.ofMembers, membersAt]

/-- The reader recognises what the writer makes. -/
theorem reader_inverts : (reader {}).Inverts writer StandsAt where
  bool := by
    intro p b hp
    simp only [reader, Place.bool?, own?_of_standsAt hp, writer]
  nat := by
    intro p n bits hp
    simp [reader, Place.natural?, own?_of_standsAt hp, writer, nat]
  text := by
    intro p s hp
    simp only [reader, Place.text?, own?_of_standsAt hp, writer]
  uuid := by
    intro p bits hp
    simp only [reader, Place.text?, own?_of_standsAt hp, writer, Option.bind_some]
    exact uuid?_uuidText bits
  tuple := by
    intro p vs hp
    refine ⟨{ values := vs.map (p.inner 2) }, ?_, rfl, forall₂_inner p 2 vs⟩
    simp [reader, Place.tuple?, hp.1, writer]
  list := by
    intro p vs hp
    refine ⟨{ values := vs.map (p.inner 2) }, ?_, rfl, forall₂_inner p 2 vs⟩
    simp [reader, Place.list?, own?_of_standsAt hp, writer, ofList]
  dict := by
    intro p ms hp
    refine ⟨membersAt p ms, ?_, membersStand_membersAt p ms⟩
    simp [reader, Place.dict?, own?_of_standsAt hp, writer, ofDict, membersAt, Place.keyText?,
      Entries.ofMembers]
  record := by
    intro p ms name hp
    refine ⟨_, ?_, parts_hold p ms⟩
    simp [reader, Place.record?, hp.1, writer, Place.allowsLabel]
  absent := by
    intro p v hv hp
    obtain rfl := Option.some.inj hv
    simp [reader, Place.optional?, own?_of_standsAt hp, ofOption]
  present := by
    intro α l a
    refine ⟨_, rfl, fun {p} hp => ?_⟩
    simp only [reader, Place.optional?, own?_of_standsAt hp, ofOption]
    exact ⟨_, rfl, rfl, rfl⟩
  variant := by
    intro p name carried hp
    simp only [reader, Place.variant?, own?_of_standsAt hp, Option.bind_some, writer]
    cases carried with
    | nothing => exact ⟨_, rfl, rfl, rfl, rfl⟩
    | value v => exact ⟨_, rfl, rfl, rfl, _, rfl, rfl, rfl⟩
    | fields ms => exact ⟨_, rfl, rfl, rfl, _, rfl, parts_hold _ ms⟩

end Ron

/-! ## Documents -/

section Documents

variable {α : Type} {l : Layout α} {a : α}

/-- A value is read back from its text in RON. -/
theorem Layout.parseRon_printRon (hl : l.wellFormed Ron.isName = true) :
    l.parseRon (l.printRon a) = .ok a := by
  have hparse := Ron.parse_print (Layout.plain_write_ron l a hl)
  have hread : l.read (Ron.reader {}) { value := l.write Ron.writer a } = .ok a :=
    Layout.read_write Ron.reader_inverts l hl ⟨rfl, rfl⟩
  simp only [parseRon, printRon, hparse, recognised, hread, bind, Except.bind, ensure, if_pos]
  rfl

theorem Layout.decodeRon_encodeRon (hl : l.wellFormed Ron.isName = true) :
    l.decodeRon (l.encodeRon a) = .ok a := by
  simp only [decodeRon, encodeRon, Utf8.decode?_encode, recognised, bind, Except.bind,
    parseRon_printRon hl]

end Documents

/-- The names in the types of documents are nothing else in RON. -/
theorem StoredType.wellFormed_layout_ron (t : StoredType) :
    t.layout.wellFormed Ron.isName = true := by
  cases t <;> decide +kernel

/-- Every value is read back from its bytes in RON. A set of rules is also read back from
their text as if it were written by hand. -/
theorem StoredType.decode_ron :
    (∀ (t : StoredType) (v : t.Value),
      Encoding.ron.decode t.layout (Encoding.ron.encode t.layout v) = .ok v) ∧
    ∀ set : ConditionSet, ∃ cs,
      Utf8.decode? (Encoding.ron.encode conditionSetLayout set) = some cs ∧
        ConditionSet.ofRon cs = .ok set := by
  refine ⟨fun t v => Layout.decodeRon_encodeRon t.wellFormed_layout_ron, fun set => ?_⟩
  have hparse : conditionSetLayout.parseRon (conditionSetLayout.printRon set) = .ok set :=
    Layout.parseRon_printRon conditionSet.wellFormed_layout_ron
  refine ⟨conditionSetLayout.printRon set, Utf8.decode?_encode _, ?_⟩
  rw [ConditionSet.ofRon, hparse]
  rfl

end FlowRules
