import FlowRules.Encoding
import FlowRules.Proofs.Json.Parsing
import FlowRules.Proofs.Layout.ReadWrite
import FlowRules.Proofs.Text.Identifier

/-!
# Values in JSON read back

A text is read as the document that it writes, however it is spelled (`Layout.decodeJson_bytes`).
What is printed of a document in which nothing is broken off is one of its spellings : each
character of a string is a part of it (`StringPart.text_of`), and so on up to the document
(`Spelling.text_of`, `Spelling.content_of`).

Every layout writes such documents (`Layout.plain_toJson`), none of them `null`, and what
the writer makes is recognised by the reader (`reader_inverts`). Together
`StoredType.decode_json` : each value is read back from its bytes.
-/

namespace FlowRules

namespace Json

/-! ## Documents that are complete -/

mutual

/-- Is every string a text, every number whole and every bracket closed? -/
def plain : Json → Bool
  | number n => n.tail.isEmpty
  | string content => content.isSome
  | array items closed => closed && plainItems items
  | object members closed => closed && plainMembers members
  | broken => false
  | _ => true

/-- Are all items plain? -/
def plainItems : List Json → Bool
  | [] => true
  | v :: vs => v.plain && plainItems vs

/-- Do all members have names, and plain values? -/
def plainMembers : List (Option String × Json) → Bool
  | [] => true
  | (name, v) :: ms => name.isSome && v.plain && plainMembers ms

end

theorem plainItems_eq_all (vs : List Json) : plainItems vs = vs.all plain := by
  induction vs with
  | nil => rfl
  | cons v vs ih => rw [plainItems, ih, List.all_cons]

theorem plainMembers_eq_all (ms : List (Option String × Json)) :
    plainMembers ms = ms.all fun m => m.1.isSome && m.2.plain := by
  induction ms with
  | nil => rfl
  | cons m ms ih => rw [plainMembers, ih, List.all_cons]

/-! ## The spelling that is printed -/

/-- The escape that is printed for a character, if there is one. -/
def Escape.of? (c : Char) : Option Escape :=
  [quote, backslash, backspace, tab, lineFeed, formFeed, carriageReturn].find? fun e =>
    e.meaning = c

theorem Escape.meaning_of?_some {c : Char} {e : Escape} (h : of? c = some e) : e.meaning = c :=
  of_decide_eq_true (List.find?_some h :)

theorem Escape.letter_of? (c : Char) : (of? c).map letter = escapeLetter? c := by
  unfold escapeLetter?
  by_cases hquote : c = '"'
  · subst hquote
    rfl
  by_cases hslash : c = '\\'
  · subst hslash
    rfl
  rw [if_neg (not_or.mpr ⟨hquote, hslash⟩)]
  repeat' split
  all_goals first
    | (subst_vars; rfl)
    | simp_all [of?, meaning, eq_comm]

/-- A character as it is printed in a string. -/
def StringPart.of (c : Char) : StringPart :=
  match Escape.of? c with
  | some e => .escaped e
  | none =>
    if h : 0x20 ≤ c.toNat ∧ c ≠ '"' ∧ c ≠ '\\' then .plain c h
    else .unit ⟨0, false⟩ ⟨0, false⟩ ⟨.ofNat 16 (c.toNat / 16), false⟩ ⟨.ofNat 16 c.toNat, false⟩

/-- What is neither escaped by a letter nor stands for itself is a control character. -/
theorem StringPart.toNat_lt_of_not_plain {c : Char} (hnone : Escape.of? c = none)
    (h : ¬(0x20 ≤ c.toNat ∧ c ≠ '"' ∧ c ≠ '\\')) : c.toNat < 0x20 := by
  refine Nat.not_le.mp fun hle => h ⟨hle, ?_, ?_⟩
  · rintro rfl
    exact absurd hnone (by decide)
  · rintro rfl
    exact absurd hnone (by decide)

theorem StringPart.text_of (c : Char) : (of c).text = escapeChar c := by
  unfold escapeChar of
  rw [← Escape.letter_of? c]
  cases hnone : Escape.of? c with
  | some e => simp only [Option.map_some, text]
  | none =>
    by_cases h : 0x20 ≤ c.toNat ∧ c ≠ '"' ∧ c ≠ '\\'
    · simp only [dif_pos h, Option.map_none, if_neg (Nat.not_lt.mpr h.1), text]
    · have hdigits : ∀ n < 0x20, hexDigits 4 n =
          ['0', '0', (HexDigit.mk (.ofNat 16 (n / 16)) false).char,
            (HexDigit.mk (.ofNat 16 n) false).char] := by
        decide
      have hlt := toNat_lt_of_not_plain hnone h
      simp only [dif_neg h, Option.map_none, if_pos hlt, hdigits _ hlt, text]
      rfl

/-- The parts of a character are the bytes of the character. -/
theorem StringPart.bytes?_of (c : Char) (ps : List StringPiece) :
    StringPiece.bytes? ((of c).pieces ++ ps) =
      (StringPiece.bytes? ps).map (Utf8.encode [c] ++ ·) := by
  unfold of
  cases hnone : Escape.of? c with
  | some e =>
    have hascii : e.meaning.toNat < 128 := by cases e <;> decide
    rw [← Escape.meaning_of?_some hnone, encode_ascii hascii]
    rfl
  | none =>
    by_cases h : 0x20 ≤ c.toNat ∧ c ≠ '"' ∧ c ≠ '\\'
    · simp only [dif_pos h, pieces]
      induction Utf8.encode [c] with
      | nil => simp
      | cons b bs ih =>
        rw [List.map_cons, List.cons_append, StringPiece.bytes?, ih]
        cases StringPiece.bytes? ps <;> rfl
    · have hlt := toNat_lt_of_not_plain hnone h
      have hvalue : ((0 * 16 + 0) * 16 + c.toNat / 16 % 16) * 16 + c.toNat % 16 = c.toNat := by
        omega
      have hhigh : StringPiece.isHigh c.toNat = false := by
        simp [StringPiece.isHigh]
        omega
      have hlow : StringPiece.isLow c.toNat = false := by
        simp [StringPiece.isLow]
        omega
      simp only [dif_neg h, pieces, Fin.val_ofNat, Fin.val_zero, hvalue]
      rw [List.singleton_append, StringPiece.bytes?.eq_def]
      simp [hhigh, hlow]

/-- A text as it is printed. -/
def printedParts (s : String) : List StringPart := s.toList.map .of

theorem stringText_printedParts (s : String) : stringText (printedParts s) = printString s := by
  have htext : StringPart.text ∘ StringPart.of = escapeChar := funext StringPart.text_of
  rw [stringText, printedParts, List.flatMap_map, printString, ← htext]
  rfl

theorem stringContent_printedParts (s : String) : stringContent (printedParts s) = some s := by
  have hbytes : ∀ cs : List Char,
      StringPiece.bytes? ((cs.map StringPart.of).flatMap StringPart.pieces) =
        some (Utf8.encode cs) := by
    intro cs
    induction cs with
    | nil => rfl
    | cons c cs ih =>
      rw [List.map_cons, List.flatMap_cons, StringPart.bytes?_of, ih, Option.map_some,
        ← encode_cons]
  rw [stringContent, StringPiece.text?, printedParts, hbytes]
  exact Utf8.toString?_ofString s

namespace Spelling

mutual

/-- The spelling that is printed of a plain document. -/
def of : Json → Spelling
  | .bool b => .bool b
  | .number n => .number { negative := n.negative, whole := n.whole }
  | .string s => .string (printedParts (s.getD ""))
  | .array items _ => .array [] (ofItems items)
  | .object members _ => .object [] (ofMembers members)
  | _ => .null

def ofItems : List Json → List Spelling
  | [] => []
  | v :: vs => of v :: ofItems vs

def ofMembers : List (Option String × Json) → List (NameSpelling × Spelling)
  | [] => []
  | (name, v) :: ms => ({ parts := printedParts (name.getD "") }, of v) :: ofMembers ms

end

mutual

theorem text_of : (v : Json) → v.plain = true → (of v).text = v.print
  | .null, _ => rfl
  | .bool true, _ => rfl
  | .bool false, _ => rfl
  | .number ⟨negative, n, []⟩, _ => by
    simp [of, text, print, printNumber, NumberSpelling.text, NumberSpelling.fractionText,
      NumberSpelling.exponentText]
  | .number ⟨_, _, _ :: _⟩, hv => by simp [plain] at hv
  | .string s, _ => stringText_printedParts _
  | .array items true, hv => by
    simp only [plain, Bool.true_and] at hv
    rw [of, text, print, (text_ofItems items hv).1]
    rfl
  | .array _ false, hv => by simp [plain] at hv
  | .object members true, hv => by
    simp only [plain, Bool.true_and] at hv
    rw [of, text, print, (text_ofMembers members hv).1]
    rfl
  | .object _ false, hv => by simp [plain] at hv
  | .broken, hv => by simp [plain] at hv

theorem text_ofItems : (vs : List Json) → plainItems vs = true →
    itemsText (ofItems vs) = printItems vs ∧ moreItemsText (ofItems vs) = printMoreItems vs
  | [], _ => ⟨rfl, rfl⟩
  | v :: vs, hvs => by
    simp only [plainItems, Bool.and_eq_true] at hvs
    obtain ⟨-, hmore⟩ := text_ofItems vs hvs.2
    simp [ofItems, itemsText, moreItemsText, printItems, printMoreItems, text_of v hvs.1, hmore]

theorem text_ofMembers : (ms : List (Option String × Json)) → plainMembers ms = true →
    membersText (ofMembers ms) = printMembers ms ∧
      moreMembersText (ofMembers ms) = printMoreMembers ms
  | [], _ => ⟨rfl, rfl⟩
  | (name, v) :: ms, hms => by
    simp only [plainMembers, Bool.and_eq_true] at hms
    obtain ⟨-, hmore⟩ := text_ofMembers ms hms.2
    simp only [ofMembers, membersText, moreMembersText, printMembers, printMoreMembers,
      NameSpelling.text, stringText_printedParts, text_of v hms.1.2, hmore]
    simp

end

mutual

theorem content_of : (v : Json) → v.plain = true → (of v).content = v
  | .null, _ => rfl
  | .bool _, _ => rfl
  | .number ⟨negative, n, []⟩, _ => rfl
  | .number ⟨_, _, _ :: _⟩, hv => by simp [plain] at hv
  | .string (some s), _ => congrArg Json.string (stringContent_printedParts s)
  | .string none, hv => by simp [plain] at hv
  | .array items true, hv => by
    simp only [plain, Bool.true_and] at hv
    rw [of, content, content_ofItems items hv]
  | .array _ false, hv => by simp [plain] at hv
  | .object members true, hv => by
    simp only [plain, Bool.true_and] at hv
    rw [of, content, content_ofMembers members hv]
  | .object _ false, hv => by simp [plain] at hv
  | .broken, hv => by simp [plain] at hv

theorem content_ofItems : (vs : List Json) → plainItems vs = true →
    itemsContent (ofItems vs) = vs
  | [], _ => rfl
  | v :: vs, hvs => by
    simp only [plainItems, Bool.and_eq_true] at hvs
    rw [ofItems, itemsContent, content_of v hvs.1, content_ofItems vs hvs.2]

theorem content_ofMembers : (ms : List (Option String × Json)) → plainMembers ms = true →
    membersContent (ofMembers ms) = ms
  | [], _ => rfl
  | (none, v) :: ms, hms => by simp [plainMembers] at hms
  | (some name, v) :: ms, hms => by
    simp only [plainMembers, Bool.and_eq_true] at hms
    rw [ofMembers, membersContent, content_of v hms.1.2, content_ofMembers ms hms.2,
      Option.getD_some, stringContent_printedParts]

end

end Spelling

/-! ## The trees of values -/

/-- Is what a variant carries plain? -/
def plainCarried : Carried Json → Bool
  | .nothing => true
  | .value v => v.plain
  | .fields members => (dict members).plain

theorem plain_list {vs : List Json} (h : ∀ v ∈ vs, v.plain = true) : (list vs).plain = true := by
  rw [list, plain, plainItems_eq_all, Bool.true_and, List.all_eq_true]
  exact h

theorem plain_dict {members : List (String × Json)} (h : ∀ m ∈ members, m.2.plain = true) :
    (dict members).plain = true := by
  rw [dict, plain, plainMembers_eq_all, Bool.true_and, List.all_eq_true]
  intro m hm
  obtain ⟨m', hm', rfl⟩ := List.mem_map.mp hm
  exact h m' hm'

theorem plain_ofVariant {name : String} {carried : Carried Json}
    (h : plainCarried carried = true) : (ofVariant name carried).plain = true := by
  cases carried with
  | nothing => rfl
  | value v => exact plain_dict fun m hm => by rw [List.mem_singleton.mp hm]; exact h
  | fields members => exact plain_dict fun m hm => by rw [List.mem_singleton.mp hm]; exact h

end Json

open Json in
mutual

theorem Layout.plain_toJson : {α : Type} → (l : Layout α) → (a : α) →
    (l.toJson a).plain = true ∧ (l.toJson a).isNull = false
  | _, .bool, _ => ⟨rfl, rfl⟩
  | _, .word _, _ => ⟨rfl, rfl⟩
  | _, .prefixLen, _ => ⟨rfl, rfl⟩
  | _, .text, _ => ⟨rfl, rfl⟩
  | _, .uuid, _ => ⟨rfl, rfl⟩
  | _, .octets _, v => by
    refine ⟨plain_list fun v hv => ?_, rfl⟩
    obtain ⟨o, -, rfl⟩ := List.mem_map.mp hv
    rfl
  | _, .list l, as => by
    refine ⟨plain_list fun v hv => ?_, rfl⟩
    obtain ⟨a, -, rfl⟩ := List.mem_map.mp hv
    exact (Layout.plain_toJson l a).1
  | _, .dict l, entries => by
    refine ⟨plain_dict fun m hm => ?_, rfl⟩
    obtain ⟨e, -, rfl⟩ := List.mem_map.mp hm
    exact (Layout.plain_toJson l e.2).1
  | _, .record _ fields, a => ⟨plain_dict (Fields.plain_write fields a), rfl⟩
  | _, .choice variants, a => Variants.plain_write variants a
  | _, .via _ parts _ l, b => Layout.plain_toJson l (parts b)

theorem Fields.plain_write : {α : Type} → (fields : Fields α) → (a : α) →
    ∀ m ∈ fields.write Json.writer a, m.2.plain = true
  | _, .nil, _, m, hm => absurd hm List.not_mem_nil
  | _, .needed _ _ l rest, (a, b), m, hm => by
    rw [Fields.write, List.mem_cons] at hm
    rcases hm with rfl | hm
    · exact (Layout.plain_toJson l a).1
    · exact Fields.plain_write rest b m hm
  | _, .optional _ _ l rest, (none, b), m, hm => by
    rw [Fields.write, List.mem_append] at hm
    rcases hm with hm | hm
    · rw [List.mem_singleton.mp hm]
      rfl
    · exact Fields.plain_write rest b m hm
  | _, .optional _ _ l rest, (some a, b), m, hm => by
    rw [Fields.write, List.mem_append] at hm
    rcases hm with hm | hm
    · rw [List.mem_singleton.mp hm]
      exact (Layout.plain_toJson l a).1
    · exact Fields.plain_write rest b m hm

theorem Payload.plain_write : {α : Type} → (payload : Payload α) → (a : α) →
    plainCarried (payload.write Json.writer a) = true
  | _, .nothing, _ => rfl
  | _, .value l, a => (Layout.plain_toJson l a).1
  | _, .fields fields, a => plain_dict (Fields.plain_write fields a)

theorem Variants.plain_write : {α : Type} → (variants : Variants α) → (a : α) →
    (variants.write Json.writer a).plain = true ∧ (variants.write Json.writer a).isNull = false
  | _, .nil, e => nomatch e
  | _, .cons name payload rest, .inl a => by
    refine ⟨plain_ofVariant (Payload.plain_write payload a), ?_⟩
    simp only [Variants.write, Json.writer]
    cases payload.write _ a <;> rfl
  | _, .cons _ _ rest, .inr b => Variants.plain_write rest b

end

/-! ## What is recognised -/

namespace Json

theorem membersStand_eq (ms : List (String × Json)) : MembersStand (· = ·) ms ms :=
  List.forall₂_same.mpr fun _ _ => ⟨rfl, rfl⟩

theorem parts?_dict (members : List (String × Json)) :
    (dict members).parts? = some (.named (.ofMembers members)) := rfl

theorem hold_ofMembers (members : List (String × Json)) :
    (Parts.named (.ofMembers members)).Hold (· = ·) members :=
  ⟨members, members, rfl, membersStand_eq members, .refl _⟩

theorem optional?_of_not_null {v : Json} (h : v.isNull = false) : v.optional? = some (v, true) := by
  cases v with
  | null => exact absurd h (by decide)
  | _ => rfl

/-- The reader recognises what the writer makes. -/
theorem reader_inverts : reader.Inverts writer (· = ·) where
  bool := by
    rintro _ b rfl
    rfl
  nat := by
    rintro _ n - rfl
    rfl
  text := by
    rintro _ s rfl
    rfl
  uuid := by
    rintro _ bits rfl
    simp only [reader, writer, text, text?, Option.bind_some]
    exact uuid?_uuidText bits
  tuple := by
    rintro _ vs rfl
    exact ⟨{ values := vs }, rfl, rfl, List.forall₂_same.mpr fun _ _ => rfl⟩
  list := by
    rintro _ vs rfl
    exact ⟨{ values := vs }, rfl, rfl, List.forall₂_same.mpr fun _ _ => rfl⟩
  dict := by
    rintro _ ms rfl
    exact ⟨ms, rfl, membersStand_eq ms⟩
  record := by
    rintro _ ms - rfl
    exact ⟨_, parts?_dict ms, hold_ofMembers ms⟩
  absent := by
    rintro _ v hv rfl
    obtain rfl := Option.some.inj hv
    rfl
  present := by
    intro α l a
    refine ⟨_, rfl, ?_⟩
    rintro _ rfl
    exact ⟨_, congrArg some (optional?_of_not_null (Layout.plain_toJson l a).2), rfl⟩
  variant := by
    rintro _ name carried rfl
    cases carried with
    | nothing => exact ⟨{ name, nothing := true }, rfl, rfl, rfl, rfl⟩
    | value v => exact ⟨_, rfl, rfl, rfl, v, rfl, rfl⟩
    | fields ms => exact ⟨_, rfl, rfl, rfl, _, rfl, hold_ofMembers ms⟩

end Json

/-! ## Documents -/

/-- A text is read as the document that it writes. -/
theorem Layout.decodeJson_bytes {α : Type} (l : Layout α) (text : Json.Spelling) :
    l.decodeJson text.bytes = l.ofJson text.content := by
  simp only [decodeJson, text.parse_bytes, bind, Except.bind, ensure, if_pos]
  cases l.ofJson text.content <;> rfl

/-- What is written of a value is one of the texts of its document. -/
theorem Layout.spelling_toJson {α : Type} (l : Layout α) (a : α) :
    (Json.Spelling.of (l.toJson a)).bytes = l.encodeJson a ∧
      (Json.Spelling.of (l.toJson a)).content = l.toJson a := by
  have hplain := (Layout.plain_toJson l a).1
  exact ⟨congrArg Utf8.encode (Json.Spelling.text_of _ hplain), Json.Spelling.content_of _ hplain⟩

theorem Layout.decodeJson_encodeJson {α : Type} {l : Layout α} {good : String → Bool} {a : α}
    (hl : l.wellFormed good = true) : l.decodeJson (l.encodeJson a) = .ok a := by
  obtain ⟨hbytes, hcontent⟩ := l.spelling_toJson a
  rw [← hbytes, decodeJson_bytes, hcontent]
  exact Layout.read_write Json.reader_inverts l hl rfl

/-- Every value is read back from its bytes in JSON. -/
theorem StoredType.decode_json (t : StoredType) (v : t.Value) :
    Encoding.json.decode t.layout (Encoding.json.encode t.layout v) = .ok v :=
  Layout.decodeJson_encodeJson t.wellFormed_layout

end FlowRules
