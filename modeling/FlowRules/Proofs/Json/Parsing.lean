import FlowRules.Json.Parser
import FlowRules.Proofs.Json.Lexing

/-!
# Texts parsed

Every spelling of a document is parsed as the document, with nothing after it
(`Spelling.parse_bytes`). The parser goes through the tokens with a stack of open brackets, so
the statement behind it is about any stack : from where a value may start, the text of a value
leads to where the value is complete in the innermost bracket (`Spelling.run_text`).
-/

namespace FlowRules.Json

/-! ## Where numbers end -/

theorem endsNumber_cons {c : Char} (h : isDigit (byte c) = false ∧ byte c ≠ byte '.' ∧
    byte c ≠ byte 'e' ∧ byte c ≠ byte 'E') (bs : List UInt8) : EndsNumber (byte c :: bs) := by
  intro b hb
  obtain rfl := Option.some.inj hb
  exact h

theorem endsNumber_blanks (blanks : List Blank) {bs : List UInt8} (hbs : EndsNumber bs) :
    EndsNumber (Utf8.encode (blanks.map Blank.char) ++ bs) := by
  cases blanks with
  | nil => exact hbs
  | cons b blanks =>
    rw [List.map_cons, encode_cons_ascii b.isBlank_char.1]
    exact endsNumber_cons (by cases b <;> decide) _

theorem endsNumber_moreItems (vs : List Spelling) (bs : List UInt8) :
    EndsNumber (Utf8.encode (Spelling.moreItemsText vs) ++ byte ']' :: bs) := by
  cases vs with
  | nil => exact endsNumber_cons (by decide) bs
  | cons v vs =>
    rw [Spelling.moreItemsText, encode_cons_ascii (by decide)]
    exact endsNumber_cons (by decide) _

theorem endsNumber_moreMembers (ms : List (NameSpelling × Spelling)) (bs : List UInt8) :
    EndsNumber (Utf8.encode (Spelling.moreMembersText ms) ++ byte '\x7d' :: bs) := by
  cases ms with
  | nil => exact endsNumber_cons (by decide) bs
  | cons m ms =>
    rw [Spelling.moreMembersText, encode_cons_ascii (by decide)]
    exact endsNumber_cons (by decide) _

/-! ## Steps of the parser -/

namespace State

theorem run_cons {s s' : State} {t : Token} (h : s.next t = some s') (ts : List Token) :
    run s (t :: ts) = run s' ts := by
  cases s with
  | complete v => simp [next] at h
  | _ => simp only [run, h]

/-- In such a state a value may start, and will stand in the frames. -/
inductive Awaits : State → List Frame → Prop
  | value (frames : List Frame) : Awaits (.value frames) frames
  | firstItem (frames : List Frame) : Awaits (.firstItem frames) (.item [] :: frames)

/-- A token that starts a value does nothing else. -/
theorem Awaits.next {s s' : State} {frames : List Frame} {t : Token} (h : Awaits s frames)
    (hstart : start frames t = some s') : s.next t = some s' := by
  unfold start at hstart
  split at hstart
  -- The last case is the tokens that start no value.
  case h_7 => exact absurd hstart (by simp)
  all_goals cases h <;> exact hstart

theorem Awaits.run_cons {s s' : State} {frames : List Frame} {t : Token} (h : Awaits s frames)
    (hstart : start frames t = some s') (ts : List Token) : run s (t :: ts) = run s' ts :=
  State.run_cons (h.next hstart) ts

end State

/-! ## Runs of the parser -/

namespace Spelling

open State (run after run_cons Awaits)

mutual

/-- The text of a value leads to where the value is complete. -/
theorem run_text : (v : Spelling) → {s : State} → {frames : List Frame} → {bs : List UInt8} →
    Awaits s frames → EndsNumber bs →
      run s (lex (Utf8.encode v.text ++ bs)) = run (after v.content frames) (lex bs)
  | .null, _, _, _, hs, _ => by
    rw [text, lex_null, hs.run_cons rfl, content]
  | .bool b, _, _, _, hs, _ => by
    rw [lex_bool, hs.run_cons rfl, content]
  | .number n, _, _, _, hs, hbs => by
    rw [text, lex_number n hbs, hs.run_cons rfl, content]
  | .string parts, _, _, _, hs, _ => by
    rw [text, lex_stringText, hs.run_cons rfl, content]
  | .array inner items, _, _, _, hs, _ => by
    rw [text, lex_cons_mark (t := .openArray) (by decide) rfl, hs.run_cons rfl,
      Utf8.encode_append, List.append_assoc, lex_blanks, Utf8.encode_append, List.append_assoc,
      encode_ascii (by decide)]
    exact run_itemsText items
  | .object inner members, _, _, _, hs, _ => by
    rw [text, lex_cons_mark (t := .openObject) (by decide) rfl, hs.run_cons rfl,
      Utf8.encode_append, List.append_assoc, lex_blanks, Utf8.encode_append, List.append_assoc,
      encode_ascii (by decide)]
    exact run_membersText members
  | .padded before v after, _, _, _, hs, hbs => by
    rw [text, Utf8.encode_append, List.append_assoc, lex_blanks, Utf8.encode_append,
      List.append_assoc, run_text v hs (endsNumber_blanks after hbs), lex_blanks, content]

theorem run_itemsText : (items : List Spelling) → {frames : List Frame} → {bs : List UInt8} →
    run (.firstItem frames) (lex (Utf8.encode (itemsText items) ++ byte ']' :: bs)) =
      run (after (.array (itemsContent items) true) frames) (lex bs)
  | [], _, _ => by
    rw [itemsText, Utf8.encode, List.flatMap_nil, List.nil_append,
      lex_mark (by decide) (t := .closeArray) rfl, run_cons rfl, itemsContent]
  | v :: vs, _, bs => by
    rw [itemsText, Utf8.encode_append, List.append_assoc,
      run_text v (.firstItem _) (endsNumber_moreItems vs bs)]
    exact run_moreItemsText vs [v.content]

/-- Behind an item the others lead to where the whole array is complete. -/
theorem run_moreItemsText : (items : List Spelling) → (done : List Json) →
    {frames : List Frame} → {bs : List UInt8} →
    run (.afterItem done frames) (lex (Utf8.encode (moreItemsText items) ++ byte ']' :: bs)) =
      run (after (.array (done.reverse ++ itemsContent items) true) frames) (lex bs)
  | [], done, _, _ => by
    rw [moreItemsText, Utf8.encode, List.flatMap_nil, List.nil_append,
      lex_mark (by decide) (t := .closeArray) rfl, run_cons rfl, itemsContent, List.append_nil]
  | v :: vs, done, frames, bs => by
    have hmore : run (.afterItem (v.content :: done) frames) _ = run _ (lex bs) :=
      run_moreItemsText vs (v.content :: done)
    rw [moreItemsText, lex_cons_mark (t := .comma) (by decide) rfl, run_cons rfl,
      Utf8.encode_append, List.append_assoc,
      run_text v (.value _) (endsNumber_moreItems vs bs), after, hmore, itemsContent]
    simp

theorem run_membersText : (members : List (NameSpelling × Spelling)) → {frames : List Frame} →
    {bs : List UInt8} →
    run (.firstName frames) (lex (Utf8.encode (membersText members) ++ byte '\x7d' :: bs)) =
      run (after (.object (membersContent members) true) frames) (lex bs)
  | [], _, _ => by
    rw [membersText, Utf8.encode, List.flatMap_nil, List.nil_append,
      lex_mark (by decide) (t := .closeObject) rfl, run_cons rfl, membersContent]
  | (name, v) :: ms, frames, bs => by
    rw [membersText, lex_name, run_cons rfl, run_cons rfl, Utf8.encode_append,
      List.append_assoc, run_text v (.value _) (endsNumber_moreMembers ms bs)]
    exact run_moreMembersText ms [(stringContent name.parts, v.content)]

/-- Behind a member the others lead to where the whole object is complete. -/
theorem run_moreMembersText : (members : List (NameSpelling × Spelling)) →
    (done : List (Option String × Json)) → {frames : List Frame} → {bs : List UInt8} →
    run (.afterMember done frames)
        (lex (Utf8.encode (moreMembersText members) ++ byte '\x7d' :: bs)) =
      run (after (.object (done.reverse ++ membersContent members) true) frames) (lex bs)
  | [], done, _, _ => by
    rw [moreMembersText, Utf8.encode, List.flatMap_nil, List.nil_append,
      lex_mark (by decide) (t := .closeObject) rfl, run_cons rfl, membersContent,
      List.append_nil]
  | (name, v) :: ms, done, frames, bs => by
    have hmore : run (.afterMember ((stringContent name.parts, v.content) :: done) frames) _ =
        run _ (lex bs) :=
      run_moreMembersText ms ((stringContent name.parts, v.content) :: done)
    rw [moreMembersText, lex_cons_mark (t := .comma) (by decide) rfl, run_cons rfl, lex_name,
      run_cons rfl, run_cons rfl, Utf8.encode_append, List.append_assoc,
      run_text v (.value _) (endsNumber_moreMembers ms bs), after, hmore, membersContent]
    simp

end

/-- A document is parsed from each of its texts, with nothing after it. -/
theorem parse_bytes (v : Spelling) : parse v.bytes = (v.content, true) := by
  have hend : EndsNumber [] := fun b hb => absurd hb (by simp)
  have hrun := v.run_text (.value []) hend
  rw [List.append_nil, lex, after, run] at hrun
  simp only [parse, bytes, hrun]
  rfl

end Spelling

end FlowRules.Json
