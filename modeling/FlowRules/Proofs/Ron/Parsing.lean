import FlowRules.Proofs.Ron.Lexing

/-!
# Printed RON is parsed back

A document in which every bracket is closed, every name is a name and all parentheses hold
something is read back from its text (`parse_print`). As in JSON the statement behind it is
about any stack of what is open : from where a value may start, the text of a value leads
to where the value is complete in the innermost frame (`State.run_print`). Items in brackets
and in parentheses are read alike, so the states of both are one `State.Row`.

Parentheses with nothing between them are left out because they are a token of their own,
whatever they were printed for.
-/

namespace FlowRules

namespace Ron

/-! ## Documents that are complete -/

/-- Is what stands in front of parentheses a name, if it is anything of its own? -/
def Label.plain : Label → Bool
  | .name s => isName s
  | _ => true

mutual

/-- Is every bracket closed, every name a name, every number natural and written in full,
and something in all parentheses? -/
def plain : Ron → Bool
  | bool _ => true
  | int n exact => exact && n = { size := n.size }
  | text _ => true
  | word name => isName name
  | absent => true
  | list items closed => closed && plainItems items
  | map entries closed => closed && plainEntries entries
  | tuple label items closed => closed && label.plain && !items.isEmpty && plainItems items
  | fields label members closed =>
    closed && label.plain && !members.isEmpty && plainMembers members
  | _ => false

/-- Are all items plain? -/
def plainItems : List Ron → Bool
  | [] => true
  | v :: vs => v.plain && plainItems vs

/-- Are all keys texts and all values plain? -/
def plainEntries : List (Ron × Ron) → Bool
  | [] => true
  | (text _, v) :: es => v.plain && plainEntries es
  | _ => false

/-- Do all members have names, and plain values? -/
def plainMembers : List (String × Ron) → Bool
  | [] => true
  | (name, v) :: ms => isName name && v.plain && plainMembers ms

end

/-! ## The text in front of what follows -/

section Printed

variable (cs : List Char)

attribute [local simp] print printItems printEntries printMembers printMoreEntries
  printMoreMembers printEnd

theorem print_list (items : List Ron) :
    (list items true).print ++ cs = '[' :: (printItems items ++ ']' :: cs) := by
  simp

theorem print_map (entries : List (Ron × Ron)) :
    (map entries true).print ++ cs = '\x7b' :: (printEntries entries ++ '\x7d' :: cs) := by
  simp

theorem print_tuple (label : Label) (items : List Ron) :
    (tuple label items true).print ++ cs =
      printLabel label ++ '(' :: (printItems items ++ ')' :: cs) := by
  simp

theorem print_fields (label : Label) (members : List (String × Ron)) :
    (fields label members true).print ++ cs =
      printLabel label ++ '(' :: (printMembers members ++ ')' :: cs) := by
  simp

theorem printMembers_cons (name : String) (v : Ron) (ms : List (String × Ron)) :
    printMembers ((name, v) :: ms) ++ cs =
      name.toList ++ ':' :: (v.print ++ (printMoreMembers ms ++ cs)) := by
  simp

theorem printMoreMembers_cons (m : String × Ron) (ms : List (String × Ron)) :
    printMoreMembers (m :: ms) ++ cs = ',' :: (printMembers (m :: ms) ++ cs) := by
  simp

theorem printEntries_cons (key : String) (v : Ron) (es : List (Ron × Ron)) :
    printEntries ((text key, v) :: es) ++ cs =
      printText key ++ ':' :: (v.print ++ (printMoreEntries es ++ cs)) := by
  simp

theorem printMoreEntries_cons (e : Ron × Ron) (es : List (Ron × Ron)) :
    printMoreEntries (e :: es) ++ cs = ',' :: (printEntries (e :: es) ++ cs) := by
  simp

end Printed

/-! ## Where a value starts -/

/-- May a value start with the character, and nothing else stand there? -/
def mayStart (c : Char) : Bool := !isBlank c && c ≠ '/' && c ≠ ')' && c ≠ '#'

theorem mayStart_of_isOrdinary {c : Char} (h : isOrdinary c = true) : mayStart c = true := by
  have hparen : c ≠ ')' := by
    rintro rfl
    exact absurd h (by decide)
  have hhash : c ≠ '#' := by
    rintro rfl
    exact absurd h (by decide)
  simp only [isOrdinary, Bool.and_eq_true, decide_eq_true_iff] at h
  simp only [mayStart, Bool.and_eq_true, decide_eq_true_iff]
  exact ⟨⟨⟨h.1.1.1.1.1.1, h.1.1.1.1.1.2⟩, hparen⟩, hhash⟩

/-- Does the text start like a value? -/
def StartsValue (cs : List Char) : Prop := ∃ c ds, cs = c :: ds ∧ mayStart c = true

namespace StartsValue

theorem cons {c : Char} (hc : mayStart c = true) (cs : List Char) : StartsValue (c :: cs) :=
  ⟨c, cs, rfl, hc⟩

theorem append {cs : List Char} (h : StartsValue cs) (ds : List Char) : StartsValue (cs ++ ds) := by
  obtain ⟨c, rest, rfl, hc⟩ := h
  exact cons hc (rest ++ ds)

theorem head_ne {cs : List Char} (h : StartsValue cs) : cs.head? ≠ some ')' := by
  obtain ⟨c, rest, rfl, hc⟩ := h
  simp only [mayStart, Bool.and_eq_true, decide_eq_true_iff] at hc
  simpa using hc.1.2

/-- No attribute stands in front of a value. -/
theorem attributes {cs : List Char} (h : StartsValue cs) (e : Extensions) :
    attributes e (lex cs) = some (e, lex cs) := by
  obtain ⟨c, rest, rfl, hc⟩ := h
  simp only [mayStart, Bool.and_eq_true, Bool.not_eq_true', decide_eq_true_iff] at hc
  have hhead := head_lex hc.1.1.1 hc.1.1.2 hc.2 rest
  unfold Ron.attributes
  split
  · rename_i heq
    exact absurd (congrArg List.head? heq) hhead
  · rename_i heq
    exact absurd (congrArg List.head? heq) hhead
  · rfl

end StartsValue

theorem startsValue_name {name : String} (h : isName name = true) : StartsValue name.toList := by
  have hword := isWord_of_isName h
  unfold isWord at hword
  split at hword
  · exact absurd hword (by decide)
  · rename_i c cs heq
    simp only [startsWord, Bool.and_eq_true] at hword
    exact heq ▸ .cons (mayStart_of_isOrdinary hword.1.1) cs

theorem startsValue_label {label : Label} (h : label.plain = true) (cs : List Char) :
    StartsValue (printLabel label ++ '(' :: cs) := by
  cases label with
  | nothing => exact .cons (by decide) cs
  | some => exact .cons (c := 'S') (by decide) ("ome".toList ++ '(' :: cs)
  | name s => exact (startsValue_name h).append ('(' :: cs)

theorem printInt_nat (n : Nat) : printInt { size := n } = Nat.toDigits 10 n := by
  simp [printInt]

theorem startsValue_nat (n : Nat) : StartsValue (Nat.toDigits 10 n) := by
  cases hds : Nat.toDigits 10 n with
  | nil => exact absurd hds Nat.toDigits_ne_nil
  | cons d ds =>
    have hd := (signs_of_isDigitOf (isDigitOf_toDigits n d (by rw [hds]; simp))).1
    simp only [startsNumber, Bool.and_eq_true] at hd
    exact .cons (mayStart_of_isOrdinary hd.1.1.1.1) ds

theorem startsValue_print {v : Ron} (hv : v.plain = true) : StartsValue v.print := by
  cases v with
  | bool b => cases b <;> exact .cons (by decide) _
  | int n exact =>
    simp only [plain, Bool.and_eq_true, decide_eq_true_iff] at hv
    rw [print, hv.2, printInt_nat]
    exact startsValue_nat n.size
  | text s => exact .cons (c := '"') (by decide) _
  | word name => exact startsValue_name hv
  | absent => exact .cons (c := 'N') (by decide) _
  | list items closed => exact .cons (c := '[') (by decide) _
  | map entries closed => exact .cons (c := '\x7b') (by decide) _
  | tuple label items closed =>
    simp only [plain, Bool.and_eq_true] at hv
    rw [print, List.append_assoc]
    exact startsValue_label hv.1.1.2 _
  | fields label members closed =>
    simp only [plain, Bool.and_eq_true] at hv
    rw [print, List.append_assoc]
    exact startsValue_label hv.1.1.2 _
  | _ => exact absurd hv (by simp [plain])

theorem head_printItems {items : List Ron} (hne : items.isEmpty = false)
    (hitems : plainItems items = true) (cs : List Char) :
    (printItems items ++ cs).head? ≠ some ')' := by
  cases items with
  | nil => exact absurd hne (by decide)
  | cons v vs =>
    simp only [plainItems, Bool.and_eq_true] at hitems
    exact (((startsValue_print hitems.1).append (printMoreItems vs)).append cs).head_ne

theorem head_printMembers {members : List (String × Ron)} (hne : members.isEmpty = false)
    (hmembers : plainMembers members = true) (cs : List Char) :
    (printMembers members ++ cs).head? ≠ some ')' := by
  cases members with
  | nil => exact absurd hne (by decide)
  | cons m ms =>
    obtain ⟨name, v⟩ := m
    simp only [plainMembers, Bool.and_eq_true] at hmembers
    rw [printMembers_cons]
    exact ((startsValue_name hmembers.1.1).append _).head_ne

/-- A label with a parenthesis behind it is one token. -/
theorem tokens_printLabel {label : Label} (hlabel : label.plain = true) {cs : List Char}
    (hcs : cs.head? ≠ some ')') :
    tokens (printLabel label ++ '(' :: cs) = .paren label :: tokens cs := by
  cases label with
  | nothing => exact tokens_paren hcs
  | name s => exact tokens_label (isWord_of_isName hlabel) (label?_of_isName hlabel) hcs
  | some => exact tokens_label (by decide +kernel) (by decide +kernel) hcs

/-! ## Reading what was printed -/

namespace State

theorem run_cons {s s' : State} {t : Token} (h : s.next t = some s') (ts : List Token) :
    run s (t :: ts) = run s' ts := by
  cases s with
  | complete v => simp [next] at h
  | _ => simp only [run, h]

/-- In such a state a value may start, and will stand in the frames. -/
inductive Awaits : State → List Frame → Prop
  | value (frames : List Frame) : Awaits (.value frames) frames
  | item (done : List Ron) (frames : List Frame) :
    Awaits (.item done frames) (.item done :: frames)
  | inParen (label : Label) (frames : List Frame) :
    Awaits (.inParen label frames) (.part label [] :: frames)
  | part (label : Label) (done : List Ron) (frames : List Frame) :
    Awaits (.part label done frames) (.part label done :: frames)
  | entryKey (done : List (Ron × Ron)) (frames : List Frame) :
    Awaits (.entryKey done frames) (.entryKey done :: frames)

/-- A token that starts a value does nothing else. -/
theorem Awaits.next {s s' : State} {frames : List Frame} {t : Token} (h : Awaits s frames)
    (hstart : start frames t = some s') : s.next t = some s' := by
  unfold start at hstart
  split at hstart
  -- The last case is the tokens that start no value.
  case h_6 => exact absurd hstart (by simp)
  all_goals cases h <;> exact hstart

theorem Awaits.run_cons {s s' : State} {frames : List Frame} {t : Token} (h : Awaits s frames)
    (hstart : start frames t = some s') (ts : List Token) : run s (t :: ts) = run s' ts :=
  State.run_cons (h.next hstart) ts

/-! ### Items in a row -/

/-- A row of items, in brackets or in the parentheses behind a label. -/
inductive Row where
  | brackets
  | parens (label : Label)

namespace Row

/-- What a value in the row stands in. -/
def frame : Row → List Ron → Frame
  | brackets, done => .item done
  | parens label, done => .part label done

/-- The state behind an item. -/
def behind : Row → List Ron → List Frame → State
  | brackets, done, frames => .afterItem done frames
  | parens label, done, frames => .afterPart label done frames

/-- The state behind a comma. -/
def again : Row → List Ron → List Frame → State
  | brackets, done, frames => .item done frames
  | parens label, done, frames => .part label done frames

/-- The mark that closes the row. -/
def close : Row → Char
  | brackets => ']'
  | parens _ => ')'

/-- The row as a value. -/
def value : Row → List Ron → Ron
  | brackets, items => .list items true
  | parens label, items => .tuple label items true

variable (row : Row) (done : List Ron) (frames : List Frame)

theorem after_frame (v : Ron) :
    after v (row.frame done :: frames) = row.behind (v :: done) frames := by
  cases row <;> rfl

theorem awaits_again : Awaits (row.again done frames) (row.frame done :: frames) := by
  cases row with
  | brackets => exact .item done frames
  | parens label => exact .part label done frames

theorem next_comma : (row.behind done frames).next (.mark ',') = some (row.again done frames) := by
  cases row <;> rfl

theorem next_close : (row.behind done frames).next (.mark row.close) =
    some (after (row.value done.reverse) frames) := by
  cases row <;> rfl

theorem tokens_close (cs : List Char) :
    tokens (row.close :: cs) = .mark row.close :: tokens cs := by
  cases row with
  | brackets => exact tokens_mark (by decide) (by decide) cs
  | parens label => exact tokens_mark (c := ')') (by decide) (by decide) cs

theorem ends_printMoreItems (items : List Ron) (cs : List Char) :
    Ends (printMoreItems items ++ row.close :: cs) := by
  intro c hc
  cases items with
  | nil =>
    obtain rfl := Option.some.inj hc
    cases row <;> simp [close, endMarks]
  | cons v vs => exact Option.some.inj hc ▸ by decide

end Row

theorem ends_printMoreMembers (members : List (String × Ron)) (cs : List Char) :
    Ends (printMoreMembers members ++ ')' :: cs) := by
  intro c hc
  cases members <;> exact Option.some.inj hc ▸ by decide

theorem ends_printMoreEntries (entries : List (Ron × Ron)) (cs : List Char) :
    Ends (printMoreEntries entries ++ '\x7d' :: cs) := by
  intro c hc
  cases entries <;> exact Option.some.inj hc ▸ by decide

mutual

/-- The text of a value leads to where the value is complete. -/
theorem run_print : (v : Ron) → {s : State} → {frames : List Frame} → {cs : List Char} →
    v.plain = true → Awaits s frames → Ends cs →
      run s (tokens (v.print ++ cs)) = run (after v frames) (tokens cs)
  | .bool true, _, _, _, _, hs, hcs => by
    rw [print, tokens_value (by decide +kernel) (v := .bool true) rfl hcs,
      hs.run_cons rfl]
  | .bool false, _, _, _, _, hs, hcs => by
    rw [print, tokens_value (by decide +kernel) (v := .bool false) rfl hcs,
      hs.run_cons rfl]
  | .int n exact, _, _, _, hv, hs, hcs => by
    simp only [plain, Bool.and_eq_true, decide_eq_true_iff] at hv
    obtain ⟨rfl, hn⟩ := hv
    rw [print, hn, printInt_nat, tokens_nat n.size hcs, hs.run_cons rfl]
    rfl
  | .text s, _, _, cs, _, hs, _ => by
    rw [print, tokens_text, hs.run_cons rfl]
  | .word name, _, _, _, hv, hs, hcs => by
    rw [print, tokens_value (isWord_of_isName hv) (wordValue?_of_isName hv) hcs, hs.run_cons rfl]
  | .absent, _, _, _, _, hs, hcs => by
    rw [print, tokens_value (by decide +kernel) (v := .absent) rfl hcs, hs.run_cons rfl]
  -- Brackets may be closed at once, which a row with an item in it is not.
  | .list [] true, _, _, cs, _, hs, _ => by
    rw [print_list, printItems, List.nil_append, tokens_mark (by decide) (by decide),
      hs.run_cons rfl, tokens_mark (by decide) (by decide), run_cons rfl]
    rfl
  | .list (v :: vs) true, _, frames, cs, hv, hs, _ => by
    simp only [plain, Bool.true_and] at hv
    rw [print_list, tokens_mark (by decide) (by decide), hs.run_cons rfl]
    exact run_printItems (v :: vs) .brackets rfl hv (.item [] frames)
  | .map entries true, _, _, _, hv, hs, _ => by
    simp only [plain, Bool.true_and] at hv
    rw [print_map, tokens_mark (by decide) (by decide), hs.run_cons rfl]
    exact run_printEntries entries hv
  | .tuple label items true, _, frames, _, hv, hs, _ => by
    simp only [plain, Bool.true_and, Bool.and_eq_true, Bool.not_eq_true'] at hv
    obtain ⟨⟨hlabel, hne⟩, hitems⟩ := hv
    rw [print_tuple, tokens_printLabel hlabel (head_printItems hne hitems _), hs.run_cons rfl]
    exact run_printItems items (.parens label) hne hitems (.inParen label frames)
  | .fields label members true, _, _, _, hv, hs, _ => by
    simp only [plain, Bool.true_and, Bool.and_eq_true, Bool.not_eq_true'] at hv
    obtain ⟨⟨hlabel, hne⟩, hmembers⟩ := hv
    rw [print_fields, tokens_printLabel hlabel (head_printMembers hne hmembers _),
      hs.run_cons rfl]
    exact run_printMembers members label hne hmembers
  | .list _ false, _, _, _, hv, _, _ => absurd hv (by simp [plain])
  | .map _ false, _, _, _, hv, _, _ => absurd hv (by simp [plain])
  | .tuple _ _ false, _, _, _, hv, _, _ => absurd hv (by simp [plain])
  | .fields _ _ false, _, _, _, hv, _, _ => absurd hv (by simp [plain])
  | .literal, _, _, _, hv, _, _ => absurd hv (by simp [plain])
  | .present _, _, _, _, hv, _, _ => absurd hv (by simp [plain])
  | .unit, _, _, _, hv, _, _ => absurd hv (by simp [plain])
  | .broken, _, _, _, hv, _, _ => absurd hv (by simp [plain])

/-- The items of a row, from where the first of them may start. -/
theorem run_printItems : (items : List Ron) → (row : Row) → {s : State} → {frames : List Frame} →
    {cs : List Char} → items.isEmpty = false → plainItems items = true →
      Awaits s (row.frame [] :: frames) →
      run s (tokens (printItems items ++ row.close :: cs)) =
        run (after (row.value items) frames) (tokens cs)
  | [], _, _, _, _, hne, _, _ => absurd hne (by decide)
  | v :: vs, row, _, frames, cs, _, hvs, hs => by
    simp only [plainItems, Bool.and_eq_true] at hvs
    rw [printItems, List.append_assoc, run_print v hvs.1 hs (row.ends_printMoreItems vs cs),
      row.after_frame]
    exact run_printMoreItems vs row [v] hvs.2

/-- Behind an item the others lead to where the whole row is complete. -/
theorem run_printMoreItems : (items : List Ron) → (row : Row) → (done : List Ron) →
    {frames : List Frame} → {cs : List Char} → plainItems items = true →
      run (row.behind done frames) (tokens (printMoreItems items ++ row.close :: cs)) =
        run (after (row.value (done.reverse ++ items)) frames) (tokens cs)
  | [], row, done, frames, cs, _ => by
    rw [printMoreItems, List.nil_append, row.tokens_close, run_cons (row.next_close done frames),
      List.append_nil]
  | v :: vs, row, done, frames, cs, hvs => by
    simp only [plainItems, Bool.and_eq_true] at hvs
    have hmore : run (row.behind (v :: done) frames) _ = run _ (tokens cs) :=
      run_printMoreItems vs row (v :: done) hvs.2
    rw [printMoreItems, List.cons_append, List.cons_append, tokens_mark (by decide) (by decide),
      run_cons (row.next_comma done frames), List.append_assoc,
      run_print v hvs.1 (row.awaits_again done frames) (row.ends_printMoreItems vs cs),
      row.after_frame, hmore, List.reverse_cons, List.append_assoc, List.singleton_append]

theorem run_printMembers : (members : List (String × Ron)) → (label : Label) →
    {frames : List Frame} → {cs : List Char} → members.isEmpty = false →
      plainMembers members = true →
      run (.inParen label frames) (tokens (printMembers members ++ ')' :: cs)) =
        run (after (.fields label members true) frames) (tokens cs)
  | [], _, _, _, hne, _ => absurd hne (by decide)
  | (name, v) :: ms, label, frames, cs, _, hms => by
    simp only [plainMembers, Bool.and_eq_true] at hms
    obtain ⟨⟨hname, hv⟩, hms⟩ := hms
    rw [printMembers_cons, tokens_key (isWord_of_isName hname), run_cons rfl,
      run_print v hv (.value _) (ends_printMoreMembers ms cs)]
    exact run_printMoreMembers ms label [(name, v)] hms

theorem run_printMoreMembers : (members : List (String × Ron)) → (label : Label) →
    (done : List (String × Ron)) → {frames : List Frame} → {cs : List Char} →
      plainMembers members = true →
      run (.afterField label done frames) (tokens (printMoreMembers members ++ ')' :: cs)) =
        run (after (.fields label (done.reverse ++ members) true) frames) (tokens cs)
  | [], _, _, _, _, _ => by
    rw [printMoreMembers, List.nil_append, tokens_mark (by decide) (by decide), run_cons rfl,
      List.append_nil]
  | (name, v) :: ms, label, done, frames, cs, hms => by
    simp only [plainMembers, Bool.and_eq_true] at hms
    obtain ⟨⟨hname, hv⟩, hms⟩ := hms
    have hmore : run (.afterField label ((name, v) :: done) frames) _ = run _ (tokens cs) :=
      run_printMoreMembers ms label ((name, v) :: done) hms
    rw [printMoreMembers_cons, tokens_mark (by decide) (by decide), run_cons rfl,
      printMembers_cons, tokens_key (isWord_of_isName hname), run_cons rfl,
      run_print v hv (.value _) (ends_printMoreMembers ms cs), after, hmore, List.reverse_cons,
      List.append_assoc, List.singleton_append]

theorem run_printEntries : (entries : List (Ron × Ron)) → {frames : List Frame} →
    {cs : List Char} → plainEntries entries = true →
      run (.entryKey [] frames) (tokens (printEntries entries ++ '\x7d' :: cs)) =
        run (after (.map entries true) frames) (tokens cs)
  | [], _, _, _ => by
    rw [printEntries, List.nil_append, tokens_mark (by decide) (by decide), run_cons rfl]
    rfl
  | (.text key, v) :: es, frames, cs, hes => by
    simp only [plainEntries, Bool.and_eq_true] at hes
    rw [printEntries_cons, tokens_text, (Awaits.entryKey [] frames).run_cons rfl, after,
      tokens_mark (by decide) (by decide), run_cons rfl,
      run_print v hes.1 (.value _) (ends_printMoreEntries es cs)]
    exact run_printMoreEntries es [(.text key, v)] hes.2

theorem run_printMoreEntries : (entries done : List (Ron × Ron)) → {frames : List Frame} →
    {cs : List Char} → plainEntries entries = true →
      run (.afterEntry done frames) (tokens (printMoreEntries entries ++ '\x7d' :: cs)) =
        run (after (.map (done.reverse ++ entries) true) frames) (tokens cs)
  | [], _, _, _, _ => by
    rw [printMoreEntries, List.nil_append, tokens_mark (by decide) (by decide), run_cons rfl,
      List.append_nil]
  | (.text key, v) :: es, done, frames, cs, hes => by
    simp only [plainEntries, Bool.and_eq_true] at hes
    have hmore : run (.afterEntry ((.text key, v) :: done) frames) _ = run _ (tokens cs) :=
      run_printMoreEntries es ((.text key, v) :: done) hes.2
    rw [printMoreEntries_cons, tokens_mark (by decide) (by decide), run_cons rfl,
      printEntries_cons, tokens_text, (Awaits.entryKey done frames).run_cons rfl, after,
      tokens_mark (by decide) (by decide), run_cons rfl,
      run_print v hes.1 (.value _) (ends_printMoreEntries es cs), after, hmore, List.reverse_cons,
      List.append_assoc, List.singleton_append]

end

end State

/-- A plain document is read back from its text, with no extensions and nothing after it. -/
theorem parse_print {v : Ron} (hv : v.plain = true) : parse v.print = some ({}, v, true) := by
  have hend : Ends [] := fun c hc => absurd hc (by simp)
  have hnil : tokens [] = [] := by rw [tokens, lex_nil, join]
  have hrun := State.run_print v hv (.value []) hend
  rw [List.append_nil, hnil, State.after, State.run, tokens] at hrun
  simp only [parse, (startsValue_print hv).attributes, Option.map_some, hrun, List.isEmpty_nil]

end Ron

end FlowRules
