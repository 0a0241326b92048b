import FlowRules.Proofs.Toml.Quoting
import FlowRules.Toml.Parser
import FlowRules.Toml.Printer

/-!
# Printed lines of TOML read back

A statement is printed in a line of its own, and reading the lines gives the statements
back (`statements?_printStatements`) if each is of a path and a value that the reader
takes : there is a name in the path and not too many (`isPath`), and the value is one
that stands in a line with no tables in it (`IsPlain`).

Each part is read in front of any rest that shows where the part ends : a dot, a blank or
a bracket behind a name, and a comma, a bracket or the end of the line behind a value
(`Ends`). What a part starts with is nothing that a reader would skip (`isOrdinary`).
-/

namespace FlowRules

/-! ## Steps -/

section Steps

variable {α : Type} {step : Step α} {cs rest : List Char} {found : List α}

theorem steps_last (h : step cs = some (found, rest, false)) :
    steps step cs = some (found, rest) := by
  rw [steps, h]

theorem steps_next {more : List α} {rest' : List Char} (h : step cs = some (found, rest, true))
    (hlt : rest.length < cs.length) (hmore : steps step rest = some (more, rest')) :
    steps step cs = some (found ++ more, rest') := by
  rw [steps, h]
  simp only [if_pos hlt, hmore, Option.map_some]

/-- What a step skips in front does not matter. -/
theorem steps_of_step_eq {cs' : List Char} (h : step cs' = step cs) (hle : cs.length ≤ cs'.length)
    (hcs : steps step cs = some (found, rest)) : steps step cs' = some (found, rest) := by
  rw [steps] at hcs ⊢
  rw [h]
  split at hcs
  · exact hcs
  · exact hcs
  · rename_i next _
    split at hcs
    · rename_i hlt
      exact (if_pos (Nat.lt_of_lt_of_le hlt hle)).trans hcs
    · exact absurd hcs (by simp)

end Steps

namespace Toml

/-! ## Blanks -/

/-- Is the character neither skipped, nor the mark behind an item? -/
def isOrdinary (c : Char) : Bool := !isSpace c && !"\n\r#],".toList.contains c

theorem skipSpaces_of_isOrdinary {c : Char} (hc : isOrdinary c = true) (cs : List Char) :
    skipSpaces (c :: cs) = c :: cs := by
  simp only [isOrdinary, Bool.and_eq_true, Bool.not_eq_true'] at hc
  simp [skipSpaces, hc.1]

theorem skipLines_of_isOrdinary {c : Char} (hc : isOrdinary c = true) (cs : List Char) :
    skipLines false (c :: cs) = some (c :: cs) := by
  simp only [isOrdinary, Bool.and_eq_true, Bool.not_eq_true'] at hc
  have hmarks : c ≠ '\n' ∧ c ≠ '\r' ∧ c ≠ '#' := by
    refine ⟨?_, ?_, ?_⟩ <;> rintro rfl <;> exact absurd hc.2 (by decide)
  rw [skipLines]
  · simp [hmarks, hc.1]
  · intro ds h
    exact absurd h (by simp [hmarks])

theorem skipLines_space (cs : List Char) : skipLines false (' ' :: cs) = skipLines false cs := by
  rw [skipLines]
  · rfl
  · simp

theorem skipLines_newline (cs : List Char) :
    skipLines false ('\n' :: cs) = skipLines false cs := by
  rw [skipLines]
  · rfl
  · simp

/-! ## Parts with separators -/

theorem separated_cons_cons (sep p q : List Char) (ps : List (List Char)) :
    separated sep (p :: q :: ps) = p ++ (sep ++ separated sep (q :: ps)) := by
  simp [separated]

theorem separated_singleton (sep p : List Char) : separated sep [p] = p := by
  simp [separated]

/-! ## Paths -/

/-- Is there a name in the path, and no more than a reader takes? -/
def isPath (path : List String) : Bool := !path.isEmpty && path.length ≤ maxNames

theorem isOrdinary_of_startsName {c : Char} (h : startsName c = true) :
    isOrdinary c = true ∧ c ≠ '[' ∧ c ≠ '\ufeff' := by
  have hall : ∀ n < 128, (!startsName (Char.ofNat n) ||
      (isOrdinary (Char.ofNat n) && Char.ofNat n ≠ '[' && Char.ofNat n ≠ '\ufeff')) = true := by
    decide
  have hc := of_ascii (p := fun c => !startsName c || (isOrdinary c && c ≠ '[' && c ≠ '\ufeff'))
    hall (toNat_lt_of_startsName h)
  simpa [h, and_assoc] using hc

theorem printPath_singleton (name : String) : printPath [name] = printName name.toList := by
  rw [printPath, List.map_singleton, separated_singleton]

theorem printPath_cons_cons (name n : String) (ns : List String) :
    printPath (name :: n :: ns) = printName name.toList ++ '.' :: printPath (n :: ns) := by
  simp [printPath, separated_cons_cons]

theorem exists_printPath {path : List String} (hne : path ≠ []) :
    ∃ c cs, printPath path = c :: cs ∧ startsName c = true := by
  obtain ⟨name, names, rfl⟩ := List.exists_cons_of_ne_nil hne
  obtain ⟨c, cs, hname, hc⟩ := exists_printName name.toList
  cases names with
  | nil => exact ⟨c, cs, by rw [printPath_singleton, hname], hc⟩
  | cons n ns => exact ⟨c, cs ++ '.' :: printPath (n :: ns),
      by rw [printPath_cons_cons, hname, List.cons_append], hc⟩

/-- A name that a dot follows is a step on the path. -/
theorem pathStep_dot (name : String) (cs : List Char) :
    pathStep (printName name.toList ++ '.' :: cs) = some ([name], cs, true) := by
  obtain ⟨c, ds, hname, hc⟩ := exists_printName name.toList
  have hskip := skipSpaces_of_isOrdinary (isOrdinary_of_startsName hc).1
  have hend : EndsName ('.' :: cs) := by
    rintro d ⟨rfl⟩
    decide
  have hscan := scanName_printName name.toList hend
  have hdot : skipSpaces ('.' :: cs) = '.' :: cs := skipSpaces_of_isOrdinary (by decide) cs
  rw [hname, List.cons_append] at hscan ⊢
  simp only [pathStep, hskip, hscan, hdot, Option.bind_eq_bind, Option.bind_some,
    String.ofList_toList]
  rfl

/-- A name that no dot follows is the last one. -/
theorem pathStep_end (name : String) {cs : List Char} (hcs : EndsName cs)
    (hdot : ∀ ds, skipSpaces cs ≠ '.' :: ds) :
    pathStep (printName name.toList ++ cs) = some ([name], skipSpaces cs, false) := by
  obtain ⟨c, ds, hname, hc⟩ := exists_printName name.toList
  have hskip := skipSpaces_of_isOrdinary (isOrdinary_of_startsName hc).1
  have hscan := scanName_printName name.toList hcs
  rw [hname, List.cons_append] at hscan ⊢
  simp only [pathStep, hskip, hscan, Option.bind_eq_bind, Option.bind_some,
    String.ofList_toList]
  rfl

theorem steps_printPath {path : List String} (hne : path ≠ []) {cs : List Char}
    (hcs : EndsName cs) (hdot : ∀ ds, skipSpaces cs ≠ '.' :: ds) :
    steps pathStep (printPath path ++ cs) = some (path, skipSpaces cs) := by
  induction path with
  | nil => exact absurd rfl hne
  | cons name names ih =>
    cases names with
    | nil =>
      rw [printPath_singleton]
      exact steps_last (pathStep_end name hcs hdot)
    | cons n ns =>
      rw [printPath_cons_cons, List.append_assoc, List.cons_append]
      refine steps_next (pathStep_dot name _) ?_ (ih (by simp))
      simp only [List.length_append, List.length_cons]
      omega

/-- A path is read back up to what is behind it and the blanks after it. -/
theorem scanPath_printPath {path : List String} (hpath : isPath path = true) {cs : List Char}
    (hcs : EndsName cs) (hdot : ∀ ds, skipSpaces cs ≠ '.' :: ds) :
    scanPath (printPath path ++ cs) = some (path, skipSpaces cs) := by
  simp only [isPath, Bool.and_eq_true, Bool.not_eq_true', List.isEmpty_eq_false_iff,
    decide_eq_true_iff] at hpath
  rw [scanPath, steps_printPath hpath.1 hcs hdot]
  simp [hpath.2]

/-! ## Values in a line -/

/-- A truth value, a natural number, a text, or an array of such values that is nested no
deeper than the depth. -/
inductive IsPlain : Nat → Toml → Prop
  | bool (depth : Nat) (b : Bool) : IsPlain depth (.bool b)
  | nat (depth n : Nat) : IsPlain depth (.int n)
  | text (depth : Nat) (s : String) : IsPlain depth (.text s)
  | array {depth : Nat} {items : List Toml} (h : ∀ v ∈ items, IsPlain depth v) :
    IsPlain (depth + 1) (.array items)

/-- The marks that may end a value. -/
def endMarks : List Char := [',', ']', '\n']

/-- Does nothing follow, or a mark that ends a value? -/
def Ends (cs : List Char) : Prop := ∀ c ∈ cs.head?, c ∈ endMarks

theorem Ends.ne_quote {cs : List Char} (h : Ends cs) : cs.head? ≠ some '"' := by
  intro hquote
  exact absurd (h '"' hquote) (by decide)

/-- A word that is a scalar is read as the scalar where it ends. -/
theorem scanScalar_append {word cs : List Char} {v : Toml}
    (hword : ∀ c ∈ word, isScalarChar c = true) (hv : scalar? word = some v) (hcs : Ends cs) :
    scanScalar (word ++ cs) = some (v, cs) := by
  have hmarks : endMarks.all (fun c => !isScalarChar c && c ≠ ' ') = true := by decide
  have hend : ∀ c ∈ cs.head?, isScalarChar c = false ∧ c ≠ ' ' := fun c hc => by
    simpa using List.all_eq_true.mp hmarks c (hcs c hc)
  have htake := takeWhile_append_end hword fun c hc => (hend c hc).1
  have hdrop := dropWhile_append_end hword fun c hc => (hend c hc).1
  simp only [scanScalar, htake, hdrop]
  split
  · exact absurd rfl (hend ' ' rfl).2
  · rw [hv, Option.map_some]

theorem scanValue_scalar {c : Char} (hc : isScalarChar c = true) (depth : Nat) (cs : List Char) :
    scanValue depth (c :: cs) = scanScalar (c :: cs) := by
  have hquotes : c ≠ '"' ∧ c ≠ '\'' ∧ c ≠ '[' ∧ c ≠ '\x7b' := by
    refine ⟨?_, ?_, ?_, ?_⟩ <;> rintro rfl <;> exact absurd hc (by decide)
  cases depth <;> rw [scanValue] <;> simp [hquotes]

/-! ### Numbers -/

theorem isScalarChar_of_isDigitOf {c : Char} (h : isDigitOf 10 c = true) :
    isScalarChar c = true ∧ c ≠ '_' ∧ isOrdinary c = true := by
  have hall : ∀ n < 128, (!isDigitOf 10 (Char.ofNat n) || (isScalarChar (Char.ofNat n) &&
      Char.ofNat n ≠ '_' && isOrdinary (Char.ofNat n))) = true := by decide
  have hc := of_ascii (p := fun c => !isDigitOf 10 c || (isScalarChar c && c ≠ '_' &&
    isOrdinary c)) hall (toNat_lt_of_isDigitOf h)
  simpa [h, and_assoc] using hc

theorem decimalDigits?_toDigits (n : Nat) : decimalDigits? (Nat.toDigits 10 n) = some n := by
  have hzero : ¬((Nat.toDigits 10 n).head? = some '0' ∧ (Nat.toDigits 10 n).length ≠ 1) := by
    rintro ⟨hhead, hlength⟩
    obtain rfl := eq_zero_of_head_toDigits hhead
    exact hlength (by decide)
  have hunder : '_' ∉ Nat.toDigits 10 n := fun hmem =>
    (isScalarChar_of_isDigitOf (isDigitOf_toDigits n _ hmem)).2.1 rfl
  have hread := ofDigits?_toDigits (by decide : 1 < 10) (by decide) n
  have hne : (Nat.toDigits 10 n).isEmpty = false := by simp [Nat.toDigits_ne_nil]
  rw [decimalDigits?, if_neg hzero]
  simp [looseDigits?, pieces_of_notMem hunder, hne, hread]

theorem int?_toDigits (n : Nat) : int? (Nat.toDigits 10 n) = some (n : Int) := by
  have hdigits := isDigitOf_toDigits n
  have hsign : scanSign (Nat.toDigits 10 n) = (false, Nat.toDigits 10 n) := by
    unfold scanSign
    split
    · rename_i heq
      exact absurd (hdigits '-' (by simp [heq])) (by decide)
    · rename_i heq
      exact absurd (hdigits '+' (by simp [heq])) (by decide)
    · rfl
  unfold int?
  split
  · rename_i heq
    exact absurd (hdigits 'x' (by simp [heq])) (by decide)
  · rename_i heq
    exact absurd (hdigits 'o' (by simp [heq])) (by decide)
  · rename_i heq
    exact absurd (hdigits 'b' (by simp [heq])) (by decide)
  · simp [hsign, decimalDigits?_toDigits]

theorem scalar?_toDigits (n : Nat) : scalar? (Nat.toDigits 10 n) = some (int n) := by
  have hdigits := isDigitOf_toDigits n
  have htrue : Nat.toDigits 10 n ≠ "true".toList := fun heq =>
    absurd (hdigits 't' (by simp [heq])) (by decide)
  have hfalse : Nat.toDigits 10 n ≠ "false".toList := fun heq =>
    absurd (hdigits 'f' (by simp [heq])) (by decide)
  simp only [scalar?, if_neg htrue, if_neg hfalse, int?_toDigits]

/-! ### Values -/

theorem printValue_nat (n : Nat) : printValue (int n) = Nat.toDigits 10 n := by
  have hpos : ¬(n : Int) < 0 := by omega
  simp only [printValue, if_neg hpos, List.nil_append, Int.natAbs_natCast]

/-- Where a value starts, nothing is skipped. -/
theorem exists_printValue {depth : Nat} {v : Toml} (hv : IsPlain depth v) :
    ∃ c cs, printValue v = c :: cs ∧ isOrdinary c = true := by
  cases hv with
  | bool _ b =>
    cases b
    · exact ⟨'f', _, rfl, by decide⟩
    · exact ⟨'t', _, rfl, by decide⟩
  | nat _ n =>
    obtain ⟨d, ds, hds⟩ := List.exists_cons_of_ne_nil (Nat.toDigits_ne_nil (b := 10) (n := n))
    have hd := isDigitOf_toDigits n d (by simp [hds])
    exact ⟨d, ds, by rw [printValue_nat, hds], (isScalarChar_of_isDigitOf hd).2.2⟩
  | text _ s =>
    unfold printValue printText
    split
    · exact ⟨'\'', _, rfl, by decide⟩
    · exact ⟨'"', _, rfl, by decide⟩
  | array => exact ⟨'[', _, rfl, by decide⟩

theorem scanValue_nat (n depth : Nat) {cs : List Char} (hcs : Ends cs) :
    scanValue depth (Nat.toDigits 10 n ++ cs) = some (int n, cs) := by
  have hword : ∀ c ∈ Nat.toDigits 10 n, isScalarChar c = true := fun c hc =>
    (isScalarChar_of_isDigitOf (isDigitOf_toDigits n c hc)).1
  have hscan := scanScalar_append hword (scalar?_toDigits n) hcs
  obtain ⟨d, ds, hds⟩ := List.exists_cons_of_ne_nil (Nat.toDigits_ne_nil (b := 10) (n := n))
  rw [hds, List.cons_append] at hscan ⊢
  rw [scanValue_scalar (hword d (by simp [hds])), hscan]

theorem scanValue_bool (b : Bool) (depth : Nat) {cs : List Char} (hcs : Ends cs) :
    scanValue depth (printValue (bool b) ++ cs) = some (bool b, cs) := by
  cases b with
  | false =>
    have hword : ∀ c ∈ "false".toList, isScalarChar c = true := List.all_eq_true.mp (by decide)
    have hscan : scanScalar ("false".toList ++ cs) = some (bool false, cs) :=
      scanScalar_append hword rfl hcs
    exact (scanValue_scalar (hword 'f' (by decide)) depth _).trans hscan
  | true =>
    have hword : ∀ c ∈ "true".toList, isScalarChar c = true := List.all_eq_true.mp (by decide)
    have hscan : scanScalar ("true".toList ++ cs) = some (bool true, cs) :=
      scanScalar_append hword rfl hcs
    exact (scanValue_scalar (hword 't' (by decide)) depth _).trans hscan

theorem scanValue_text (s : String) (depth : Nat) {cs : List Char} (hcs : Ends cs) :
    scanValue depth (printText s.toList ++ cs) = some (text s, cs) := by
  have hscan := scanText_printText s.toList hcs.ne_quote
  have hvalue : some (text (String.ofList s.toList), cs) = some (text s, cs) := by
    rw [String.ofList_toList]
  unfold printText at hscan ⊢
  split at hscan
  · rename_i hliteral
    rw [if_pos hliteral]
    rw [List.cons_append, List.cons_append] at hscan ⊢
    rw [scanValue, hscan]
    exact hvalue
  · rename_i hliteral
    rw [if_neg hliteral]
    rw [printQuoted_append] at hscan ⊢
    rw [scanValue, hscan]
    exact hvalue

/-! ### Arrays -/

section Items

variable {scan : Scan Toml} {v : Toml} {items : List Toml} {cs : List Char}

/-- Is the value read by `scan` in front of any mark that may end it, and is nothing skipped
where it starts? -/
def ReadsBack (scan : Scan Toml) (v : Toml) : Prop :=
  (∃ c cs, printValue v = c :: cs ∧ isOrdinary c = true) ∧
    ∀ cs, Ends cs → scan (printValue v ++ cs) = some (v, cs)

/-- Blanks in front of an item are skipped. -/
theorem itemStep_space (cs : List Char) :
    itemStep scan ']' (' ' :: cs) = itemStep scan ']' cs := by
  simp only [itemStep, skipLines_space]

theorem itemStep_close (cs : List Char) : itemStep scan ']' (']' :: cs) = some ([], cs, false) := by
  have hskip : skipLines false (']' :: cs) = some (']' :: cs) := by
    rw [skipLines]
    · rfl
    · simp
  simp only [itemStep, hskip, Option.bind_eq_bind, Option.bind_some, if_pos]
  rfl

/-- An item with a mark behind it is a step, and a comma is followed by another one. -/
theorem itemStep_item (hv : ReadsBack scan v) {mark : Char} (hmark : mark = ',' ∨ mark = ']')
    (cs : List Char) : itemStep scan ']' (printValue v ++ mark :: cs) =
      some ([v], cs, decide (mark = ',')) := by
  obtain ⟨⟨c, ds, hprint, hc⟩, hscan⟩ := hv
  have hends : Ends (mark :: cs) := by
    rintro d ⟨rfl⟩
    rcases hmark with rfl | rfl <;> decide
  have hread := hscan _ hends
  have hclose : c ≠ ']' := by
    rintro rfl
    exact absurd hc (by decide)
  have hskip : skipLines false (mark :: cs) = some (mark :: cs) := by
    rcases hmark with rfl | rfl <;> rw [skipLines] <;> simp [isSpace]
  rw [hprint, List.cons_append] at hread ⊢
  simp only [itemStep, skipLines_of_isOrdinary hc, Option.bind_eq_bind, Option.bind_some,
    if_neg hclose, hread, hskip]
  rcases hmark with rfl | rfl <;> rfl

/-- Items with commas between them are read back up to the closing bracket. -/
theorem steps_printItems (hitems : ∀ v ∈ items, ReadsBack scan v) (cs : List Char) :
    steps (itemStep scan ']') (separated [',', ' '] (printItems items) ++ ']' :: cs) =
      some (items, cs) := by
  induction items with
  | nil => exact steps_last (itemStep_close cs)
  | cons v vs ih =>
    have hv := hitems v (List.mem_cons_self ..)
    cases vs with
    | nil =>
      rw [printItems, printItems, separated_singleton]
      exact steps_last (itemStep_item hv (Or.inr rfl) cs)
    | cons w ws =>
      have hmore := ih fun x hx => hitems x (List.mem_cons_of_mem v hx)
      rw [printItems] at hmore
      rw [printItems, printItems, separated_cons_cons, List.append_assoc, List.append_assoc,
        List.cons_append, List.singleton_append]
      refine steps_next (itemStep_item hv (Or.inl rfl) _) ?_ ?_
      · simp only [List.length_append, List.length_cons]
        omega
      · exact steps_of_step_eq (itemStep_space _) (Nat.le_succ _) hmore

end Items

theorem printValue_array (items : List Toml) (cs : List Char) :
    printValue (array items) ++ cs =
      '[' :: (separated [',', ' '] (printItems items) ++ ']' :: cs) := by
  simp [printValue]

/-- A plain value is read back in front of a mark that may end it. -/
theorem scanValue_printValue {depth : Nat} {v : Toml} (hv : IsPlain depth v) {cs : List Char}
    (hcs : Ends cs) : scanValue depth (printValue v ++ cs) = some (v, cs) := by
  induction hv generalizing cs with
  | bool depth b => exact scanValue_bool b depth hcs
  | nat depth n =>
    rw [printValue_nat]
    exact scanValue_nat n depth hcs
  | text depth s => exact scanValue_text s depth hcs
  | array hitems ih =>
    rw [printValue_array, scanValue,
      steps_printItems fun v hv => ⟨exists_printValue (hitems v hv), fun _ hcs => ih v hv hcs⟩,
      Option.map_some]

/-! ## Statements -/

/-- A statement whose path and value are read back. -/
def Statement.IsPlain : Statement → Prop
  | .assign path v => isPath path = true ∧ Toml.IsPlain maxDepth v
  | .openTable path => isPath path = true
  | .openElement path => isPath path = true

theorem ne_nil_of_isPath {path : List String} (h : isPath path = true) : path ≠ [] := by
  rintro rfl
  exact absurd h (by decide)

/-- A value behind its path and an equals sign is read back. -/
theorem scanAssignment_append {path : List String} (hpath : isPath path = true) {v : Toml}
    (hv : IsPlain maxDepth v) {cs : List Char} (hcs : Ends cs) :
    scanAssignment (some ∘ skipSpaces) (scanValue maxDepth)
      (printPath path ++ " = ".toList ++ printValue v ++ cs) = some ((path, v), cs) := by
  obtain ⟨c, ds, hprint, hc⟩ := exists_printValue hv
  have hspace : ∀ ds, skipSpaces (' ' :: ds) = skipSpaces ds := fun _ => rfl
  have hequals : ∀ ds, skipSpaces ('=' :: ds) = '=' :: ds := skipSpaces_of_isOrdinary (by decide)
  have hrest : " = ".toList ++ (printValue v ++ cs) = ' ' :: '=' :: ' ' :: (printValue v ++ cs) :=
    rfl
  have hscan : scanPath (printPath path ++ ' ' :: '=' :: ' ' :: (printValue v ++ cs)) =
      some (path, '=' :: ' ' :: (printValue v ++ cs)) := by
    rw [scanPath_printPath hpath, hspace, hequals]
    · rintro d ⟨rfl⟩
      decide
    · rw [hspace, hequals]
      simp
  have hvalue : skipSpaces (' ' :: (printValue v ++ cs)) = printValue v ++ cs := by
    rw [hspace, hprint, List.cons_append, skipSpaces_of_isOrdinary hc]
  have hread := scanValue_printValue hv hcs
  rw [List.append_assoc, List.append_assoc, hrest]
  simp only [scanAssignment, hscan, Option.bind_eq_bind, Option.bind_some, Function.comp_apply,
    hequals, hvalue, hread]
  rfl

/-- The path of a header is read back up to the bracket behind it. -/
theorem scanPath_bracket {path : List String} (hpath : isPath path = true) (cs : List Char) :
    scanPath (printPath path ++ ']' :: cs) = some (path, ']' :: cs) := by
  have hskip : skipSpaces (']' :: cs) = ']' :: cs := rfl
  rw [scanPath_printPath hpath, hskip]
  · rintro d ⟨rfl⟩
    decide
  · rw [hskip]
    simp

/-- The line of a statement without its end. -/
def printLine : Statement → List Char
  | .assign path v => printPath path ++ " = ".toList ++ printValue v
  | .openTable path => '[' :: printPath path ++ "]".toList
  | .openElement path => "[[".toList ++ printPath path ++ "]]".toList

theorem printStatement_append (s : Statement) (cs : List Char) :
    printStatement s ++ cs = printLine s ++ '\n' :: cs := by
  cases s <;> simp [printStatement, printLine]

theorem scanStatement_printLine {s : Statement} (hs : s.IsPlain) (cs : List Char) :
    scanStatement (printLine s ++ '\n' :: cs) = some (s, '\n' :: cs) := by
  cases s with
  | assign path v =>
    have hends : Ends ('\n' :: cs) := by
      rintro d ⟨rfl⟩
      decide
    have hscan := scanAssignment_append hs.1 hs.2 hends
    obtain ⟨c, ds, hprint, hc⟩ := exists_printPath (ne_nil_of_isPath hs.1)
    have hopen := (isOrdinary_of_startsName hc).2.1
    rw [printLine]
    rw [hprint] at hscan ⊢
    simp only [List.cons_append] at hscan ⊢
    rw [scanStatement]
    · simp only [hscan, Option.bind_eq_bind, Option.bind_some]
      rfl
    · simp [hopen]
    · simp [hopen]
  | openTable path =>
    have hscan := scanPath_bracket hs ('\n' :: cs)
    obtain ⟨c, ds, hprint, hc⟩ := exists_printPath (ne_nil_of_isPath hs)
    have hopen := (isOrdinary_of_startsName hc).2.1
    have hline : printLine (.openTable path) ++ '\n' :: cs =
        '[' :: (printPath path ++ ']' :: '\n' :: cs) := by simp [printLine]
    rw [hline]
    rw [hprint] at hscan ⊢
    simp only [List.cons_append] at hscan ⊢
    rw [scanStatement]
    · simp only [hscan, Option.bind_eq_bind, Option.bind_some]
      rfl
    · simp [hopen]
  | openElement path =>
    have hscan := scanPath_bracket hs (']' :: '\n' :: cs)
    have hline : printLine (.openElement path) ++ '\n' :: cs =
        '[' :: '[' :: (printPath path ++ ']' :: ']' :: '\n' :: cs) := by simp [printLine]
    rw [hline, scanStatement]
    simp only [hscan, Option.bind_eq_bind, Option.bind_some]
    rfl

/-- A statement starts with a bracket or with a name. -/
theorem exists_printStatement {s : Statement} (hs : s.IsPlain) :
    ∃ c cs, printStatement s = c :: cs ∧ isOrdinary c = true ∧ c ≠ '\ufeff' := by
  cases s with
  | assign path v =>
    obtain ⟨c, ds, hprint, hc⟩ := exists_printPath (ne_nil_of_isPath hs.1)
    obtain ⟨hordinary, -, hmark⟩ := isOrdinary_of_startsName hc
    refine ⟨c, ds ++ " = ".toList ++ printValue v ++ ['\n'], ?_, hordinary, hmark⟩
    simp only [printStatement, hprint, List.cons_append]
  | openTable path => exact ⟨'[', _, rfl, by decide, by decide⟩
  | openElement path => exact ⟨'[', _, rfl, by decide, by decide⟩

theorem statementStep_printStatement {s : Statement} (hs : s.IsPlain) (cs : List Char) :
    statementStep (printStatement s ++ cs) = some ([s], cs, true) := by
  obtain ⟨c, ds, hprint, hc, -⟩ := exists_printStatement hs
  have hscan := scanStatement_printLine hs cs
  have hline : skipToNextLine false ('\n' :: cs) = some cs := by
    rw [skipToNextLine]
    · rfl
    · simp
  rw [← printStatement_append] at hscan
  rw [hprint, List.cons_append] at hscan ⊢
  simp only [statementStep, skipLines_of_isOrdinary hc, Option.bind_eq_bind, Option.bind_some,
    hscan, hline]
  rfl

/-- The empty line in front of a statement is skipped. -/
theorem statementStep_printGap (s : Statement) (cs : List Char) :
    statementStep (printGap s ++ cs) = statementStep cs := by
  cases s with
  | assign => rfl
  | openTable => simp only [printGap, List.singleton_append, statementStep, skipLines_newline]
  | openElement => simp only [printGap, List.singleton_append, statementStep, skipLines_newline]

theorem steps_printStatement {s : Statement} (hs : s.IsPlain) {cs rest : List Char}
    {ss : List Statement} (hmore : steps statementStep cs = some (ss, rest)) :
    steps statementStep (printStatement s ++ cs) = some (s :: ss, rest) := by
  refine steps_next (statementStep_printStatement hs cs) ?_ hmore
  obtain ⟨c, ds, hprint, -⟩ := exists_printStatement hs
  simp only [hprint, List.length_append, List.length_cons]
  omega

theorem steps_flatMap {ss : List Statement} (hss : ∀ s ∈ ss, s.IsPlain) :
    steps statementStep (ss.flatMap fun s => printGap s ++ printStatement s) = some (ss, []) := by
  induction ss with
  | nil => exact steps_last rfl
  | cons s ss ih =>
    have hmore := ih fun t ht => hss t (List.mem_cons_of_mem s ht)
    rw [List.flatMap_cons, List.append_assoc]
    refine steps_of_step_eq (statementStep_printGap s _) ?_
      (steps_printStatement (hss s (List.mem_cons_self ..)) hmore)
    exact (List.suffix_append _ _).length_le

theorem statements?_of_ne {c : Char} (hc : c ≠ '\ufeff') (cs : List Char) :
    statements? (c :: cs) = (steps statementStep (c :: cs)).map Prod.fst := by
  unfold statements?
  split
  · rename_i heq
    exact absurd (List.cons.inj heq).1 hc
  · rfl

/-- Printed statements are read back. -/
theorem statements?_printStatements {ss : List Statement} (hss : ∀ s ∈ ss, s.IsPlain) :
    statements? (printStatements ss) = some ss := by
  cases ss with
  | nil =>
    have hnone : steps statementStep [] = some ([], []) := steps_last rfl
    simp only [printStatements, statements?, hnone, Option.map_some]
  | cons s ss =>
    have hs := hss s (List.mem_cons_self ..)
    have hread := steps_printStatement hs (steps_flatMap fun t ht =>
      hss t (List.mem_cons_of_mem s ht))
    obtain ⟨c, ds, hprint, -, hc⟩ := exists_printStatement hs
    rw [printStatements]
    rw [hprint, List.cons_append] at hread ⊢
    rw [statements?_of_ne hc, hread, Option.map_some]

end Toml

end FlowRules
