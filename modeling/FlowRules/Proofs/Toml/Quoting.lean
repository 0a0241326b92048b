import FlowRules.Proofs.Text.Numeral
import FlowRules.Proofs.Text.Pieces
import FlowRules.Toml.Quoted

/-!
# Texts and names in TOML read back

A text that is printed is cut off the front of whatever follows it, in any of its three
forms : a name without quotes ends where no character of such a name follows, a text in
double quotes ends at the quote that is not escaped, and a text in single quotes holds no
single quote. Only an empty text needs care, since two quotes with a third one behind
them would start a text of several lines.
-/

namespace FlowRules.Toml

/-! ## Double quotes -/

theorem scanLine_quote (cs : List Char) : scanLine ('"' :: cs) = some ([], cs) := by
  rw [scanLine]

theorem scanLine_escape {c : Char} {cs rest : List Char} (h : scanEscape cs = some (c, rest)) :
    scanLine ('\\' :: cs) = (scanLine rest).map fun (s, rest) => (c :: s, rest) := by
  rw [scanLine]
  split
  · rename_i heq
    obtain ⟨rfl, rfl⟩ := Prod.mk.inj (Option.some.inj (h.symm.trans heq))
    rfl
  · rename_i heq
    exact absurd (h.symm.trans heq) (by simp)

theorem scanLine_plain {c : Char} (hquote : c ≠ '"') (hslash : c ≠ '\\')
    (hcontrol : isControl c = false) (cs : List Char) :
    scanLine (c :: cs) = (scanLine cs).map fun (s, rest) => (c :: s, rest) := by
  rw [scanLine] <;> simp [hquote, hslash, hcontrol]

/-- A letter that escapes a character is read as the character. -/
theorem scanEscape_of_escapeLetter? {c letter : Char} (h : escapeLetter? c = some letter)
    (cs : List Char) : scanEscape (letter :: cs) = some (c, cs) := by
  unfold escapeLetter? at h
  split at h
  · rename_i hc
    obtain rfl := Option.some.inj h
    rcases hc with rfl | rfl <;> rfl
  all_goals repeat' split at h
  all_goals first
    | (subst_vars; obtain rfl := Option.some.inj h; rfl)
    | exact absurd h (by simp)

theorem toNat_lt_of_isControl {c : Char} (h : isControl c = true) : c.toNat < 128 := by
  simp only [isControl, Bool.or_eq_true, Bool.and_eq_true, decide_eq_true_iff] at h
  rcases h with h | rfl
  · omega
  · decide

/-- The number of a control in four digits is read as the control. -/
theorem scanEscape_codePoint {c : Char} (hc : isControl c = true) (cs : List Char) :
    scanEscape ('u' :: ((hexDigits 4 c.toNat).map Char.toUpper ++ cs)) = some (c, cs) := by
  have hall : ∀ n < 128, (((hexDigits 4 (Char.ofNat n).toNat).map Char.toUpper).length = 4 &&
      codePoint? ((hexDigits 4 (Char.ofNat n).toNat).map Char.toUpper) = some (Char.ofNat n)) =
        true := by decide +kernel
  have hdigits := of_ascii (p := fun c => ((hexDigits 4 c.toNat).map Char.toUpper).length = 4 &&
    codePoint? ((hexDigits 4 c.toNat).map Char.toUpper) = some c) hall (toNat_lt_of_isControl hc)
  simp only [Bool.and_eq_true, decide_eq_true_iff] at hdigits
  obtain ⟨hlength, hpoint⟩ := hdigits
  have hcount : escapeDigits? 'u' = some 4 := rfl
  simp only [scanEscape, hcount, List.take_left' hlength, List.drop_left' hlength, hlength, hpoint,
    if_pos, Option.map_some]

/-- A character in double quotes is read as itself. -/
theorem scanLine_escapeChar (c : Char) (cs : List Char) :
    scanLine (escapeChar c ++ cs) = (scanLine cs).map fun (s, rest) => (c :: s, rest) := by
  unfold escapeChar
  cases hletter : escapeLetter? c with
  | some letter => exact scanLine_escape (scanEscape_of_escapeLetter? hletter cs)
  | none =>
    by_cases hcontrol : isControl c = true
    · simp only [if_pos hcontrol]
      exact scanLine_escape (scanEscape_codePoint hcontrol cs)
    · have hquote : c ≠ '"' := by
        rintro rfl
        exact absurd hletter (by decide)
      have hslash : c ≠ '\\' := by
        rintro rfl
        exact absurd hletter (by decide)
      simp only [if_neg hcontrol]
      exact scanLine_plain hquote hslash (by simpa using hcontrol) cs

theorem scanLine_flatMap (s cs : List Char) :
    scanLine (s.flatMap escapeChar ++ '"' :: cs) = some (s, cs) := by
  induction s with
  | nil => exact scanLine_quote cs
  | cons c s ih =>
    rw [List.flatMap_cons, List.append_assoc, scanLine_escapeChar, ih]
    rfl

theorem printQuoted_append (s cs : List Char) :
    printQuoted s ++ cs = '"' :: (s.flatMap escapeChar ++ '"' :: cs) := by
  simp [printQuoted]

/-- No character is written with a quote in front. -/
theorem exists_escapeChar (c : Char) : ∃ d ds, escapeChar c = d :: ds ∧ d ≠ '"' := by
  unfold escapeChar
  cases hletter : escapeLetter? c with
  | some letter => exact ⟨'\\', [letter], rfl, by decide⟩
  | none =>
    by_cases hcontrol : isControl c = true
    · exact ⟨'\\', _, if_pos hcontrol, by decide⟩
    · refine ⟨c, [], if_neg hcontrol, ?_⟩
      rintro rfl
      exact absurd hletter (by decide)

/-! ## Single quotes -/

theorem scanLiteral_append {s : List Char} (hs : ∀ c ∈ s, c ≠ '\'' ∧ isControl c = false)
    (cs : List Char) : scanLiteral (s ++ '\'' :: cs) = some (s, cs) := by
  induction s with
  | nil => rfl
  | cons c s ih =>
    obtain ⟨hquote, hcontrol⟩ := hs c (List.mem_cons_self ..)
    have hmore := ih fun d hd => hs d (List.mem_cons_of_mem c hd)
    rw [List.cons_append, scanLiteral] <;> simp [hquote, hcontrol, hmore]

/-- A text that single quotes are put around is not empty, and can stand in them. -/
theorem exists_of_wantsLiteral {s : List Char} (h : wantsLiteral s = true) :
    (∃ c cs, s = c :: cs) ∧ ∀ c ∈ s, c ≠ '\'' ∧ isControl c = false := by
  simp only [wantsLiteral, Bool.and_eq_true, List.any_eq_true, List.all_eq_true,
    decide_eq_true_iff, Bool.not_eq_true'] at h
  obtain ⟨⟨c, hc, -⟩, hall⟩ := h
  exact ⟨List.exists_cons_of_ne_nil (List.ne_nil_of_mem hc), hall⟩

/-! ## Texts and names -/

/-- A text is read back, unless a quote follows it. -/
theorem scanText_printText (s : List Char) {cs : List Char} (hcs : cs.head? ≠ some '"') :
    scanText (printText s ++ cs) = some (s, cs) := by
  unfold printText
  split
  · rename_i hliteral
    obtain ⟨⟨c, ds, rfl⟩, hs⟩ := exists_of_wantsLiteral hliteral
    have hscan := scanLiteral_append hs cs
    have hc := (hs c (List.mem_cons_self ..)).1
    simp only [List.cons_append, List.append_assoc, List.nil_append] at hscan ⊢
    rw [scanText]
    · exact hscan
    · simp [hc]
  · rw [printQuoted_append]
    cases s with
    | nil =>
      have hquote : ∀ ds, cs ≠ '"' :: ds := by
        rintro ds rfl
        exact hcs rfl
      rw [List.flatMap_nil, List.nil_append, scanText]
      · exact scanLine_quote cs
      · simpa using hquote
    | cons c s =>
      have hscan := scanLine_flatMap (c :: s) cs
      obtain ⟨d, ds, hchar, hd⟩ := exists_escapeChar c
      rw [List.flatMap_cons, hchar] at hscan ⊢
      simp only [List.cons_append] at hscan ⊢
      rw [scanText]
      · exact hscan
      · simp [hd]

theorem scanName_printText (s cs : List Char) : scanName (printText s ++ cs) = some (s, cs) := by
  unfold printText
  split
  · rename_i hliteral
    have hscan := scanLiteral_append (exists_of_wantsLiteral hliteral).2 cs
    simpa [scanName] using hscan
  · rw [printQuoted_append, scanName, scanLine_flatMap]

/-- May a name start with the character, in quotes or not? -/
def startsName (c : Char) : Bool := isBareChar c || c = '"' || c = '\''

/-- Does nothing follow that could be part of a name without quotes? -/
def EndsName (cs : List Char) : Prop := ∀ c ∈ cs.head?, isBareChar c = false

theorem toNat_lt_of_startsName {c : Char} (h : startsName c = true) : c.toNat < 128 := by
  simp only [startsName, isBareChar, Bool.or_eq_true, decide_eq_true_iff] at h
  rcases h with (((h | rfl) | rfl) | rfl) | rfl
  · exact toNat_lt_of_isDigitOf h
  all_goals decide

/-- A name is read back, if its end can be seen. -/
theorem scanName_printName (s : List Char) {cs : List Char} (hcs : EndsName cs) :
    scanName (printName s ++ cs) = some (s, cs) := by
  unfold printName
  split
  · rename_i hbare
    simp only [Bool.and_eq_true, Bool.not_eq_true', List.all_eq_true] at hbare
    obtain ⟨hne, hs⟩ := hbare
    have htake := takeWhile_append_end hs hcs
    have hdrop := dropWhile_append_end hs hcs
    cases s with
    | nil => exact absurd hne (by decide)
    | cons c s =>
      have hc := hs c (List.mem_cons_self ..)
      unfold scanName
      split
      · rename_i heq
        obtain ⟨rfl, -⟩ := List.cons.inj heq
        exact absurd hc (by decide)
      · rename_i heq
        obtain ⟨rfl, -⟩ := List.cons.inj heq
        exact absurd hc (by decide)
      · simp only [htake, hdrop, hne, Bool.false_eq_true, if_false]
  · exact scanName_printText s cs

example : ["a-1", "a.b", "", "a\"b"].map (fun s => String.ofList (printName s.toList)) =
    ["a-1", "\"a.b\"", "\"\"", "'a\"b'"] := by decide

theorem exists_printName (s : List Char) :
    ∃ c cs, printName s = c :: cs ∧ startsName c = true := by
  unfold printName
  split
  · rename_i hbare
    simp only [Bool.and_eq_true, Bool.not_eq_true', List.all_eq_true] at hbare
    obtain ⟨c, cs, rfl⟩ := List.exists_cons_of_ne_nil (List.isEmpty_eq_false_iff.mp hbare.1)
    refine ⟨c, cs, rfl, ?_⟩
    rw [startsName, hbare.2 c (List.mem_cons_self ..)]
    rfl
  · unfold printText
    split
    · exact ⟨'\'', _, rfl, by decide⟩
    · exact ⟨'"', _, rfl, by decide⟩

end FlowRules.Toml
