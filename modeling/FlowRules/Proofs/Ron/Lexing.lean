import FlowRules.Proofs.Text.Numeral
import FlowRules.Proofs.Text.Pieces
import FlowRules.Ron.Parser
import FlowRules.Ron.Printer

/-!
# The tokens of printed RON

Each part of a printed document is cut off the front of the text as one token, and what
follows is lexed by itself. A text ends at the quote that is not escaped. A word and a
number end in front of a mark, because no mark can be part of either (`Ends`).

What a word is depends on the mark behind it, so the lemmas about words are about the
tokens that are joined already (`tokens`) : with a colon behind it a word is a key, with a
parenthesis a label, and else a value. Names are words that neither a literal nor a word
with a meaning of its own can be mistaken for (`isName`).
-/

namespace FlowRules.Ron

/-- The joined tokens of a text. -/
def tokens (cs : List Char) : List Token := join (lex cs)

/-! ## Characters of names -/

/-- Does no blank, comment, mark or literal with quotes start with the character? -/
def isOrdinary (c : Char) : Bool :=
  !isBlank c && c ≠ '/' && c ≠ '"' && c ≠ '\'' && c ≠ 'b' && c ≠ 'r' &&
    !"()[]\x7b\x7d,:#!".toList.contains c

/-- May a word start here, and nothing else? -/
def startsWord (c : Char) : Bool := isOrdinary c && isWordStart c

/-- May a name start with the character? Literals may start with the letters left out. -/
def isNameStart (c : Char) : Bool := isAsciiLetter c && c ≠ 'b' && c ≠ 'r'

/-- May a name go on with the character? -/
def isNamePart (c : Char) : Bool := isAsciiLetter c || isAsciiDigit c || c = '_'

/-- Is the text a word that can be nothing but a name? -/
def isName (name : String) : Bool :=
  match name.toList with
  | [] => false
  | c :: cs =>
    isNameStart c && cs.all isNamePart && name ∉ ["true", "false", "None", "Some"] &&
      skipSpecial? name.toList ≠ some []

theorem toNat_lt_of_isAsciiLetter {c : Char} (h : isAsciiLetter c = true) : c.toNat < 128 := by
  have hle : ∀ d : Char, d.toNat < 128 → c ≤ d → c.toNat < 128 := fun d hd hc =>
    Nat.lt_of_le_of_lt (UInt32.le_iff_toNat_le.mp hc) hd
  simp only [isAsciiLetter, Bool.or_eq_true, Bool.and_eq_true, decide_eq_true_iff] at h
  rcases h with h | h
  · exact hle 'z' (by decide) h.2
  · exact hle 'Z' (by decide) h.2

/-- The wide characters of words are all beyond ASCII. -/
theorem wide_beyond_ascii :
    (wideLetters ++ wordMarks).all (fun range => 128 ≤ range.1) = true := by decide +kernel

section Ascii

variable {c : Char} (hc : c.toNat < 128)
include hc

theorem contains_of_ascii {set : CharSet} (hset : ∀ r ∈ set, r ∈ wideLetters ++ wordMarks) :
    set.contains c = false := by
  simp only [CharSet.contains, List.any_eq_false, Bool.and_eq_true, decide_eq_true_iff, not_and]
  intro range hrange hfirst
  have hwide := List.all_eq_true.mp wide_beyond_ascii range (hset range hrange)
  rw [decide_eq_true_iff] at hwide
  omega

theorem isWordStart_of_ascii : isWordStart c = (c = '_' || isAsciiLetter c) := by
  have hwide : wideLetters.contains c = false :=
    contains_of_ascii hc fun _ h => List.mem_append_left _ h
  rw [isWordStart, hwide, Bool.or_false]

theorem isWordPart_of_ascii : isWordPart c = isNamePart c := by
  have hwide : wordMarks.contains c = false :=
    contains_of_ascii hc fun _ h => List.mem_append_right _ h
  rw [isWordPart, isWordStart_of_ascii hc, hwide, isNamePart, Bool.or_false, Bool.or_assoc,
    Bool.or_comm]

end Ascii

theorem startsWord_of_isNameStart {c : Char} (h : isNameStart c = true) :
    startsWord c = true := by
  have hall : ∀ n < 128, (!isNameStart (Char.ofNat n) || isOrdinary (Char.ofNat n)) = true := by
    decide
  have hletter : isAsciiLetter c = true := by
    simp only [isNameStart, Bool.and_eq_true] at h
    exact h.1.1
  have hc := toNat_lt_of_isAsciiLetter hletter
  have hordinary : isOrdinary c = true := by
    simpa [h] using of_ascii (p := fun c => !isNameStart c || isOrdinary c) hall hc
  rw [startsWord, hordinary, isWordStart_of_ascii hc, hletter, Bool.or_true, Bool.and_true]

theorem isWordPart_of_isNamePart {c : Char} (h : isNamePart c = true) : isWordPart c = true := by
  simp only [isNamePart, Bool.or_eq_true, decide_eq_true_iff] at h
  simp only [isWordPart, isWordStart, Bool.or_eq_true, decide_eq_true_iff]
  rcases h with (h | h) | h
  · exact Or.inl (Or.inl (Or.inl (Or.inr h)))
  · exact Or.inl (Or.inr h)
  · exact Or.inl (Or.inl (Or.inl (Or.inl h)))

/-! ## Tokens at the front -/

theorem skipGap_of_ne {c : Char} (hblank : isBlank c = false) (hslash : c ≠ '/')
    (cs : List Char) : skipGap .blanks (c :: cs) = some (c :: cs) := by
  rw [skipGap.eq_def]
  split <;> simp_all

/-- What no gap starts with is a token, or nothing that can be read. -/
theorem lex_of_skipGap {c : Char} (hblank : isBlank c = false) (hslash : c ≠ '/')
    (cs : List Char) : lex (c :: cs) =
      match scanToken c cs with
      | some (t, rest) => t :: lex rest
      | none => [.fault] := by
  have hgap := skipGap_of_ne hblank hslash cs
  rw [lex]
  split
  · rename_i heq
    exact absurd (hgap.symm.trans heq) (by simp)
  · rename_i heq
    exact absurd (hgap.symm.trans heq) (by simp)
  · rename_i d ds heq
    obtain ⟨rfl, rfl⟩ := List.cons.inj (Option.some.inj (hgap.symm.trans heq))
    split <;> simp_all

theorem lex_cons {c : Char} {cs rest : List Char} {t : Token} (hblank : isBlank c = false)
    (hslash : c ≠ '/') (h : scanToken c cs = some (t, rest)) : lex (c :: cs) = t :: lex rest := by
  rw [lex_of_skipGap hblank hslash, h]

/-- What starts with an ordinary character is a word or a number. -/
theorem lex_of_isOrdinary {c : Char} (hc : isOrdinary c = true) {cs rest : List Char} {t : Token}
    (h : (if isWordStart c then some (scanName c cs)
      else if isAsciiDigit c || c = '+' || c = '-' || c = '.' then
        (scanNumber (c :: cs)).map fun (v, rest) => (.leaf v, rest)
      else none) = some (t, rest)) : lex (c :: cs) = t :: lex rest := by
  simp only [isOrdinary, Bool.and_eq_true, Bool.not_eq_true', decide_eq_true_iff] at hc
  obtain ⟨⟨⟨⟨⟨⟨hblank, hslash⟩, hquote⟩, hchar⟩, hbytes⟩, hraw⟩, hmark⟩ := hc
  have hparen : ¬(c = '(' ∧ cs.head? = some ')') := by
    rintro ⟨rfl, -⟩
    exact absurd hmark (by decide)
  have hmark' : ¬"()[]\x7b\x7d,:#!".toList.contains c = true := by
    rw [hmark]
    decide
  refine lex_cons hblank hslash ?_
  simp only [scanToken, scanQuoted, if_neg hquote, if_neg hchar, if_neg hbytes, hraw, false_and,
    if_false, if_neg hparen, if_neg hmark']
  exact h

theorem lex_nil : lex [] = [] := by
  rw [lex]
  split
  · rename_i heq
    exact absurd heq (by simp [skipGap])
  · rfl
  · rename_i heq
    exact absurd heq (by simp [skipGap])

theorem scanToken_ne_hash {c : Char} {cs rest : List Char} {t : Token} (hc : c ≠ '#')
    (h : scanToken c cs = some (t, rest)) : t ≠ .mark '#' := by
  rintro rfl
  unfold scanToken at h
  split at h
  · obtain ⟨_, -, heq⟩ := Option.map_eq_some_iff.mp h
    exact absurd heq (by simp)
  · split at h
    · exact absurd h (by simp)
    split at h
    · exact hc (Token.mark.inj (Prod.mk.inj (Option.some.inj h)).1)
    split at h
    · have hword : ∃ name raw, (scanName c cs).1 = .word name raw := by
        unfold scanName
        split <;> exact ⟨_, _, rfl⟩
      obtain ⟨name, raw, hname⟩ := hword
      rw [Option.some.inj h] at hname
      exact absurd hname (by simp)
    split at h
    · obtain ⟨_, -, heq⟩ := Option.map_eq_some_iff.mp h
      exact absurd heq (by simp)
    · exact absurd h (by simp)

/-- The first token is a hash only if the first character is one. -/
theorem head_lex {c : Char} (hblank : isBlank c = false) (hslash : c ≠ '/') (hhash : c ≠ '#')
    (cs : List Char) : (lex (c :: cs)).head? ≠ some (.mark '#') := by
  cases ht : scanToken c cs with
  | none =>
    rw [lex_of_skipGap hblank hslash, ht]
    simp
  | some found =>
    rw [lex_cons hblank hslash ht, List.head?_cons]
    exact fun h => scanToken_ne_hash hhash ht (Option.some.inj h)

/-! ## Marks -/

/-- The marks of printed documents. -/
def marks : List Char := ['(', ')', '[', ']', '\x7b', '\x7d', ',', ':']

theorem lex_mark {c : Char} (hc : c ∈ marks) {cs : List Char}
    (hunit : ¬(c = '(' ∧ cs.head? = some ')')) : lex (c :: cs) = .mark c :: lex cs := by
  have hsigns : marks.all (fun d => !isBlank d && d ≠ '/' && d ≠ '"' && d ≠ '\'' && d ≠ 'b' &&
      d ≠ 'r' && "()[]\x7b\x7d,:#!".toList.contains d) = true := by decide
  have hsign := List.all_eq_true.mp hsigns c hc
  simp only [Bool.and_eq_true, Bool.not_eq_true', decide_eq_true_iff] at hsign
  obtain ⟨⟨⟨⟨⟨⟨hblank, hslash⟩, hquote⟩, hchar⟩, hbytes⟩, hraw⟩, hmark⟩ := hsign
  refine lex_cons hblank hslash ?_
  simp only [scanToken, scanQuoted, if_neg hquote, if_neg hchar, if_neg hbytes, if_neg hunit,
    if_pos hmark, hraw, false_and, if_false]

/-- A mark that is no open parenthesis. -/
theorem tokens_mark {c : Char} (hc : c ∈ marks) (hparen : c ≠ '(') (cs : List Char) :
    tokens (c :: cs) = .mark c :: tokens cs := by
  rw [tokens, lex_mark hc fun h => hparen h.1, join, if_neg hparen, tokens]

/-- An open parenthesis that is not closed at once. -/
theorem tokens_paren {cs : List Char} (hcs : cs.head? ≠ some ')') :
    tokens ('(' :: cs) = .paren .nothing :: tokens cs := by
  rw [tokens, lex_mark (by decide) fun h => hcs h.2, join, if_pos rfl, tokens]

/-! ## Words -/

/-- The marks that may end a value. -/
def endMarks : List Char := [',', ')', ']', '\x7d']

/-- Does nothing follow, or a mark that ends a value? -/
def Ends (cs : List Char) : Prop := ∀ c ∈ cs.head?, c ∈ endMarks

/-- Does no part of a word follow? -/
def EndsWord (cs : List Char) : Prop := ∀ c ∈ cs.head?, isWordPart c = false

theorem isWordPart_of_mark {c : Char} (hc : c ∈ marks) : isWordPart c = false := by
  have hmarks : marks.all (fun d => d.toNat < 128 && !isNamePart d) = true := by decide
  have hmark := List.all_eq_true.mp hmarks c hc
  simp only [Bool.and_eq_true, Bool.not_eq_true', decide_eq_true_iff] at hmark
  rw [isWordPart_of_ascii hmark.1, hmark.2]

theorem endsWord_of_mark {c : Char} (hc : c ∈ marks) (cs : List Char) : EndsWord (c :: cs) := by
  intro d hd
  obtain rfl := Option.some.inj hd
  exact isWordPart_of_mark hc

theorem Ends.endsWord {cs : List Char} (h : Ends cs) : EndsWord cs := by
  intro c hc
  have hmark := h c hc
  simp only [endMarks, List.mem_cons, List.not_mem_nil, or_false] at hmark
  refine isWordPart_of_mark ?_
  rcases hmark with rfl | rfl | rfl | rfl <;> decide

/-- Is the text a word, and nothing of it a mark or part of a literal? -/
def isWord (word : String) : Bool :=
  match word.toList with
  | [] => false
  | c :: cs => startsWord c && cs.all isWordPart

theorem isWord_of_isName {name : String} (h : isName name = true) : isWord name = true := by
  unfold isName at h
  unfold isWord
  split at h
  · exact absurd h (by decide)
  · simp only [Bool.and_eq_true, List.all_eq_true] at h ⊢
    exact ⟨startsWord_of_isNameStart h.1.1.1, fun c hc => isWordPart_of_isNamePart (h.1.1.2 c hc)⟩

theorem scanWord_append {ns cs : List Char} (hns : ∀ c ∈ ns, isWordPart c = true)
    (hcs : EndsWord cs) : scanWord (ns ++ cs) = (ns, cs) := by
  rw [scanWord, takeWhile_append_end hns hcs, dropWhile_append_end hns hcs]

theorem lex_word {word : String} (hword : isWord word = true) {cs : List Char}
    (hcs : EndsWord cs) : lex (word.toList ++ cs) = .word word false :: lex cs := by
  unfold isWord at hword
  split at hword
  · exact absurd hword (by decide)
  · rename_i c ns heq
    simp only [Bool.and_eq_true, List.all_eq_true] at hword
    obtain ⟨hstart, hns⟩ := hword
    simp only [startsWord, Bool.and_eq_true] at hstart
    have hraw : c ≠ 'r' := by
      rintro rfl
      exact absurd hstart.1 (by decide)
    have hname : scanName c (ns ++ cs) = (.word word false, cs) := by
      have htext : String.ofList (c :: ns) = word := by rw [← heq, String.ofList_toList]
      unfold scanName
      split
      · exact absurd rfl hraw
      · simp only [scanWord_append hns hcs, htext]
    rw [heq, List.cons_append]
    refine lex_of_isOrdinary hstart.1 ?_
    rw [if_pos hstart.2, hname]

/-! ### What a word is -/

theorem wordValue?_of_isName {name : String} (h : isName name = true) :
    wordValue? name false = some (.word name) := by
  unfold isName at h
  split at h
  · exact absurd h (by decide)
  · simp only [Bool.and_eq_true, List.mem_cons, List.not_mem_nil, or_false, not_or,
      decide_eq_true_iff] at h
    obtain ⟨⟨-, htrue, hfalse, hnone, hsome⟩, hspecial⟩ := h
    simp only [wordValue?, Bool.false_eq_true, if_neg htrue, if_neg hfalse, if_neg hnone,
      if_neg hsome, if_neg hspecial, if_false]

theorem label?_of_isName {name : String} (h : isName name = true) :
    label? name false = some (.name name) := by
  simp only [label?, wordValue?_of_isName h]

variable {word : String} {cs : List Char}

/-- A word with a colon behind it is a key. -/
theorem tokens_key (hword : isWord word = true) (cs : List Char) :
    tokens (word.toList ++ ':' :: cs) = .key word false :: tokens cs := by
  have hlex : lex (':' :: cs) = .mark ':' :: lex cs := lex_mark (by decide) (by simp)
  rw [tokens, lex_word hword (endsWord_of_mark (by decide) cs), hlex, join, tokens]

/-- A word with a parenthesis behind it is the label of what is in the parentheses. -/
theorem tokens_label (hword : isWord word = true) {label : Label}
    (hlabel : label? word false = some label) (hcs : cs.head? ≠ some ')') :
    tokens (word.toList ++ '(' :: cs) = .paren label :: tokens cs := by
  have hlex : lex ('(' :: cs) = .mark '(' :: lex cs := lex_mark (by decide) fun h => hcs h.2
  rw [tokens, lex_word hword (endsWord_of_mark (by decide) cs), hlex, join, hlabel, tokens]

/-- A word that ends a value is the value. -/
theorem tokens_value (hword : isWord word = true) {v : Ron}
    (hv : wordValue? word false = some v) (hcs : Ends cs) :
    tokens (word.toList ++ cs) = .leaf v :: tokens cs := by
  have htoken : wordToken word false = .leaf v := by simp only [wordToken, hv]
  rw [tokens, lex_word hword hcs.endsWord, tokens]
  cases cs with
  | nil => simp [lex_nil, join, htoken]
  | cons c cs =>
    have hc := hcs c rfl
    simp only [endMarks, List.mem_cons, List.not_mem_nil, or_false] at hc
    rw [lex_mark (by rcases hc with rfl | rfl | rfl | rfl <;> decide)
      (by rcases hc with rfl | rfl | rfl | rfl <;> simp)]
    rcases hc with rfl | rfl | rfl | rfl <;> simp [join, htoken]

/-! ## Texts -/

theorem scanText_quote (cs : List Char) : scanText .text ('"' :: cs) = some ([], cs) := by
  rw [scanText]

theorem scanText_escape {c : Char} {cs rest : List Char}
    (h : scanEscape .text cs = some (c, rest)) :
    scanText .text ('\\' :: cs) = (scanText .text rest).map fun (s, rest) => (c :: s, rest) := by
  rw [scanText]
  split
  · rename_i heq
    obtain ⟨rfl, rfl⟩ := Prod.mk.inj (Option.some.inj (h.symm.trans heq))
    rfl
  · rename_i heq
    exact absurd (h.symm.trans heq) (by simp)

theorem scanText_plain {c : Char} (hquote : c ≠ '"') (hslash : c ≠ '\\') (cs : List Char) :
    scanText .text (c :: cs) = (scanText .text cs).map fun (s, rest) => (c :: s, rest) := by
  rw [scanText] <;> simp [hquote, hslash]

/-- A letter that escapes a character is read as the character. -/
theorem scanEscape_of_escapeLetter? {c letter : Char} (h : escapeLetter? c = some letter)
    (cs : List Char) : scanEscape .text (letter :: cs) = some (c, cs) := by
  unfold escapeLetter? at h
  split at h
  · rename_i hc
    obtain rfl := Option.some.inj h
    rcases hc with rfl | rfl | rfl <;> rfl
  all_goals repeat' split at h
  all_goals first
    | (subst_vars; obtain rfl := Option.some.inj h; rfl)
    | exact absurd h (by simp)

/-- The code point in braces is read as the character. -/
theorem scanEscape_codePoint (c : Char) (cs : List Char) :
    scanEscape .text ('u' :: '\x7b' :: hexDigits 1 c.toNat ++ '\x7d' :: cs) = some (c, cs) := by
  have hdigits := isDigitOf_of_ofDigits? (ofDigits?_hexDigits 1 c.toNat)
  have hne : ∀ d ∈ hexDigits 1 c.toNat, decide (d ≠ '\x7d') = true := by
    intro d hd
    rw [decide_eq_true_iff]
    rintro rfl
    exact absurd (hdigits _ hd) (by decide)
  have hvalid : c.toNat.isValidChar := c.valid
  have hlength : (hexDigits 1 c.toNat).length ≤ 6 := by
    have hlt : c.toNat < 16 ^ 6 := by
      rcases hvalid with h | ⟨-, h⟩ <;> omega
    have hle := (Nat.length_toDigits_le_iff (by decide : 1 < 16) (by decide)).mpr hlt
    have hpos : 0 < (Nat.toDigits 16 c.toNat).length := List.length_pos_iff.mpr Nat.toDigits_ne_nil
    simp only [hexDigits, List.length_append, List.length_replicate]
    omega
  have hchar : charOf? c.toNat = some c := by
    rw [charOf?, if_pos hvalid, Char.ofNat_toNat]
  simp only [scanEscape, List.cons_append, List.takeWhile_append_of_pos hne,
    List.dropWhile_append_of_pos hne]
  simp [hlength, ofDigits?_hexDigits, hchar]

/-- A character in a text is read as itself. -/
theorem scanText_escapeChar (c : Char) (cs : List Char) :
    scanText .text (escapeChar c ++ cs) =
      (scanText .text cs).map fun (s, rest) => (c :: s, rest) := by
  unfold escapeChar
  cases hletter : escapeLetter? c with
  | some letter => exact scanText_escape (scanEscape_of_escapeLetter? hletter cs)
  | none =>
    have hquote : c ≠ '"' := by
      rintro rfl
      exact absurd hletter (by decide)
    have hslash : c ≠ '\\' := by
      rintro rfl
      exact absurd hletter (by decide)
    by_cases hprintable : isPrintable c = true
    · rw [if_pos hprintable]
      exact scanText_plain hquote hslash cs
    · simp only [if_neg hprintable, List.cons_append, List.append_assoc, List.nil_append]
      exact scanText_escape (scanEscape_codePoint c cs)

theorem scanText_printText (s cs : List Char) :
    scanText .text (s.flatMap escapeChar ++ '"' :: cs) = some (s, cs) := by
  induction s with
  | nil => exact scanText_quote cs
  | cons c s ih =>
    rw [List.flatMap_cons, List.append_assoc, scanText_escapeChar, ih]
    rfl

theorem join_leaf (v : Ron) (ts : List Token) : join (.leaf v :: ts) = .leaf v :: join ts := by
  simp [join]

theorem tokens_text (s : String) (cs : List Char) :
    tokens (printText s ++ cs) = .leaf (.text s) :: tokens cs := by
  have hscan := scanText_printText s.toList cs
  rw [tokens, printText, List.cons_append, List.cons_append, List.append_assoc,
    List.singleton_append, lex_cons (t := .leaf (.text s)) (by decide) (by decide)]
  · rw [join_leaf, tokens]
  · simp only [scanToken, scanQuoted, if_pos, hscan, asText, Option.map_some, String.ofList_toList]

/-! ## Numbers -/

/-- May a number start here, and nothing else? -/
def startsNumber (c : Char) : Bool :=
  isOrdinary c && !isWordStart c && c ≠ '-' && c ≠ '+' && isAsciiDigit c

/-- Is the character a digit in every kind of number, and in none a sign? -/
def isPlainDigit (c : Char) : Bool :=
  isIntChar c && isFloatChar c && c ≠ '_' && c ≠ 'b' && c ≠ 'o' && c ≠ 'x'

theorem signs_of_isDigitOf {c : Char} (h : isDigitOf 10 c = true) :
    startsNumber c = true ∧ isPlainDigit c = true := by
  have hall : ∀ n < 128, (!isAsciiDigit (Char.ofNat n) ||
      (isOrdinary (Char.ofNat n) && !isAsciiLetter (Char.ofNat n) && Char.ofNat n ≠ '-' &&
        Char.ofNat n ≠ '+' && isPlainDigit (Char.ofNat n))) = true := by decide
  have hdigit : isAsciiDigit c = true := by
    simpa [isAsciiDigit] using between_of_isDigitOf_10 h
  have hlt := toNat_lt_of_isDigitOf h
  have hc := of_ascii (p := fun c => !isAsciiDigit c ||
    (isOrdinary c && !isAsciiLetter c && c ≠ '-' && c ≠ '+' && isPlainDigit c)) hall hlt
  simp only [hdigit, Bool.not_true, Bool.false_or, Bool.and_eq_true, Bool.not_eq_true',
    decide_eq_true_iff] at hc
  obtain ⟨⟨⟨⟨hordinary, hletter⟩, hminus⟩, hplus⟩, hplain⟩ := hc
  have hunder : c ≠ '_' := by
    rintro rfl
    exact absurd hplain (by decide)
  exact ⟨by simp [startsNumber, isWordStart_of_ascii hlt, hordinary, hletter, hunder, hminus, hplus,
    hdigit], hplain⟩

section Digits

variable {ds : List Char} {n : Nat}

theorem signs_of_ends (h : Ends cs) {c : Char} (hc : c ∈ cs.head?) :
    isIntChar c = false ∧ isFloatChar c = false ∧ c ≠ 'b' ∧ c ≠ 'o' ∧ c ≠ 'x' := by
  have hends : endMarks.all (fun d => !isIntChar d && !isFloatChar d && d ≠ 'b' && d ≠ 'o' &&
      d ≠ 'x') = true := by decide
  simpa [and_assoc] using List.all_eq_true.mp hends c (h c hc)

/-- The digits are what is taken of a number, and the mark behind them is not. -/
theorem takeWhile_digits (hds : ∀ d ∈ ds, isDigitOf 10 d = true) (hcs : Ends cs) :
    (ds ++ cs).takeWhile isIntChar = ds ∧ (ds ++ cs).dropWhile isIntChar = cs ∧
      (ds ++ cs).takeWhile isFloatChar = ds := by
  have hint : ∀ d ∈ ds, isIntChar d = true := fun d hd => by
    have hplain := (signs_of_isDigitOf (hds d hd)).2
    simp only [isPlainDigit, Bool.and_eq_true] at hplain
    exact hplain.1.1.1.1.1
  have hfloat : ∀ d ∈ ds, isFloatChar d = true := fun d hd => by
    have hplain := (signs_of_isDigitOf (hds d hd)).2
    simp only [isPlainDigit, Bool.and_eq_true] at hplain
    exact hplain.1.1.1.1.2
  exact ⟨takeWhile_append_end hint fun c hc => (signs_of_ends hcs hc).1,
    dropWhile_append_end hint fun c hc => (signs_of_ends hcs hc).1,
    takeWhile_append_end hfloat fun c hc => (signs_of_ends hcs hc).2.1⟩

/-- No letter for a base follows a digit. -/
theorem no_base_letter (hds : ∀ d ∈ ds, isDigitOf 10 d = true) (hcs : Ends cs) {c : Char}
    {rest : List Char} (hc : ds ++ cs = c :: rest) : c ≠ 'b' ∧ c ≠ 'o' ∧ c ≠ 'x' := by
  cases ds with
  | nil =>
    rw [List.nil_append] at hc
    rw [hc] at hcs
    exact (signs_of_ends hcs rfl).2.2
  | cons d ds =>
    obtain ⟨rfl, -⟩ := List.cons.inj hc
    have hplain := (signs_of_isDigitOf (hds d (List.mem_cons_self ..))).2
    simp only [isPlainDigit, Bool.and_eq_true, decide_eq_true_iff] at hplain
    exact ⟨hplain.1.1.2, hplain.1.2, hplain.2⟩

theorem plainSize?_digits {d : Char} (hds : ∀ c ∈ d :: ds, isDigitOf 10 c = true)
    (hn : ofDigits? 10 (d :: ds) = some n) : plainSize? (d :: ds) = some (n, true) := by
  have hunder : ∀ c ∈ d :: ds, c ≠ '_' := fun c hc => by
    have hplain := (signs_of_isDigitOf (hds c hc)).2
    simp only [isPlainDigit, Bool.and_eq_true, decide_eq_true_iff] at hplain
    exact hplain.1.1.1.2
  have hfilter : (d :: ds).filter (· ≠ '_') = d :: ds := by
    rw [List.filter_eq_self]
    exact fun c hc => by simpa using hunder c hc
  have hhead : ¬(d :: ds).head? = some '_' := by
    simpa using hunder d (List.mem_cons_self ..)
  have hloose : looseDigits? 10 (d :: ds) = some n := by
    rw [looseDigits?, if_neg hhead, hfilter, hn]
  unfold plainSize?
  split
  · rename_i rest heq
    obtain ⟨-, rfl⟩ := List.cons.inj heq
    exact absurd (hds 'b' (by simp)) (by decide)
  · rw [hloose, Option.map_some]

theorem scanSign_digits {d : Char} (hd : isDigitOf 10 d = true) (cs : List Char) :
    scanSign (d :: cs) = (false, d :: cs) := by
  have hstart := (signs_of_isDigitOf hd).1
  simp only [startsNumber, Bool.and_eq_true, decide_eq_true_iff] at hstart
  unfold scanSign
  split
  · rename_i heq
    exact absurd (List.cons.inj heq).1 hstart.1.1.2
  · rename_i heq
    exact absurd (List.cons.inj heq).1 hstart.1.2
  · rfl

theorem scanSize_digits {d : Char} (hds : ∀ c ∈ d :: ds, isDigitOf 10 c = true)
    (hn : ofDigits? 10 (d :: ds) = some n) (hcs : Ends cs) :
    scanSize false (d :: ds ++ cs) = some ({ size := n }, cs) := by
  have hrest : ∀ c ∈ ds, isDigitOf 10 c = true := fun c hc => hds c (List.mem_cons_of_mem d hc)
  have hplain : scanPlain false (d :: ds ++ cs) = some ({ size := n }, cs) := by
    obtain ⟨htake, hdrop, -⟩ := takeWhile_digits hds hcs
    have hword : scanWord ([] ++ cs) = ([], cs) :=
      scanWord_append (fun c hc => absurd hc List.not_mem_nil) hcs.endsWord
    rw [List.nil_append] at hword
    have htype : intType? (String.ofList []) = none := rfl
    simp only [scanPlain, htake, hdrop, plainSize?_digits hds hn, hword, htype]
  unfold scanSize
  split
  · rename_i heq
    exact absurd rfl (no_base_letter hrest hcs (List.cons.inj heq).2).2.2
  · rename_i heq
    exact absurd rfl (no_base_letter hrest hcs (List.cons.inj heq).2).2.1
  · exact hplain

theorem scanNumber_digits {d : Char} (hds : ∀ c ∈ d :: ds, isDigitOf 10 c = true)
    (hn : ofDigits? 10 (d :: ds) = some n) (hcs : Ends cs) :
    scanNumber (d :: ds ++ cs) = some (.nat n, cs) := by
  have hd := hds d (List.mem_cons_self ..)
  have hsign : scanSign (d :: ds ++ cs) = (false, d :: ds ++ cs) := scanSign_digits hd _
  have hint : scanInt (d :: ds ++ cs) = some ({ size := n }, cs) := by
    unfold scanInt
    split
    · rename_i heq
      obtain ⟨rfl, -⟩ := List.cons.inj heq
      exact absurd hd (by decide)
    · simp only [hsign, scanSize_digits hds hn hcs]
  have hwhole : looksFractional (d :: ds ++ cs) = false := by
    obtain ⟨htake, -, htake'⟩ := takeWhile_digits hds hcs
    simp only [looksFractional, hsign, htake, htake', Nat.lt_irrefl, decide_false]
  simp only [scanNumber, hint, hwhole]
  rfl

end Digits

theorem tokens_nat (n : Nat) (hcs : Ends cs) :
    tokens (Nat.toDigits 10 n ++ cs) = .leaf (.nat n) :: tokens cs := by
  have hread := ofDigits?_toDigits (by decide : 1 < 10) (by decide) n
  have hdigits := isDigitOf_toDigits n
  cases hds : Nat.toDigits 10 n with
  | nil => exact absurd hds Nat.toDigits_ne_nil
  | cons d ds =>
    rw [hds] at hread hdigits
    have hscan := scanNumber_digits hdigits hread hcs
    have hstart := (signs_of_isDigitOf (hdigits d (List.mem_cons_self ..))).1
    simp only [startsNumber, Bool.and_eq_true, Bool.not_eq_true', decide_eq_true_iff] at hstart
    obtain ⟨⟨⟨⟨hordinary, hword⟩, -⟩, -⟩, hdigit⟩ := hstart
    rw [List.cons_append] at hscan ⊢
    rw [tokens, lex_of_isOrdinary (t := .leaf (.nat n)) hordinary, join_leaf, tokens]
    simp only [hword, hdigit, hscan, Bool.true_or, Bool.false_eq_true, if_false, if_true,
      Option.map_some]

end FlowRules.Ron
