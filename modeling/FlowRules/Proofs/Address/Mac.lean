import FlowRules.Address.Mac
import FlowRules.Proofs.Address.Reading

/-!
# Texts of MAC addresses

A text is cut at its colons. If all pieces are numerals of octets in base sixteen, their number
decides whether they are an address. Otherwise it does not matter how many they are : the first
piece that is no such numeral is reported (`Mac.Reading`). Each text has one such outcome, and it
is the one that the reader gives. An address is written with two digits for each octet, the
letters in upper case, and so the sign, the zeros and the case in a text that was read are gone
(`Mac.macTexts_exact`).
-/

namespace FlowRules

namespace Mac

/-! ## Reading -/

/-- What comes of reading a text as a MAC address. -/
inductive Reading (s : String) : Except ConfigError Mac → Prop
  | ok {mac : Mac} (h : IsOctetText 16 ':' s.toList mac.octets) : Reading s (.ok mac)
  | badOctet {good rest : List (List Char)} {bad : List Char}
    (hs : ArePieces ':' s.toList (good ++ bad :: rest))
    (hgood : ∀ p ∈ good, IsOctetNumeral 16 p) (hbad : ¬ IsOctetNumeral 16 bad) :
    Reading s (.error (.badMac ("bad octet: " ++ String.ofList bad)))
  | badCount {ps : List (List Char)} (hs : ArePieces ':' s.toList ps)
    (hps : ∀ p ∈ ps, IsOctetNumeral 16 p) (hcount : ps.length ≠ 6) :
    Reading s (.error (.badMac s))

theorem parseOctet_eq_ok_iff {p : List Char} {o : Octet} :
    parseOctet p = .ok o ↔ IsNumeral 16 p o.toNat := by
  have hread : hexOctet? p = some o ↔ IsNumeral 16 p o.toNat := octet?_eq_some_iff (by decide)
  rw [← hread, parseOctet]
  cases hexOctet? p <;> simp

theorem parseOctet_of_bad {p : List Char} (h : ¬ IsOctetNumeral 16 p) :
    parseOctet p = .error (.badMac ("bad octet: " ++ String.ofList p)) := by
  have hread : hexOctet? p = none := (octet?_eq_none_iff (by decide)).mpr h
  rw [parseOctet, hread]

theorem exists_parseOctet {p : List Char} (h : IsOctetNumeral 16 p) :
    ∃ o, parseOctet p = .ok o := by
  obtain ⟨o, ho⟩ := isOctetNumeral_iff.mp h
  exact ⟨o, parseOctet_eq_ok_iff.mpr ho⟩

theorem mapM_parseOctet {ps : List (List Char)} {os : List Octet}
    (h : List.Forall₂ (fun p o => IsNumeral 16 p (BitVec.toNat o)) ps os) :
    ps.mapM parseOctet = .ok os :=
  mapM_eq_ok (h.imp fun _ _ => parseOctet_eq_ok_iff.mpr)

theorem parse_of_reading {s : String} {r : Except ConfigError Mac} (h : Reading s r) :
    parse s = r := by
  cases h with
  | @ok mac h =>
    have hos := (isOctetText_iff_pieces (by decide) (by decide) (by decide)
      (List.cons_ne_nil _ _)).mp h
    rw [parse, mapM_parseOctet hos]
    rfl
  | badOctet hs hgood hbad =>
    rw [parse, arePieces_iff.mp hs,
      mapM_eq_error (fun p hp => exists_parseOctet (hgood p hp)) (parseOctet_of_bad hbad)]
    rfl
  | badCount hs hps hcount =>
    obtain ⟨os, hos⟩ := exists_octets hps
    have hlength : os.length ≠ 6 := hos.length_eq ▸ hcount
    simp only [parse, arePieces_iff.mp hs, mapM_parseOctet hos, bind, Except.bind]
    split
    · exact absurd rfl hlength
    · rfl

/-- Six octets are those of an address. -/
theorem exists_octets_eq {os : List Octet} (h : os.length = 6) : ∃ mac : Mac, mac.octets = os := by
  match os, h with
  | [o1, o2, o3, o4, o5, o6], _ => exact ⟨⟨o1, o2, o3, o4, o5, o6⟩, rfl⟩

theorem exists_reading (s : String) : ∃ r, Reading s r := by
  have hs : ArePieces ':' s.toList (pieces ':' s.toList) := arePieces_iff.mpr rfl
  rcases all_or_first (IsOctetNumeral 16) (pieces ':' s.toList) with
    hall | ⟨good, bad, rest, hsplit, hgood, hbad⟩
  · by_cases hcount : (pieces ':' s.toList).length = 6
    · obtain ⟨os, hos⟩ := exists_octets hall
      obtain ⟨mac, rfl⟩ := exists_octets_eq (hos.length_eq.symm.trans hcount)
      exact ⟨.ok mac, .ok ⟨_, hs.eq_join, hos⟩⟩
    · exact ⟨_, .badCount hs hall hcount⟩
  · exact ⟨_, .badOctet (hsplit ▸ hs) hgood hbad⟩

theorem parse_eq_iff_reading {s : String} {r : Except ConfigError Mac} :
    parse s = r ↔ Reading s r :=
  eq_iff_of_allowed (fun _ => parse_of_reading) (exists_reading s)

/-! ## Writing -/

/-- The two hexadecimal digits of the octet, letters in upper case. -/
def upperPair (o : Octet) : List Char :=
  [(o.toNat / 16).digitChar.toUpper, (o.toNat % 16).digitChar.toUpper]

theorem toList_upperHex (o : Octet) : (upperHex 2 o.toNat).toList = upperPair o := by
  have hlt := o.isLt
  have hpair : hexDigits 2 o.toNat = [(o.toNat / 16).digitChar, (o.toNat % 16).digitChar] := by
    rcases Nat.lt_or_ge o.toNat 16 with hsmall | hlarge
    · rw [hexDigits, Nat.toDigits_of_lt_base hsmall, Nat.div_eq_of_lt hsmall,
        Nat.mod_eq_of_lt hsmall]
      rfl
    · rw [hexDigits, Nat.toDigits_of_base_le (by decide) hlarge,
        Nat.toDigits_of_lt_base (by omega)]
      rfl
  rw [upperHex, String.toList_ofList, hpair]
  rfl

theorem isNumeral_upperPair (o : Octet) : IsNumeral 16 (upperPair o) o.toNat := by
  have hlt := o.isLt
  have hdigit (v : Nat) (hv : v < 16) : IsDigit 16 v.digitChar.toUpper v := ⟨hv, Or.inr rfl⟩
  refine ⟨[], upperPair o, [o.toNat / 16, o.toNat % 16], rfl, Or.inl rfl, List.cons_ne_nil _ _,
    .cons (hdigit _ (by omega)) (.cons (hdigit _ (by omega)) .nil), ?_⟩
  simp [Nat.ofDigits_cons]
  omega

theorem toList_text (mac : Mac) : mac.text.toList = joinPieces ':' (mac.octets.map upperPair) := by
  have hcolon : ":".toList = [':'] := rfl
  rw [text, String.toList_intercalate, hcolon, intercalate_eq_joinPieces, List.map_map]
  exact congrArg (joinPieces ':') (List.map_congr_left fun o _ => toList_upperHex o)

theorem isOctetText_text (mac : Mac) : IsOctetText 16 ':' mac.text.toList mac.octets := by
  refine ⟨_, toList_text mac, ?_⟩
  rw [List.forall₂_map_left_iff, List.forall₂_same]
  exact fun o _ => isNumeral_upperPair o

theorem parse_text (mac : Mac) : parse mac.text = .ok mac :=
  parse_eq_iff_reading.mpr (.ok (isOctetText_text mac))

/-- Each text is read as a MAC address exactly as it says, and the text that is written for an
address is read as this. Whichever way a text writes six octets, it is read as an address that
is written with two upper-case digits for each of them. -/
theorem macTexts_exact (s : String) :
    (∀ r, parse s = r ↔ Reading s r) ∧
    (∀ mac : Mac, parse mac.text = .ok mac) ∧
    (∀ os : List Octet, os.length = 6 → IsOctetText 16 ':' s.toList os →
      ∃ mac, parse s = .ok mac ∧ mac.text.toList = joinPieces ':' (os.map upperPair)) := by
  refine ⟨fun _ => parse_eq_iff_reading, parse_text, fun os hlength hos => ?_⟩
  obtain ⟨mac, rfl⟩ := exists_octets_eq hlength
  exact ⟨mac, parse_eq_iff_reading.mpr (.ok hos), toList_text mac⟩

/-- Signs, zeros and cases are gone when the address is written again. -/
theorem mixedText_rewritten :
    ∃ mac, parse "+0a:0:B:00c:+D:fF" = .ok mac ∧ mac.text = "0A:00:0B:0C:0D:FF" := by
  have hos : IsOctetText 16 ':' "+0a:0:B:00c:+D:fF".toList [0x0a, 0, 0x0b, 0x0c, 0x0d, 0xff] := by
    refine ⟨["+0a", "0", "B", "00c", "+D", "fF"].map String.toList, by decide, ?_⟩
    refine .cons ?_ (.cons ?_ (.cons ?_ (.cons ?_ (.cons ?_ (.cons ?_ .nil)))))
    all_goals exact parseOctet_eq_ok_iff.mp (by decide)
  obtain ⟨-, -, hread⟩ := macTexts_exact "+0a:0:B:00c:+D:fF"
  obtain ⟨mac, hmac, htext⟩ := hread _ rfl hos
  exact ⟨mac, hmac, String.toList_injective (htext.trans (by decide))⟩

end Mac

end FlowRules
