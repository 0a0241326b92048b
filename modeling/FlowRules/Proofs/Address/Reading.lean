import FlowRules.Proofs.Address.Text
import FlowRules.Proofs.Text.Written

/-!
# Texts of addresses and networks

Which texts write an address is said without the reader : four numerals of octets with points
between them (`Ipv4.Reading`). A text that writes a network has a slash, and it is cut at the
first one. What stands in front must write an address, what stands behind a number up to 32, and
the first that fails decides which error there is (`Network.Reading`). Each text has one such
outcome, and it is the one that the reader gives (`Network.addressTexts_exact`). Among the texts
of an address or a network is the one that is written for it.
-/

namespace FlowRules

/-- A value is the one that a description allows, if it is what anything allowed is. -/
theorem eq_iff_of_allowed {α : Type} {allowed : α → Prop} {x r : α}
    (heq : ∀ r, allowed r → x = r) (hex : ∃ r, allowed r) : x = r ↔ allowed r := by
  constructor
  · rintro rfl
    obtain ⟨r, hr⟩ := hex
    rwa [heq r hr]
  · exact heq r

theorem decimalOctet?_eq_some_iff {cs : List Char} {o : Octet} :
    decimalOctet? cs = some o ↔ IsNumeral 10 cs o.toNat :=
  octet?_eq_some_iff (by decide)

/-! ## Addresses -/

namespace Ipv4

/-- What comes of reading a text as an address. -/
inductive Reading (s : String) : Except ConfigError Ipv4 → Prop
  | ok {ip : Ipv4} (h : IsOctetText 10 '.' s.toList ip.octets) : Reading s (.ok ip)
  | bad (h : ∀ ip : Ipv4, ¬ IsOctetText 10 '.' s.toList ip.octets) :
    Reading s (.error (.badAddress s))

theorem ofChars?_eq_some_iff {cs : List Char} {ip : Ipv4} :
    ofChars? cs = some ip ↔ IsOctetText 10 '.' cs ip.octets := by
  have hread (os : List Octet) (hos : os ≠ []) :
      (pieces '.' cs).mapM decimalOctet? = some os ↔ IsOctetText 10 '.' cs os := by
    rw [mapM_eq_some_iff, isOctetText_iff_pieces (by decide) (by decide) (by decide) hos]
    simp only [decimalOctet?_eq_some_iff]
  constructor
  · intro h
    unfold ofChars? at h
    split at h
    · rename_i a b c d heq
      obtain rfl := Option.some.inj h
      exact (hread [a, b, c, d] (List.cons_ne_nil _ _)).mp heq
    · cases h
  · intro h
    rw [ofChars?, (hread ip.octets (List.cons_ne_nil _ _)).mpr h]
    rfl

theorem parse_eq_iff_reading {s : String} {r : Except ConfigError Ipv4} :
    parse s = r ↔ Reading s r := by
  refine eq_iff_of_allowed ?_ ?_
  · rintro r (h | h)
    · rw [parse, ofChars?_eq_some_iff.mpr h]
    · have hnone : ofChars? s.toList = none := by
        rw [Option.eq_none_iff_forall_ne_some]
        exact fun ip hip => h ip (ofChars?_eq_some_iff.mp hip)
      rw [parse, hnone]
  · by_cases h : ∃ ip : Ipv4, IsOctetText 10 '.' s.toList ip.octets
    · obtain ⟨ip, hip⟩ := h
      exact ⟨.ok ip, .ok hip⟩
    · exact ⟨_, .bad fun ip hip => h ⟨ip, hip⟩⟩

theorem isOctetText_text (ip : Ipv4) : IsOctetText 10 '.' ip.text.toList ip.octets := by
  refine ⟨_, toList_text ip, ?_⟩
  rw [List.forall₂_map_left_iff, List.forall₂_same]
  exact fun o _ => isNumeral_decimal o.toNat

theorem parse_text (ip : Ipv4) : parse ip.text = .ok ip :=
  parse_eq_iff_reading.mpr (.ok (isOctetText_text ip))

end Ipv4

/-! ## Networks -/

namespace Network

/-- What comes of reading a text as a network. -/
inductive Reading (s : String) : Except ConfigError Network → Prop
  | noSlash (h : '/' ∉ s.toList) : Reading s (.error (.badAddress ("no '/' in " ++ s)))
  | badAddress {left right : List Char} (hs : s.toList = left ++ '/' :: right) (hleft : '/' ∉ left)
    (h : ∀ ip : Ipv4, ¬ IsOctetText 10 '.' left ip.octets) :
    Reading s (.error (.badAddress (String.ofList left)))
  | badLength {left right : List Char} {ip : Ipv4} (hs : s.toList = left ++ '/' :: right)
    (hleft : '/' ∉ left) (hip : IsOctetText 10 '.' left ip.octets)
    (h : ¬ IsOctetNumeral 10 right) : Reading s (.error (.badAddress s))
  | tooLong {left right : List Char} {ip : Ipv4} {len : Octet}
    (hs : s.toList = left ++ '/' :: right) (hleft : '/' ∉ left)
    (hip : IsOctetText 10 '.' left ip.octets) (hlen : IsNumeral 10 right len.toNat)
    (h : 32 < len.toNat) : Reading s (.error (.badPrefixLen len))
  | ok {left right : List Char} {net : Network} (hs : s.toList = left ++ '/' :: right)
    (hleft : '/' ∉ left) (hip : IsOctetText 10 '.' left net.address.octets)
    (hlen : IsNumeral 10 right net.len.val) : Reading s (.ok net)

theorem parse_of_noSlash {s : String} (h : '/' ∉ s.toList) :
    parse s = .error (.badAddress ("no '/' in " ++ s)) := by
  rw [parse, cut_eq_none_iff.mpr h]

theorem parse_of_badAddress {s : String} {left right : List Char}
    (hs : s.toList = left ++ '/' :: right) (hleft : '/' ∉ left)
    (h : ∀ ip : Ipv4, ¬ IsOctetText 10 '.' left ip.octets) :
    parse s = .error (.badAddress (String.ofList left)) := by
  have hread : Ipv4.parse (String.ofList left) = .error (.badAddress (String.ofList left)) :=
    Ipv4.parse_eq_iff_reading.mpr (.bad (by rwa [String.toList_ofList]))
  simp only [parse, cut_eq_some_iff.mpr ⟨hs, hleft⟩, hread]
  rfl

/-- Behind an address, what follows the slash decides. -/
theorem parse_of_address {s : String} {left right : List Char} {ip : Ipv4}
    (hs : s.toList = left ++ '/' :: right) (hleft : '/' ∉ left)
    (hip : IsOctetText 10 '.' left ip.octets) : parse s =
      match decimalOctet? right with
      | none => .error (.badAddress s)
      | some len => make ip len := by
  have hread : Ipv4.parse (String.ofList left) = .ok ip :=
    Ipv4.parse_eq_iff_reading.mpr (.ok (by rwa [String.toList_ofList]))
  simp only [parse, cut_eq_some_iff.mpr ⟨hs, hleft⟩, hread]
  rfl

theorem parse_of_reading {s : String} {r : Except ConfigError Network} (h : Reading s r) :
    parse s = r := by
  cases h with
  | noSlash h => exact parse_of_noSlash h
  | badAddress hs hleft h => exact parse_of_badAddress hs hleft h
  | badLength hs hleft hip h =>
    have hread := (octet?_eq_none_iff (by decide)).mpr h
    rw [parse_of_address hs hleft hip, decimalOctet?, hread]
  | tooLong hs hleft hip hlen h =>
    rw [parse_of_address hs hleft hip, decimalOctet?_eq_some_iff.mpr hlen]
    simp only [make, PrefixLen.ofOctet, dif_neg (Nat.not_le.mpr h)]
    rfl
  | @ok left right net hs hleft hip hlen =>
    rw [← net.len.toNat_toOctet] at hlen
    rw [parse_of_address hs hleft hip, decimalOctet?_eq_some_iff.mpr hlen]
    simp only [make, PrefixLen.ofOctet_toOctet]
    rfl

theorem exists_reading (s : String) : ∃ r, Reading s r := by
  by_cases hslash : '/' ∈ s.toList
  · obtain ⟨left, right, hs, hleft⟩ := List.eq_append_cons_of_mem hslash
    by_cases hip : ∃ ip : Ipv4, IsOctetText 10 '.' left ip.octets
    · obtain ⟨ip, hip⟩ := hip
      by_cases hlen : IsOctetNumeral 10 right
      · obtain ⟨o, ho⟩ := isOctetNumeral_iff.mp hlen
        by_cases h : o.toNat ≤ 32
        · exact ⟨.ok ⟨ip, o.toNat, h⟩, .ok hs hleft hip ho⟩
        · exact ⟨_, .tooLong hs hleft hip ho (Nat.not_le.mp h)⟩
      · exact ⟨_, .badLength hs hleft hip hlen⟩
    · exact ⟨_, .badAddress hs hleft fun ip h => hip ⟨ip, h⟩⟩
  · exact ⟨_, .noSlash hslash⟩

theorem parse_eq_iff_reading {s : String} {r : Except ConfigError Network} :
    parse s = r ↔ Reading s r :=
  eq_iff_of_allowed (fun _ => parse_of_reading) (exists_reading s)

theorem parse_text (net : Network) : parse net.text = .ok net := by
  refine parse_eq_iff_reading.mpr (.ok ?_ ?_
    (Ipv4.isOctetText_text net.address) (isNumeral_decimal net.len.val))
  · simp [text]
  · exact Ipv4.notMem_text (by decide) (by decide) net.address

/-- Each text is read as an address, and as a network, exactly as it says. The texts that are
written for addresses and networks are read as these. -/
theorem addressTexts_exact (s : String) :
    (∀ r, Ipv4.parse s = r ↔ Ipv4.Reading s r) ∧
    (∀ r, Network.parse s = r ↔ Network.Reading s r) ∧
    (∀ ip : Ipv4, Ipv4.parse ip.text = .ok ip) ∧
    (∀ net : Network, Network.parse net.text = .ok net) :=
  ⟨fun _ => Ipv4.parse_eq_iff_reading, fun _ => parse_eq_iff_reading, Ipv4.parse_text, parse_text⟩

end Network

end FlowRules
