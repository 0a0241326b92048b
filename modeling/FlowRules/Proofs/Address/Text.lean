import FlowRules.Address.Prefix
import FlowRules.Proofs.Text.Numeral
import FlowRules.Proofs.Text.Pieces

/-!
# Addresses told by their texts

An address is written as the numerals of its octets with points between them, and a
network as an address and a length with a slash between them. No numeral holds a
separator, so the text can be taken apart again : equal texts are those of equal
addresses (`Ipv4.text_inj`) and equal networks (`Network.text_inj`).
-/

namespace FlowRules

theorem Ipv4.toList_text (ip : Ipv4) :
    ip.text.toList = joinPieces '.' (ip.octets.map fun o => (wordText o).toList) := by
  simp [text, octets, joinPieces]

/-- A sign that is no digit and no point is not in the text of an address. -/
theorem Ipv4.notMem_text {c : Char} (hdigit : isDigitOf 10 c = false) (hpoint : c ≠ '.')
    (ip : Ipv4) : c ∉ ip.text.toList := by
  rw [toList_text]
  intro hmem
  rcases mem_joinPieces hmem with h | ⟨p, hp, hc⟩
  · exact hpoint h
  · obtain ⟨o, -, rfl⟩ := List.mem_map.mp hp
    exact notMem_decimal hdigit o.toNat hc

theorem Ipv4.text_inj {x y : Ipv4} (h : x.text.toList = y.text.toList) : x = y := by
  rw [toList_text, toList_text] at h
  have hpoint : ∀ ip : Ipv4, ∀ p ∈ ip.octets.map (fun o => (wordText o).toList), '.' ∉ p := by
    intro ip p hp
    obtain ⟨o, -, rfl⟩ := List.mem_map.mp hp
    exact notMem_decimal (by decide) o.toNat
  have hoctets := joinPieces_inj (by simp [octets]) (by simp [octets]) (hpoint x) (hpoint y) h
  simp only [octets, List.map_cons, List.map_nil, List.cons.injEq, and_true] at hoctets
  obtain ⟨ha, hb, hc, hd⟩ := hoctets
  rw [Ipv4.mk.injEq]
  exact ⟨wordText_inj ha, wordText_inj hb, wordText_inj hc, wordText_inj hd⟩

/-- A sign that is no digit, no point and no slash is not in the text of a network. -/
theorem Network.notMem_text {c : Char} (hdigit : isDigitOf 10 c = false) (hpoint : c ≠ '.')
    (hslash : c ≠ '/') (net : Network) : c ∉ net.text.toList := by
  have hnumeral := notMem_decimal hdigit net.len.val
  have haddress := Ipv4.notMem_text hdigit hpoint net.address
  simp [text, hnumeral, haddress, hslash]

theorem Network.text_inj {x y : Network} (h : x.text.toList = y.text.toList) : x = y := by
  have hslash := Ipv4.notMem_text (c := '/') (by decide) (by decide)
  obtain ⟨haddress, hlen⟩ := append_cons_inj (hslash x.address) (hslash y.address)
    (by simpa [text] using h)
  obtain ⟨address, len, hle⟩ := x
  obtain ⟨address', len', hle'⟩ := y
  obtain rfl := Ipv4.text_inj haddress
  obtain rfl : len = len' := decimal_inj hlen
  rfl

end FlowRules
