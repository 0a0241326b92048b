import FlowRules.Encoding
import FlowRules.Proofs.Json.RoundTrip
import FlowRules.Proofs.Postcard.RoundTrip
import FlowRules.Proofs.Ron.RoundTrip

/-!
# All encodings

What is said of every encoding of values : a value is read back from its bytes
(`Layout.decode_encode`), and a type that is written as another one is read by making its
values from those of the other (`Encoding.decode_via`).
-/

namespace FlowRules

/-! ## Reading what was written -/

/-- A value is read back from its bytes in every encoding. In Postcard its sizes must be
numbers of 64 bits. -/
theorem Layout.decode_encode {α : Type} {l : Layout α} {a : α} {enc : Encoding}
    (hl : l.wellFormed Ron.isName = true) (hfits : enc = .postcard → l.fits a = true) :
    enc.decode l (enc.encode l a) = .ok a := by
  cases enc with
  | json => exact Layout.decodeJson_encodeJson hl
  | postcard =>
    have hread := Layout.decodePostcard_put hl (hfits rfl) []
    rwa [List.append_nil] at hread
  | ron => exact Layout.decodeRon_encodeRon hl

/-! ## A type that is written as another one -/

section

variable {α β : Type} {make : α → β} {parts : β → α} {h : ∀ b, make (parts b) = b} {l : Layout α}

theorem Layout.parseRon_via (cs : List Char) :
    (Layout.via make parts h l).parseRon cs = (l.parseRon cs).map make := by
  simp only [parseRon, read]
  cases Ron.parse cs with
  | none => rfl
  | some parsed =>
    obtain ⟨e, v, ended⟩ := parsed
    simp only [recognised, bind, Except.bind]
    cases l.read (Ron.reader e) { value := v } with
    | error fault => rfl
    | ok a => cases ended <;> rfl

/-- A value is read by making it from what it is written as. -/
theorem Encoding.decode_via (enc : Encoding) (bytes : List UInt8) :
    enc.decode (.via make parts h l) bytes = (enc.decode l bytes).map make := by
  cases enc with
  | json =>
    simp only [decode, Layout.decodeJson, Layout.ofJson, Layout.read]
    cases l.read Json.reader (Json.parse bytes).1 with
    | error e => rfl
    | ok a => cases (Json.parse bytes).2 <;> rfl
  | postcard =>
    simp only [decode, Layout.decodePostcard, Layout.get, Postcard.getMap]
    cases l.get bytes <;> rfl
  | ron =>
    simp only [decode, Layout.decodeRon]
    cases Utf8.decode? bytes with
    | none => rfl
    | some cs => exact Layout.parseRon_via cs

end

end FlowRules
