/-!
# UTF-8

The bytes of a text, and the text of bytes that are well-formed UTF-8. Reading the
bytes of a text gives the text (`decode?_encode`).
-/

namespace FlowRules.Utf8

/-- The bytes of a text. -/
def encode (cs : List Char) : List UInt8 := cs.flatMap String.utf8EncodeChar

/-- The text of the bytes, if they are well-formed. -/
def decode? (bytes : List UInt8) : Option (List Char) :=
  bytes.toByteArray.utf8Decode?.map Array.toList

/-- The bytes of a string. -/
def ofString (s : String) : List UInt8 := encode s.toList

/-- The string of the bytes, if they are well-formed. -/
def toString? (bytes : List UInt8) : Option String := (decode? bytes).map String.ofList

theorem encode_append (cs ds : List Char) : encode (cs ++ ds) = encode cs ++ encode ds := by
  simp [encode]

theorem decode?_encode (cs : List Char) : decode? (encode cs) = some cs := by
  have h : (encode cs).toByteArray = cs.utf8Encode := by simp [encode, List.utf8Encode]
  simp [decode?, h, List.utf8Decode?_utf8Encode]

theorem toString?_ofString (s : String) : toString? (ofString s) = some s := by
  simp [toString?, ofString, decode?_encode]

end FlowRules.Utf8
