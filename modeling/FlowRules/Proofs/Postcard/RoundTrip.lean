import FlowRules.Encoding
import FlowRules.Proofs.Layout.WellFormed
import Mathlib.Data.BitVec

/-!
# Values in Postcard read back

Each part of a layout reads from the front of some bytes what it wrote there, and leaves
the bytes after it (`Layout.get_put`). So no value is written as the beginning of what
another one is written as.

A length is a number of 64 bits, so what is longer cannot be told (`Layout.fits`). The
main statement is `StoredType.decode_postcard`.
-/

namespace FlowRules

namespace Postcard

/-! ## Numbers of varying length -/

theorem getGroups_putGroups {top k n : Nat} (htop : top < 128) (h : n < (top + 1) * 128 ^ k)
    (rest : List UInt8) :
    getGroups top (k + 1) (putGroups (k + 1) n ++ rest) = .ok (n, rest) := by
  induction k generalizing n with
  | zero =>
    have hn : n < 128 := by omega
    have hbyte : (UInt8.ofNat n).toNat = n := by
      rw [UInt8.toNat_ofNat']
      omega
    have hle : ¬top < n := by omega
    simp [putGroups, getGroups, hn, hbyte, hle]
  | succ k ih =>
    by_cases hn : n < 128
    · have hbyte : (UInt8.ofNat n).toNat = n := by
        rw [UInt8.toNat_ofNat']
        omega
      simp [putGroups, getGroups, hn, hbyte]
    · have hbyte : (UInt8.ofNat (n % 128 + 128)).toNat = n % 128 + 128 := by
        rw [UInt8.toNat_ofNat']
        omega
      have hdiv : n / 128 < (top + 1) * 128 ^ k := by
        rw [Nat.div_lt_iff_lt_mul (by decide), Nat.mul_assoc, ← Nat.pow_succ]
        exact h
      have hsum : n % 128 + 128 * (n / 128) = n := Nat.mod_add_div n 128
      rw [putGroups, if_neg hn, List.cons_append, getGroups, hbyte, if_neg (by omega), ih hdiv]
      simp [bind, Except.bind, pure, Except.pure, hsum]

/-- The last group has room for the bits that are left. -/
theorem getVarint_putVarint {w n : Nat} (hw : w % 7 ≠ 0) (h : n < 2 ^ w) (rest : List UInt8) :
    getVarint w (putVarint w n ++ rest) = .ok (n, rest) := by
  have hgroups : maxGroups w = w / 7 + 1 := by
    unfold maxGroups
    omega
  have hpow : (BitVec.allOnes (w % 7)).toNat + 1 = 2 ^ (w % 7) := by
    rw [BitVec.toNat_allOnes, Nat.sub_add_cancel (Nat.two_pow_pos _)]
  have htop : (BitVec.allOnes (w % 7)).toNat < 128 := by
    have hle : 2 ^ (w % 7) ≤ 2 ^ 7 := Nat.pow_le_pow_right (by decide) (by omega)
    omega
  rw [getVarint, putVarint, hgroups]
  refine getGroups_putGroups htop ?_ rest
  have hbits : 2 ^ (w % 7) * 128 ^ (w / 7) = 2 ^ w := by
    rw [show 128 = 2 ^ 7 by decide, ← Nat.pow_mul, ← Nat.pow_add, Nat.mod_add_div]
  rw [hpow, hbits]
  exact h

/-! ## Octets of a word -/

/-- The highest of some octets, then the others. -/
theorem bigEndian_succ {w : Nat} (n : Nat) (x : BitVec w) :
    bigEndian (n + 1) x = x.extractLsb' (8 * n) 8 :: bigEndian n x := by
  simp [bigEndian, littleEndian, List.range_succ]

/-- An octet of a word is a digit in base 256. -/
theorem toNat_octet {w : Nat} (n : Nat) (x : BitVec w) :
    (x.extractLsb' (8 * n) 8).toNat = x.toNat / 256 ^ n % 256 := by
  rw [BitVec.extractLsb'_toNat, Nat.shiftRight_eq_div_pow, Nat.pow_mul]

theorem foldl_bigEndian {w : Nat} (x : BitVec w) (n acc : Nat) :
    (bigEndian n x).foldl (fun m o => m * 256 + o.toNat) acc =
      acc * 256 ^ n + x.toNat % 256 ^ n := by
  induction n generalizing acc with
  | zero => simp [bigEndian, littleEndian, Nat.mod_one]
  | succ n ih =>
    rw [bigEndian_succ, List.foldl_cons, ih, toNat_octet, Nat.pow_succ, Nat.mod_mul,
      Nat.add_mul, Nat.mul_assoc, Nat.mul_comm 256, Nat.mul_comm (256 ^ n) (_ % 256)]
    omega

theorem ofBigEndian_bigEndian (bits : BitVec 128) : ofBigEndian 128 (bigEndian 16 bits) = bits := by
  have hlt : bits.toNat < 256 ^ 16 := Nat.lt_of_lt_of_eq bits.isLt (by decide)
  rw [ofBigEndian, foldl_bigEndian, Nat.zero_mul, Nat.zero_add, Nat.mod_eq_of_lt hlt,
    BitVec.ofNat_toNat, BitVec.setWidth_eq]

/-! ## Reading what was written -/

variable {α β : Type}

/-- Does reading take exactly these bytes, whatever follows, and find the value? -/
def Reads (get : Get α) (bytes : List UInt8) (a : α) : Prop :=
  ∀ rest, get (bytes ++ rest) = .ok (a, rest)

theorem reads_bool (b : Bool) : Reads getBool [if b then 1 else 0] b := by
  intro rest
  cases b <;> rfl

theorem reads_word {w : Nat} (hw : [8, 16, 32, 64].contains w) (x : BitVec w) :
    Reads (getWord w) (putWord x) x := by
  intro rest
  have hx : BitVec.ofNat w x.toNat = x := by rw [BitVec.ofNat_toNat, BitVec.setWidth_eq]
  by_cases h8 : w = 8
  · have hbyte : (UInt8.ofNat x.toNat).toNat = x.toNat := by
      have hlt := x.isLt
      rw [UInt8.toNat_ofNat']
      simp only [h8] at hlt
      omega
    simp only [putWord, getWord, if_pos h8, List.singleton_append, getByte, bind, Except.bind]
    rw [hbyte, hx]
    rfl
  · have h7 : w % 7 ≠ 0 := by
      simp only [List.contains_eq_mem, List.mem_cons, List.not_mem_nil, or_false,
        decide_eq_true_iff] at hw
      omega
    rw [putWord, getWord, if_neg h8, if_neg h8, getVarint_putVarint h7 x.isLt]
    simp only [bind, Except.bind, hx]
    rfl

theorem reads_prefixLen (len : PrefixLen) : Reads getPrefixLen (putWord len.toOctet) len := by
  intro rest
  have hbyte : (UInt8.ofNat len.toOctet.toNat).toBitVec = len.toOctet := by
    rw [UInt8.toBitVec_ofNat', BitVec.ofNat_toNat, BitVec.setWidth_eq]
  simp only [putWord, if_pos, getPrefixLen, List.singleton_append, getByte, bind, Except.bind,
    hbyte, PrefixLen.ofOctet_toOctet]
  rfl

theorem getBytes_append (bytes rest : List UInt8) :
    getBytes bytes.length (bytes ++ rest) = .ok (bytes, rest) := by
  simp [getBytes]

theorem reads_text {s : String} (h : (Utf8.ofString s).length < 2 ^ 64) :
    Reads getText (putText s) s := by
  intro rest
  rw [getText, putText, putLength, getLength, List.append_assoc,
    getVarint_putVarint (by decide) h]
  simp only [bind, Except.bind, getBytes_append, Utf8.toString?_ofString]
  rfl

theorem reads_uuid (bits : BitVec 128) : Reads getUuid (putUuid bits) bits := by
  intro rest
  have hlength : ((bigEndian 16 bits).map UInt8.ofBitVec).length = 16 := by
    simp [bigEndian, littleEndian]
  have hbytes := getBytes_append ((bigEndian 16 bits).map UInt8.ofBitVec) rest
  rw [hlength] at hbytes
  rw [getUuid, putUuid, putLength, getLength, List.append_assoc,
    getVarint_putVarint (by decide) (by decide)]
  simp only [bind, Except.bind, hbytes, if_pos, List.map_map]
  have hid : UInt8.toBitVec ∘ UInt8.ofBitVec = id := rfl
  rw [hid, List.map_id, ofBigEndian_bigEndian]
  rfl

theorem reads_octets {n : Nat} (v : Vector Octet n) :
    Reads (getOctets n) (v.toList.map UInt8.ofBitVec) v := by
  induction n with
  | zero =>
    intro rest
    obtain rfl : v = #v[] := by simp
    rfl
  | succ n ih =>
    intro rest
    obtain ⟨o, os, rfl, hlist⟩ := exists_insertIdx_zero v
    have hread : getOctets n (os.toList.map UInt8.ofBitVec ++ rest) = .ok (os, rest) := ih os rest
    rw [hlist, List.map_cons, List.cons_append]
    change (getOctets n (os.toList.map UInt8.ofBitVec ++ rest)).bind _ = _
    rw [hread]
    rfl

theorem Reads.map {get : Get α} {bytes : List UInt8} {a : α} (f : α → β)
    (h : Reads get bytes a) : Reads (getMap f get) bytes (f a) := by
  intro rest
  simp only [getMap, h rest, bind, Except.bind]
  rfl

theorem Reads.both {get : Get α} {get' : Get β} {bytes bytes' : List UInt8} {a : α} {b : β}
    (h : Reads get bytes a) (h' : Reads get' bytes' b) :
    Reads (getBoth get get') (bytes ++ bytes') (a, b) := by
  intro rest
  simp only [getBoth, List.append_assoc, h _, h' rest, bind, Except.bind]
  rfl

theorem Reads.many {get : Get α} {put : α → List UInt8} {as : List α}
    (h : ∀ a ∈ as, Reads get (put a) a) : Reads (getMany get as.length) (as.flatMap put) as := by
  induction as with
  | nil => exact fun _ => rfl
  | cons a as ih =>
    intro rest
    have hmore := ih fun b hb => h b (List.mem_cons_of_mem a hb)
    simp only [List.flatMap_cons, List.length_cons, getMany, List.append_assoc,
      h a (List.mem_cons_self ..) _, hmore rest, bind, Except.bind]
    rfl

theorem Reads.counted {get : Get α} {put : α → List UInt8} {as : List α}
    (hlength : as.length < 2 ^ 64) (h : ∀ a ∈ as, Reads get (put a) a) :
    Reads (fun bytes => do
      let (n, bytes) ← getLength bytes
      getMany get n bytes) (putLength as.length ++ as.flatMap put) as := by
  intro rest
  simp only [getLength, putLength, List.append_assoc, getVarint_putVarint (by decide) hlength,
    bind, Except.bind]
  exact Reads.many h rest

theorem Reads.option {get : Get α} {put : α → List UInt8} {o : Option α}
    (h : ∀ a ∈ o, Reads get (put a) a) : Reads (getOption get) (putOption (o.map put)) o := by
  intro rest
  cases o with
  | none => rfl
  | some a =>
    simp only [getOption, putOption, Option.map_some, List.cons_append, getByte, bind,
      Except.bind, h a rfl rest]
    rfl

end Postcard

open Postcard

/-! ## What has room -/

mutual

/-- Has every text, list and dictionary in the value a length of 64 bits? -/
def Layout.fits : {α : Type} → Layout α → α → Bool
  | _, .text, s => (Utf8.ofString s).length < 2 ^ 64
  | _, .list l, as => as.length < 2 ^ 64 && as.all l.fits
  | _, .dict l, entries =>
    entries.length < 2 ^ 64 &&
      entries.all fun e => (Utf8.ofString e.1).length < 2 ^ 64 && l.fits e.2
  | _, .record _ fields, a => fields.fits a
  | _, .choice variants, a => variants.fits a
  | _, .via _ parts _ l, b => l.fits (parts b)
  | _, _, _ => true

/-- Has everything in the fields a length of 64 bits? -/
def Fields.fits : {α : Type} → Fields α → α → Bool
  | _, .nil, _ => true
  | _, .needed _ _ l rest, (a, b) => l.fits a && rest.fits b
  | _, .optional _ _ l rest, (o, b) => o.all l.fits && rest.fits b

/-- Has everything that a variant carries a length of 64 bits? -/
def Payload.fits : {α : Type} → Payload α → α → Bool
  | _, .nothing, _ => true
  | _, .value l, a => l.fits a
  | _, .fields fields, a => fields.fits a

/-- Has everything in the variant a length of 64 bits? -/
def Variants.fits : {α : Type} → Variants α → α → Bool
  | _, .nil, e => nomatch e
  | _, .cons _ payload rest, s =>
    match s with
    | .inl a => payload.fits a
    | .inr b => rest.fits b

end

/-! ## Layouts -/

variable {good : String → Bool}

mutual

/-- A layout reads from the front of some bytes what it wrote there. -/
theorem Layout.get_put : {α : Type} → (l : Layout α) → {a : α} →
    l.wellFormed good = true → l.fits a = true → Reads l.get (l.put a) a
  | _, .bool, b, _, _ => by
    simp only [Layout.get, Layout.put]
    exact reads_bool b
  | _, .word _, x, hl, _ => by
    simp only [Layout.get, Layout.put]
    exact reads_word hl x
  | _, .prefixLen, len, _, _ => by
    simp only [Layout.get, Layout.put]
    exact reads_prefixLen len
  | _, .text, s, _, ha => by
    simp only [Layout.get, Layout.put]
    exact reads_text (by simpa [Layout.fits] using ha)
  | _, .uuid, bits, _, _ => by
    simp only [Layout.get, Layout.put]
    exact reads_uuid bits
  | _, .octets _, v, _, _ => by
    simp only [Layout.get, Layout.put]
    exact reads_octets v
  | _, .list l, as, hl, ha => by
    simp only [Layout.fits, Bool.and_eq_true, decide_eq_true_iff, List.all_eq_true] at ha
    simp only [Layout.get, Layout.put]
    exact Reads.counted ha.1 fun a hmem => Layout.get_put l hl (ha.2 a hmem)
  | _, .dict l, entries, hl, ha => by
    simp only [Layout.fits, Bool.and_eq_true, decide_eq_true_iff, List.all_eq_true] at ha
    simp only [Layout.get, Layout.put]
    exact Reads.counted ha.1 fun e hmem =>
      (reads_text (ha.2 e hmem).1).both (Layout.get_put l hl (ha.2 e hmem).2)
  | _, .record _ fields, a, hl, ha => by
    simp only [Layout.wellFormed, Bool.and_eq_true] at hl
    simp only [Layout.get, Layout.put]
    exact Fields.get_put fields hl.2 ha
  | _, .choice variants, a, hl, ha => by
    simp only [Layout.wellFormed, Bool.and_eq_true, decide_eq_true_iff] at hl
    obtain ⟨k, hk, bytes, hput, hread⟩ := Variants.get_put variants 0 hl.2 ha
    have hnumber : k < 2 ^ 32 := Nat.lt_of_lt_of_le hk hl.1.1
    intro rest
    simp only [Layout.get, Layout.put, hput, Nat.zero_add, List.append_assoc,
      getVarint_putVarint (by decide) hnumber, bind, Except.bind]
    exact hread rest
  | _, .via make parts make_parts l, b, hl, ha => by
    have hread := (Layout.get_put l hl ha).map make
    rw [make_parts] at hread
    simp only [Layout.get, Layout.put]
    exact hread

theorem Fields.get_put : {α : Type} → (fields : Fields α) → {a : α} →
    fields.wellFormed good = true → fields.fits a = true → Reads fields.get (fields.put a) a
  | _, .nil, _, _, _ => fun _ => by simp only [Fields.get, Fields.put]; rfl
  | _, .needed _ _ l rest, (a, b), hl, ha => by
    simp only [Fields.wellFormed, Bool.and_eq_true] at hl
    simp only [Fields.fits, Bool.and_eq_true] at ha
    simp only [Fields.get, Fields.put]
    exact (Layout.get_put l hl.1.2 ha.1).both (Fields.get_put rest hl.2 ha.2)
  | _, .optional _ _ l rest, (o, b), hl, ha => by
    simp only [Fields.wellFormed, Bool.and_eq_true] at hl
    simp only [Fields.fits, Bool.and_eq_true] at ha
    simp only [Fields.get, Fields.put]
    refine Reads.both (Reads.option fun a hmem => ?_) (Fields.get_put rest hl.2 ha.2)
    exact Layout.get_put l hl.1.2 ((Option.all_eq_true _ _).mp ha.1 a hmem)

theorem Payload.get_put : {α : Type} → (payload : Payload α) → {a : α} →
    payload.wellFormed good = true → payload.fits a = true →
      Reads payload.get (payload.put a) a
  | _, .nothing, _, _, _ => fun _ => by simp only [Payload.get, Payload.put]; rfl
  | _, .value l, _, hl, ha => by
    simp only [Payload.get, Payload.put]
    exact Layout.get_put l hl ha
  | _, .fields fields, _, hl, ha => by
    simp only [Payload.wellFormed, Bool.and_eq_true] at hl
    simp only [Payload.get, Payload.put]
    exact Fields.get_put fields hl.2 ha

/-- The number that stands in front tells the variant. -/
theorem Variants.get_put : {α : Type} → (variants : Variants α) → {a : α} → (i : Nat) →
    variants.wellFormed good = true → variants.fits a = true →
      ∃ k, k < variants.names.length ∧ ∃ bytes,
        variants.put i a = putVarint 32 (i + k) ++ bytes ∧ Reads (variants.get k) bytes a
  | _, .nil, e, _, _, _ => nomatch e
  | _, .cons _ payload rest, .inl a, i, hl, ha => by
    simp only [Variants.wellFormed, Bool.and_eq_true] at hl
    refine ⟨0, by simp [Variants.names], payload.put a, by simp [Variants.put], ?_⟩
    simp only [Variants.get]
    exact (Payload.get_put payload hl.1.2 ha).map Sum.inl
  | _, .cons _ payload rest, .inr b, i, hl, ha => by
    simp only [Variants.wellFormed, Bool.and_eq_true] at hl
    obtain ⟨k, hk, bytes, hput, hread⟩ := Variants.get_put rest (i + 1) hl.2 ha
    refine ⟨k + 1, by simp [Variants.names]; omega, bytes, ?_, ?_⟩
    · rw [Variants.put, hput, Nat.add_assoc, Nat.add_comm 1 k]
    · simp only [Variants.get]
      exact hread.map Sum.inr

end

/-! ## Documents -/

theorem Layout.decodePostcard_put {α : Type} {l : Layout α} {a : α}
    (hl : l.wellFormed good = true) (ha : l.fits a = true) (rest : List UInt8) :
    l.decodePostcard (l.put a ++ rest) = .ok a := by
  rw [decodePostcard, Layout.get_put l hl ha rest]
  rfl

/-- Bytes are written for one value only, and are not the beginning of those of another. -/
theorem Layout.put_inj {α : Type} {l : Layout α} {a b : α} (hl : l.wellFormed good = true)
    (ha : l.fits a = true) (hb : l.fits b = true) (h : l.put a <+: l.put b) : a = b := by
  obtain ⟨rest, hrest⟩ := h
  have hread := Layout.decodePostcard_put hl hb []
  rw [List.append_nil, ← hrest, Layout.decodePostcard_put hl ha rest] at hread
  exact Except.ok.inj hread

/-- A value is read back from its bytes, whatever follows them. So no two values are
written alike, and no value as a proper beginning of what another one is written as. -/
theorem StoredType.decode_postcard (t : StoredType) {v : t.Value} (hv : t.layout.fits v = true) :
    (∀ rest, Encoding.postcard.decode t.layout (Encoding.postcard.encode t.layout v ++ rest) =
      .ok v) ∧
    ∀ w, t.layout.fits w = true →
      (Encoding.postcard.encode t.layout v = Encoding.postcard.encode t.layout w → v = w) ∧
      (Encoding.postcard.encode t.layout v <+: Encoding.postcard.encode t.layout w →
        Encoding.postcard.encode t.layout v = Encoding.postcard.encode t.layout w) := by
  have hl := t.wellFormed_layout
  refine ⟨Layout.decodePostcard_put hl hv, fun w hw => ⟨fun h => ?_, fun h => ?_⟩⟩
  · exact Layout.put_inj hl hv hw ⟨[], (List.append_nil _).trans h⟩
  · exact congrArg _ (Layout.put_inj hl hv hw h)

/-- Two conditions under names that need care, one of them without ports to enter by and
with host bits in its network. -/
def sampleRules : ConditionSet :=
  Table.ofList [
    ("", {}),
    ("a \"b\"\n\u00e9", {
      negated := true, inPorts := ⟨some (KeySet.ofList []), true⟩,
      outPorts := ⟨some (KeySet.ofList [⟨7⟩, ⟨2 ^ 100⟩]), false⟩,
      source := ⟨some ⟨⟨10, 0, 0, 77⟩, ⟨8, by decide⟩⟩, false⟩ })]

/-- The rules are read back from their bytes and two more. -/
theorem sampleRules_decode_postcard :
    StoredType.conditionSet.layout.fits sampleRules = true ∧
      Encoding.postcard.decode conditionSetLayout
        (Encoding.postcard.encode conditionSetLayout sampleRules ++ [7, 255]) =
          .ok sampleRules := by
  have hfits : StoredType.conditionSet.layout.fits sampleRules = true := by decide +kernel
  exact ⟨hfits, (StoredType.decode_postcard .conditionSet hfits).1 [7, 255]⟩

end FlowRules
