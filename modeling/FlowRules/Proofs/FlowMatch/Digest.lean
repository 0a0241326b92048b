import FlowRules.FlowMatch.Digest
import Mathlib.Algebra.Ring.Nat
import Mathlib.Data.List.Basic
import Mathlib.Tactic.Common

/-!
# The octets under a checksum

The checksum of a flow match is taken over octets that tell the match : whatever follows
them, the keys can be told again (`SelfDelimiting`). A word has as many octets as its width
says, so nothing has to mark its end, and what may be of any length stands behind its length.
Two values written one after the other are told by telling the first and then the second
(`SelfDelimiting.both`), and a list that stands behind its length by telling one item after
the other (`SelfDelimiting.counted`). The kind of a key says which fields follow
(`FlowKey.selfDelimiting_digest`).

So no two matches have the same octets, and those of one are not the beginning of those of
another (`FlowMatch.digest_determines`). If two matches have the same checksum all the same,
it is the cyclic redundancy check that brings different octets together.
-/

namespace FlowRules

/-! ## What can be told from its octets -/

/-- Can a valid value be told from the octets that are written for it, whatever follows? -/
def SelfDelimiting {α : Type} (valid : α → Prop) (write : α → List Octet) : Prop :=
  ∀ a b, valid a → valid b → ∀ xs ys, write a ++ xs = write b ++ ys → a = b ∧ xs = ys

namespace SelfDelimiting

variable {α β : Type} {valid : α → Prop} {write : α → List Octet} {valid' : β → Prop}
  {write' : β → List Octet}

/-- Nothing has to mark the end of octets whose number is fixed. -/
theorem of_length {n : Nat} (hlength : ∀ a, (write a).length = n)
    (hinj : ∀ a b, valid a → valid b → write a = write b → a = b) :
    SelfDelimiting valid write := by
  intro a b ha hb xs ys h
  obtain ⟨hwrite, hrest⟩ := List.append_inj h ((hlength a).trans (hlength b).symm)
  exact ⟨hinj a b ha hb hwrite, hrest⟩

theorem both (h : SelfDelimiting valid write) (h' : SelfDelimiting valid' write') :
    SelfDelimiting (fun p : α × β => valid p.1 ∧ valid' p.2) fun p => write p.1 ++ write' p.2 := by
  rintro ⟨a, a'⟩ ⟨b, b'⟩ ⟨ha, ha'⟩ ⟨hb, hb'⟩ xs ys heq
  rw [List.append_assoc, List.append_assoc] at heq
  obtain ⟨rfl, hrest⟩ := h a b ha hb _ _ heq
  obtain ⟨rfl, rfl⟩ := h' a' b' ha' hb' _ _ hrest
  exact ⟨rfl, rfl⟩

/-- A value is told by another one that determines it. -/
theorem via {f : β → α} (h : SelfDelimiting valid write) (hvalid : ∀ b, valid' b → valid (f b))
    (hf : Function.Injective f) : SelfDelimiting valid' fun b => write (f b) := by
  intro a b ha hb xs ys heq
  obtain ⟨hfab, hrest⟩ := h _ _ (hvalid a ha) (hvalid b hb) xs ys heq
  exact ⟨hf hfab, hrest⟩

/-- So many items are told one after the other. -/
theorem many (h : SelfDelimiting valid write) :
    ∀ as bs : List α, as.length = bs.length → (∀ a ∈ as, valid a) → (∀ b ∈ bs, valid b) →
      ∀ xs ys, as.flatMap write ++ xs = bs.flatMap write ++ ys → as = bs ∧ xs = ys
  | [], [], _, _, _, _, _, heq => ⟨rfl, heq⟩
  | a :: as, b :: bs, hlength, has, hbs, xs, ys, heq => by
    rw [List.flatMap_cons, List.flatMap_cons, List.append_assoc, List.append_assoc] at heq
    obtain ⟨rfl, hmore⟩ := h a b (has a (List.mem_cons_self ..)) (hbs b (List.mem_cons_self ..))
      _ _ heq
    obtain ⟨rfl, hrest⟩ := many h as bs (Nat.succ.inj hlength)
      (fun c hc => has c (List.mem_cons_of_mem _ hc))
      (fun c hc => hbs c (List.mem_cons_of_mem _ hc)) xs ys hmore
    exact ⟨rfl, hrest⟩

end SelfDelimiting

/-! ## Words and counts -/

theorem length_littleEndian {w : Nat} (n : Nat) (x : BitVec w) : (littleEndian n x).length = n := by
  simp [littleEndian]

/-- A bit of a word stands in the octet of its place. -/
theorem littleEndian_inj {w n : Nat} (hw : w = 8 * n) {x y : BitVec w}
    (h : littleEndian n x = littleEndian n y) : x = y := by
  apply BitVec.eq_of_getLsbD_eq
  intro i hi
  have hoctet : x.extractLsb' (8 * (i / 8)) 8 = y.extractLsb' (8 * (i / 8)) 8 :=
    List.map_inj_left.mp h (i / 8) (List.mem_range.mpr (by omega))
  have hbit := congrArg (fun o => o.getLsbD (i % 8)) hoctet
  have hmod : i % 8 < 8 := Nat.mod_lt i (by decide)
  simpa only [BitVec.getLsbD_extractLsb', hmod, decide_true, Bool.true_and, Nat.div_add_mod] using
    hbit

/-- Any word can be told from its octets. -/
theorem selfDelimiting_word {w n : Nat} (hw : w = 8 * n) :
    SelfDelimiting (fun _ : BitVec w => True) (littleEndian n) :=
  .of_length (length_littleEndian n) fun _ _ _ _ => littleEndian_inj hw

/-- An octet stands for itself. -/
theorem selfDelimiting_octet : SelfDelimiting (fun _ : Octet => True) fun o => [o] :=
  .of_length (fun _ => rfl) fun _ _ _ _ h => List.singleton_inj.mp h

theorem selfDelimiting_count : SelfDelimiting (· < 2 ^ 64) countOctets := by
  refine .of_length (fun n => length_littleEndian 8 (BitVec.ofNat 64 n)) fun m n hm hn h => ?_
  have hwords := congrArg BitVec.toNat (littleEndian_inj (by decide) h)
  rwa [BitVec.toNat_ofNat, BitVec.toNat_ofNat, Nat.mod_eq_of_lt hm, Nat.mod_eq_of_lt hn] at hwords

/-- Items are told if their number is told first. -/
theorem SelfDelimiting.counted {α : Type} {valid : α → Prop} {write : α → List Octet}
    (h : SelfDelimiting valid write) :
    SelfDelimiting (fun as : List α => as.length < 2 ^ 64 ∧ ∀ a ∈ as, valid a)
      fun as => countOctets as.length ++ as.flatMap write := by
  rintro as bs ⟨hlengthAs, has⟩ ⟨hlengthBs, hbs⟩ xs ys heq
  rw [List.append_assoc, List.append_assoc] at heq
  obtain ⟨hlength, hrest⟩ := selfDelimiting_count _ _ hlengthAs hlengthBs _ _ heq
  exact h.many as bs hlength has hbs xs ys hrest

theorem selfDelimiting_octets :
    SelfDelimiting (fun os : List Octet => os.length < 2 ^ 64) countedOctets := by
  have hcounted := selfDelimiting_octet.counted
  simp only [List.flatMap_singleton', implies_true, and_true] at hcounted
  exact hcounted

theorem Ipv4.octets_injective : Function.Injective Ipv4.octets := by
  rintro ⟨a, b, c, d⟩ ⟨a', b', c', d'⟩ h
  simpa [Ipv4.octets] using h

theorem Mac.octets_injective : Function.Injective Mac.octets := by
  rintro ⟨a, b, c, d, e, f⟩ ⟨a', b', c', d', e', f'⟩ h
  simpa [Mac.octets] using h

theorem selfDelimiting_ipv4 :
    SelfDelimiting (fun _ : Ipv4 => True) fun ip => countedOctets ip.octets :=
  selfDelimiting_octets.via (fun _ _ => (by decide : 4 < 2 ^ 64)) Ipv4.octets_injective

theorem selfDelimiting_mac :
    SelfDelimiting (fun _ : Mac => True) fun mac => countedOctets mac.octets :=
  selfDelimiting_octets.via (fun _ _ => (by decide : 6 < 2 ^ 64)) Mac.octets_injective

/-! ## Keys -/

namespace FlowKey

/-- Is the number of octets that the key quotes, if any, one of 64 bits? -/
def IsCountable : FlowKey → Prop
  | icmpError _ _ quoted => quoted.length < 2 ^ 64
  | _ => True

theorem kindIndex_lt (key : FlowKey) : key.kindIndex < 2 ^ 64 := by
  cases key <;> simp [kindIndex]

/-- Keys that are made in the same way from their fields are told by these. -/
theorem tell {α : Type} {valid : α → Prop} {write : α → List Octet}
    (h : SelfDelimiting valid write) (make : α → FlowKey)
    (hwrite : ∀ s, (make s).fieldOctets = write s) (hvalid : ∀ s, (make s).IsCountable → valid s)
    (s t : α) (hs : (make s).IsCountable) (ht : (make t).IsCountable) {xs ys : List Octet}
    (heq : (make s).fieldOctets ++ xs = (make t).fieldOctets ++ ys) :
    make s = make t ∧ xs = ys := by
  rw [hwrite, hwrite] at heq
  obtain ⟨rfl, hrest⟩ := h s t (hvalid s hs) (hvalid t ht) xs ys heq
  exact ⟨rfl, hrest⟩

/-- The kind of a key says which fields follow. -/
theorem fieldOctets_inj {a b : FlowKey} (hkind : a.kindIndex = b.kindIndex) (ha : a.IsCountable)
    (hb : b.IsCountable) {xs ys : List Octet} (h : a.fieldOctets ++ xs = b.fieldOctets ++ ys) :
    a = b ∧ xs = ys := by
  have octet := selfDelimiting_octet
  have word16 := selfDelimiting_word (show 16 = 8 * 2 by decide)
  have word32 := selfDelimiting_word (show 32 = 8 * 4 by decide)
  have word64 := selfDelimiting_word (show 64 = 8 * 8 by decide)
  have ip := selfDelimiting_ipv4
  have mac := selfDelimiting_mac
  -- Keys of different kinds have different numbers, so one case is left for each kind.
  cases a <;> cases b <;> simp [kindIndex] at hkind
  case inPort.inPort p q =>
    exact tell word32 .inPort (fun _ => rfl) (fun _ _ => trivial) p q ha hb h
  case ethernet.ethernet s d s' d' =>
    exact tell (mac.both mac) (fun p => .ethernet p.1 p.2) (fun _ => rfl)
      (fun _ _ => ⟨trivial, trivial⟩) (s, d) (s', d') ha hb h
  case etherType.etherType p q =>
    exact tell word16 .etherType (fun _ => rfl) (fun _ _ => trivial) p q ha hb h
  case vlan.vlan p q =>
    exact tell word16 .vlan (fun _ => rfl) (fun _ _ => trivial) p q ha hb h
  case ipv4.ipv4 s d n t s' d' n' t' =>
    exact tell ((ip.both ip).both (octet.both octet))
      (fun p => .ipv4 p.1.1 p.1.2 p.2.1 p.2.2) (fun _ => rfl)
      (fun _ _ => ⟨⟨trivial, trivial⟩, trivial, trivial⟩) ((s, d), n, t) ((s', d'), n', t') ha hb h
  case tcp.tcp s d s' d' =>
    exact tell (word16.both word16) (fun p => .tcp p.1 p.2) (fun _ => rfl)
      (fun _ _ => ⟨trivial, trivial⟩) (s, d) (s', d') ha hb h
  case udp.udp s d s' d' =>
    exact tell (word16.both word16) (fun p => .udp p.1 p.2) (fun _ => rfl)
      (fun _ _ => ⟨trivial, trivial⟩) (s, d) (s', d') ha hb h
  case icmp.icmp t c t' c' =>
    exact tell (octet.both octet) (fun p => .icmp p.1 p.2) (fun _ => rfl)
      (fun _ _ => ⟨trivial, trivial⟩) (t, c) (t', c') ha hb h
  case arp.arp op sip dip smac dmac op' sip' dip' smac' dmac' =>
    exact tell ((((word16.both ip).both ip).both mac).both mac)
      (fun p => .arp p.1.1.1.1 p.1.1.1.2 p.1.1.2 p.1.2 p.2) (fun _ => rfl)
      (fun _ _ => ⟨⟨⟨⟨trivial, trivial⟩, trivial⟩, trivial⟩, trivial⟩)
      ((((op, sip), dip), smac), dmac) ((((op', sip'), dip'), smac'), dmac') ha hb h
  case tunnel.tunnel id s d id' s' d' =>
    exact tell ((word64.both ip).both ip) (fun p => .tunnel p.1.1 p.1.2 p.2) (fun _ => rfl)
      (fun _ _ => ⟨⟨trivial, trivial⟩, trivial⟩) ((id, s), d) ((id', s'), d') ha hb h
  case priority.priority p q =>
    exact tell word32 .priority (fun _ => rfl) (fun _ _ => trivial) p q ha hb h
  case icmpEcho.icmpEcho t c id t' c' id' =>
    exact tell ((octet.both octet).both word16) (fun p => .icmpEcho p.1.1 p.1.2 p.2)
      (fun _ => rfl) (fun _ _ => ⟨⟨trivial, trivial⟩, trivial⟩) ((t, c), id) ((t', c'), id') ha hb h
  case icmpError.icmpError t c quoted t' c' quoted' =>
    exact tell ((octet.both octet).both selfDelimiting_octets)
      (fun p => .icmpError p.1.1 p.1.2 p.2) (fun _ => rfl)
      (fun _ hquoted => ⟨⟨trivial, trivial⟩, hquoted⟩) ((t, c), quoted) ((t', c'), quoted') ha hb h

theorem selfDelimiting_digest : SelfDelimiting IsCountable digest := by
  intro a b ha hb xs ys h
  rw [digest, digest, List.append_assoc, List.append_assoc] at h
  obtain ⟨hkind, hfields⟩ := selfDelimiting_count _ _ a.kindIndex_lt b.kindIndex_lt _ _ h
  exact fieldOctets_inj hkind ha hb hfields

end FlowKey

/-! ## Matches -/

namespace FlowMatch

/-- Are the number of keys and the numbers of octets that they quote numbers of 64 bits? -/
def IsCountable (m : FlowMatch) : Prop := m.keys.length < 2 ^ 64 ∧ ∀ key ∈ m.keys, key.IsCountable

theorem selfDelimiting_digest : SelfDelimiting IsCountable digest :=
  FlowKey.selfDelimiting_digest.counted.via (fun _ h => h) fun _ _ => ext_keys

/-- The octets that the checksum is taken over tell the keys of a match, and they are no
proper beginning of those of another match. So matches with the same keys have the same
checksum, and if other ones have, it is a collision of the check itself. -/
theorem digest_determines {a b : FlowMatch} (ha : a.IsCountable) (hb : b.IsCountable) :
    (a.digest = b.digest ↔ a.keys = b.keys) ∧
    (a.digest <+: b.digest → a.digest = b.digest) ∧
    (b.digest <+: a.digest → a.digest = b.digest) ∧
    (a = b → a.checksum = b.checksum) ∧
    (a ≠ b → a.checksum = b.checksum →
      a.digest ≠ b.digest ∧ Crc32.checksum a.digest = Crc32.checksum b.digest) := by
  have hbegin : ∀ {c d : FlowMatch}, c.IsCountable → d.IsCountable → c.digest <+: d.digest →
      c = d := by
    rintro c d hc hd ⟨rest, hrest⟩
    exact (selfDelimiting_digest c d hc hd rest [] (hrest.trans (List.append_nil _).symm)).1
  have hdigest : a.digest = b.digest → a = b := fun h => hbegin ha hb (h ▸ List.prefix_refl _)
  refine ⟨⟨fun h => congrArg keys (hdigest h), fun h => congrArg digest (ext_keys h)⟩,
    fun h => congrArg digest (hbegin ha hb h), fun h => congrArg digest (hbegin hb ha h).symm,
    fun h => congrArg checksum h, fun hne hsum => ⟨fun h => hne (hdigest h), hsum⟩⟩

/-- Two errors that quote an octet each. -/
def sampleErrors : FlowMatch := ofKeys [.icmpError 3 1 [0x45], .icmpError 3 1 [0x46]]

/-- One error that quotes both octets. -/
def sampleError : FlowMatch := ofKeys [.icmpError 3 1 [0x45, 0x46]]

theorem isCountable_sampleErrors : sampleErrors.IsCountable :=
  ⟨by decide, by simp [sampleErrors, ofKeys, setKeys, FlowKey.IsCountable]⟩

theorem isCountable_sampleError : sampleError.IsCountable :=
  ⟨by decide, by simp [sampleError, ofKeys, setKeys, FlowKey.IsCountable]⟩

theorem sampleErrors_digest_ne :
    sampleErrors.digest ≠ sampleError.digest ∧ ¬ sampleErrors.digest <+: sampleError.digest := by
  have hkeys : sampleErrors.keys ≠ sampleError.keys := by decide
  obtain ⟨hdigest, hbegin, -, -, -⟩ :=
    digest_determines isCountable_sampleErrors isCountable_sampleError
  exact ⟨fun h => hkeys (hdigest.mp h), fun h => hkeys (hdigest.mp (hbegin h))⟩

end FlowMatch

end FlowRules
