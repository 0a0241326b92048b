import FlowRules.Proofs.Layout.Unchecked
import FlowRules.Proofs.Rules.History
import FlowRules.Proofs.Toml.RoundTrip

/-!
# Prefix lengths in rules

A document of a rule may have any octet in the place of a prefix length. It is written by the
layout without the test of prefix lengths, from what would be written for the rule with the
address and the octet put in (`NetworkPlace.write`). That layout reads it back whatever the
octet is, so a reader with the test gets what the test leaves of it : the rule with the
network, if the octet is at most 32 (`NetworkPlace.check_write_of`), and otherwise nothing
(`NetworkPlace.check_write`).

This goes for every format and for both networks of a rule, by itself or in a set of rules
(`Condition.lengths_guarded`).
-/

namespace FlowRules

/-! ## Lengths -/

/-- Is the outcome the value with the length if the octet is one, and an error if it is above
32? -/
def Guards {ε α : Type} (n : Octet) (outcome : Except ε α) (value : PrefixLen → α) : Prop :=
  (∀ h : n.toNat ≤ 32, outcome = .ok (value ⟨n.toNat, h⟩)) ∧
  (32 < n.toNat → ∃ e, outcome = .error e)

namespace Guards

variable {ε α β : Type} {n : Octet} {outcome : Except ε α} {value : PrefixLen → α}

theorem of_toOption {left : Option α} (h : outcome.toOption = left)
    (hvalue : ∀ h : n.toNat ≤ 32, left = some (value ⟨n.toNat, h⟩))
    (hnone : 32 < n.toNat → left = none) : Guards n outcome value := by
  refine ⟨fun hle => ?_, fun hlt => ?_⟩
  · rw [hvalue hle] at h
    cases outcome with
    | ok a => exact congrArg Except.ok (Option.some.inj h)
    | error e => exact absurd h nofun
  · rw [hnone hlt] at h
    cases outcome with
    | ok a => exact absurd h nofun
    | error e => exact ⟨e, rfl⟩

end Guards

theorem PrefixLen.guards_ofOctet (n : Octet) : Guards n (ofOctet n) id := by
  refine ⟨fun h => ?_, fun h => ?_⟩
  · exact dif_pos h
  · exact ⟨_, dif_neg (Nat.not_le.mpr h)⟩

theorem PrefixLen.toOctet_mk {n : Octet} (h : n.toNat ≤ 32) : toOctet ⟨n.toNat, h⟩ = n := by
  rw [toOctet, BitVec.ofNat_toNat, BitVec.setWidth_eq]

theorem Network.guards_make (address : Ipv4) (n : Octet) :
    Guards n (make address n) fun len => ⟨address, len⟩ := by
  obtain ⟨hle, hlt⟩ := PrefixLen.guards_ofOctet n
  refine ⟨fun h => ?_, fun h => ?_⟩
  · rw [make, hle h]
    rfl
  · obtain ⟨e, he⟩ := hlt h
    exact ⟨e, by rw [make, he]; rfl⟩

/-- A text of a network has a length of at most 32 after its slash. -/
theorem Network.length_of_parse {s : String} {net : Network} (h : parse s = .ok net) :
    ∃ left right n, cut '/' s.toList = some (left, right) ∧ decimalOctet? right = some n ∧
      n.toNat ≤ 32 ∧ net.len.val = n.toNat := by
  unfold parse at h
  split at h
  · exact absurd h nofun
  · rename_i left right hcut
    cases haddress : Ipv4.parse (String.ofList left) with
    | error e => simp [haddress, bind, Except.bind] at h
    | ok address =>
      simp only [haddress, bind, Except.bind] at h
      cases hlength : decimalOctet? right with
      | none => simp [hlength] at h
      | some n =>
        simp only [hlength] at h
        obtain ⟨hle, hlt⟩ := guards_make address n
        rcases Nat.lt_or_ge 32 n.toNat with hn | hn
        · obtain ⟨e, he⟩ := hlt hn
          simp [he] at h
        · rw [hle hn] at h
          cases h
          exact ⟨left, right, n, hcut, hlength, hn, rfl⟩

/-! ## Rules with any octet in the place of a length -/

/-- The places of a rule where a network may stand. -/
inductive NetworkPlace where
  | source
  | dest

namespace NetworkPlace

/-- The rule with the network in the place, where its inversion flag stays. -/
def set (net : Network) (c : Condition) : NetworkPlace → Condition
  | source => { c with source := { c.source with wanted := some net } }
  | dest => { c with dest := { c.dest with wanted := some net } }

/-- What is written for a rule, with the address and any octet in the place. -/
def write (address : Ipv4) (n : Octet) :
    NetworkPlace → Condition.layout.unchecked.Value → Condition.layout.unchecked.Value
  | source, (negated, i, iInv, o, oInv, g, gInv, t, tInv, p, pInv, _, rest) =>
    (negated, i, iInv, o, oInv, g, gInv, t, tInv, p, pInv,
      some (Ipv4.layout.unchecked.of address, n, ()), rest)
  | dest, (negated, i, iInv, o, oInv, g, gInv, t, tInv, p, pInv, s, sInv, _, rest) =>
    (negated, i, iInv, o, oInv, g, gInv, t, tInv, p, pInv, s, sInv,
      some (Ipv4.layout.unchecked.of address, n, ()), rest)

variable {address : Ipv4} {n : Octet} {place : NetworkPlace} {c : Condition}

theorem write_of (h : n.toNat ≤ 32) : place.write address n (Condition.layout.unchecked.of c) =
    Condition.layout.unchecked.of (place.set ⟨address, ⟨n.toNat, h⟩⟩ c) := by
  have hof : ∀ len : PrefixLen,
      place.write address len.toOctet (Condition.layout.unchecked.of c) =
        Condition.layout.unchecked.of (place.set ⟨address, len⟩ c) := by
    intro len
    cases place <;> rfl
  rw [← hof ⟨n.toNat, h⟩, PrefixLen.toOctet_mk]

/-- Only the network is another one. -/
theorem replaces_write (x : Condition.layout.unchecked.Value) :
    Network.layout.Replaces (Ipv4.layout.unchecked.of address, n, ()) Condition.layout x
      (place.write address n x) := by
  cases place with
  | source =>
    exact .via (.record (.needed (.optional (.needed (.optional (.needed (.optional (.needed
      (.optional (.needed (.optional (.needed .here))))))))))))
  | dest =>
    exact .via (.record (.needed (.optional (.needed (.optional (.needed (.optional (.needed
      (.optional (.needed (.optional (.needed (.optional (.needed .here))))))))))))))

theorem check_network (h : 32 < n.toNat) :
    Network.layout.unchecked.check (Ipv4.layout.unchecked.of address, n, ()) = none := by
  obtain ⟨e, he⟩ := (PrefixLen.guards_ofOctet n).2 h
  have hlen : Layout.prefixLen.unchecked.check n = none := congrArg Except.toOption he
  have hfields : (Fields.needed "addr" none Ipv4.layout (.needed "prefix_len" none .prefixLen
      .nil)).unchecked.check (Ipv4.layout.unchecked.of address, n, ()) = none :=
    Fields.check_needed_of_rest (Fields.check_needed_of_first hlen)
  exact congrArg (Option.map _) hfields

/-- The test leaves the rule with the network, if the octet is at most 32. -/
theorem check_write_of (h : n.toNat ≤ 32) :
    Condition.layout.unchecked.check (place.write address n (Condition.layout.unchecked.of c)) =
      some (place.set ⟨address, ⟨n.toNat, h⟩⟩ c) := by
  rw [write_of h, Condition.layout.relaxes_unchecked.check_of]

theorem check_write (h : 32 < n.toNat) (x : Condition.layout.unchecked.Value) :
    Condition.layout.unchecked.check (place.write address n x) = none :=
  (replaces_write x).check_eq_none (check_network h)

theorem fits_write (h : Condition.layout.fits c = true) :
    Condition.layout.unchecked.layout.fits
      (place.write address n (Condition.layout.unchecked.of c)) = true :=
  (replaces_write _).fits rfl ((Condition.layout.relaxes_unchecked.fits_of c).trans h)

end NetworkPlace

/-! ## Sets of rules -/

/-- A dictionary has lengths of 64 bits if it has so many entries and each of these has. -/
theorem Layout.fits_dict_iff {α : Type} {l : Layout α} {es : List (String × α)}
    (name field : String) (default : Option (List (String × α))) :
    (record name (.needed field default (.dict l) .nil)).fits (es, ()) = true ↔
      es.length < 2 ^ 64 ∧
        ∀ e ∈ es, (Utf8.ofString e.1).length < 2 ^ 64 ∧ l.fits e.2 = true := by
  simp only [fits, Fields.fits, Bool.and_true, Bool.and_eq_true, decide_eq_true_iff,
    List.all_eq_true]

namespace ConditionSet

/-- What is written for a set, with the address and any octet in the place of the rule under
the name. -/
def write (set : ConditionSet) (name : String) (place : NetworkPlace) (address : Ipv4)
    (n : Octet) : conditionSetLayout.unchecked.Value :=
  (set.entries.map fun e => (e.1,
    if e.1 = name then place.write address n (Condition.layout.unchecked.of e.2)
    else Condition.layout.unchecked.of e.2), ())

variable {set : ConditionSet} {name : String} {c : Condition} {place : NetworkPlace}
  {address : Ipv4} {n : Octet}

theorem write_of (hget : set.get? name = some c) (h : n.toNat ≤ 32) :
    set.write name place address n =
      conditionSetLayout.unchecked.of
        (set.insert name (place.set ⟨address, ⟨n.toNat, h⟩⟩ c)) := by
  have hmem : name ∈ set.entries.map Prod.fst :=
    List.mem_map_of_mem (Table.get?_eq_some_iff.mp hget)
  have hentries : (set.insert name (place.set ⟨address, ⟨n.toNat, h⟩⟩ c)).entries =
      set.entries.map fun e =>
        (e.1, if e.1 = name then place.set ⟨address, ⟨n.toNat, h⟩⟩ c else e.2) :=
    Table.insertEntry_of_mem set.sorted hmem _
  refine congrArg (·, ()) ?_
  refine Eq.trans ?_ (congrArg (List.map _) hentries).symm
  rw [List.map_map]
  refine List.map_congr_left fun e he => congrArg (e.1, ·) ?_
  by_cases hname : e.1 = name
  · have hvalue : e.2 = c := by
      have hfound : set.get? name = some e.2 := Table.get?_eq_some_iff.mpr (hname ▸ he)
      exact Option.some.inj (hfound.symm.trans hget)
    simp only [if_pos hname, hvalue]
    exact NetworkPlace.write_of h
  · simp only [if_neg hname]

theorem check_write_of (hget : set.get? name = some c) (h : n.toNat ≤ 32) :
    conditionSetLayout.unchecked.check (set.write name place address n) =
      some (set.insert name (place.set ⟨address, ⟨n.toNat, h⟩⟩ c)) := by
  rw [write_of hget h, conditionSetLayout.relaxes_unchecked.check_of]

theorem check_write (hget : set.get? name = some c) (h : 32 < n.toNat) :
    conditionSetLayout.unchecked.check (set.write name place address n) = none := by
  have hmem : (name, c) ∈ set.entries := Table.get?_eq_some_iff.mp hget
  have hentry : (Layout.dict Condition.layout).unchecked.check
      (set.write name place address n).1 = none := by
    refine mapM_eq_none_of_mem (List.mem_map_of_mem hmem) (checkBoth_right ?_)
    simp only [if_pos]
    exact NetworkPlace.check_write h _
  have hfields : (Fields.needed "conditions" (some []) (.dict Condition.layout)
      .nil).unchecked.check (set.write name place address n) = none :=
    Fields.check_needed_of_first hentry
  exact congrArg (Option.map _) hfields

theorem fits_write (h : conditionSetLayout.fits set = true) :
    conditionSetLayout.unchecked.layout.fits (set.write name place address n) = true := by
  obtain ⟨hlength, hentries⟩ := (Layout.fits_dict_iff "ConditionSet" "conditions" (some [])).mp h
  refine (Layout.fits_dict_iff "ConditionSet" "conditions" (some [])).mpr ⟨?_, fun e' he' => ?_⟩
  · rwa [List.length_map]
  obtain ⟨e, he, rfl⟩ := List.mem_map.mp he'
  obtain ⟨hname, hvalue⟩ := hentries e he
  refine ⟨hname, ?_⟩
  by_cases heq : e.1 = name
  · simp only [if_pos heq]
    exact NetworkPlace.fits_write hvalue
  · simp only [if_neg heq]
    exact (Condition.layout.relaxes_unchecked.fits_of e.2).trans hvalue

end ConditionSet

/-! ## Documents -/

namespace Condition

theorem wellFormed_unchecked : layout.unchecked.layout.wellFormed Ron.isName = true := by
  decide +kernel

theorem isTabular_unchecked :
    layout.unchecked.layout.isTabular (Toml.maxNames - 1) = true := by
  decide +kernel

end Condition

namespace ConditionSet

theorem wellFormed_unchecked :
    conditionSetLayout.unchecked.layout.wellFormed Ron.isName = true := by
  decide +kernel

theorem toOption_orBadRuleSet (read : Except DecodeError ConditionSet) :
    (orBadRuleSet read).toOption = read.toOption := by
  cases read <;> rfl

/-- A text of a set is read with the test as what the test leaves. -/
theorem toOption_ofRon_printRon (x : conditionSetLayout.unchecked.Value) :
    (ofRon (conditionSetLayout.unchecked.layout.printRon x)).toOption =
      conditionSetLayout.unchecked.check x := by
  rw [ofRon, toOption_orBadRuleSet, conditionSetLayout.relaxes_unchecked.sifts_parseRon,
    Layout.parseRon_printRon wellFormed_unchecked]
  rfl

theorem toOption_ofToml_printToml (set : ConditionSet) (name : String) (place : NetworkPlace)
    (address : Ipv4) (n : Octet) :
    (ofToml (conditionSetLayout.unchecked.layout.printToml
      (set.write name place address n))).toOption =
      conditionSetLayout.unchecked.check (set.write name place address n) := by
  have hparse : conditionSetLayout.unchecked.layout.parseToml
      (conditionSetLayout.unchecked.layout.printToml (set.write name place address n)) =
        .ok (set.write name place address n) :=
    Layout.parseToml_printToml_dict wellFormed_unchecked Condition.isTabular_unchecked
      (fun _ => rfl) (List.pairwise_map.mpr set.sorted)
  rw [ofToml, toOption_orBadRuleSet, conditionSetLayout.relaxes_unchecked.sifts_parseToml, hparse]
  rfl

end ConditionSet

namespace Condition

/-- A rule is read with the test as what the test leaves, in every encoding. -/
theorem guards_decode {c : Condition} {enc : Encoding} (place : NetworkPlace) (address : Ipv4)
    (n : Octet) (hfits : enc = .postcard → layout.fits c = true) :
    Guards n (enc.decode layout (enc.encode layout.unchecked.layout
      (place.write address n (layout.unchecked.of c)))) fun len => place.set ⟨address, len⟩ c :=
  .of_toOption
    (layout.relaxes_unchecked.toOption_decode_encode wellFormed_unchecked
      fun henc => NetworkPlace.fits_write (hfits henc))
    NetworkPlace.check_write_of fun hlt => NetworkPlace.check_write hlt _

/-- An octet is written in the place of a prefix length of a rule, as any rule is written. The
document is read if the octet is at most 32, and then as the rule with the network, in every
encoding, and so is a set with the rule under any name. If the octet is above 32 the document
is rejected : loading it from a store reports one line, and leaves the store as it was. (In
Postcard the sizes of sets must be numbers of 64 bits.) Nor is a longer length made in any
other way, so no rule has one. -/
theorem lengths_guarded (c : Condition) (place : NetworkPlace) (address : Ipv4) (n : Octet) :
    (∀ enc : Encoding, enc.encode layout.unchecked.layout (layout.unchecked.of c) =
      enc.encode layout c) ∧
    (∀ enc : Encoding, (enc = .postcard → layout.fits c = true) →
      let bytes := enc.encode layout.unchecked.layout
        (place.write address n (layout.unchecked.of c))
      Guards n (enc.decode layout bytes) (fun len => place.set ⟨address, len⟩ c) ∧
      (32 < n.toNat → ∀ (id : RuleId) (s : RuleStore), s.get id = .ok (some bytes) →
        ∃ e : DecodeError, (StoreCall.load enc id).perform s =
          (.loaded (.error (.undecodable id e.message)),
            [⟨.error, "rule " ++ id.text ++ ": rejected: " ++ e.message⟩], s))) ∧
    (∀ (set : ConditionSet) (name : String), set.get? name = some c →
      let document := set.write name place address n
      let value := fun len => set.insert name (place.set ⟨address, len⟩ c)
      (∀ enc : Encoding, (enc = .postcard → conditionSetLayout.fits set = true) →
        Guards n (enc.decode conditionSetLayout
          (enc.encode conditionSetLayout.unchecked.layout document)) value) ∧
      Guards n (ConditionSet.ofRon (conditionSetLayout.unchecked.layout.printRon document)) value ∧
      Guards n (ConditionSet.ofToml (conditionSetLayout.unchecked.layout.printToml document))
        value) ∧
    Guards n (PrefixLen.ofOctet n) id ∧
    Guards n (Network.make address n) (fun len => ⟨address, len⟩) ∧
    (∀ (s : String) (net : Network), Network.parse s = .ok net →
      ∃ left right m, cut '/' s.toList = some (left, right) ∧ decimalOctet? right = some m ∧
        m.toNat ≤ 32 ∧ net.len.val = m.toNat) ∧
    ∀ (enc : Encoding) (bytes : List UInt8) (c' : Condition), enc.decode layout bytes = .ok c' →
      ∀ net, c'.source.wanted = some net ∨ c'.dest.wanted = some net → net.len.val ≤ 32 := by
  refine ⟨fun enc => layout.relaxes_unchecked.encode_of enc c,
    fun enc hfits => ⟨guards_decode place address n hfits, fun hlt id s hget => ?_⟩,
    fun set name hget => ⟨fun enc hfits => ?_, ?_, ?_⟩,
    PrefixLen.guards_ofOctet n, Network.guards_make address n, fun _ _ => Network.length_of_parse,
    fun _ _ _ _ net _ => net.len.le⟩
  · obtain ⟨e, he⟩ := (guards_decode place address n hfits).2 hlt
    exact ⟨e, by rw [StoreCall.perform, RuleStore.loadRule_of_rejected hget he]⟩
  · exact .of_toOption
      (conditionSetLayout.relaxes_unchecked.toOption_decode_encode
        ConditionSet.wellFormed_unchecked fun henc => ConditionSet.fits_write (hfits henc))
      (ConditionSet.check_write_of hget) (ConditionSet.check_write hget)
  · exact .of_toOption (ConditionSet.toOption_ofRon_printRon _)
      (ConditionSet.check_write_of hget) (ConditionSet.check_write hget)
  · exact .of_toOption (ConditionSet.toOption_ofToml_printToml ..)
      (ConditionSet.check_write_of hget) (ConditionSet.check_write hget)

/-- A rule with both networks, inverted or not. -/
def sampleRule (source : Network) : Condition :=
  { protocol := ⟨some 6, true⟩, source := ⟨some source, true⟩,
    dest := ⟨some ⟨⟨10, 0, 0, 7⟩, .full⟩, false⟩ }

/-- Two rules, the second for networks with lengths in range. -/
def sampleSet : ConditionSet :=
  Table.ofList [("any", {}), ("web", sampleRule ⟨⟨10, 0, 0, 7⟩, .zero⟩)]

/-- The rule for anything, with a length above 32 in its second network. -/
def sampleBytes : List UInt8 :=
  Encoding.json.encode layout.unchecked.layout
    (NetworkPlace.dest.write ⟨10, 0, 0, 7⟩ 33 (layout.unchecked.of {}))

/-- The second rule is read with the greatest length. The first one is rejected with the next
one, in a set and by itself. -/
theorem sampleSet_guarded :
    (Encoding.postcard.decode conditionSetLayout
      (Encoding.postcard.encode conditionSetLayout.unchecked.layout
        (sampleSet.write "web" .source ⟨10, 0, 0, 7⟩ 32)) =
      .ok (sampleSet.insert "web" (sampleRule ⟨⟨10, 0, 0, 7⟩, .full⟩))) ∧
    (∃ e, ConditionSet.ofToml (conditionSetLayout.unchecked.layout.printToml
      (sampleSet.write "any" .dest ⟨10, 0, 0, 7⟩ 33)) = .error e) ∧
    ∃ message line, (StoreCall.load .json ⟨1⟩).perform (.memory (.ofList [(⟨1⟩, sampleBytes)])) =
      (.loaded (.error (.undecodable ⟨1⟩ message)), [⟨.error, line⟩],
        .memory (.ofList [(⟨1⟩, sampleBytes)])) := by
  have hfits : conditionSetLayout.fits sampleSet = true := by decide +kernel
  refine ⟨?_, ?_, ?_⟩
  · have hset := (lengths_guarded (sampleRule ⟨⟨10, 0, 0, 7⟩, .zero⟩) .source ⟨10, 0, 0, 7⟩
      32).2.2.1 sampleSet "web" rfl
    exact (hset.1 .postcard fun _ => hfits).1 (by decide)
  · exact ((lengths_guarded {} .dest ⟨10, 0, 0, 7⟩ 33).2.2.1 sampleSet "any" rfl).2.2.2 (by decide)
  · obtain ⟨e, he⟩ := ((lengths_guarded {} .dest ⟨10, 0, 0, 7⟩ 33).2.1 .json nofun).2 (by decide)
      ⟨1⟩ (.memory (.ofList [(⟨1⟩, sampleBytes)])) rfl
    exact ⟨_, _, he⟩

end Condition

end FlowRules
