import FlowRules.Condition.Lint
import FlowRules.Proofs.Address.Text
import FlowRules.Proofs.Condition.Unconditional
import FlowRules.Proofs.Text.Identifier
import Mathlib.Data.List.Nodup

/-!
# What the text of a condition says

Each part of a condition that is written is written as one clause : its name with a mark in
front if it is inverted, and for most parts a value behind. Such a text can be taken apart
again (`clauseParts_append`), and values are told by their texts, so the clause says all of
its part but the flag of one that is not configured (`Clause.text?_eq_iff`). Parts are left
out, but no two have the same name, so the clauses determine every part
(`Condition.clauses_eq_iff`).

No clause holds a space or an opening parenthesis (`IsInner`). The text can thus be cut at
its spaces, and is negated if it holds a parenthesis (`Condition.text_eq_iff`).
`Condition.text_determines` adds that conditions of one text do the same.
-/

namespace FlowRules

/-! ## Values -/

/-- Does the text hold neither the sign between clauses nor the one that opens a negation? -/
def IsInner (cs : List Char) : Prop := ' ' ∉ cs ∧ '(' ∉ cs

theorem isInner_wordText {w : Nat} (x : BitVec w) : IsInner (wordText x).toList :=
  ⟨notMem_decimal (by decide) _, notMem_decimal (by decide) _⟩

theorem isInner_networkText (net : Network) : IsInner net.text.toList :=
  ⟨Network.notMem_text (by decide) (by decide) (by decide) net,
    Network.notMem_text (by decide) (by decide) (by decide) net⟩

theorem isInner_idText {kind : Entity} (id : Id kind) : IsInner id.text.toList :=
  ⟨notMem_uuidText (by decide) (by decide) _, notMem_uuidText (by decide) (by decide) _⟩

theorem Id.text_injective {kind : Entity} : Function.Injective (Id.text : Id kind → String) :=
  fun _ _ h => congrArg Id.mk (uuidText_inj (congrArg String.toList h))

theorem wordText_injective {w : Nat} : Function.Injective (wordText : BitVec w → String) :=
  fun _ _ h => wordText_inj (congrArg String.toList h)

theorem Network.text_injective : Function.Injective Network.text :=
  fun _ _ h => text_inj (congrArg String.toList h)

theorem toList_portSetText (s : KeySet PortId) :
    (portSetText s).toList =
      '[' :: joinPieces ',' (s.keys.map fun id => id.text.toList) ++ [']'] := by
  simp [portSetText, String.toList_intercalate, intercalate_eq_joinPieces]
  rfl

/-- A sign that is no digit, no bracket, no comma and no hyphen is not in the text of a set. -/
theorem notMem_portSetText {c : Char} (hdigit : isDigitOf 16 c = false)
    (hsign : c ∉ ['[', ',', '-', ']']) (s : KeySet PortId) : c ∉ (portSetText s).toList := by
  intro hmem
  simp only [List.mem_cons, List.not_mem_nil, or_false, not_or] at hsign
  obtain ⟨hopen, hcomma, hhyphen, hclose⟩ := hsign
  simp only [toList_portSetText, List.mem_cons, List.mem_append, List.not_mem_nil, hopen,
    hclose, false_or, or_false] at hmem
  rcases mem_joinPieces hmem with h | ⟨p, hp, hc⟩
  · exact hcomma h
  · obtain ⟨id, -, rfl⟩ := List.mem_map.mp hp
    exact notMem_uuidText hdigit hhyphen id.bits hc

theorem isInner_portSetText (s : KeySet PortId) : IsInner (portSetText s).toList :=
  ⟨notMem_portSetText (by decide) (by decide) s, notMem_portSetText (by decide) (by decide) s⟩

theorem portSetText_injective : Function.Injective portSetText := by
  intro s t h
  have hlist := congrArg String.toList h
  rw [toList_portSetText, toList_portSetText] at hlist
  have hids := List.append_cancel_right (List.cons.inj hlist).2
  have hcomma (ids : List PortId) :
      ∀ p ∈ ids.map (fun id => id.text.toList), p ≠ [] ∧ ',' ∉ p := by
    intro p hp
    obtain ⟨id, -, rfl⟩ := List.mem_map.mp hp
    obtain ⟨c, cs, htext, -⟩ := exists_cons_uuidText id.bits
    refine ⟨?_, notMem_uuidText (by decide) (by decide) id.bits⟩
    rw [Id.text, htext]
    exact List.cons_ne_nil c cs
  have htexts := joinPieces_inj_of_ne_nil (hcomma _) (hcomma _) hids
  have hkeys : s.keys = t.keys :=
    List.map_injective_iff.mpr (fun _ _ h => Id.text_injective (String.toList_injective h)) htexts
  rw [← KeySet.ofList_keys s, hkeys, KeySet.ofList_keys]

theorem PortRange.toList_text (r : PortRange) :
    r.text.toList = (wordText r.first).toList ++ '.' :: '.' :: '=' :: (wordText r.last).toList := by
  simp [text]

theorem isInner_rangeText (r : PortRange) : IsInner r.text.toList := by
  obtain ⟨hfirst, hfirst'⟩ := isInner_wordText r.first
  obtain ⟨hlast, hlast'⟩ := isInner_wordText r.last
  simp [IsInner, PortRange.toList_text, hfirst, hfirst', hlast, hlast']

theorem PortRange.text_injective : Function.Injective PortRange.text := by
  intro r s h
  have hlist := congrArg String.toList h
  rw [toList_text, toList_text] at hlist
  obtain ⟨hfirst, hrest⟩ := append_cons_inj (notMem_decimal (by decide) _)
    (notMem_decimal (by decide) _) hlist
  obtain ⟨first, last⟩ := r
  obtain ⟨first', last'⟩ := s
  obtain rfl := wordText_inj hfirst
  obtain rfl := wordText_inj (List.cons.inj (List.cons.inj hrest).2).2
  rfl

/-! ## Clauses -/

/-- Do the clauses agree, flags of clauses that are not configured apart? -/
structure Clause.Alike {α : Type} (c d : Clause α) : Prop where
  wanted : c.wanted = d.wanted
  inverted : ∀ a, c.wanted = some a → c.inverted = d.inverted

theorem Clause.Alike.holds_eq {α : Type} {c d : Clause α} (h : c.Alike d) (raw : α → Bool) :
    c.holds raw = d.holds raw := by
  rw [holds, holds, ← h.wanted]
  cases hwanted : c.wanted with
  | none => rfl
  | some a => simp only [h.inverted a hwanted]

/-! ## The text of a clause -/

/-- Can the text be the name of a clause? -/
structure IsName (name : String) : Prop where
  ne_nil : name.toList ≠ []
  unmarked : '!' ∉ name.toList
  equals : '=' ∉ name.toList
  inner : IsInner name.toList

/-- A clause in its parts : whether it is marked as inverted, its name, and what stands
behind that. -/
def clauseParts (cs : List Char) : Bool × List Char × List Char :=
  let body := cs.dropWhile (· = '!')
  (cs.head? = some '!', body.takeWhile (· ≠ '='), body.dropWhile (· ≠ '='))

theorem toList_inversionMark (inverted : Bool) :
    (inversionMark inverted).toList = if inverted then ['!'] else [] := by
  cases inverted <;> rfl

theorem clauseParts_append {name : String} (hname : IsName name) (inverted : Bool)
    {rest : List Char} (hrest : ∀ c ∈ rest.head?, c = '=') :
    clauseParts ((inversionMark inverted).toList ++ (name.toList ++ rest)) =
      (inverted, name.toList, rest) := by
  have hhead : (name.toList ++ rest).head? ≠ some '!' := by
    rw [List.head?_append_of_ne_nil _ hname.ne_nil]
    exact fun h => hname.unmarked (List.mem_of_mem_head? h)
  have hbody : ((inversionMark inverted).toList ++ (name.toList ++ rest)).dropWhile (· = '!') =
      name.toList ++ rest := by
    refine dropWhile_append_end ?_ ?_
    · intro c hc
      rw [toList_inversionMark] at hc
      split at hc
      · exact decide_eq_true (List.mem_singleton.mp hc)
      · cases hc
    · intro c hc
      exact decide_eq_false fun h => hhead (h ▸ hc)
  have hmark : decide (((inversionMark inverted).toList ++ (name.toList ++ rest)).head? =
      some '!') = inverted := by
    cases inverted with
    | false => exact decide_eq_false hhead
    | true => rfl
  have hin : ∀ c ∈ name.toList, decide (c ≠ '=') = true :=
    fun c hc => decide_eq_true (ne_of_mem_of_not_mem hc hname.equals)
  have hout : ∀ c ∈ rest.head?, decide (c ≠ '=') = false :=
    fun c hc => decide_eq_false (not_not_intro (hrest c hc))
  rw [clauseParts, hbody, hmark, takeWhile_append_end hin hout, dropWhile_append_end hin hout]

/-- Is the text that of a clause of the name? -/
def IsWording (name text : String) : Prop :=
  ∃ inverted rest, text.toList = (inversionMark inverted).toList ++ (name.toList ++ rest) ∧
    (∀ c ∈ rest.head?, c = '=') ∧ IsInner rest

theorem IsWording.name_eq {name text : String} (h : IsWording name text) (hname : IsName name) :
    (clauseParts text.toList).2.1 = name.toList := by
  obtain ⟨inverted, rest, htext, hrest, -⟩ := h
  rw [htext, clauseParts_append hname inverted hrest]

theorem IsWording.isInner {name text : String} (h : IsWording name text) (hname : IsName name) :
    IsInner text.toList := by
  obtain ⟨inverted, rest, htext, -, hspace, hopen⟩ := h
  obtain ⟨hspace', hopen'⟩ := hname.inner
  rw [htext]
  have hmark : IsInner (inversionMark inverted).toList := by
    rw [toList_inversionMark]
    cases inverted <;> exact ⟨by decide, by decide⟩
  simp [IsInner, hmark.1, hmark.2, hspace, hopen, hspace', hopen']

theorem toList_valueText (inverted : Bool) (name value : String) :
    (inversionMark inverted ++ name ++ "=" ++ value).toList =
      (inversionMark inverted).toList ++ (name.toList ++ '=' :: value.toList) := by
  simp

/-- Mark and value are told by the text of the clause. -/
theorem valueText_inj {name : String} (hname : IsName name) {i j : Bool} {v w : String}
    (h : inversionMark i ++ name ++ "=" ++ v = inversionMark j ++ name ++ "=" ++ w) :
    i = j ∧ v = w := by
  have hparts := congrArg (fun text => clauseParts text.toList) h
  simp only [toList_valueText] at hparts
  rw [clauseParts_append hname i (by simp), clauseParts_append hname j (by simp)] at hparts
  obtain ⟨hmark, hrest⟩ := Prod.mk.inj hparts
  exact ⟨hmark, String.toList_injective (List.cons.inj (Prod.mk.inj hrest).2).2⟩

theorem isWording_valueText (inverted : Bool) (name : String) {value : String}
    (hvalue : IsInner value.toList) :
    IsWording name (inversionMark inverted ++ name ++ "=" ++ value) := by
  refine ⟨inverted, '=' :: value.toList, toList_valueText inverted name value, by simp, ?_⟩
  simp [IsInner, hvalue.1, hvalue.2]

theorem Clause.isWording_of_text? {α : Type} {name text : String} {value : α → String}
    {c : Clause α} (hvalue : ∀ a, IsInner (value a).toList) (h : c.text? name value = some text) :
    IsWording name text := by
  obtain ⟨a, -, rfl⟩ := Option.map_eq_some_iff.mp h
  exact isWording_valueText c.inverted name (hvalue a)

theorem PortClause.isWording_of_text? {name text : String} {c : PortClause}
    (h : c.text? name = some text) : IsWording name text := by
  unfold text? at h
  split at h
  · cases h
  · obtain rfl := Option.some.inj h
    exact isWording_valueText c.inverted name (isInner_rangeText c.range)

/-- Clauses have the same text exactly if they are alike. -/
theorem Clause.text?_eq_iff {α : Type} {name : String} {value : α → String} {c d : Clause α}
    (hname : IsName name) (hvalue : Function.Injective value) :
    c.text? name value = d.text? name value ↔ c.Alike d := by
  constructor
  · intro h
    cases hc : c.wanted with
    | none =>
      have hd := text?_eq_none_iff.mp (h.symm.trans (text?_eq_none_iff.mpr hc))
      exact ⟨hc.trans hd.symm, fun a ha => by cases hc.symm.trans ha⟩
    | some a =>
      cases hd : d.wanted with
      | none =>
        have hnone := text?_eq_none_iff.mp (h.trans (text?_eq_none_iff.mpr hd))
        cases hc.symm.trans hnone
      | some b =>
        rw [text?, text?, hc, hd] at h
        obtain ⟨hmark, hab⟩ := valueText_inj hname (Option.some.inj h)
        obtain rfl := hvalue hab
        exact ⟨hc.trans hd.symm, fun _ _ => hmark⟩
  · intro h
    rw [text?, text?, ← h.wanted]
    cases hc : c.wanted with
    | none => rfl
    | some a => rw [h.inverted a hc]

theorem PortClause.eq_default {c : PortClause} (h : c.isDefault = true) : c = {} := by
  obtain ⟨⟨first, last⟩, inverted⟩ := c
  simp only [isDefault, PortRange.isFull, Bool.and_eq_true, decide_eq_true_eq,
    Bool.not_eq_true'] at h
  obtain ⟨⟨rfl, rfl⟩, rfl⟩ := h
  rfl

/-- A clause about transport ports is told by its text. -/
theorem PortClause.text?_eq_iff {name : String} {c d : PortClause} (hname : IsName name) :
    c.text? name = d.text? name ↔ c = d := by
  constructor
  · intro h
    cases hc : c.isDefault with
    | true =>
      have hd := text?_eq_none_iff.mp (h.symm.trans (text?_eq_none_iff.mpr hc))
      rw [eq_default hc, eq_default hd]
    | false =>
      have hd : d.isDefault = false := by
        rw [← Bool.not_eq_true]
        intro hd
        have hnone := text?_eq_none_iff.mp (h.trans (text?_eq_none_iff.mpr hd))
        exact Bool.false_ne_true (hc.symm.trans hnone)
      simp only [text?, hc, hd, Bool.false_eq_true, if_false, Option.some.injEq] at h
      obtain ⟨hmark, hrange⟩ := valueText_inj hname h
      obtain ⟨range, inverted⟩ := c
      obtain rfl : range = d.range := PortRange.text_injective hrange
      obtain rfl : inverted = d.inverted := hmark
      rfl
  · rintro rfl
    rfl

theorem isWording_flagText {flag : Bool} {name text : String}
    (h : (if flag then some name else none) = some text) : IsWording name text := by
  cases flag with
  | false => cases h
  | true =>
    obtain rfl := Option.some.inj h
    exact ⟨false, [], by simp [inversionMark], by simp, by simp [IsInner]⟩

/-! ## The parts of a condition -/

/-- A part of a condition that is written as a clause. -/
inductive ConditionPart where
  | inPorts
  | outPorts
  | group
  | tos
  | protocol
  | source
  | dest
  | srcPorts
  | dstPorts
  | forwardFlow
  | returnFlow
  deriving DecidableEq

namespace ConditionPart

/-- The parts in the order in which they are written. -/
def all : List ConditionPart :=
  [inPorts, outPorts, group, tos, protocol, source, dest, srcPorts, dstPorts, forwardFlow,
    returnFlow]

theorem mem_all (part : ConditionPart) : part ∈ all := by cases part <;> decide

/-- The name of the part. -/
def name : ConditionPart → String
  | inPorts => "in_port"
  | outPorts => "out_port"
  | group => "port_group"
  | tos => "nw_tos"
  | protocol => "nw_proto"
  | source => "nw_src"
  | dest => "nw_dst"
  | srcPorts => "tp_src"
  | dstPorts => "tp_dst"
  | forwardFlow => "fwd_flow"
  | returnFlow => "ret_flow"

theorem isName (part : ConditionPart) : IsName part.name := by
  cases part <;> exact ⟨by decide, by decide, by decide, by decide, by decide⟩

theorem name_inj (part part' : ConditionPart) (h : part.name.toList = part'.name.toList) :
    part = part' :=
  List.inj_on_of_nodup_map (f := fun part => part.name.toList) (l := all) (by decide)
    (mem_all part) (mem_all part') h

end ConditionPart

theorem flagText_eq_iff {flag flag' : Bool} {text : String} :
    ((if flag then some text else none) = if flag' then some text else none) ↔ flag = flag' := by
  cases flag <;> cases flag' <;> simp

namespace Condition

variable {a b : Condition}

/-- The clause for the part, if it is written. -/
def partText? (c : Condition) : ConditionPart → Option String
  | .inPorts => c.inPorts.text? (ConditionPart.name .inPorts) portSetText
  | .outPorts => c.outPorts.text? (ConditionPart.name .outPorts) portSetText
  | .group => c.group.text? (ConditionPart.name .group) Id.text
  | .tos => c.tos.text? (ConditionPart.name .tos) wordText
  | .protocol => c.protocol.text? (ConditionPart.name .protocol) wordText
  | .source => c.source.text? (ConditionPart.name .source) Network.text
  | .dest => c.dest.text? (ConditionPart.name .dest) Network.text
  | .srcPorts => c.srcPorts.text? (ConditionPart.name .srcPorts)
  | .dstPorts => c.dstPorts.text? (ConditionPart.name .dstPorts)
  | .forwardFlow => if c.forwardFlow then some (ConditionPart.name .forwardFlow) else none
  | .returnFlow => if c.returnFlow then some (ConditionPart.name .returnFlow) else none

theorem clauses_eq (c : Condition) : c.clauses = ConditionPart.all.filterMap c.partText? := by
  have hparts : c.clauses = (ConditionPart.all.map c.partText?).reduceOption := rfl
  rw [hparts, List.reduceOption, List.filterMap_map]
  rfl

theorem isWording_of_partText? {c : Condition} {part : ConditionPart} {text : String}
    (h : c.partText? part = some text) : IsWording part.name text := by
  cases part with
  | inPorts => exact Clause.isWording_of_text? isInner_portSetText h
  | outPorts => exact Clause.isWording_of_text? isInner_portSetText h
  | group => exact Clause.isWording_of_text? isInner_idText h
  | tos => exact Clause.isWording_of_text? isInner_wordText h
  | protocol => exact Clause.isWording_of_text? isInner_wordText h
  | source => exact Clause.isWording_of_text? isInner_networkText h
  | dest => exact Clause.isWording_of_text? isInner_networkText h
  | srcPorts => exact PortClause.isWording_of_text? h
  | dstPorts => exact PortClause.isWording_of_text? h
  | forwardFlow => exact isWording_flagText h
  | returnFlow => exact isWording_flagText h

/-- Do the conditions agree in the part, inversion flags of clauses that are not configured
apart? -/
def AlikeAt (a b : Condition) : ConditionPart → Prop
  | .inPorts => a.inPorts.Alike b.inPorts
  | .outPorts => a.outPorts.Alike b.outPorts
  | .group => a.group.Alike b.group
  | .tos => a.tos.Alike b.tos
  | .protocol => a.protocol.Alike b.protocol
  | .source => a.source.Alike b.source
  | .dest => a.dest.Alike b.dest
  | .srcPorts => a.srcPorts = b.srcPorts
  | .dstPorts => a.dstPorts = b.dstPorts
  | .forwardFlow => a.forwardFlow = b.forwardFlow
  | .returnFlow => a.returnFlow = b.returnFlow

/-- Do the conditions agree, inversion flags of clauses that are not configured apart? -/
structure Alike (a b : Condition) : Prop where
  negated : a.negated = b.negated
  parts : ∀ part, a.AlikeAt b part

/-- The same clause is written for a part exactly if the conditions agree in it. -/
theorem partText?_eq_iff : ∀ part, a.partText? part = b.partText? part ↔ a.AlikeAt b part
  | .inPorts => Clause.text?_eq_iff (ConditionPart.isName _) portSetText_injective
  | .outPorts => Clause.text?_eq_iff (ConditionPart.isName _) portSetText_injective
  | .group => Clause.text?_eq_iff (ConditionPart.isName _) Id.text_injective
  | .tos => Clause.text?_eq_iff (ConditionPart.isName _) wordText_injective
  | .protocol => Clause.text?_eq_iff (ConditionPart.isName _) wordText_injective
  | .source => Clause.text?_eq_iff (ConditionPart.isName _) Network.text_injective
  | .dest => Clause.text?_eq_iff (ConditionPart.isName _) Network.text_injective
  | .srcPorts => PortClause.text?_eq_iff (ConditionPart.isName _)
  | .dstPorts => PortClause.text?_eq_iff (ConditionPart.isName _)
  | .forwardFlow => flagText_eq_iff
  | .returnFlow => flagText_eq_iff

theorem clauses_eq_iff : a.clauses = b.clauses ↔ ∀ part, a.AlikeAt b part := by
  simp only [clauses_eq, ← partText?_eq_iff]
  constructor
  · intro h part
    -- A clause that is written tells by its name which part it is of.
    refine filterMap_parts_inj (fun text => (clauseParts text.toList).2.1)
      (fun part => part.name.toList) ConditionPart.name_inj ?_ ?_ h part.mem_all
    · exact fun part text htext => (isWording_of_partText? htext).name_eq part.isName
    · exact fun part text htext => (isWording_of_partText? htext).name_eq part.isName
  · intro h
    rw [funext h]

/-! ## The text as a whole -/

theorem isInner_of_mem_clauses {c : Condition} {text : String} (h : text ∈ c.clauses) :
    IsInner text.toList := by
  rw [clauses_eq, List.mem_filterMap] at h
  obtain ⟨part, -, htext⟩ := h
  exact (isWording_of_partText? htext).isInner part.isName

/-- What stands between the spaces of the text, the negation apart. -/
def words (c : Condition) : List String := if c.clauses.isEmpty then ["*"] else c.clauses

theorem words_ne_nil (c : Condition) : c.words ≠ [] := by
  rw [words]
  cases h : c.clauses <;> simp

theorem isInner_of_mem_words {c : Condition} {text : String} (h : text ∈ c.words) :
    IsInner text.toList := by
  rw [words] at h
  split at h
  · obtain rfl := List.mem_singleton.mp h
    exact ⟨by decide, by decide⟩
  · exact isInner_of_mem_clauses h

/-- The star is no clause. -/
theorem clauses_eq_filter (c : Condition) : c.clauses = c.words.filter (· ≠ "*") := by
  rw [words]
  split
  · rw [List.isEmpty_iff.mp ‹c.clauses.isEmpty = true›]
    rfl
  · refine (List.filter_eq_self.mpr fun text htext => decide_eq_true ?_).symm
    rintro rfl
    exact absurd (one_lt_length_of_mem_clauses htext) (by decide)

theorem toList_text (c : Condition) :
    c.text.toList =
      if c.negated then '!' :: '(' :: joinPieces ' ' (c.words.map String.toList) ++ [')']
      else joinPieces ' ' (c.words.map String.toList) := by
  have hbody : (if c.clauses.isEmpty then "*" else String.intercalate " " c.clauses).toList =
      joinPieces ' ' (c.words.map String.toList) := by
    rw [words]
    split
    · rfl
    · rw [String.toList_intercalate]
      exact intercalate_eq_joinPieces ' ' _
  cases hc : c.negated with
  | false => simp only [text, hc, Bool.false_eq_true, if_false, hbody]
  | true =>
    simp only [text, hc, if_true, String.toList_append, hbody]
    rfl

/-- A text is negated if it holds the sign that opens a negation. -/
theorem mem_toList_text_iff {c : Condition} : '(' ∈ c.text.toList ↔ c.negated = true := by
  have hbody : '(' ∉ joinPieces ' ' (c.words.map String.toList) := by
    intro hmem
    rcases mem_joinPieces hmem with h | ⟨p, hp, hc⟩
    · exact absurd h (by decide)
    · obtain ⟨text, htext, rfl⟩ := List.mem_map.mp hp
      exact (isInner_of_mem_words htext).2 hc
  rw [toList_text]
  cases c.negated <;> simp [hbody]

/-- Conditions have the same text exactly if they are alike. -/
theorem text_eq_iff : a.text = b.text ↔ a.Alike b := by
  constructor
  · intro h
    have hlist := congrArg String.toList h
    have hnegated : a.negated = b.negated := by
      rw [Bool.eq_iff_iff, ← mem_toList_text_iff, hlist, mem_toList_text_iff]
    have hbody : joinPieces ' ' (a.words.map String.toList) =
        joinPieces ' ' (b.words.map String.toList) := by
      rw [toList_text, toList_text, hnegated] at hlist
      cases hb : b.negated <;> simpa [hb] using hlist
    have hspace (c : Condition) : ∀ p ∈ c.words.map String.toList, ' ' ∉ p := by
      intro p hp
      obtain ⟨text, htext, rfl⟩ := List.mem_map.mp hp
      exact (isInner_of_mem_words htext).1
    have hwords := joinPieces_inj (by simp [words_ne_nil]) (by simp [words_ne_nil]) (hspace a)
      (hspace b) hbody
    have htexts := List.map_injective_iff.mpr (fun _ _ => String.toList_injective) hwords
    have hclauses : a.clauses = b.clauses := by
      rw [clauses_eq_filter, htexts, ← clauses_eq_filter]
    exact ⟨hnegated, clauses_eq_iff.mp hclauses⟩
  · intro h
    rw [text, text, h.negated, clauses_eq_iff.mpr h.parts]

/-! ## What alike conditions do -/

namespace Alike

variable {σ : Type}

theorem stateless_eq (h : a.Alike b) (site : Attachment) (ctx : Context) (p : Packet) :
    a.stateless site ctx p = b.stateless site ctx p := by
  have hin : a.inPorts.Alike b.inPorts := h.parts .inPorts
  have hout : a.outPorts.Alike b.outPorts := h.parts .outPorts
  have hgroup : a.group.Alike b.group := h.parts .group
  have htos : a.tos.Alike b.tos := h.parts .tos
  have hprotocol : a.protocol.Alike b.protocol := h.parts .protocol
  have hsource : a.source.Alike b.source := h.parts .source
  have hdest : a.dest.Alike b.dest := h.parts .dest
  have hsrcPorts : a.srcPorts = b.srcPorts := h.parts .srcPorts
  have hdstPorts : a.dstPorts = b.dstPorts := h.parts .dstPorts
  simp only [stateless, inPortsHold, outPortsHold, hin.holds_eq, hout.holds_eq, hgroup.holds_eq,
    htos.holds_eq, hprotocol.holds_eq, hsource.holds_eq, hdest.holds_eq, hsrcPorts, hdstPorts]

theorem evaluate_eq (h : a.Alike b) (cache : Cache σ) (mode : ReadMode) (site : Attachment)
    (p : Packet) : a.evaluate cache mode site p = b.evaluate cache mode site p :=
  evaluate_congr cache mode (fun ctx => h.stateless_eq site ctx p) h.negated
    (h.parts .forwardFlow) (h.parts .returnFlow)

theorem lints_eq (h : a.Alike b) : a.lints = b.lints := by
  have hin : a.inPorts.Alike b.inPorts := h.parts .inPorts
  have hout : a.outPorts.Alike b.outPorts := h.parts .outPorts
  have hsrcPorts : a.srcPorts = b.srcPorts := h.parts .srcPorts
  have hdstPorts : a.dstPorts = b.dstPorts := h.parts .dstPorts
  have hforward : a.forwardFlow = b.forwardFlow := h.parts .forwardFlow
  have hreturn : a.returnFlow = b.returnFlow := h.parts .returnFlow
  rw [lints, lints, Clause.wantsNone, Clause.wantsNone, hin.wanted, hout.wanted, hsrcPorts,
    hdstPorts, hforward, hreturn]
  rfl

theorem isMatchAny_eq (h : a.Alike b) : a.isMatchAny = b.isMatchAny := by
  rw [Bool.eq_iff_iff, isMatchAny_iff_unset, isMatchAny_iff_unset, h.negated,
    clauses_eq_iff.mpr h.parts]

end Alike

/-- The text of a condition says all that there is to it. Conditions have the same text
exactly if they agree in every part, inversion flags of clauses that are not configured
apart, and then nothing tells them apart : they have the same clauses and lints, are both
without restriction or neither, and evaluation does the same with either, whatever the
context, the cache, which may be one under observation, and the packet. -/
theorem text_determines (a b : Condition) :
    (a.text = b.text ↔ a.Alike b) ∧
    (a.text = b.text →
      a.clauses = b.clauses ∧ a.lints = b.lints ∧ a.isMatchAny = b.isMatchAny ∧
      ∀ {σ : Type} (cache : Cache σ) (mode : ReadMode) (site : Attachment) (p : Packet)
        (s : EvalState σ), Eval.outcome (a.evaluate cache mode site p) s =
          Eval.outcome (b.evaluate cache mode site p) s) := by
  refine ⟨text_eq_iff, fun htext => ?_⟩
  have h := text_eq_iff.mp htext
  refine ⟨clauses_eq_iff.mpr h.parts, h.lints_eq, h.isMatchAny_eq, ?_⟩
  intro σ cache mode site p s
  rw [h.evaluate_eq]

/-- A condition with a flag that counts and one of a clause that is not configured. -/
def sampleFlagged : Condition := { tos := ⟨some 46, true⟩, group := ⟨none, true⟩ }

/-- The flag of the group does not count. -/
theorem sampleFlagged_determined :
    sampleFlagged.text = "!nw_tos=46" ∧ sampleFlagged ≠ { tos := ⟨some 46, true⟩ } ∧
      sampleFlagged.lints = ({ tos := ⟨some 46, true⟩ } : Condition).lints ∧
      sampleFlagged.isMatchAny = ({ tos := ⟨some 46, true⟩ } : Condition).isMatchAny := by
  obtain ⟨-, hsame⟩ := text_determines sampleFlagged { tos := ⟨some 46, true⟩ }
  obtain ⟨-, hlints, hany, -⟩ := hsame rfl
  exact ⟨by decide, by decide, hlints, hany⟩

end Condition

end FlowRules
