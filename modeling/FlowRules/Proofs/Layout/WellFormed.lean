import FlowRules.Layout.Stored
import Mathlib.Algebra.Ring.Nat

/-!
# Well-formed layouts

What is written by a layout can be told apart again if no name comes twice among the
fields of a record or the variants of a choice, if words have the width of machine words,
and if there is something between any two brackets (`Layout.wellFormed`). What a name may
be is up to the format. The types whose values are documents of their own are the
`StoredType`s.
-/

namespace FlowRules

/-- The names of the variants. -/
def Variants.names : {α : Type} → Variants α → List String
  | _, .nil => []
  | _, .cons name _ rest => name :: rest.names

mutual

/-- Are all names in the layout good ones, distinct where they stand together, and is
nothing of a width or size that cannot be told again? -/
def Layout.wellFormed (good : String → Bool) : {α : Type} → Layout α → Bool
  | _, .word w => [8, 16, 32, 64].contains w
  | _, .octets n => 0 < n
  | _, .list l => l.wellFormed good
  | _, .dict l => l.wellFormed good
  | _, .record _ fields =>
    !fields.names.isEmpty && fields.names.Nodup && fields.wellFormed good
  | _, .choice variants =>
    variants.names.length ≤ 2 ^ 32 && variants.names.Nodup && variants.wellFormed good
  | _, .via _ _ _ l => l.wellFormed good
  | _, _ => true

/-- Are the fields well-formed, each by itself? -/
def Fields.wellFormed (good : String → Bool) : {α : Type} → Fields α → Bool
  | _, .nil => true
  | _, .needed name _ l rest => good name && l.wellFormed good && rest.wellFormed good
  | _, .optional name _ l rest => good name && l.wellFormed good && rest.wellFormed good

/-- Is what a variant carries well-formed? -/
def Payload.wellFormed (good : String → Bool) : {α : Type} → Payload α → Bool
  | _, .nothing => true
  | _, .value l => l.wellFormed good
  | _, .fields fields =>
    !fields.names.isEmpty && fields.names.Nodup && fields.wellFormed good

/-- Are the variants well-formed, each by itself? -/
def Variants.wellFormed (good : String → Bool) : {α : Type} → Variants α → Bool
  | _, .nil => true
  | _, .cons name payload rest => good name && payload.wellFormed good && rest.wellFormed good

end

/-- A row that is not empty is a first element put in front of the others. -/
theorem exists_insertIdx_zero {α : Type} {n : Nat} (v : Vector α (n + 1)) :
    ∃ (a : α) (w : Vector α n), v = w.insertIdx 0 a (Nat.zero_le n) ∧ v.toList = a :: w.toList := by
  have hlist : v.toList = v[0] :: v.tail.toList := by
    apply List.ext_getElem
    · simp
    · intro i h1 h2
      cases i <;> simp [Nat.add_comm]
  refine ⟨v[0], v.tail, Vector.toList_inj.mp ?_, hlist⟩
  rw [Vector.toList_insertIdx, List.insertIdx_zero, hlist]

/-! ## The types of documents -/

/-- The types whose values are stored as documents of their own. -/
inductive StoredType where
  | condition
  | conditionSet
  | packet
  | flowSig
  | flowMatch
  | cacheConfig

namespace StoredType

/-- The values of the type. -/
abbrev Value : StoredType → Type
  | condition => Condition
  | conditionSet => ConditionSet
  | packet => Packet
  | flowSig => FlowSig
  | flowMatch => FlowMatch
  | cacheConfig => CacheConfig

/-- The layout of the type. -/
def layout : (t : StoredType) → Layout t.Value
  | condition => Condition.layout
  | conditionSet => conditionSetLayout
  | packet => Packet.layout
  | flowSig => FlowSig.layout
  | flowMatch => FlowMatch.layout
  | cacheConfig => CacheConfig.layout

theorem wellFormed_layout (t : StoredType) : t.layout.wellFormed (fun _ => true) = true := by
  cases t <;> decide

end StoredType

end FlowRules
