import FlowRules.Table
import Mathlib.Tactic.Tauto

/-!
# Entries put into a table

Entries are put into a table one after the other, and the last one with a key stays
(`Table.get?_insertAll_of_latest`). So a set of listed keys has just these keys, whatever their
order and however often they are listed (`KeySet.ofList_congr`).
-/

namespace FlowRules

namespace Table

variable {κ ν : Type} [Ord κ] [Std.TransOrd κ] [Std.LawfulEqOrd κ]

/-- The table after the entries are put into it from left to right. -/
def insertAll (t : Table κ ν) (es : List (κ × ν)) : Table κ ν :=
  es.foldl (fun t e => t.insert e.1 e.2) t

theorem get?_insertAll_of_notMem {es : List (κ × ν)} {k : κ} (t : Table κ ν)
    (h : k ∉ es.map Prod.fst) : (t.insertAll es).get? k = t.get? k := by
  classical
  induction es generalizing t with
  | nil => rfl
  | cons e es ih =>
    rw [List.map_cons, List.mem_cons, not_or] at h
    have hrest : (t.insertAll (e :: es)).get? k = (t.insert e.1 e.2).get? k := ih _ h.2
    rw [hrest, get?_insert, if_neg h.1]

/-- The last entry of a key stays. -/
theorem get?_insertAll_of_latest {before later : List (κ × ν)} {k : κ} {v : ν} (t : Table κ ν)
    (h : k ∉ later.map Prod.fst) : (t.insertAll (before ++ (k, v) :: later)).get? k = some v := by
  classical
  have hsplit : t.insertAll (before ++ (k, v) :: later) =
      ((t.insertAll before).insert k v).insertAll later := by
    simp [insertAll]
  rw [hsplit, get?_insertAll_of_notMem _ h, get?_insert, if_pos rfl]

omit [Std.TransOrd κ] in
theorem mem_keys_iff {t : Table κ ν} {k : κ} : k ∈ t.keys ↔ ∃ v, t.get? k = some v := by
  simp [keys, get?_eq_some_iff]

theorem mem_keys_insertAll {t : Table κ ν} {es : List (κ × ν)} {k : κ} :
    k ∈ (t.insertAll es).keys ↔ k ∈ es.map Prod.fst ∨ k ∈ t.keys := by
  classical
  induction es generalizing t with
  | nil => simp [insertAll]
  | cons e es ih =>
    have hrest : k ∈ (t.insertAll (e :: es)).keys ↔
        k ∈ es.map Prod.fst ∨ k ∈ (t.insert e.1 e.2).keys := ih
    have hhead : k ∈ (t.insert e.1 e.2).keys ↔ k = e.1 ∨ k ∈ t.keys := by
      rw [mem_keys_iff, mem_keys_iff]
      simp only [get?_insert]
      by_cases hk : k = e.1 <;> simp [hk]
    rw [hrest, hhead, List.map_cons, List.mem_cons]
    tauto

end Table

namespace KeySet

variable {κ : Type} [Ord κ] [Std.TransOrd κ] [Std.LawfulEqOrd κ]

theorem mem_keys_ofList {ks : List κ} {k : κ} : k ∈ (ofList ks).keys ↔ k ∈ ks := by
  have hmem : k ∈ (ofList ks).keys ↔ k ∈ (ks.map fun k => (k, ())).map Prod.fst ∨ _ :=
    Table.mem_keys_insertAll (t := .empty)
  rw [hmem]
  simp [Table.keys, Table.empty]

/-- Sets with the same keys are equal. -/
theorem ext_keys {s t : KeySet κ} (h : ∀ k, k ∈ s.keys ↔ k ∈ t.keys) : s = t :=
  Table.ext_get? fun k => Option.ext fun () => by
    have hk := h k
    rw [Table.mem_keys_iff, Table.mem_keys_iff] at hk
    exact ⟨fun hs => (hk.mp ⟨(), hs⟩).elim fun () ht => ht,
      fun ht => (hk.mpr ⟨(), ht⟩).elim fun () hs => hs⟩

/-- The order of the listed keys does not matter, nor how often each of them is listed. -/
theorem ofList_congr {ks ks' : List κ} (h : ∀ k, k ∈ ks ↔ k ∈ ks') : ofList ks = ofList ks' :=
  ext_keys fun k => by rw [mem_keys_ofList, mem_keys_ofList, h]

end KeySet

end FlowRules
