import FlowRules.Table
import Mathlib.Data.List.Perm.Basic

/-!
# Entries put in order

Entries with distinct keys are put in order by inserting one after the other
(`Table.ordered`). Nothing is lost or added (`ordered_perm`), and there is only one order
of the same entries (`eq_ordered`), so it does not matter in which order they were
inserted. Entries in order stay as they are (`ordered_of_sorted`).
-/

namespace FlowRules.Table

variable {κ ν μ : Type} [Ord κ]

/-- The entries, each inserted in its place. -/
def ordered (es : List (κ × ν)) : List (κ × ν) :=
  es.foldr (fun e es => insertEntry e.1 e.2 es) []

theorem ordered_cons (e : κ × ν) (es : List (κ × ν)) :
    ordered (e :: es) = insertEntry e.1 e.2 (ordered es) := rfl

/-! ## Values -/

theorem insertEntry_map (f : ν → μ) (k : κ) (v : ν) (es : List (κ × ν)) :
    (insertEntry k v es).map (fun e => (e.1, f e.2)) =
      insertEntry k (f v) (es.map fun e => (e.1, f e.2)) := by
  induction es with
  | nil => rfl
  | cons e es ih =>
    simp only [insertEntry, List.map_cons]
    split
    · rfl
    · rfl
    · rw [List.map_cons, ih]

/-- The values do not matter for the order. -/
theorem ordered_map (f : ν → μ) (es : List (κ × ν)) :
    (ordered es).map (fun e => (e.1, f e.2)) = ordered (es.map fun e => (e.1, f e.2)) := by
  induction es with
  | nil => rfl
  | cons e es ih => rw [List.map_cons, ordered_cons, ordered_cons, insertEntry_map, ih]

/-! ## Keys -/

variable [Std.LawfulEqOrd κ]

theorem find?_eq_none_iff {k : κ} {es : List (κ × ν)} :
    find? k es = none ↔ k ∉ es.map Prod.fst := by
  induction es with
  | nil => simp [find?]
  | cons e es ih =>
    obtain ⟨k', v⟩ := e
    by_cases hk : k = k'
    · subst hk
      simp [find?_self]
    · rw [find?_ne hk, ih]
      simp [hk]

/-- The later of two values of a key stays. -/
theorem insertEntry_insertEntry (k : κ) (v w : ν) (es : List (κ × ν)) :
    insertEntry k v (insertEntry k w es) = insertEntry k v es := by
  induction es with
  | nil => simp [insertEntry]
  | cons e es ih =>
    obtain ⟨k', u⟩ := e
    cases hcompare : compare k k' with
    | lt => simp [insertEntry, hcompare]
    | eq => simp [insertEntry, hcompare]
    | gt => simp [insertEntry, hcompare, ih]

/-- A key that is there keeps its place. -/
theorem insertEntry_of_mem [Std.TransOrd κ] [DecidableEq κ] {k : κ} {es : List (κ × ν)}
    (hsorted : es.Pairwise fun a b => compare a.1 b.1 = .lt) (h : k ∈ es.map Prod.fst) (v : ν) :
    insertEntry k v es = es.map fun e => (e.1, if e.1 = k then v else e.2) := by
  induction es with
  | nil => exact absurd h List.not_mem_nil
  | cons e es ih =>
    obtain ⟨hfirst, hrest⟩ := List.pairwise_cons.mp hsorted
    obtain ⟨k', u⟩ := e
    simp only [insertEntry, List.map_cons]
    rcases List.mem_cons.mp h with rfl | hmem
    · have hmap : (es.map fun e => (e.1, if e.1 = k then v else e.2)) = es := by
        refine (List.map_congr_left fun e he => ?_).trans (List.map_id es)
        have hne : e.1 ≠ k := by
          rintro rfl
          simpa [Std.ReflCmp.compare_self] using hfirst e he
        simp [hne]
      simp [Std.ReflCmp.compare_self, hmap]
    · obtain ⟨e, he, rfl⟩ := List.mem_map.mp hmem
      have hlt : compare k' e.1 = .lt := hfirst e he
      have hne : k' ≠ e.1 := by
        rintro rfl
        simp [Std.ReflCmp.compare_self] at hlt
      simp [Std.OrientedCmp.gt_of_lt hlt, hne, ih hrest hmem]

theorem insertEntry_perm {k : κ} {es : List (κ × ν)} (h : k ∉ es.map Prod.fst) (v : ν) :
    (insertEntry k v es).Perm ((k, v) :: es) := by
  induction es with
  | nil => exact .refl _
  | cons e es ih =>
    obtain ⟨k', u⟩ := e
    simp only [List.map_cons, List.mem_cons, not_or] at h
    simp only [insertEntry]
    split
    · exact .refl _
    · rename_i heq
      exact absurd (Std.LawfulEqCmp.eq_of_compare heq) h.1
    · exact ((ih h.2).cons (k', u)).trans (.swap ..)

/-- Entries with distinct keys are all there when they are in order. -/
theorem ordered_perm {es : List (κ × ν)} (h : (es.map Prod.fst).Nodup) :
    (ordered es).Perm es := by
  induction es with
  | nil => exact .refl _
  | cons e es ih =>
    rw [List.map_cons, List.nodup_cons] at h
    have hmore := ih h.2
    have hkey : e.1 ∉ (ordered es).map Prod.fst := by
      rw [(hmore.map Prod.fst).mem_iff]
      exact h.1
    exact (insertEntry_perm hkey e.2).trans (hmore.cons e)

theorem nodup_of_sorted {es : List (κ × ν)} (h : es.Pairwise fun a b => compare a.1 b.1 = .lt) :
    (es.map Prod.fst).Nodup := by
  refine List.pairwise_map.mpr (h.imp fun {a b} hlt heq => ?_)
  simp [heq, Std.ReflCmp.compare_self] at hlt

/-! ## Order -/

variable [Std.TransOrd κ]

theorem ordered_sorted (es : List (κ × ν)) :
    (ordered es).Pairwise fun a b => compare a.1 b.1 = .lt := by
  induction es with
  | nil => exact .nil
  | cons e es ih => exact insertEntry_sorted e.1 e.2 ih

/-- Entries in order are the same as others with distinct keys that are put in order. -/
theorem eq_ordered {es ds : List (κ × ν)} (hes : es.Pairwise fun a b => compare a.1 b.1 = .lt)
    (hds : (ds.map Prod.fst).Nodup) (h : es.Perm ds) : es = ordered ds :=
  entries_ext hes (ordered_sorted ds) fun _ => (h.trans (ordered_perm hds).symm).mem_iff

theorem ordered_of_sorted {es : List (κ × ν)}
    (h : es.Pairwise fun a b => compare a.1 b.1 = .lt) : ordered es = es :=
  (eq_ordered h (nodup_of_sorted h) (.refl _)).symm

end FlowRules.Table
