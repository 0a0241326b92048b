/-!
# Ordered tables

A `Table κ ν` maps finitely many keys to values and lists its entries in ascending
order of the keys. Two tables with the same entries are equal, so a table is
determined by what it answers (`Table.ext_get?`). `insert` replaces the value of a
key that is there already, `ofList` inserts from left to right, so the last value
of a repeated key stays, and reading back the entries of a table gives the table
(`ofList_entries`). A `KeySet κ` is a table without values.
-/

namespace FlowRules

/-- Finitely many entries, in strictly ascending order of their keys. -/
structure Table (κ ν : Type) [Ord κ] where
  entries : List (κ × ν)
  sorted : entries.Pairwise fun a b => compare a.1 b.1 = .lt

variable {κ ν : Type} [Ord κ]

namespace Table

instance [DecidableEq κ] [DecidableEq ν] : DecidableEq (Table κ ν) := fun s t =>
  if h : s.entries = t.entries then
    isTrue (by cases s; cases t; cases h; rfl)
  else isFalse fun e => h (congrArg entries e)

theorem ext_entries {s t : Table κ ν} (h : s.entries = t.entries) : s = t := by
  cases s; cases t; cases h; rfl

/-- The table without entries. -/
def empty : Table κ ν := ⟨[], .nil⟩

instance : Inhabited (Table κ ν) := ⟨empty⟩

/-- The number of entries. -/
def size (t : Table κ ν) : Nat := t.entries.length

/-- Does the table have no entry? -/
def isEmpty (t : Table κ ν) : Bool := t.entries.isEmpty

/-- The keys, in ascending order. -/
def keys (t : Table κ ν) : List κ := t.entries.map Prod.fst

/-- The value of the first entry with the key. -/
def find? (k : κ) : List (κ × ν) → Option ν
  | [] => none
  | (k', v) :: es => if compare k k' = .eq then some v else find? k es

/-- The value of a key. -/
def get? (t : Table κ ν) (k : κ) : Option ν := find? k t.entries

/-- Does the table have the key? -/
def contains (t : Table κ ν) (k : κ) : Bool := (t.get? k).isSome

/-- The entries with the key's value set, in order if they were. -/
def insertEntry (k : κ) (v : ν) : List (κ × ν) → List (κ × ν)
  | [] => [(k, v)]
  | (k', v') :: es =>
    match compare k k' with
    | .lt => (k, v) :: (k', v') :: es
    | .eq => (k, v) :: es
    | .gt => (k', v') :: insertEntry k v es

theorem mem_insertEntry {k : κ} {v : ν} {e : κ × ν} {es : List (κ × ν)}
    (h : e ∈ insertEntry k v es) : e = (k, v) ∨ e ∈ es := by
  induction es with
  | nil => simpa [insertEntry] using h
  | cons d es ih =>
    obtain ⟨k', v'⟩ := d
    simp only [insertEntry] at h
    split at h
    · simpa using h
    · rcases List.mem_cons.mp h with h | h
      · exact Or.inl h
      · exact Or.inr (List.mem_cons_of_mem _ h)
    · rcases List.mem_cons.mp h with h | h
      · exact Or.inr (by simp [h])
      · rcases ih h with h | h
        · exact Or.inl h
        · exact Or.inr (List.mem_cons_of_mem _ h)

variable [Std.TransOrd κ] [Std.LawfulEqOrd κ]

theorem insertEntry_sorted (k : κ) (v : ν) {es : List (κ × ν)}
    (h : es.Pairwise fun a b => compare a.1 b.1 = .lt) :
    (insertEntry k v es).Pairwise fun a b => compare a.1 b.1 = .lt := by
  induction es with
  | nil => simp [insertEntry]
  | cons d es ih =>
    obtain ⟨k', v'⟩ := d
    have hd := List.pairwise_cons.mp h
    simp only [insertEntry]
    split
    · rename_i hlt
      refine List.pairwise_cons.mpr ⟨fun e he => ?_, h⟩
      rcases List.mem_cons.mp he with rfl | he
      · exact hlt
      · exact Std.TransCmp.lt_trans hlt (hd.1 e he)
    · rename_i heq
      have hk := Std.LawfulEqCmp.eq_of_compare heq
      subst hk
      exact List.pairwise_cons.mpr ⟨hd.1, hd.2⟩
    · rename_i hgt
      refine List.pairwise_cons.mpr ⟨fun e he => ?_, ih hd.2⟩
      rcases mem_insertEntry he with rfl | he
      · exact Std.OrientedCmp.lt_of_gt hgt
      · exact hd.1 e he

/-- The table with the key's value set. -/
def insert (t : Table κ ν) (k : κ) (v : ν) : Table κ ν :=
  ⟨insertEntry k v t.entries, insertEntry_sorted k v t.sorted⟩

/-- The entries from left to right, a later value of a key in place of an earlier one. -/
def ofList (es : List (κ × ν)) : Table κ ν := es.foldl (fun t e => t.insert e.1 e.2) empty

omit [Std.TransOrd κ] [Std.LawfulEqOrd κ] in
theorem filter_sorted (keep : κ × ν → Bool) (t : Table κ ν) :
    (t.entries.filter keep).Pairwise fun a b => compare a.1 b.1 = .lt :=
  t.sorted.sublist List.filter_sublist

omit [Std.TransOrd κ] [Std.LawfulEqOrd κ] in
/-- The entries that pass the test. -/
def filter (keep : κ → ν → Bool) (t : Table κ ν) : Table κ ν :=
  ⟨t.entries.filter fun e => keep e.1 e.2, filter_sorted _ t⟩

/-! ## What a table answers -/

omit [Std.TransOrd κ] in
theorem find?_self (k : κ) (v : ν) (es : List (κ × ν)) : find? k ((k, v) :: es) = some v := by
  simp [find?]

omit [Std.TransOrd κ] in
theorem find?_ne {k k' : κ} (h : k ≠ k') (v : ν) (es : List (κ × ν)) :
    find? k ((k', v) :: es) = find? k es := by
  have : compare k k' ≠ .eq := fun e => h (Std.LawfulEqCmp.eq_of_compare e)
  simp [find?, this]

omit [Std.TransOrd κ] in
theorem find?_insertEntry [DecidableEq κ] (k j : κ) (v : ν) (es : List (κ × ν)) :
    find? j (insertEntry k v es) = if j = k then some v else find? j es := by
  induction es with
  | nil =>
    by_cases h : j = k
    · subst h; simp [insertEntry, find?]
    · rw [insertEntry, find?_ne h]; simp [h]
  | cons d es ih =>
    obtain ⟨k', v'⟩ := d
    simp only [insertEntry]
    split
    · by_cases h : j = k
      · subst h; simp [find?]
      · rw [find?_ne h]; simp [h]
    · rename_i heq
      have hk := Std.LawfulEqCmp.eq_of_compare heq
      subst hk
      by_cases h : j = k
      · subst h; simp [find?]
      · rw [find?_ne h, find?_ne h]; simp [h]
    · rename_i hgt
      by_cases hj : j = k'
      · subst hj
        have : j ≠ k := by
          intro e; subst e; simp [Std.ReflCmp.compare_self] at hgt
        rw [find?_self, find?_self]; simp [this]
      · rw [find?_ne hj, find?_ne hj, ih]

omit [Std.TransOrd κ] in
/-- After a write, a key answers the written value if it is the key of the write. -/
theorem get?_insert [Std.TransOrd κ] [DecidableEq κ] (t : Table κ ν) (k j : κ) (v : ν) :
    (t.insert k v).get? j = if j = k then some v else t.get? j :=
  find?_insertEntry k j v t.entries

omit [Std.TransOrd κ] in
theorem find?_eq_some_iff {k : κ} {v : ν} {es : List (κ × ν)}
    (h : es.Pairwise fun a b => compare a.1 b.1 = .lt) :
    find? k es = some v ↔ (k, v) ∈ es := by
  induction es with
  | nil => simp [find?]
  | cons d es ih =>
    obtain ⟨k', v'⟩ := d
    have hd := List.pairwise_cons.mp h
    by_cases hk : k = k'
    · subst hk
      rw [find?_self]
      constructor
      · intro e; cases e; simp
      · intro hm
        rcases List.mem_cons.mp hm with hm | hm
        · cases hm; rfl
        · have := hd.1 _ hm
          simp [Std.ReflCmp.compare_self] at this
    · rw [find?_ne hk, ih hd.2]
      simp [hk]

omit [Std.TransOrd κ] in
/-- The entries are the pairs of a key and its value. -/
theorem get?_eq_some_iff {t : Table κ ν} {k : κ} {v : ν} :
    t.get? k = some v ↔ (k, v) ∈ t.entries := find?_eq_some_iff t.sorted

theorem entries_ext {es ds : List (κ × ν)} (he : es.Pairwise fun a b => compare a.1 b.1 = .lt)
    (hd : ds.Pairwise fun a b => compare a.1 b.1 = .lt) (h : ∀ e, e ∈ es ↔ e ∈ ds) : es = ds := by
  induction es generalizing ds with
  | nil =>
    cases ds with
    | nil => rfl
    | cons d ds => simpa using (h d).mpr (by simp)
  | cons e es ih =>
    cases ds with
    | nil => simpa using (h e).mp (by simp)
    | cons d ds =>
      have he' := List.pairwise_cons.mp he
      have hd' := List.pairwise_cons.mp hd
      have hed : e = d := by
        rcases List.mem_cons.mp ((h e).mp (by simp)) with h1 | h1
        · exact h1
        · rcases List.mem_cons.mp ((h d).mpr (by simp)) with h2 | h2
          · exact h2.symm
          · have h3 := Std.TransCmp.lt_trans (hd'.1 e h1) (he'.1 d h2)
            simp [Std.ReflCmp.compare_self] at h3
      subst hed
      congr 1
      refine ih he'.2 hd'.2 fun x => ?_
      constructor
      · intro hx
        rcases List.mem_cons.mp ((h x).mp (List.mem_cons_of_mem _ hx)) with rfl | h'
        · have := he'.1 x hx
          simp [Std.ReflCmp.compare_self] at this
        · exact h'
      · intro hx
        rcases List.mem_cons.mp ((h x).mpr (List.mem_cons_of_mem _ hx)) with rfl | h'
        · have := hd'.1 x hx
          simp [Std.ReflCmp.compare_self] at this
        · exact h'

/-- Tables that answer every key alike are equal. -/
theorem ext_get? {s t : Table κ ν} (h : ∀ k, s.get? k = t.get? k) : s = t := by
  refine ext_entries (entries_ext s.sorted t.sorted fun ⟨k, v⟩ => ?_)
  rw [← get?_eq_some_iff, ← get?_eq_some_iff, h]

omit [Std.TransOrd κ] [Std.LawfulEqOrd κ] in
theorem get?_empty (k : κ) : (empty : Table κ ν).get? k = none := rfl

theorem get?_foldl_insert (es : List (κ × ν)) (t : Table κ ν) (k : κ)
    (h : es.Pairwise fun a b => compare a.1 b.1 = .lt) :
    (es.foldl (fun t e => t.insert e.1 e.2) t).get? k = (find? k es).or (t.get? k) := by
  classical
  induction es generalizing t with
  | nil => simp [find?]
  | cons e es ih =>
    obtain ⟨k', v⟩ := e
    have hd := List.pairwise_cons.mp h
    rw [List.foldl_cons, ih _ hd.2, get?_insert]
    by_cases hk : k = k'
    · subst hk
      have : find? k es = none := by
        cases hf : find? k es with
        | none => rfl
        | some w =>
          have := hd.1 _ ((find?_eq_some_iff hd.2).mp hf)
          simp [Std.ReflCmp.compare_self] at this
      simp [this, find?_self]
    · simp [hk, find?_ne hk]

/-- Inserting the entries of a table one by one gives the table. -/
theorem ofList_entries (t : Table κ ν) : ofList t.entries = t :=
  ext_get? fun k => by
    rw [ofList, get?_foldl_insert _ _ _ t.sorted, get?_empty, Option.or_none]; rfl

end Table

/-! ## Sets of keys -/

/-- A finite set of keys, listed in ascending order. -/
abbrev KeySet (κ : Type) [Ord κ] := Table κ Unit

namespace KeySet

variable [Std.TransOrd κ] [Std.LawfulEqOrd κ]

/-- The set of the listed keys, in any order and with repetitions. -/
def ofList (ks : List κ) : KeySet κ := Table.ofList (ks.map fun k => (k, ()))

theorem ofList_keys (s : KeySet κ) : ofList s.keys = s := by
  have : s.keys.map (fun k => (k, ())) = s.entries := by
    rw [Table.keys, List.map_map]
    exact List.map_id _
  rw [ofList, this, Table.ofList_entries]

end KeySet

end FlowRules
