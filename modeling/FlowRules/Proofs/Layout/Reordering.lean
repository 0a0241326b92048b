import FlowRules.Proofs.Layout.ReadWrite
import FlowRules.Proofs.Layout.Sifting
import Mathlib.Data.List.Nodup

/-!
# Records whose members are listed in another way

A record is read field by field, and each field looks at the members of its name only
(`Slot`). So one list of members is read as another one is if every field finds the same in
both (`Fields.read_of_keeps`). This is so if the members are reordered (`Fields.read_perm`),
if others are added that no field has the name of (`Fields.read_cons_of_notMem`), if one is
left out that is read as the default of its field (`Fields.read_tail`), and if the value of
one is written in another way (`Fields.read_replaced`). A record in which the name of a field
is repeated is never read (`Fields.read_repeated`).

All of this goes for any notation. The members that are written of a record of defaults are
read as the defaults (`Fields.exists_slot_of_default`).
-/

namespace FlowRules

variable {σ τ α : Type} {r : DataReader σ}

/-! ## Fields -/

/-- A field as it is read : its name, what stands for it where it is left out, and how its
value is read. -/
structure Slot (σ : Type) where
  Value : Type
  name : String
  default : Option Value
  read : σ → Except DecodeError Value

/-- The fields, in order. -/
def Fields.slots (r : DataReader σ) : {α : Type} → Fields α → List (Slot σ)
  | _, .nil => []
  | _, .needed name default l rest => ⟨_, name, default, l.read r⟩ :: rest.slots r
  | _, .optional name _ l rest => ⟨_, name, some none, r.readOptional (l.read r)⟩ :: rest.slots r

theorem Fields.names_slots :
    {α : Type} → (fields : Fields α) → (fields.slots r).map Slot.name = fields.names
  | _, .nil => rfl
  | _, .needed _ _ _ rest => congrArg _ rest.names_slots
  | _, .optional _ _ _ rest => congrArg _ rest.names_slots

namespace Slot

variable {s : Slot σ} {es es' : List (String × σ)}

/-- What the field is read as from the values under its name. -/
def value? (s : Slot σ) : List (String × σ) → Option s.Value
  | [] => s.default
  | [e] => (s.read e.2).toOption
  | _ :: _ :: _ => none

/-- What the field is read as among members. -/
def find? (s : Slot σ) (es : List (String × σ)) : Option s.Value :=
  s.value? (es.filter fun e => e.1 = s.name)

theorem toOption_pick (s : Slot σ) (members : Members σ) (size : Nat) :
    (pick s.read s.default s.name members size).toOption = s.find? (members.map Prod.snd) := by
  rw [FlowRules.toOption_pick, find?, filter_placed]
  generalize members.filter (fun m => m.2.1 = s.name) = found
  rcases found with _ | ⟨m, _ | ⟨m', more⟩⟩ <;> rfl

/-- Whatever the field is read as among the first members, it is read as among the others. -/
def Keeps (s : Slot σ) (es es' : List (String × σ)) : Prop :=
  ∀ a, s.find? es = some a → s.find? es' = some a

theorem keeps_of_perm (h : (es.filter fun e => e.1 = s.name).Perm
    (es'.filter fun e => e.1 = s.name)) : s.Keeps es es' := by
  intro a ha
  unfold find? at ha ⊢
  generalize (es.filter fun e => e.1 = s.name) = found at h ha
  rcases found with _ | ⟨e, _ | ⟨e', more⟩⟩
  · rwa [← h.nil_eq]
  · rwa [← List.singleton_perm.mp h]
  · exact absurd ha (by simp [value?])

/-- A member of the name of the field is its value if there is no other one. -/
theorem find?_cons_eq_some_iff {v : σ} {a : s.Value} :
    s.find? ((s.name, v) :: es) = some a ↔
      s.read v = .ok a ∧ (es.filter fun e => e.1 = s.name) = [] := by
  rw [find?, List.filter_cons_of_pos (by simp)]
  cases es.filter fun e => e.1 = s.name <;> simp [value?, toOption_eq_some_iff]

/-- A member may be left out if its field is read from it as it is without it. -/
theorem keeps_tail {e : String × σ} (h : e.1 = s.name → (s.read e.2).toOption = s.default) :
    s.Keeps (e :: es) es := by
  obtain ⟨name, v⟩ := e
  by_cases hname : name = s.name
  · subst hname
    intro a ha
    obtain ⟨hread, hnone⟩ := find?_cons_eq_some_iff.mp ha
    rw [find?, hnone]
    exact (h rfl).symm.trans (toOption_eq_some_iff.mpr hread)
  · exact keeps_of_perm (by simp [hname])

/-- The value of a member may be written in another way if its field is read from it alike. -/
theorem keeps_replaced {name : String} {v v' : σ}
    (h : name = s.name → ∀ a, s.read v = .ok a → s.read v' = .ok a) :
    s.Keeps ((name, v) :: es) ((name, v') :: es) := by
  by_cases hname : name = s.name
  · subst hname
    intro a ha
    obtain ⟨hread, hnone⟩ := find?_cons_eq_some_iff.mp ha
    exact find?_cons_eq_some_iff.mpr ⟨h rfl a hread, hnone⟩
  · exact keeps_of_perm (by simp [hname])

end Slot

/-! ## Records -/

namespace Fields

/-- A field and those behind it are read alike if each of them is. -/
theorem both_of_keeps {β : Type} {s : Slot σ} {members members' : Members σ} {size size' : Nat}
    {rest rest' : Located β} {p : s.Value × β}
    (hs : s.Keeps (members.map Prod.snd) (members'.map Prod.snd))
    (hrest : ∀ b, rest.toOption = some b → rest'.toOption = some b)
    (h : ((pick s.read s.default s.name members size).both rest).toOption = some p) :
    ((pick s.read s.default s.name members' size').both rest').toOption = some p := by
  simp only [toOption_both, s.toOption_pick, Option.bind_eq_some_iff,
    Option.map_eq_some_iff] at h ⊢
  obtain ⟨a, ha, b, hb, rfl⟩ := h
  exact ⟨a, hs a ha, b, hrest b hb, rfl⟩

theorem readNamed_of_keeps : {α : Type} → (fields : Fields α) → {members members' : Members σ} →
    {size size' : Nat} →
    (∀ s ∈ fields.slots r, s.Keeps (members.map Prod.snd) (members'.map Prod.snd)) →
    ∀ a, (fields.readNamed r members size).toOption = some a →
      (fields.readNamed r members' size').toOption = some a
  | _, .nil, _, _, _, _, _, _, h => by
    simp only [readNamed] at h ⊢
    exact h
  | _, .needed name default l rest, _, _, _, _, hkeeps, _, h => by
    obtain ⟨hs, hrest⟩ := List.forall_mem_cons.mp hkeeps
    simp only [readNamed] at h ⊢
    exact both_of_keeps (s := ⟨_, name, default, l.read r⟩) hs (rest.readNamed_of_keeps hrest) h
  | _, .optional name _ l rest, _, _, _, _, hkeeps, _, h => by
    obtain ⟨hs, hrest⟩ := List.forall_mem_cons.mp hkeeps
    simp only [readNamed] at h ⊢
    exact both_of_keeps (s := ⟨_, name, some none, r.readOptional (l.read r)⟩) hs
      (rest.readNamed_of_keeps hrest) h

variable {fields : Fields α} {a : α} {es es' : List (String × σ)}

/-- A record is read from its fields if the other members can be skipped. -/
theorem read_ofMembers_iff :
    fields.read r (.named (.ofMembers es)) = .ok a ↔
      (fields.readNamed r (Entries.ofMembers es).placed
        (Entries.ofMembers es).values.length).toOption = some a ∧
      ∀ e ∈ es, e.1 ∈ fields.names ∨ r.skippable e.2 = true := by
  rw [← Entries.check_ofMembers_iff, ← toOption_eq_some_iff]
  simp only [Fields.read, toOption_bind, toOption_value, toOption_both, toOption_pure]
  cases (Entries.ofMembers es).check r fields.names <;>
    simp [Except.toOption, Option.map_eq_bind, Option.bind_assoc]

/-- One list of members is read as another one is if every field finds the same in both. -/
theorem read_of_keeps (h : fields.read r (.named (.ofMembers es)) = .ok a)
    (hkeeps : ∀ s ∈ fields.slots r, s.Keeps es es')
    (hskip : ∀ e ∈ es', e.1 ∈ fields.names ∨ r.skippable e.2 = true) :
    fields.read r (.named (.ofMembers es')) = .ok a := by
  obtain ⟨hread, -⟩ := read_ofMembers_iff.mp h
  refine read_ofMembers_iff.mpr ⟨fields.readNamed_of_keeps (fun s hs => ?_) a hread, hskip⟩
  rw [Entries.placed_ofMembers, Entries.placed_ofMembers]
  exact hkeeps s hs

/-! ### The same record in other members -/

theorem read_perm (h : fields.read r (.named (.ofMembers es)) = .ok a) (hperm : es.Perm es') :
    fields.read r (.named (.ofMembers es')) = .ok a :=
  read_of_keeps h (fun _ _ => Slot.keeps_of_perm (hperm.filter _))
    fun e he => (read_ofMembers_iff.mp h).2 e (hperm.mem_iff.mpr he)

/-- A member that no field has the name of is skipped. -/
theorem read_cons_of_notMem {e : String × σ} (h : fields.read r (.named (.ofMembers es)) = .ok a)
    (hname : e.1 ∉ fields.names) (hskip : r.skippable e.2 = true) :
    fields.read r (.named (.ofMembers (e :: es))) = .ok a := by
  refine read_of_keeps h (fun s hs => Slot.keeps_of_perm ?_)
    (List.forall_mem_cons.mpr ⟨.inr hskip, (read_ofMembers_iff.mp h).2⟩)
  have hne : e.1 ≠ s.name := fun heq => hname (heq ▸ fields.names_slots (r := r) ▸
    List.mem_map_of_mem hs)
  rw [List.filter_cons_of_neg (by simpa using hne)]

theorem slot_unique (hnodup : fields.names.Nodup) {s s' : Slot σ} (hs : s ∈ fields.slots r)
    (hs' : s' ∈ fields.slots r) (hname : s.name = s'.name) : s = s' :=
  List.inj_on_of_nodup_map (fields.names_slots (r := r) ▸ hnodup) hs hs' hname

/-- A member may be left out that says no more than the default of its field. -/
theorem read_tail (hnodup : fields.names.Nodup) {s : Slot σ} (hs : s ∈ fields.slots r) {v : σ}
    (hv : (s.read v).toOption = s.default)
    (h : fields.read r (.named (.ofMembers ((s.name, v) :: es))) = .ok a) :
    fields.read r (.named (.ofMembers es)) = .ok a := by
  refine read_of_keeps h (fun s' hs' => Slot.keeps_tail fun hname => ?_)
    (List.forall_mem_cons.mp (read_ofMembers_iff.mp h).2).2
  obtain rfl := slot_unique hnodup hs hs' hname
  exact hv

/-- The value of a member may be written in any way that its field is read from alike. -/
theorem read_replaced (hnodup : fields.names.Nodup) {s : Slot σ} (hs : s ∈ fields.slots r)
    {v v' : σ} (hv : ∀ b, s.read v = .ok b → s.read v' = .ok b)
    (h : fields.read r (.named (.ofMembers ((s.name, v) :: es))) = .ok a) :
    fields.read r (.named (.ofMembers ((s.name, v') :: es))) = .ok a := by
  have hname : s.name ∈ fields.names := fields.names_slots (r := r) ▸ List.mem_map_of_mem hs
  refine read_of_keeps h (fun s' hs' => Slot.keeps_replaced fun hname => ?_)
    (List.forall_mem_cons.mpr ⟨.inl hname, (List.forall_mem_cons.mp (read_ofMembers_iff.mp h).2).2⟩)
  obtain rfl := slot_unique hnodup hs hs' hname
  exact hv

end Fields

/-! ## Defaults -/

/-- Is every field what stands for it where it is left out? -/
def Fields.IsDefault : {α : Type} → Fields α → α → Prop
  | _, .nil, _ => True
  | _, .needed _ default _ rest, (a, b) => default = some a ∧ rest.IsDefault b
  | _, .optional _ _ _ rest, (o, b) => o = none ∧ rest.IsDefault b

/-- What is written of a default is read as the default. -/
theorem Fields.exists_slot_of_default {w : DataWriter τ} {Stands : σ → τ → Prop}
    (h : r.Inverts w Stands) {good : String → Bool} : {α : Type} → (fields : Fields α) → {a : α} →
    fields.wellFormed good = true → fields.IsDefault a →
    ∀ m ∈ fields.write w a, ∀ p, Stands p m.2 →
      ∃ s ∈ fields.slots r, s.name = m.1 ∧ (s.read p).toOption = s.default
  | _, .nil, _, _, _, m, hm, _, _ => absurd hm List.not_mem_nil
  | _, .needed name default l rest, (a, b), hfields, hdefault, m, hm, p, hp => by
    simp only [Fields.wellFormed, Bool.and_eq_true] at hfields
    obtain ⟨hdefault, hb⟩ : default = some a ∧ rest.IsDefault b := hdefault
    rw [Fields.write, List.mem_cons] at hm
    rcases hm with rfl | hm
    · refine ⟨_, List.mem_cons_self .., rfl, ?_⟩
      exact (congrArg _ (Layout.read_write h l hfields.1.2 hp)).trans hdefault.symm
    · obtain ⟨s, hs, hname⟩ := rest.exists_slot_of_default h hfields.2 hb m hm p hp
      exact ⟨s, List.mem_cons_of_mem _ hs, hname⟩
  | _, .optional name _ l rest, (o, b), hfields, hdefault, m, hm, p, hp => by
    obtain ⟨rfl, hb⟩ : o = none ∧ rest.IsDefault b := hdefault
    simp only [Fields.wellFormed, Bool.and_eq_true] at hfields
    rw [Fields.write, List.mem_append] at hm
    rcases hm with hm | hm
    · obtain ⟨v, hv, rfl⟩ := Option.map_eq_some_iff.mp (Option.mem_toList.mp hm)
      refine ⟨_, List.mem_cons_self .., rfl, ?_⟩
      exact congrArg _ (h.readOptional (o := none)
        (fun a _ q hq => Layout.read_write h l hfields.1.2 hq) hv hp)
    · obtain ⟨s, hs, hname⟩ := rest.exists_slot_of_default h hfields.2 hb m hm p hp
      exact ⟨s, List.mem_cons_of_mem _ hs, hname⟩

/-! ## Repeated names -/

theorem Fields.both_eq_none {β : Type} {s : Slot σ} {members : Members σ} {size : Nat}
    {rest : Located β} (h : s.find? (members.map Prod.snd) = none ∨ rest.toOption = none) :
    ((pick s.read s.default s.name members size).both rest).toOption = none := by
  rw [toOption_both, s.toOption_pick]
  rcases h with h | h
  · rw [h, Option.bind_none]
  · rw [h]
    exact Option.bind_fun_none _

/-- Nothing is read if one field is not. -/
theorem Fields.toOption_readNamed_eq_none : {α : Type} → (fields : Fields α) →
    {members : Members σ} → {size : Nat} → {s : Slot σ} → s ∈ fields.slots r →
    s.find? (members.map Prod.snd) = none →
      (fields.readNamed r members size).toOption = none
  | _, .nil, _, _, _, hs, _ => absurd hs List.not_mem_nil
  | _, .needed name default l rest, _, _, s, hs, hnone => by
    simp only [readNamed]
    refine both_eq_none (s := ⟨_, name, default, l.read r⟩) ?_
    rcases List.mem_cons.mp hs with rfl | hs
    · exact .inl hnone
    · exact .inr (rest.toOption_readNamed_eq_none hs hnone)
  | _, .optional name _ l rest, _, _, s, hs, hnone => by
    simp only [readNamed]
    refine both_eq_none (s := ⟨_, name, some none, r.readOptional (l.read r)⟩) ?_
    rcases List.mem_cons.mp hs with rfl | hs
    · exact .inl hnone
    · exact .inr (rest.toOption_readNamed_eq_none hs hnone)

theorem Slot.find?_eq_none_of_count {s : Slot σ} {entries : Entries σ}
    (h : 2 ≤ (entries.values.map Prod.fst).count (some s.name)) :
    s.find? (entries.placed.map Prod.snd) = none := by
  have hlength : ∀ es : List (Option String × σ),
      ((es.filterMap fun e => e.1.map (·, e.2)).filter fun e => e.1 = s.name).length =
        (es.map Prod.fst).count (some s.name) := by
    intro es
    induction es with
    | nil => rfl
    | cons e es ih =>
      obtain ⟨_ | name, v⟩ := e
      · simpa using ih
      · by_cases hname : name = s.name <;> simp [hname, ih]
  rw [← hlength, ← Entries.map_snd_placed] at h
  rw [find?]
  generalize List.filter _ _ = found at h
  rcases found with _ | ⟨e, _ | ⟨e', more⟩⟩
  · exact absurd h (by simp)
  · exact absurd h (by simp)
  · rfl

/-- A record in which the name of a field is repeated is not read. -/
theorem Fields.read_repeated (fields : Fields α) {entries : Entries σ} {name : String}
    (hname : name ∈ fields.names)
    (hcount : 2 ≤ (entries.values.map Prod.fst).count (some name)) :
    ∃ e, fields.read r (.named entries) = .error e := by
  rw [← fields.names_slots (r := r)] at hname
  obtain ⟨s, hs, rfl⟩ := List.mem_map.mp hname
  have hfield : (fields.readNamed r entries.placed entries.values.length).toOption = none :=
    fields.toOption_readNamed_eq_none hs (Slot.find?_eq_none_of_count hcount)
  have hread : (fields.read r (.named entries)).toOption = none := by
    simp only [Fields.read, toOption_bind, toOption_value, toOption_both, hfield, Option.bind_none]
  cases hresult : fields.read r (.named entries) with
  | error e => exact ⟨e, rfl⟩
  | ok a =>
    rw [hresult] at hread
    exact absurd hread (by simp [Except.toOption])

end FlowRules
