import FlowRules.Layout.Document
import FlowRules.Postcard.Stored
import Mathlib.Data.Option.Basic

/-!
# Reading before and after a test

A value can be read in two ways : with a test of what is read on the way, or without it and
tested afterwards. The first `Sifts` the second if they come to the same. This is so of a
whole if it is so of its parts : of values in a list (`Sifts.mapM`), of the members of a
record (`Sifts.pick`, `Sifts.located`), and of values that bytes write one after the other
(`SiftsGet.both`, `SiftsGet.many`). Only what is refused is compared, not which of several
faults is reported.
-/

namespace FlowRules

/-! ## Tests -/

/-- The outcome of two tests. -/
def checkBoth {α β γ δ : Type} (f : γ → Option α) (g : δ → Option β) (p : γ × δ) :
    Option (α × β) :=
  (f p.1).bind fun a => (g p.2).map (a, ·)

section

variable {α β γ δ : Type} {f : γ → Option α} {g : δ → Option β} {p : γ × δ}

theorem checkBoth_left (h : f p.1 = none) : checkBoth f g p = none := by
  rw [checkBoth, h]
  rfl

theorem checkBoth_right (h : g p.2 = none) : checkBoth f g p = none := by
  rw [checkBoth, h]
  exact Option.bind_fun_none _

end

theorem checkBoth_map_eq_some {α β γ δ : Type} {f : γ → Option α} {g : α → γ}
    {f' : δ → Option β} {g' : β → δ} (h : ∀ a, f (g a) = some a) (h' : ∀ b, f' (g' b) = some b)
    (p : α × β) : checkBoth f f' (Prod.map g g' p) = some p := by
  simp [checkBoth, h, h']

theorem mapM_map_eq_some {α β : Type} {f : α → Option β} {g : β → α}
    (h : ∀ b, f (g b) = some b) (bs : List β) : (bs.map g).mapM f = some bs := by
  induction bs with
  | nil => rfl
  | cons b bs ih => simp [h, ih]

/-- What is refused among others is refused with them. -/
theorem mapM_eq_none_of_mem {α β : Type} {f : α → Option β} {a : α} {as : List α} (h : a ∈ as)
    (ha : f a = none) : as.mapM f = none := by
  induction as with
  | nil => exact absurd h List.not_mem_nil
  | cons b bs ih =>
    rcases List.mem_cons.mp h with rfl | h
    · simp [ha]
    · simp [ih h]

/-! ## Outcomes before and after a test -/

section

variable {ε α β γ α' β' : Type}

theorem toOption_bind (x : Except ε α) (f : α → Except ε β) :
    (x >>= f).toOption = x.toOption.bind fun a => (f a).toOption := by
  cases x <;> rfl

theorem toOption_map (f : α → β) (x : Except ε α) : (x.map f).toOption = x.toOption.map f := by
  cases x <;> rfl

theorem toOption_pure (a : α) : (pure a : Except ε α).toOption = some a := rfl

theorem toOption_eq_some_iff {x : Except ε α} {a : α} : x.toOption = some a ↔ x = .ok a := by
  cases x <;> simp [Except.toOption]

/-- Is the first outcome what comes of the second one by a test of its value? -/
def Sifts (check : β → Option α) (x : Except ε α) (y : Except ε β) : Prop :=
  x.toOption = y.toOption.bind check

namespace Sifts

variable {check : β → Option α} {check' : β' → Option α'} {x : Except ε α} {y : Except ε β}
  {x' : Except ε α'} {y' : Except ε β'}

theorem same (x : Except ε α) : Sifts some x x :=
  (Option.bind_fun_some _).symm

theorem map (h : Sifts check x y) (f : α → γ) :
    Sifts (fun b => (check b).map f) (x.map f) y := by
  rw [Sifts, toOption_map, h, Option.map_bind]
  rfl

/-- Values made from tested ones, where the others are made from those before the test. -/
theorem mapBoth {f : α → α'} {f' : β → β'} (h : Sifts check x y)
    (hcheck : ∀ b, check' (f' b) = (check b).map f) : Sifts check' (x.map f) (y.map f') := by
  rw [Sifts, toOption_map, toOption_map, h, Option.map_bind, Option.bind_map]
  exact Option.bind_congr fun b _ => (hcheck b).symm

/-- What does not depend on the test may come first. -/
theorem after (o : Except ε γ) {x : γ → Except ε α} {y : γ → Except ε β}
    (h : ∀ c, Sifts check (x c) (y c)) : Sifts check (o >>= x) (o >>= y) := by
  cases o with
  | error e => rfl
  | ok c => exact h c

/-- What does not depend on the test may come last. -/
theorem before (h : Sifts check x y) (o : Except ε Unit) :
    Sifts check (do let a ← x; o; return a) (do let b ← y; o; return b) := by
  simp only [Sifts, toOption_bind, toOption_pure] at h ⊢
  rw [h]
  cases y.toOption <;> cases o.toOption <;> simp

theorem both (h : Sifts check x y) (h' : Sifts check' x' y') :
    Sifts (checkBoth check check') (do let a ← x; let a' ← x'; return (a, a'))
      (do let b ← y; let b' ← y'; return (b, b')) := by
  simp only [Sifts, toOption_bind, toOption_pure] at h h' ⊢
  rw [h, h']
  cases y.toOption <;> cases y'.toOption <;> simp [checkBoth, Option.map_eq_bind]

/-- Values read one after the other are tested one after the other. -/
theorem mapM {τ : Type} {read : τ → Except ε α} {read' : τ → Except ε β}
    (h : ∀ v, Sifts check (read v) (read' v)) (vs : List τ) :
    Sifts (List.mapM check) (vs.mapM read) (vs.mapM read') := by
  induction vs with
  | nil => rfl
  | cons v vs ih =>
    have hv := h v
    simp only [Sifts, List.mapM_cons, toOption_bind, toOption_pure] at ih hv ⊢
    rw [hv, ih]
    cases (read' v).toOption <;> cases (List.mapM read' vs).toOption <;> simp

end Sifts

theorem toOption_both (x : Located α) (y : Located β) :
    (x.both y).toOption = x.toOption.bind fun a => y.toOption.map (a, ·) := by
  cases x <;> cases y <;> rfl

/-- A field has one member, or none if it has a default. -/
theorem toOption_pick {τ : Type} (read : τ → Except DecodeError α) (default : Option α)
    (name : String) (members : Members τ) (size : Nat) :
    (pick read default name members size).toOption =
      match members.filter fun m => m.2.1 = name with
      | [] => default
      | [m] => (read m.2.2).toOption
      | _ :: _ :: _ => none := by
  unfold pick
  generalize List.filter _ members = found
  rcases found with _ | ⟨⟨i, n, v⟩, _ | ⟨m, more⟩⟩
  · cases default <;> rfl
  · cases hread : read v <;> simp only [Located.placed, hread] <;> rfl
  · cases hread : read v <;> simp only [Located.placed, hread] <;> rfl

theorem toOption_value (x : Located α) : x.value.toOption = x.toOption := by
  cases x <;> rfl

namespace Sifts

variable {check : β → Option α} {check' : β' → Option α'}

theorem located {x : Located α} {y : Located β} {x' : Located α'} {y' : Located β'}
    (h : Sifts check x y) (h' : Sifts check' x' y') :
    Sifts (checkBoth check check') (x.both x') (y.both y') := by
  rw [Sifts, toOption_both, toOption_both, h, h']
  cases y.toOption <;> cases y'.toOption <;> simp [checkBoth]

theorem pick {τ : Type} {read : τ → Except DecodeError α} {read' : τ → Except DecodeError β}
    (h : ∀ v, Sifts check (read v) (read' v)) {default : Option α} {default' : Option β}
    (hdefault : default = default'.bind check) (name : String) (members : Members τ)
    (size : Nat) : Sifts check (pick read default name members size)
      (FlowRules.pick read' default' name members size) := by
  rw [Sifts, toOption_pick, toOption_pick]
  split
  · exact hdefault
  · exact h _
  · rfl

end Sifts

end

/-! ## Reading documents -/

namespace Sifts

variable {α β γ τ : Type} {check : β → Option α}

theorem readOptional {read : τ → Except DecodeError α} {read' : τ → Except DecodeError β}
    (h : ∀ v, Sifts check (read v) (read' v)) (f : DataReader τ) (v : τ) :
    Sifts (Option.mapM check) (f.readOptional read v) (f.readOptional read' v) := by
  refine .after _ fun o => ?_
  cases o with
  | none => rfl
  | some p =>
    have hp := h p.1
    simp only [Sifts, toOption_bind, toOption_pure] at hp ⊢
    rw [hp]
    cases (read' p.1).toOption <;> cases (ensure p.2).toOption <;>
      simp [Option.map_eq_bind]

theorem readValues {read : τ → Except DecodeError α} {read' : τ → Except DecodeError β}
    (h : ∀ v, Sifts check (read v) (read' v)) (es : List (Option String × τ)) :
    Sifts (List.mapM (checkBoth some check)) (Entries.readValues read es)
      (Entries.readValues read' es) := by
  induction es with
  | nil => rfl
  | cons e es ih =>
    have he := h e.2
    simp only [Sifts, Entries.readValues, toOption_bind, toOption_pure] at ih he ⊢
    rw [he, ih]
    cases (recognised e.1).toOption <;> cases (read' e.2).toOption <;>
      cases (Entries.readValues read' es).toOption <;>
        simp [checkBoth, Option.map_eq_bind, Option.bind_assoc]

/-- What else stands in a record is not tested. -/
theorem fst {x : Located α} {y : Located β} (h : Sifts check x y) (o : Located Unit) :
    Sifts check (do let (a, _) ← (x.both o).value; return a)
      (do let (b, _) ← (y.both o).value; return b) := by
  simp only [Sifts, toOption_bind, toOption_value, toOption_both, toOption_pure] at h ⊢
  rw [h]
  cases y.toOption <;> cases o.toOption <;> simp [Option.map_eq_bind, Option.bind_assoc]

end Sifts

/-! ## Reading bytes -/

open Postcard (Get getBoth getMany getMap getOption)

/-- Do the values that are read first come of others by a test? -/
def SiftsGet {α β : Type} (check : β → Option α) (g : Get α) (k : Get β) : Prop :=
  ∀ bytes, Sifts (fun p => (check p.1).map (·, p.2)) (g bytes) (k bytes)

namespace SiftsGet

variable {α β γ α' β' : Type} {check : β → Option α} {check' : β' → Option α'} {g : Get α}
  {k : Get β} {g' : Get α'} {k' : Get β'}

theorem same (g : Get α) : SiftsGet some g g := fun bytes => Sifts.same (g bytes)

/-- What does not depend on the test may come first. -/
theorem after (o : Get γ) {g : γ → Get α} {k : γ → Get β}
    (h : ∀ c, SiftsGet check (g c) (k c)) :
    SiftsGet check (fun bytes => do let (c, bytes) ← o bytes; g c bytes)
      (fun bytes => do let (c, bytes) ← o bytes; k c bytes) :=
  fun bytes => .after (o bytes) fun p => h p.1 p.2

theorem toOption_getMap (f : α → γ) (g : Get α) (bytes : List UInt8) :
    (getMap f g bytes).toOption = (g bytes).toOption.map fun p => (f p.1, p.2) := by
  simp only [getMap]
  cases g bytes <;> rfl

theorem via (h : SiftsGet check g k) (f : α → γ) :
    SiftsGet (fun b => (check b).map f) (getMap f g) k := by
  intro bytes
  rw [Sifts, toOption_getMap, h bytes, Option.map_bind]
  simp only [Function.comp_def, Option.map_map]

theorem map {f : α → α'} {f' : β → β'} (h : SiftsGet check g k)
    (hcheck : ∀ b, check' (f' b) = (check b).map f) :
    SiftsGet check' (getMap f g) (getMap f' k) := by
  intro bytes
  rw [Sifts, toOption_getMap, toOption_getMap, h bytes, Option.map_bind, Option.bind_map]
  simp only [Function.comp_def, Option.map_map, hcheck]

theorem both (h : SiftsGet check g k) (h' : SiftsGet check' g' k') :
    SiftsGet (checkBoth check check') (getBoth g g') (getBoth k k') := by
  intro bytes
  have hfirst := h bytes
  simp only [Sifts, getBoth, toOption_bind, toOption_pure] at hfirst ⊢
  rw [hfirst]
  cases (k bytes).toOption with
  | none => rfl
  | some p =>
    have hsecond := h' p.2
    rw [Sifts] at hsecond
    simp only [Option.bind_some]
    cases hcheck : check p.1 with
    | none => cases (k' p.2).toOption <;> simp [checkBoth, hcheck]
    | some a =>
      simp only [Option.bind_some, Option.map_some, hsecond]
      cases (k' p.2).toOption <;> simp [checkBoth, hcheck, Option.map_eq_bind, Option.bind_assoc]

theorem getMany_succ (g : Get α) (n : Nat) :
    getMany g (n + 1) = getMap (fun p => p.1 :: p.2) (getBoth g (getMany g n)) := by
  funext bytes
  simp only [getMany, getMap, getBoth, bind, Except.bind]
  cases g bytes with
  | error e => rfl
  | ok p =>
    dsimp only
    cases getMany g n p.2 <;> rfl

theorem many (h : SiftsGet check g k) (n : Nat) :
    SiftsGet (List.mapM check) (getMany g n) (getMany k n) := by
  induction n with
  | zero => exact fun _ => rfl
  | succ n ih =>
    rw [getMany_succ, getMany_succ]
    refine (h.both ih).map fun p => ?_
    simp [checkBoth, Option.map_eq_bind, Option.bind_assoc]

theorem option (h : SiftsGet check g k) :
    SiftsGet (Option.mapM check) (getOption g) (getOption k) := by
  intro bytes
  refine .after _ fun p => ?_
  dsimp only
  split
  · rfl
  · split
    · have hp := h p.2
      simp only [Sifts, toOption_bind, toOption_pure] at hp ⊢
      rw [hp]
      cases (k p.2).toOption <;> simp [Option.map_eq_bind, Option.bind_assoc]
    · rfl

end SiftsGet

end FlowRules
