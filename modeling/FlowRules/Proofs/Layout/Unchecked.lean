import FlowRules.Proofs.Layout.Encodings
import FlowRules.Proofs.Layout.Sifting
import FlowRules.Toml.Stored

/-!
# Layouts without the test of prefix lengths

The only part of a layout that refuses a value for what it is, and not for how it is written,
is a prefix length. To every layout there is one that has any octet in such a place, with the
test that comes after it (`Layout.unchecked`). The layout itself reads a document as the other
one does, if the test is made of what was read, and both write a value in the same way
(`Layout.Relaxes`). This is shown once for each kind of part, and goes for any notation of
documents and for bytes (`Layout.relaxes_unchecked`).

So a document that is written without the test is read with it as what the test leaves
(`Layout.Relaxes.toOption_decode_encode`), and it leaves nothing if a single field is refused
(`Layout.Replaces.check_eq_none`).
-/

namespace FlowRules

/-! ## Values before they are tested -/

/-- What the values of a type are before their prefix lengths are tested, and a layout, or a
part of one, that reads and writes these. -/
structure Unchecked (F : Type → Type 1) (α : Type) where
  Value : Type
  layout : F Value
  /-- The value as one that is not tested. -/
  of : α → Value
  /-- The value, unless a prefix length in it is refused. -/
  check : Value → Option α

namespace Unchecked

variable {F : Type → Type 1} {α β : Type}

/-- Nothing is tested. -/
def same (l : F α) : Unchecked F α := ⟨α, l, id, some⟩

/-- Any octet in the place of a prefix length. -/
def prefixLen : Unchecked Layout PrefixLen :=
  ⟨Octet, .word 8, PrefixLen.toOctet, fun n => (PrefixLen.ofOctet n).toOption⟩

/-- Values that are made from tested ones. -/
def via (make : α → β) (parts : β → α) (u : Unchecked F α) : Unchecked F β :=
  ⟨u.Value, u.layout, fun b => u.of (parts b), fun x => (u.check x).map make⟩

def list (u : Unchecked Layout α) : Unchecked Layout (List α) where
  Value := List u.Value
  layout := .list u.layout
  of := List.map u.of
  check xs := xs.mapM u.check

def dict (u : Unchecked Layout α) : Unchecked Layout (List (String × α)) where
  Value := List (String × u.Value)
  layout := .dict u.layout
  of := List.map fun e => (e.1, u.of e.2)
  check es := es.mapM (checkBoth some u.check)

/-- The same tests by another kind of layout. -/
def into {G : Type → Type 1} (f : {γ : Type} → F γ → G γ) (u : Unchecked F α) : Unchecked G α :=
  ⟨u.Value, f u.layout, u.of, u.check⟩

def needed (name : String) (default : Option α) (u : Unchecked Layout α)
    (rest : Unchecked Fields β) : Unchecked Fields (α × β) where
  Value := u.Value × rest.Value
  layout := .needed name (default.map u.of) u.layout rest.layout
  of := Prod.map u.of rest.of
  check := checkBoth u.check rest.check

def optional (name : String) (omissible : Bool) (u : Unchecked Layout α)
    (rest : Unchecked Fields β) : Unchecked Fields (Option α × β) where
  Value := Option u.Value × rest.Value
  layout := .optional name omissible u.layout rest.layout
  of := Prod.map (Option.map u.of) rest.of
  check := checkBoth (Option.mapM u.check) rest.check

def cons (name : String) (payload : Unchecked Payload α) (rest : Unchecked Variants β) :
    Unchecked Variants (α ⊕ β) where
  Value := payload.Value ⊕ rest.Value
  layout := .cons name payload.layout rest.layout
  of := Sum.map payload.of rest.of
  check := Sum.elim (fun x => (payload.check x).map .inl) fun y => (rest.check y).map .inr

end Unchecked

mutual

/-- The layout without the test of prefix lengths. -/
def Layout.unchecked : {α : Type} → Layout α → Unchecked Layout α
  | _, .bool => .same .bool
  | _, .word w => .same (.word w)
  | _, .prefixLen => .prefixLen
  | _, .text => .same .text
  | _, .uuid => .same .uuid
  | _, .octets n => .same (.octets n)
  | _, .list l => l.unchecked.list
  | _, .dict l => l.unchecked.dict
  | _, .record name fields => fields.unchecked.into (.record name)
  | _, .choice variants => variants.unchecked.into .choice
  | _, .via make parts _ l => l.unchecked.via make parts

/-- The fields without the test of prefix lengths. -/
def Fields.unchecked : {α : Type} → Fields α → Unchecked Fields α
  | _, .nil => .same .nil
  | _, .needed name default l rest => .needed name default l.unchecked rest.unchecked
  | _, .optional name omissible l rest => .optional name omissible l.unchecked rest.unchecked

/-- What a variant carries without the test of prefix lengths. -/
def Payload.unchecked : {α : Type} → Payload α → Unchecked Payload α
  | _, .nothing => .same .nothing
  | _, .value l => l.unchecked.into .value
  | _, .fields fields => fields.unchecked.into .fields

/-- The variants without the test of prefix lengths. -/
def Variants.unchecked : {α : Type} → Variants α → Unchecked Variants α
  | _, .nil => .same .nil
  | _, .cons name payload rest => .cons name payload.unchecked rest.unchecked

end

/-! ## What is kept -/

/-- The other layout reads whatever this one reads, before it is tested, and writes values in
the same way. -/
structure Layout.Relaxes {α : Type} (l : Layout α) (u : Unchecked Layout α) : Prop where
  check_of : ∀ a, u.check (u.of a) = some a
  write_of : ∀ {τ : Type} (w : DataWriter τ) (a : α), u.layout.write w (u.of a) = l.write w a
  put_of : ∀ a, u.layout.put (u.of a) = l.put a
  fits_of : ∀ a, u.layout.fits (u.of a) = l.fits a
  read : ∀ {τ : Type} (f : DataReader τ) (v : τ),
    Sifts u.check (l.read f v) (u.layout.read f v)
  get : SiftsGet u.check l.get u.layout.get

/-- The other fields read whatever these read, before it is tested, and write values in the
same way. -/
structure Fields.Relaxes {α : Type} (fields : Fields α) (u : Unchecked Fields α) : Prop where
  check_of : ∀ a, u.check (u.of a) = some a
  names : u.layout.names = fields.names
  write_of : ∀ {τ : Type} (w : DataWriter τ) (a : α),
    u.layout.write w (u.of a) = fields.write w a
  put_of : ∀ a, u.layout.put (u.of a) = fields.put a
  fits_of : ∀ a, u.layout.fits (u.of a) = fields.fits a
  readNamed : ∀ {τ : Type} (f : DataReader τ) (members : Members τ) (size : Nat),
    Sifts u.check (fields.readNamed f members size) (u.layout.readNamed f members size)
  readOrdered : ∀ {τ : Type} (f : DataReader τ) (items : Items τ) (vs : List τ),
    Sifts u.check (fields.readOrdered f items vs) (u.layout.readOrdered f items vs)
  get : SiftsGet u.check fields.get u.layout.get

/-- The other payload reads whatever this one reads, before it is tested, and writes values in
the same way. -/
structure Payload.Relaxes {α : Type} (payload : Payload α) (u : Unchecked Payload α) : Prop where
  check_of : ∀ a, u.check (u.of a) = some a
  write_of : ∀ {τ : Type} (w : DataWriter τ) (a : α),
    u.layout.write w (u.of a) = payload.write w a
  put_of : ∀ a, u.layout.put (u.of a) = payload.put a
  fits_of : ∀ a, u.layout.fits (u.of a) = payload.fits a
  read : ∀ {τ : Type} (f : DataReader τ) (choice : Choice τ),
    Sifts u.check (payload.read f choice) (u.layout.read f choice)
  get : SiftsGet u.check payload.get u.layout.get

/-- The other variants read whatever these read, before it is tested, and write values in the
same way. -/
structure Variants.Relaxes {α : Type} (variants : Variants α) (u : Unchecked Variants α) :
    Prop where
  check_of : ∀ a, u.check (u.of a) = some a
  write_of : ∀ {τ : Type} (w : DataWriter τ) (a : α),
    u.layout.write w (u.of a) = variants.write w a
  put_of : ∀ i a, u.layout.put i (u.of a) = variants.put i a
  fits_of : ∀ a, u.layout.fits (u.of a) = variants.fits a
  read : ∀ {τ : Type} (f : DataReader τ) (choice : Choice τ),
    Sifts u.check (variants.read f choice) (u.layout.read f choice)
  get : ∀ i, SiftsGet u.check (variants.get i) (u.layout.get i)

section

variable {α β : Type}

namespace Layout.Relaxes

/-- Where nothing is tested nothing changes. -/
theorem same (l : Layout α) : l.Relaxes (.same l) where
  check_of _ := rfl
  write_of _ _ := rfl
  put_of _ := rfl
  fits_of _ := rfl
  read f v := .same (l.read f v)
  get := .same l.get

/-- A number that is a prefix length is an octet in any case. -/
theorem sifts_readPrefixLen (n : Nat) :
    Sifts (fun o => (PrefixLen.ofOctet o).toOption) (readPrefixLen n) (FlowRules.readWord 8 n) := by
  have hoctet : (BitVec.ofNat 8 n).toNat = n ↔ n < 256 := by
    rw [BitVec.toNat_ofNat]
    omega
  simp only [Sifts, readPrefixLen, FlowRules.readWord, hoctet]
  split
  · refine Eq.trans ?_ (Option.bind_some ..).symm
    cases PrefixLen.ofOctet (BitVec.ofNat 8 n) <;> rfl
  · rfl

theorem prefixLen : Layout.prefixLen.Relaxes .prefixLen where
  check_of len := congrArg Except.toOption len.ofOctet_toOctet
  write_of w len := congrArg w.nat len.toNat_toOctet
  put_of _ := rfl
  fits_of _ := rfl
  read f v := by
    simp only [Unchecked.prefixLen, Layout.read, DataReader.readWord, DataReader.readNat]
    exact .after _ fun p => (sifts_readPrefixLen p.1).before (ensure p.2)
  get bytes := by
    have hword : Unchecked.prefixLen.layout.get bytes = (do
        let p ← Postcard.getByte bytes
        return (p.1.toBitVec, p.2)) := by
      simp [Unchecked.prefixLen, Layout.get, Postcard.getWord]
    rw [hword]
    refine .after (Postcard.getByte bytes) fun p => ?_
    refine Eq.trans ?_ (Option.bind_some ..).symm
    simp only [Unchecked.prefixLen]
    cases PrefixLen.ofOctet p.1.toBitVec <;> rfl

variable {l : Layout α} {u : Unchecked Layout α}

theorem list (h : l.Relaxes u) : l.list.Relaxes u.list where
  check_of := mapM_map_eq_some h.check_of
  write_of w as := congrArg w.list (by
    refine List.map_map.trans ?_
    exact List.map_congr_left fun a _ => h.write_of w a)
  put_of as := by
    simp only [Unchecked.list, Layout.put, List.length_map, List.flatMap_map, h.put_of]
  fits_of as := by
    simp only [Unchecked.list, Layout.fits, List.length_map, List.all_map, Function.comp_def,
      h.fits_of]
  read f v := by
    simp only [Unchecked.list, Layout.read]
    exact .after _ fun items => (Sifts.mapM (h.read f) items.values).before (ensure items.closed)
  get := .after Postcard.getLength fun n => h.get.many n

theorem dict (h : l.Relaxes u) : l.dict.Relaxes u.dict where
  check_of := mapM_map_eq_some fun e => by simp [checkBoth, h.check_of]
  write_of w es := congrArg w.dict (by
    refine List.map_map.trans ?_
    exact List.map_congr_left fun e _ => congrArg (e.1, ·) (h.write_of w e.2))
  put_of es := by
    simp only [Unchecked.dict, Layout.put, List.length_map, List.flatMap_map, h.put_of]
  fits_of as := by
    simp only [Unchecked.dict, Layout.fits, List.length_map, List.all_map, Function.comp_def,
      h.fits_of]
  read f v := by
    simp only [Unchecked.dict, Layout.read]
    exact .after _ fun entries =>
      (Sifts.readValues (h.read f) entries.values).before (ensure entries.closed)
  get := .after Postcard.getLength fun n => ((SiftsGet.same Postcard.getText).both h.get).many n

theorem via {make : α → β} {parts : β → α} {make_parts : ∀ b, make (parts b) = b}
    (h : l.Relaxes u) : (Layout.via make parts make_parts l).Relaxes (u.via make parts) where
  check_of b := by
    simp only [Unchecked.via, h.check_of, Option.map_some, make_parts]
  write_of w b := h.write_of w (parts b)
  put_of b := h.put_of (parts b)
  fits_of b := h.fits_of (parts b)
  read f v := by
    simp only [Unchecked.via, Layout.read]
    exact (h.read f v).map make
  get := h.get.via make

end Layout.Relaxes

/-! ## Fields -/

namespace Fields.Relaxes

theorem nil : Fields.nil.Relaxes (.same .nil) where
  check_of _ := rfl
  names := rfl
  write_of _ _ := rfl
  put_of _ := rfl
  fits_of _ := rfl
  readNamed f members size := .same (Fields.nil.readNamed f members size)
  readOrdered f items vs := .same (Fields.nil.readOrdered f items vs)
  get := .same Fields.nil.get

variable {l : Layout α} {u : Unchecked Layout α} {rest : Fields β} {rest' : Unchecked Fields β}

theorem needed (name : String) (default : Option α) (h : l.Relaxes u)
    (hrest : rest.Relaxes rest') :
    (Fields.needed name default l rest).Relaxes (.needed name default u rest') where
  check_of := checkBoth_map_eq_some h.check_of hrest.check_of
  names := congrArg (name :: ·) hrest.names
  write_of w p := congrArg₂ (fun v ms => (name, v) :: ms) (h.write_of w p.1) (hrest.write_of w p.2)
  put_of p := congrArg₂ (· ++ ·) (h.put_of p.1) (hrest.put_of p.2)
  fits_of p := congrArg₂ (· && ·) (h.fits_of p.1) (hrest.fits_of p.2)
  readNamed f members size := by
    simp only [Unchecked.needed, Fields.readNamed]
    refine (Sifts.pick (h.read f) ?_ name members size).located (hrest.readNamed f members size)
    cases default <;> simp [h.check_of]
  readOrdered f items vs := by
    cases vs with
    | nil =>
      simp only [Unchecked.needed, Fields.readOrdered]
      refine .both ?_ (hrest.readOrdered f items _)
      cases default with
      | none => rfl
      | some a => exact (h.check_of a).symm
    | cons v vs =>
      simp only [Unchecked.needed, Fields.readOrdered]
      exact (h.read f v).both (hrest.readOrdered f items _)
  get := h.get.both hrest.get

theorem optional (name : String) (omissible : Bool) (h : l.Relaxes u)
    (hrest : rest.Relaxes rest') :
    (Fields.optional name omissible l rest).Relaxes (.optional name omissible u rest') where
  check_of := by
    refine checkBoth_map_eq_some (fun o => ?_) hrest.check_of
    cases o <;> simp [h.check_of]
  names := congrArg (name :: ·) hrest.names
  write_of w p := by
    have hmember : (p.1.map u.of).map (u.layout.write w) = p.1.map (l.write w) := by
      rw [Option.map_map]
      exact Option.map_congr fun a _ => h.write_of w a
    exact congrArg₂ (fun v ms => ((w.optional v).map fun v => (name, v)).toList ++ ms) hmember
      (hrest.write_of w p.2)
  put_of p := by
    have hmember : (p.1.map u.of).map u.layout.put = p.1.map l.put := by
      rw [Option.map_map]
      exact Option.map_congr fun a _ => h.put_of a
    exact congrArg₂ (fun bytes more => Postcard.putOption bytes ++ more) hmember
      (hrest.put_of p.2)
  fits_of p := by
    have hmember : (p.1.map u.of).all u.layout.fits = p.1.all l.fits := by
      cases p.1 with
      | none => rfl
      | some a => exact h.fits_of a
    exact congrArg₂ (· && ·) hmember (hrest.fits_of p.2)
  readNamed f members size := by
    simp only [Unchecked.optional, Fields.readNamed]
    refine (Sifts.pick (Sifts.readOptional (h.read f) f) ?_ name members size).located
      (hrest.readNamed f members size)
    rfl
  readOrdered f items vs := by
    cases vs with
    | nil =>
      simp only [Unchecked.optional, Fields.readOrdered]
      refine .both ?_ (hrest.readOrdered f items _)
      cases omissible <;> rfl
    | cons v vs =>
      simp only [Unchecked.optional, Fields.readOrdered]
      exact (Sifts.readOptional (h.read f) f v).both (hrest.readOrdered f items _)
  get := h.get.option.both hrest.get

variable {fields : Fields α} {u : Unchecked Fields α}

/-- The fields of a record are read in either form. -/
theorem read (h : fields.Relaxes u) {τ : Type} (f : DataReader τ) (parts : Parts τ) :
    Sifts u.check (fields.read f parts) (u.layout.read f parts) := by
  cases parts with
  | named entries =>
    simp only [Fields.read, h.names]
    exact (h.readNamed f entries.placed entries.values.length).fst _
  | ordered items =>
    simp only [Fields.read]
    exact h.readOrdered f items items.values

end Fields.Relaxes

/-! ## Variants -/

namespace Payload.Relaxes

theorem nothing : Payload.nothing.Relaxes (.same .nothing) where
  check_of _ := rfl
  write_of _ _ := rfl
  put_of _ := rfl
  fits_of _ := rfl
  read f choice := .same (Payload.nothing.read f choice)
  get := .same Payload.nothing.get

theorem value {l : Layout α} {u : Unchecked Layout α} (h : l.Relaxes u) :
    (Payload.value l).Relaxes (u.into .value) where
  check_of := h.check_of
  write_of w a := congrArg Carried.value (h.write_of w a)
  put_of := h.put_of
  fits_of := h.fits_of
  read f choice := by
    simp only [Unchecked.into, Payload.read]
    exact .after _ (h.read f)
  get := h.get

theorem fields {fields : Fields α} {u : Unchecked Fields α} (h : fields.Relaxes u) :
    (Payload.fields fields).Relaxes (u.into .fields) where
  check_of := h.check_of
  write_of w a := congrArg Carried.fields (h.write_of w a)
  put_of := h.put_of
  fits_of := h.fits_of
  read f choice := by
    simp only [Unchecked.into, Payload.read]
    exact .after _ (h.read f)
  get := h.get

end Payload.Relaxes

namespace Variants.Relaxes

theorem nil : Variants.nil.Relaxes (.same .nil) where
  check_of _ := rfl
  write_of _ _ := rfl
  put_of _ _ := rfl
  fits_of _ := rfl
  read f choice := .same (Variants.nil.read f choice)
  get i := .same (Variants.nil.get i)

theorem cons {payload : Payload α} {u : Unchecked Payload α} {rest : Variants β}
    {rest' : Unchecked Variants β} (name : String) (h : payload.Relaxes u)
    (hrest : rest.Relaxes rest') :
    (Variants.cons name payload rest).Relaxes (.cons name u rest') where
  check_of
    | .inl a => congrArg (Option.map Sum.inl) (h.check_of a)
    | .inr b => congrArg (Option.map Sum.inr) (hrest.check_of b)
  write_of w
    | .inl a => congrArg (w.variant name) (h.write_of w a)
    | .inr b => hrest.write_of w b
  put_of i
    | .inl a => congrArg (Postcard.putVarint 32 i ++ ·) (h.put_of a)
    | .inr b => hrest.put_of (i + 1) b
  fits_of
    | .inl a => h.fits_of a
    | .inr b => hrest.fits_of b
  read f choice := by
    simp only [Unchecked.cons, Variants.read]
    split
    · exact (h.read f choice).mapBoth fun _ => rfl
    · exact (hrest.read f choice).mapBoth fun _ => rfl
  get
    | 0 => h.get.map fun _ => rfl
    | i + 1 => (hrest.get i).map fun _ => rfl

end Variants.Relaxes

namespace Layout.Relaxes

theorem record {fields : Fields α} {u : Unchecked Fields α} (name : String)
    (h : fields.Relaxes u) : (Layout.record name fields).Relaxes (u.into (.record name)) where
  check_of := h.check_of
  write_of w a := congrArg w.record (h.write_of w a)
  put_of := h.put_of
  fits_of := h.fits_of
  read f v := by
    simp only [Unchecked.into, Layout.read]
    exact .after _ (h.read f)
  get := h.get

theorem choice {variants : Variants α} {u : Unchecked Variants α} (h : variants.Relaxes u) :
    (Layout.choice variants).Relaxes (u.into .choice) where
  check_of := h.check_of
  write_of w a := h.write_of w a
  put_of := h.put_of 0
  fits_of := h.fits_of
  read f v := by
    simp only [Unchecked.into, Layout.read]
    exact .after _ fun choice => (h.read f choice).before (ensure choice.ends)
  get := .after (Postcard.getVarint 32) h.get

end Layout.Relaxes

end

/-! ## Every layout -/

mutual

/-- Without the test, a layout reads whatever it reads with it, and writes the same. -/
theorem Layout.relaxes_unchecked : {α : Type} → (l : Layout α) → l.Relaxes l.unchecked
  | _, .bool => .same _
  | _, .word _ => .same _
  | _, .prefixLen => .prefixLen
  | _, .text => .same _
  | _, .uuid => .same _
  | _, .octets _ => .same _
  | _, .list l => .list l.relaxes_unchecked
  | _, .dict l => .dict l.relaxes_unchecked
  | _, .record name fields => .record name fields.relaxes_unchecked
  | _, .choice variants => .choice variants.relaxes_unchecked
  | _, .via _ _ _ l => .via l.relaxes_unchecked

theorem Fields.relaxes_unchecked : {α : Type} → (fields : Fields α) →
    fields.Relaxes fields.unchecked
  | _, .nil => .nil
  | _, .needed name default l rest =>
    .needed name default l.relaxes_unchecked rest.relaxes_unchecked
  | _, .optional name omissible l rest =>
    .optional name omissible l.relaxes_unchecked rest.relaxes_unchecked

theorem Payload.relaxes_unchecked : {α : Type} → (payload : Payload α) →
    payload.Relaxes payload.unchecked
  | _, .nothing => .nothing
  | _, .value l => .value l.relaxes_unchecked
  | _, .fields fields => .fields fields.relaxes_unchecked

theorem Variants.relaxes_unchecked : {α : Type} → (variants : Variants α) →
    variants.Relaxes variants.unchecked
  | _, .nil => .nil
  | _, .cons name payload rest => .cons name payload.relaxes_unchecked rest.relaxes_unchecked

end

/-! ## A field with another value -/

section

variable {α β : Type} {name : String} {default : Option α} {l : Layout α} {rest : Fields β}
  {x : l.unchecked.Value} {y : rest.unchecked.Value}

theorem Fields.check_needed_of_first (h : l.unchecked.check x = none) :
    (needed name default l rest).unchecked.check (x, y) = none :=
  checkBoth_left h

theorem Fields.check_needed_of_rest (h : rest.unchecked.check y = none) :
    (needed name default l rest).unchecked.check (x, y) = none :=
  checkBoth_right h

end

/-- Do the values of some fields differ only in an optional field of the layout, where the
second has the value? -/
inductive Fields.Replaces {γ : Type} (l : Layout γ) (v : l.unchecked.Value) :
    {α : Type} → (fields : Fields α) → fields.unchecked.Value → fields.unchecked.Value → Prop
  | here {β : Type} {name : String} {omissible : Bool} {rest : Fields β}
      {o : Option l.unchecked.Value} {y : rest.unchecked.Value} :
      Replaces l v (.optional name omissible l rest) (o, y) (some v, y)
  | needed {α β : Type} {name : String} {default : Option α} {l' : Layout α} {rest : Fields β}
      {x : l'.unchecked.Value} {y y' : rest.unchecked.Value} (h : Replaces l v rest y y') :
      Replaces l v (.needed name default l' rest) (x, y) (x, y')
  | optional {α β : Type} {name : String} {omissible : Bool} {l' : Layout α} {rest : Fields β}
      {o : Option l'.unchecked.Value} {y y' : rest.unchecked.Value} (h : Replaces l v rest y y') :
      Replaces l v (.optional name omissible l' rest) (o, y) (o, y')

/-- Do the values of a record differ only in an optional field of the layout, where the second
has the value? -/
inductive Layout.Replaces {γ : Type} (l : Layout γ) (v : l.unchecked.Value) :
    {α : Type} → (l' : Layout α) → l'.unchecked.Value → l'.unchecked.Value → Prop
  | record {α : Type} {name : String} {fields : Fields α} {x x' : fields.unchecked.Value}
      (h : Fields.Replaces l v fields x x') : Replaces l v (.record name fields) x x'
  | via {α β : Type} {make : α → β} {parts : β → α} {make_parts : ∀ b, make (parts b) = b}
      {l' : Layout α} {x x' : l'.unchecked.Value} (h : Replaces l v l' x x') :
      Replaces l v (.via make parts make_parts l') x x'

section

variable {α γ : Type} {l : Layout γ} {v : l.unchecked.Value}

/-- What is refused in a field is refused in the whole. -/
theorem Fields.Replaces.check_eq_none {fields : Fields α} {x x' : fields.unchecked.Value}
    (h : Fields.Replaces l v fields x x') (hv : l.unchecked.check v = none) :
    fields.unchecked.check x' = none := by
  induction h with
  | here => exact checkBoth_left (congrArg (Option.map some) hv)
  | needed _ ih => exact checkBoth_right ih
  | optional _ ih => exact checkBoth_right ih

theorem Layout.Replaces.check_eq_none {l' : Layout α} {x x' : l'.unchecked.Value}
    (h : Layout.Replaces l v l' x x') (hv : l.unchecked.check v = none) :
    l'.unchecked.check x' = none := by
  induction h with
  | record h => exact h.check_eq_none hv
  | via _ ih => exact congrArg (Option.map _) ih

theorem Fields.Replaces.fits {fields : Fields α} {x x' : fields.unchecked.Value}
    (h : Fields.Replaces l v fields x x') (hv : l.unchecked.layout.fits v = true)
    (hx : fields.unchecked.layout.fits x = true) : fields.unchecked.layout.fits x' = true := by
  induction h with
  | @here _ _ _ rest o y =>
    have hx : (o.all l.unchecked.layout.fits && rest.unchecked.layout.fits y) = true := hx
    exact (Bool.and_eq_true ..).mpr ⟨hv, ((Bool.and_eq_true ..).mp hx).2⟩
  | @needed _ _ _ _ l' rest x y _ _ ih =>
    have hx : (l'.unchecked.layout.fits x && rest.unchecked.layout.fits y) = true := hx
    obtain ⟨hfirst, hrest⟩ := (Bool.and_eq_true ..).mp hx
    exact (Bool.and_eq_true ..).mpr ⟨hfirst, ih hrest⟩
  | @optional _ _ _ _ l' rest o y _ _ ih =>
    have hx : (o.all l'.unchecked.layout.fits && rest.unchecked.layout.fits y) = true := hx
    obtain ⟨hfirst, hrest⟩ := (Bool.and_eq_true ..).mp hx
    exact (Bool.and_eq_true ..).mpr ⟨hfirst, ih hrest⟩

theorem Layout.Replaces.fits {l' : Layout α} {x x' : l'.unchecked.Value}
    (h : Layout.Replaces l v l' x x') (hv : l.unchecked.layout.fits v = true)
    (hx : l'.unchecked.layout.fits x = true) : l'.unchecked.layout.fits x' = true := by
  induction h with
  | record h => exact h.fits hv hx
  | via _ ih => exact ih hx

end

/-! ## Documents -/

section

variable {α : Type} {l : Layout α} {u : Unchecked Layout α}

namespace Layout.Relaxes

theorem sifts_parseRon (h : l.Relaxes u) (cs : List Char) :
    Sifts u.check (l.parseRon cs) (u.layout.parseRon cs) :=
  .after (recognised (Ron.parse cs)) fun p =>
    (h.read (Ron.reader p.1) { value := p.2.1 }).before (ensure p.2.2)

/-- Bytes are read with the test as they are without it, if the test is made afterwards. -/
theorem sifts_decode (h : l.Relaxes u) (enc : Encoding) (bytes : List UInt8) :
    Sifts u.check (enc.decode l bytes) (enc.decode u.layout bytes) := by
  cases enc with
  | json => exact (h.read Json.reader (Json.parse bytes).1).before (ensure (Json.parse bytes).2)
  | postcard =>
    refine (h.get bytes).mapBoth fun p => ?_
    rw [Option.map_map]
    exact Option.map_id'.symm
  | ron => exact .after (recognised (Utf8.decode? bytes)) h.sifts_parseRon

theorem sifts_parseToml (h : l.Relaxes u) (cs : List Char) :
    Sifts u.check (l.parseToml cs) (u.layout.parseToml cs) :=
  .after (recognised (Toml.parse cs)) fun members => h.read Toml.reader (.table members)

/-- What is written without the test is read with it as what the test leaves. -/
theorem toOption_decode_encode (h : l.Relaxes u) {x : u.Value} {enc : Encoding}
    (hu : u.layout.wellFormed Ron.isName = true)
    (hfits : enc = .postcard → u.layout.fits x = true) :
    (enc.decode l (enc.encode u.layout x)).toOption = u.check x := by
  rw [h.sifts_decode, Layout.decode_encode hu hfits]
  rfl

/-- Values are written in the same way. -/
theorem encode_of (h : l.Relaxes u) (enc : Encoding) (a : α) :
    enc.encode u.layout (u.of a) = enc.encode l a := by
  cases enc with
  | json => exact congrArg Json.bytes (h.write_of Json.writer a)
  | postcard => exact h.put_of a
  | ron => exact congrArg (fun v => Utf8.encode v.print) (h.write_of Ron.writer a)

end Layout.Relaxes

end

end FlowRules
