import Mathlib.Data.List.Nodup
import Spiderfire.Basic

namespace Spiderfire.Trace

/-- An identifier of the Rust source, by its text. -/
abbrev Ident := String

/-- A `syn::Error`, by its message; the span it points at is not kept. -/
abbrev Error := String

/-- A field as `Fields::iter` gives it: its identifier, none in a tuple struct or variant, and its
attributes. -/
structure Field (Attr : Type) where
  ident : Option Ident
  attrs : List Attr

/-- `syn::Fields`: named fields, each with its identifier, unnamed fields, or none. -/
inductive Fields (Attr : Type) where
  | named (fields : List (Ident × List Attr))
  | unnamed (fields : List (List Attr))
  | unit

/-- A variant of an enum: its identifier and fields. -/
structure Variant (Attr : Type) where
  ident : Ident
  fields : Fields Attr

/-- `syn::Data`: the body of the type the derive is put on. -/
inductive Data (Attr : Type) where
  | struct (fields : Fields Attr)
  | enum (variants : List (Variant Attr))
  | union

/-- `TraceAttribute`, as `field_idents` reads it: whether the field says `#[trace(no_trace)]`. -/
structure TraceAttribute where
  noTrace : Bool

/-- The pattern `impl_body` binds `self` with: `wrap_in_fields_group` makes `{a, b}` of named
fields and `(a, b)` of unnamed ones; a unit struct or variant gets none. -/
inductive Pattern where
  | named (idents : List Ident)
  | unnamed (idents : List Ident)
  | unit
  deriving DecidableEq, Repr

/-- A match arm `Self::Variant #wrapped => { .. }`: the variant, the pattern, and the identifiers
the arm passes to `Traceable::trace`, in order. -/
structure Arm where
  variant : Ident
  pattern : Pattern
  traced : List Ident
  deriving DecidableEq, Repr

/-- The block `impl_body` generates: `{ let Self #wrapped = self; trace(..); .. }` for a struct,
`{ match self { #arms } }` for an enum. Each statement is
`::mozjs::gc::Traceable::trace(#ident, __ion_tracer)`, kept as its first argument. -/
inductive Block where
  | letSelf (pattern : Pattern) (traced : List Ident)
  | matchSelf (arms : List Arm)
  deriving DecidableEq, Repr

/-- The `unsafe impl Traceable for #name` that `impl_trace` generates, by the type it is for and
the body of its `trace`; the trait bounds it adds to the generics are not kept. -/
structure ItemImpl where
  name : Ident
  body : Block
  deriving DecidableEq, Repr

/-- `DeriveInput`, without its generics. -/
structure DeriveInput (Attr : Type) where
  ident : Ident
  data : Data Attr

namespace Fields

variable {Attr : Type}

/-- `Fields::iter`. -/
def iter : Fields Attr → List (Field Attr)
  | .named fields => fields.map fun field => ⟨some field.1, field.2⟩
  | .unnamed fields => fields.map fun attrs => ⟨none, attrs⟩
  | .unit => []

def names : Fields Attr → List Ident
  | .named fields => fields.map Prod.fst
  | _ => []

end Fields

/-- `format_ident!("_self_{}", index)`, the identifier `field_idents` gives an unnamed field. -/
def selfIdent (index : Nat) : Ident := "_self_" ++ toString index

def tracerIdent : Ident := "__ion_tracer"

/-- The message of the error `impl_body` returns for a union. -/
def unionError : Error := "#[derive(Traceable)] is not implemented for union types."

section Derive

variable {Attr : Type} (fromAttributes : List Attr → Except Error TraceAttribute)

/-- `field_idents`: the loop over the fields with their index, pushing each field's identifier
(or `_self_{index}`) onto `idents`, and onto `traced` unless its `trace` attribute says
`no_trace`; `TraceAttribute::from_attributes("trace", &field.attrs)?` is `fromAttributes`. -/
def fieldIdents (fields : Fields Attr) : Except Error (List Ident × List Ident) :=
  go 0 fields.iter [] []
where
  go (index : Nat) : List (Field Attr) → List Ident → List Ident →
      Except Error (List Ident × List Ident)
    | [], idents, traced => .ok (idents, traced)
    | field :: rest, idents, traced => do
      let traceAttr ← fromAttributes field.attrs
      let ident := field.ident.getD (selfIdent index)
      go (index + 1) rest (idents ++ [ident])
        (if traceAttr.noTrace then traced else traced ++ [ident])

/-- What `impl_body` binds `self` with: `wrap_in_fields_group(idents, fields)` for named or
unnamed fields, `quote!()` otherwise. -/
def wrapped : Fields Attr → List Ident → Pattern
  | .named _, idents => .named idents
  | .unnamed _, idents => .unnamed idents
  | .unit, _ => .unit

/-- The arm `impl_body` generates for one variant. -/
def variantArm (variant : Variant Attr) : Except Error Arm := do
  let (idents, traced) ← fieldIdents fromAttributes variant.fields
  pure ⟨variant.ident, wrapped variant.fields idents, traced⟩

/-- `impl_body`: for a struct the `let Self #wrapped = self;` block, for an enum one arm a
variant in order (`collect::<Result<_>>()?` stops at the first error), for a union an error. -/
def implBody : Data Attr → Except Error Block
  | .struct fields => do
    let (idents, traced) ← fieldIdents fromAttributes fields
    pure (.letSelf (wrapped fields idents) traced)
  | .enum variants => do
    let arms ← variants.mapM (variantArm fromAttributes)
    pure (.matchSelf arms)
  | .union => .error unionError

/-- `impl_trace`: the impl for the input's type, around the body `impl_body` makes. -/
def implTrace (input : DeriveInput Attr) : Except Error ItemImpl := do
  let body ← implBody fromAttributes input.data
  pure ⟨input.ident, body⟩

end Derive

/-- What an identifier stands for while the generated `trace` runs: its parameter
`__ion_tracer`, or a reference to a field of `self`. -/
inductive Binding (V : Type) where
  | tracer
  | field (value : V)
  deriving DecidableEq, Repr

/-- A value of the type: its variant (none for a struct) and the values of its fields in
declaration order. -/
structure Value (V : Type) where
  variant : Option Ident
  fields : List V

section Semantics

variable {Attr V : Type}

/-- What an identifier resolves to: the innermost binding, so that a pattern's bindings shadow
the parameter. -/
def resolve (env : List (Ident × Binding V)) (ident : Ident) : Option (Binding V) :=
  (env.find? (·.1 = ident)).map Prod.snd

/-- A pattern bound to the fields of a value whose fields are `declared`: `{..}` names each field
once and binds each name to the field of that name, `(..)` binds by position, a unit pattern
binds nothing. None where the pattern does not fit the type: the code would not compile. -/
def bind (declared : Fields Attr) (pattern : Pattern) (values : List V) :
    Option (List (Ident × Binding V)) :=
  match declared, pattern with
  | .named fields, .named idents =>
    if idents.Perm (fields.map Prod.fst) ∧ values.length = fields.length then
      idents.mapM fun ident =>
        (resolve ((fields.map Prod.fst).zip (values.map .field)) ident).map (ident, ·)
    else none
  | .unnamed fields, .unnamed idents =>
    if idents.length = fields.length ∧ values.length = fields.length then
      some (idents.zip (values.map .field))
    else none
  | .unit, .unit => if values.isEmpty then some [] else none
  | _, _ => none

/-- A statement `::mozjs::gc::Traceable::trace(#ident, __ion_tracer)`: the field `ident` refers
to, where it refers to a field and `__ion_tracer` to the tracer; otherwise the call does not
type-check. -/
def call (env : List (Ident × Binding V)) (ident : Ident) : Option V :=
  match resolve env ident, resolve env tracerIdent with
  | some (.field value), some .tracer => some value
  | _, _ => none

/-- The struct's block, or an arm, run on the field values: the pattern binds inside the body of
`trace(&self, __ion_tracer)`, then the calls run in order. -/
def runArm (declared : Fields Attr) (pattern : Pattern) (traced : List Ident) (values : List V) :
    Option (List V) := do
  let bound ← bind declared pattern values
  traced.mapM (call (bound ++ [(tracerIdent, .tracer)]))

/-- The generated `trace` run on a value: the values it passes to `Traceable::trace`, in order.
A `match` takes the arm of the value's variant. -/
def exec : Data Attr → Block → Value V → Option (List V)
  | .struct fields, .letSelf pattern traced, ⟨none, values⟩ => runArm fields pattern traced values
  | .enum variants, .matchSelf arms, ⟨some name, values⟩ => do
    let variant ← variants.find? (·.ident = name)
    let arm ← arms.find? (·.variant = name)
    runArm variant.fields arm.pattern arm.traced values
  | _, _, _ => none

/-- The fields of a value of the type: those of the struct, or of the value's variant. -/
def Data.fieldsOf : Data Attr → Option Ident → Option (Fields Attr)
  | .struct fields, none => some fields
  | .enum variants, some name => (variants.find? (·.ident = name)).map (·.fields)
  | _, _ => none

/-- The identifiers a declaration gives its fields are distinct from each other and from the
tracer parameter. Rust rejects a type with two fields of one name; a field called
`__ion_tracer` would shadow the parameter. -/
structure Fields.Hygienic (fields : Fields Attr) : Prop where
  nodup : fields.names.Nodup
  tracer_fresh : tracerIdent ∉ fields.names

/-- Every field list of the declaration is hygienic. -/
def Data.Hygienic : Data Attr → Prop
  | .struct fields => fields.Hygienic
  | .enum variants => ∀ variant ∈ variants, variant.fields.Hygienic
  | .union => True

def Data.allFields : Data Attr → List (Field Attr)
  | .struct fields => fields.iter
  | .enum variants => variants.flatMap (·.fields.iter)
  | .union => []

end Semantics

section Spec

variable {Attr V : Type} (fromAttributes : List Attr → Except Error TraceAttribute)

/-- Whether a field's attributes parse and leave it traced. -/
def isTraced (attrs : List Attr) : Bool :=
  match fromAttributes attrs with
  | .ok traceAttr => !traceAttr.noTrace
  | .error _ => false

/-- What deriving `Traceable` is for: each field of the value is traced once, in declaration
order, except those marked `#[trace(no_trace)]`. -/
def tracedValues (fields : Fields Attr) (values : List V) : List V :=
  (fields.iter.zip values).filterMap fun entry =>
    if isTraced fromAttributes entry.1.attrs then some entry.2 else none

/-- The identifiers `field_idents` gives the fields from `index` on. -/
def identsFrom (index : Nat) : List (Field Attr) → List Ident
  | [] => []
  | field :: rest => field.ident.getD (selfIdent index) :: identsFrom (index + 1) rest

def tracedFrom (index : Nat) : List (Field Attr) → List Ident
  | [] => []
  | field :: rest =>
    if isTraced fromAttributes field.attrs then
      field.ident.getD (selfIdent index) :: tracedFrom (index + 1) rest
    else tracedFrom (index + 1) rest

end Spec

def digitsValue (ds : List Char) : Nat := ds.foldl (fun n c => 10 * n + (c.toNat - 48)) 0

theorem foldl_toDigitsCore : ∀ {fuel n : Nat} (ds : List Char), n < fuel →
    (Nat.toDigitsCore 10 fuel n ds).foldl (fun n c => 10 * n + (c.toNat - 48)) 0 =
      ds.foldl (fun n c => 10 * n + (c.toNat - 48)) n
  | 0, _, _, bound => absurd bound (Nat.not_lt_zero _)
  | fuel + 1, n, ds, bound => by
    have unfolded : Nat.toDigitsCore 10 (fuel + 1) n ds =
        if n / 10 = 0 then Nat.digitChar (n % 10) :: ds
        else Nat.toDigitsCore 10 fuel (n / 10) (Nat.digitChar (n % 10) :: ds) := rfl
    have digit : (Nat.digitChar (n % 10)).toNat - 48 = n % 10 :=
      (by decide : ∀ d < 10, (Nat.digitChar d).toNat - 48 = d) _ (Nat.mod_lt n (by decide))
    rw [unfolded]
    split
    · simp only [List.foldl_cons, digit]
      congr 1
      omega
    · rw [foldl_toDigitsCore _ (by omega), List.foldl_cons, digit, Nat.div_add_mod]

theorem digitsValue_toString (n : Nat) : digitsValue (toString n).data = n :=
  foldl_toDigitsCore [] (Nat.lt_succ_self n)

theorem selfIdent_injective {i j : Nat} (same : selfIdent i = selfIdent j) : i = j := by
  have digits := congrArg String.mk (List.append_cancel_left (congrArg String.data same))
  rw [← digitsValue_toString i, ← digitsValue_toString j]
  exact congrArg (digitsValue ·.data) digits

theorem selfIdent_ne_tracer (index : Nat) : selfIdent index ≠ tracerIdent := fun same => by
  have second := congrArg (·.data.get? 1) same
  simp [selfIdent, tracerIdent] at second

section FieldIdents

variable {Attr : Type} (fromAttributes : List Attr → Except Error TraceAttribute)

/-- The loop of `field_idents` stops at the first attribute that does not parse; otherwise it
collects every field's identifier and those of the traced fields. -/
theorem fieldIdents_go (index : Nat) (fields : List (Field Attr)) (idents traced : List Ident) :
    fieldIdents.go fromAttributes index fields idents traced =
      (fields.mapM (fromAttributes ·.attrs)).map fun _ =>
        (idents ++ identsFrom index fields, traced ++ tracedFrom fromAttributes index fields) := by
  have okBind : ∀ {β : Type} (a : TraceAttribute) (f : TraceAttribute → Except Error β),
      (Except.ok a >>= f) = f a := fun _ _ => rfl
  induction fields generalizing index idents traced with
  | nil => simp only [fieldIdents.go, List.mapM_nil, identsFrom, tracedFrom, List.append_nil]; rfl
  | cons field rest ih =>
    obtain ⟨parsed, atField⟩ : ∃ parsed, fromAttributes field.attrs = parsed := ⟨_, rfl⟩
    obtain ⟨tail, atRest⟩ : ∃ tail, rest.mapM (fromAttributes ·.attrs) = tail := ⟨_, rfl⟩
    simp only [fieldIdents.go, List.mapM_cons, identsFrom, tracedFrom, isTraced, atField, ih, atRest]
    cases parsed with
    | error e => rfl
    | ok traceAttr =>
      obtain ⟨_ | _⟩ := traceAttr <;> cases tail <;>
        simp only [okBind, List.append_assoc, List.singleton_append, Bool.not_false, Bool.not_true,
          if_true, if_false, Bool.false_eq_true] <;> rfl

theorem fieldIdents_eq (fields : Fields Attr) :
    fieldIdents fromAttributes fields =
      (fields.iter.mapM (fromAttributes ·.attrs)).map fun _ =>
        (identsFrom 0 fields.iter, tracedFrom fromAttributes 0 fields.iter) := by
  rw [fieldIdents, fieldIdents_go]
  simp only [List.nil_append]

theorem fieldIdents_ok {fields : Fields Attr} {idents traced : List Ident}
    (built : fieldIdents fromAttributes fields = .ok (idents, traced)) :
    idents = identsFrom 0 fields.iter ∧ traced = tracedFrom fromAttributes 0 fields.iter := by
  rw [fieldIdents_eq] at built
  cases parsed : fields.iter.mapM (fromAttributes ·.attrs) <;>
    simp only [parsed, Except.map, reduceCtorEq, Except.ok.injEq, Prod.mk.injEq] at built
  exact ⟨built.1.symm, built.2.symm⟩

end FieldIdents

section Idents

variable {Attr : Type}

theorem identsFrom_named (index : Nat) (fields : List (Ident × List Attr)) :
    identsFrom index (Fields.named fields).iter = fields.map Prod.fst := by
  induction fields generalizing index with
  | nil => rfl
  | cons field rest ih => exact congrArg _ (ih (index + 1))

theorem identsFrom_unnamed (index : Nat) (fields : List (List Attr)) :
    identsFrom index (Fields.unnamed fields).iter =
      (List.range' index fields.length).map selfIdent := by
  induction fields generalizing index with
  | nil => rfl
  | cons field rest ih => exact congrArg _ (ih (index + 1))

/-- The identifiers `field_idents` gives a hygienic declaration's fields are distinct and none is
the tracer parameter. -/
theorem Fields.Hygienic.idents {fields : Fields Attr} (hygienic : fields.Hygienic) :
    (identsFrom 0 fields.iter).Nodup ∧ tracerIdent ∉ identsFrom 0 fields.iter := by
  cases fields with
  | named fields => rw [identsFrom_named]; exact ⟨hygienic.nodup, hygienic.tracer_fresh⟩
  | unnamed fields =>
    rw [identsFrom_unnamed]
    refine ⟨(List.nodup_range' 0 fields.length).map fun _ _ => selfIdent_injective, ?_⟩
    simp only [List.mem_map, not_exists, not_and]
    exact fun index _ => selfIdent_ne_tracer index
  | unit => exact ⟨List.nodup_nil, List.not_mem_nil _⟩

end Idents

section Run

variable {Attr V : Type}

theorem resolve_zip {idents : List Ident} {bindings : List (Binding V)} {ident : Ident}
    {binding : Binding V} (nodup : idents.Nodup) (member : (ident, binding) ∈ idents.zip bindings)
    (rest : List (Ident × Binding V)) :
    resolve (idents.zip bindings ++ rest) ident = some binding := by
  induction idents generalizing bindings with
  | nil => simp at member
  | cons first others ih =>
    cases bindings with
    | nil => simp at member
    | cons head tail =>
      obtain ⟨fresh, nodupOthers⟩ := List.nodup_cons.mp nodup
      rw [List.zip_cons_cons, List.mem_cons] at member
      rcases member with same | later
      · obtain ⟨rfl, rfl⟩ := Prod.mk.inj same
        simp [resolve]
      · have other : first ≠ ident := fun same => fresh (same ▸ (List.of_mem_zip later).1)
        simpa [resolve, other] using ih nodupOthers later

theorem resolve_tracer {idents : List Ident} {bindings : List (Binding V)}
    (fresh : tracerIdent ∉ idents) :
    resolve (idents.zip bindings ++ [(tracerIdent, .tracer)]) tracerIdent = some .tracer := by
  have skipped : (idents.zip bindings).find? (·.1 = tracerIdent) = none :=
    List.find?_eq_none.mpr fun entry member same =>
      fresh (of_decide_eq_true same ▸ (List.of_mem_zip member).1)
  simp [resolve, skipped]

theorem zip_zip_self {α β : Type} : ∀ (l : List α) (bs : List β),
    l.zip (l.zip bs) = (l.zip bs).map fun entry => (entry.1, entry)
  | [], _ => rfl
  | _ :: _, [] => rfl
  | _ :: rest, _ :: bs => congrArg _ (zip_zip_self rest bs)

theorem mapM_eq_some {α β : Type} {f : α → Option β} :
    ∀ {l : List α} {out : List β}, l.length = out.length → (∀ p ∈ l.zip out, f p.1 = some p.2) →
      l.mapM f = some out
  | [], [], _, _ => rfl
  | a :: l, b :: out, sized, each => by
    have head : f a = some b := each (a, b) (List.mem_cons_self _ _)
    have tail := mapM_eq_some (Nat.succ.inj sized) fun p member =>
      each p (List.mem_cons_of_mem _ member)
    rw [List.mapM_cons, head, tail]
    rfl

theorem bind_named {fields : List (Ident × List Attr)} {values : List V}
    (nodup : (fields.map Prod.fst).Nodup) (sized : values.length = fields.length) :
    bind (.named fields) (.named (fields.map Prod.fst)) values =
      some ((fields.map Prod.fst).zip (values.map .field)) := by
  have resolved : (fields.map Prod.fst).mapM (fun ident =>
      (resolve ((fields.map Prod.fst).zip (values.map .field)) ident).map (ident, ·)) =
      some ((fields.map Prod.fst).zip (values.map .field)) := by
    refine mapM_eq_some (by simp [sized]) fun p member => ?_
    rw [zip_zip_self, List.mem_map] at member
    obtain ⟨entry, inZip, rfl⟩ := member
    have := resolve_zip nodup inZip []
    rw [List.append_nil] at this
    simp [this]
  simp only [bind, List.Perm.refl, sized, and_self, if_true, resolved]

/-- The pattern `impl_body` makes of a hygienic declaration's fields binds each identifier
`field_idents` gave to its field. -/
theorem bind_wrapped {fields : Fields Attr} {values : List V} (hygienic : fields.Hygienic)
    (sized : values.length = fields.iter.length) :
    bind fields (wrapped fields (identsFrom 0 fields.iter)) values =
      some ((identsFrom 0 fields.iter).zip (values.map .field)) := by
  cases fields with
  | named fields =>
    rw [identsFrom_named]
    exact bind_named hygienic.nodup (by simpa [Fields.iter] using sized)
  | unnamed fields =>
    simp only [Fields.iter, List.length_map] at sized
    simp [bind, wrapped, identsFrom_unnamed, sized]
  | unit =>
    simp only [Fields.iter, List.length_nil, List.length_eq_zero] at sized
    simp [bind, wrapped, sized, Fields.iter, identsFrom]

end Run

section Correct

variable {Attr V : Type} (fromAttributes : List Attr → Except Error TraceAttribute)

/-- The calls of the traced identifiers, where each identifier calls with its own field's value,
trace the traced fields' values in order. -/
theorem mapM_call_tracedFrom {env : List (Ident × Binding V)} (index : Nat)
    (fields : List (Field Attr)) (values : List V) (sized : values.length = fields.length)
    (resolved : ∀ p ∈ (identsFrom index fields).zip values, call env p.1 = some p.2) :
    (tracedFrom fromAttributes index fields).mapM (call env) =
      some ((fields.zip values).filterMap fun entry =>
        if isTraced fromAttributes entry.1.attrs then some entry.2 else none) := by
  induction fields generalizing index values with
  | nil => rfl
  | cons field rest ih =>
    cases values with
    | nil => cases sized
    | cons value others =>
      have head : call env (field.ident.getD (selfIdent index)) = some value :=
        resolved _ (List.mem_cons_self _ _)
      have tail := ih (index + 1) others (Nat.succ.inj sized) fun p member =>
        resolved p (List.mem_cons_of_mem _ member)
      by_cases traced : isTraced fromAttributes field.attrs
      · rw [tracedFrom, if_pos traced, List.mapM_cons, head, tail, List.zip_cons_cons,
          List.filterMap_cons, if_pos traced]
        rfl
      · rw [tracedFrom, if_neg traced, tail, List.zip_cons_cons, List.filterMap_cons, if_neg traced]

/-- The struct's block, or a variant's arm, traces what the derive is for, on a hygienic
declaration whose attributes all parse. -/
theorem runArm_of_fieldIdents {fields : Fields Attr} {idents traced : List Ident}
    {values : List V} (hygienic : fields.Hygienic)
    (built : fieldIdents fromAttributes fields = .ok (idents, traced))
    (sized : values.length = fields.iter.length) :
    runArm fields (wrapped fields idents) traced values =
      some (tracedValues fromAttributes fields values) := by
  obtain ⟨rfl, rfl⟩ := fieldIdents_ok fromAttributes built
  obtain ⟨nodup, fresh⟩ := hygienic.idents
  have resolved : ∀ p ∈ (identsFrom 0 fields.iter).zip values,
      call ((identsFrom 0 fields.iter).zip (values.map .field) ++ [(tracerIdent, .tracer)]) p.1 =
        some p.2 := fun p member => by
    have bound : (p.1, Binding.field p.2) ∈ (identsFrom 0 fields.iter).zip (values.map .field) := by
      rw [List.zip_map_right, List.mem_map]
      exact ⟨p, member, rfl⟩
    simp only [call, resolve_zip nodup bound, resolve_tracer fresh]
  simp only [runArm, bind_wrapped hygienic sized, Option.bind_eq_bind, Option.some_bind]
  exact mapM_call_tracedFrom fromAttributes 0 fields.iter values sized resolved

theorem variantArm_ok {variant : Variant Attr} {arm : Arm}
    (built : variantArm fromAttributes variant = .ok arm) :
    ∃ idents traced, fieldIdents fromAttributes variant.fields = .ok (idents, traced) ∧
      arm = ⟨variant.ident, wrapped variant.fields idents, traced⟩ := by
  obtain ⟨⟨idents, traced⟩, atFields, built⟩ := Except.bind_eq_ok built
  exact ⟨idents, traced, atFields, (Except.ok.inj built).symm⟩

/-- The arm `impl_body` generates for the first variant of a name is the first arm of that
name. -/
theorem find?_variantArm {name : Ident} {variant : Variant Attr} :
    ∀ {variants : List (Variant Attr)} {arms : List Arm},
      variants.mapM (variantArm fromAttributes) = .ok arms →
      variants.find? (·.ident = name) = some variant →
      ∃ arm, arms.find? (·.variant = name) = some arm ∧ variantArm fromAttributes variant = .ok arm
  | [], _, _, found => by cases found
  | first :: others, arms, built, found => by
    rw [List.mapM_cons] at built
    obtain ⟨arm, atFirst, built⟩ := Except.bind_eq_ok built
    obtain ⟨rest, atOthers, built⟩ := Except.bind_eq_ok built
    cases built
    obtain ⟨_, _, _, rfl⟩ := variantArm_ok fromAttributes atFirst
    by_cases named : first.ident = name
    · have first_found : first = variant := by simpa [List.find?_cons, named] using found
      subst first_found
      exact ⟨_, by simp [List.find?_cons, named], atFirst⟩
    · simp only [List.find?_cons, named, decide_False] at found ⊢
      exact find?_variantArm atOthers found

/-- What `#[derive(Traceable)]` generates is correct: on a hygienic declaration, wherever
`impl_body` succeeds, the generated `trace` passes every field of every value to
`Traceable::trace` once, in declaration order, except the fields marked `no_trace`, each time
with the tracer it was given. -/
theorem exec_implBody {d : Data Attr} {block : Block} {value : Value V} {fields : Fields Attr}
    (hygienic : d.Hygienic) (built : implBody fromAttributes d = .ok block)
    (layout : d.fieldsOf value.variant = some fields)
    (sized : value.fields.length = fields.iter.length) :
    exec d block value = some (tracedValues fromAttributes fields value.fields) := by
  obtain ⟨variant, values⟩ := value
  cases d with
  | struct declared =>
    cases variant with
    | some _ => cases layout
    | none =>
      cases layout
      obtain ⟨_, atFields, built⟩ := Except.bind_eq_ok built
      cases built
      exact runArm_of_fieldIdents fromAttributes hygienic atFields sized
  | enum variants =>
    cases variant with
    | none => cases layout
    | some name =>
      obtain ⟨found, atName, rfl⟩ := Option.map_eq_some'.mp layout
      obtain ⟨arms, atArms, built⟩ := Except.bind_eq_ok built
      cases built
      obtain ⟨arm, atArm, armBuilt⟩ := find?_variantArm fromAttributes atArms atName
      obtain ⟨idents, traced, atFields, rfl⟩ := variantArm_ok fromAttributes armBuilt
      simp only [exec, atName, atArm, Option.bind_eq_bind, Option.some_bind]
      exact runArm_of_fieldIdents fromAttributes (hygienic found (List.mem_of_find?_eq_some atName))
        atFields sized
  | union => cases built

end Correct

section Errors

variable {Attr V : Type} (fromAttributes : List Attr → Except Error TraceAttribute)

theorem mapM_ok_iff {α β : Type} {f : α → Except Error β} :
    ∀ {l : List α}, (∃ out, l.mapM f = .ok out) ↔ ∀ a ∈ l, ∃ b, f a = .ok b
  | [] => by simp only [List.mapM_nil, List.not_mem_nil, false_implies, implies_true, iff_true]; exact ⟨[], rfl⟩
  | a :: l => by
    rw [List.mapM_cons, List.forall_mem_cons, ← mapM_ok_iff]
    cases f a with
    | error e => simp only [reduceCtorEq, exists_false, false_and, iff_false]; exact fun ⟨_, h⟩ => nomatch h
    | ok b =>
      cases l.mapM f with
      | error e => simp only [reduceCtorEq, exists_false, and_false, iff_false]; exact fun ⟨_, h⟩ => nomatch h
      | ok out => exact iff_of_true ⟨b :: out, rfl⟩ ⟨⟨b, rfl⟩, ⟨out, rfl⟩⟩

theorem fieldIdents_ok_iff {fields : Fields Attr} :
    (∃ result, fieldIdents fromAttributes fields = .ok result) ↔
      ∀ field ∈ fields.iter, ∃ traceAttr, fromAttributes field.attrs = .ok traceAttr := by
  rw [fieldIdents_eq, ← mapM_ok_iff]
  cases fields.iter.mapM (fromAttributes ·.attrs) with
  | error e => exact iff_of_false (fun ⟨_, h⟩ => nomatch h) (fun ⟨_, h⟩ => nomatch h)
  | ok out => exact iff_of_true ⟨_, rfl⟩ ⟨out, rfl⟩

/-- `impl_body` succeeds exactly on a struct or an enum whose fields' `trace` attributes all
parse; a union is refused. -/
theorem implBody_ok_iff {d : Data Attr} :
    (∃ block, implBody fromAttributes d = .ok block) ↔
      d ≠ .union ∧ ∀ field ∈ d.allFields, ∃ traceAttr, fromAttributes field.attrs = .ok traceAttr := by
  have armOk (variant : Variant Attr) : (∃ arm, variantArm fromAttributes variant = .ok arm) ↔
      ∀ field ∈ variant.fields.iter, ∃ traceAttr, fromAttributes field.attrs = .ok traceAttr :=
    (Except.exists_bind_ok_iff fun _ => ⟨_, rfl⟩).trans (fieldIdents_ok_iff fromAttributes)
  cases d with
  | struct fields =>
    exact (Except.exists_bind_ok_iff fun _ => ⟨_, rfl⟩).trans
      ((fieldIdents_ok_iff fromAttributes).trans (and_iff_right nofun).symm)
  | enum variants =>
    refine (Except.exists_bind_ok_iff fun _ => ⟨_, rfl⟩).trans (mapM_ok_iff.trans ?_)
    simp only [armOk, Data.allFields, List.mem_flatMap, ne_eq, reduceCtorEq, not_false_eq_true,
      true_and]
    exact ⟨fun each field ⟨variant, inVariants, inFields⟩ => each variant inVariants field inFields,
      fun each variant inVariants field inFields => each field ⟨variant, inVariants, inFields⟩⟩
  | union => exact iff_of_false (fun ⟨_, h⟩ => nomatch h) (fun ⟨absurd, _⟩ => absurd rfl)

theorem exists_mem_zip {α β : Type} {x : α} :
    ∀ {l : List α} {bs : List β}, x ∈ l → l.length = bs.length → ∃ b, (x, b) ∈ l.zip bs
  | _ :: _, b :: _, .head _, _ => ⟨b, List.mem_cons_self _ _⟩
  | _ :: _, _ :: _, .tail _ member, sized =>
    let ⟨b, inZip⟩ := exists_mem_zip member (Nat.succ.inj sized)
    ⟨b, List.mem_cons_of_mem _ inZip⟩

theorem tracedFrom_eq_nil_iff (index : Nat) (fields : List (Field Attr)) (values : List V)
    (sized : values.length = fields.length) :
    tracedFrom fromAttributes index fields = [] ↔
      (fields.zip values).filterMap (fun entry =>
        if isTraced fromAttributes entry.1.attrs then some entry.2 else none) = [] := by
  induction fields generalizing index values with
  | nil => simp [tracedFrom]
  | cons field rest ih =>
    cases values with
    | nil => cases sized
    | cons value others =>
      rw [tracedFrom, List.zip_cons_cons, List.filterMap_cons]
      by_cases traced : isTraced fromAttributes field.attrs
      · simp only [traced, if_true, reduceCtorEq]
      · simp only [traced, Bool.false_eq_true, if_false]
        exact ih (index + 1) others (Nat.succ.inj sized)

/-- `impl_body` is not hygienic: a named field called `__ion_tracer` shadows the tracer parameter
of the generated `trace`, whose body then does not type-check as soon as one field is traced. -/
theorem exec_implBody_shadowed {fields : List (Ident × List Attr)} {block : Block}
    {values : List V} (nodup : (fields.map Prod.fst).Nodup)
    (shadowing : tracerIdent ∈ fields.map Prod.fst)
    (built : implBody fromAttributes (.struct (.named fields)) = .ok block)
    (sized : values.length = fields.length) :
    exec (.struct (.named fields)) block ⟨none, values⟩ = none ↔
      tracedValues fromAttributes (.named fields) values ≠ [] := by
  obtain ⟨⟨idents, traced⟩, atFields, built⟩ := Except.bind_eq_ok built
  cases built
  obtain ⟨rfl, rfl⟩ := fieldIdents_ok fromAttributes atFields
  have fieldCount : values.length = (Fields.named fields).iter.length := by
    simpa [Fields.iter] using sized
  obtain ⟨binding, bound⟩ := @exists_mem_zip Ident (Binding V) tracerIdent (fields.map Prod.fst)
    (values.map Binding.field) shadowing (by simp [sized])
  obtain ⟨_, _, shadow⟩ : ∃ value, value ∈ values ∧ Binding.field value = binding := by
    obtain ⟨_, inValues⟩ := List.of_mem_zip bound
    simpa using inValues
  subst shadow
  have rejected : ∀ ident, call ((fields.map Prod.fst).zip (values.map .field) ++
      [(tracerIdent, .tracer)]) ident = none := fun ident => by
    simp only [call, resolve_zip nodup bound]
    split <;> simp_all
  rw [identsFrom_named]
  simp only [exec, runArm, wrapped, bind_named nodup sized, Option.bind_eq_bind, Option.some_bind,
    tracedValues]
  rw [ne_eq, ← tracedFrom_eq_nil_iff fromAttributes 0 _ values fieldCount]
  cases tracedFrom fromAttributes 0 (Fields.named fields).iter with
  | nil => exact iff_of_false (by rw [List.mapM_nil]; exact Option.some_ne_none _) (· rfl)
  | cons first _ =>
    exact iff_of_true (by rw [List.mapM_cons, rejected first]; rfl) (List.cons_ne_nil _ _)

end Errors

/-- A parser of the `trace` attribute that reads `no_trace` off the attribute's text. -/
def noTraceAttr (attrs : List String) : Except Error TraceAttribute :=
  .ok ⟨attrs.contains "trace(no_trace)"⟩

/-- body.rs's `FetchBodyInner`: `None`, and `Bytes(#[trace(no_trace)] Bytes)`. -/
def fetchBodyInner : Data String :=
  .enum [⟨"None", .unit⟩, ⟨"Bytes", .unnamed [["trace(no_trace)"]]⟩]

theorem fetchBodyInner_traces_nothing :
    implBody noTraceAttr fetchBodyInner =
        .ok (.matchSelf [⟨"None", .unit, []⟩, ⟨"Bytes", .unnamed ["_self_0"], []⟩]) ∧
      exec fetchBodyInner (.matchSelf [⟨"None", .unit, []⟩, ⟨"Bytes", .unnamed ["_self_0"], []⟩])
        ⟨some "Bytes", [7]⟩ = some ([] : List Nat) :=
  ⟨rfl, @exec_implBody String Nat noTraceAttr fetchBodyInner _ ⟨some "Bytes", [7]⟩ _
    (fun _ member => by
      simp only [fetchBodyInner, List.mem_cons, List.mem_singleton, List.not_mem_nil, or_false]
        at member
      rcases member with rfl | rfl <;> exact ⟨List.nodup_nil, List.not_mem_nil _⟩)
    rfl rfl rfl⟩

/-- A struct with a field called `__ion_tracer`. -/
def shadowingFields : List (Ident × List String) := [("__ion_tracer", []), ("cx", [])]

theorem tracer_field_rejected :
    implBody noTraceAttr (.struct (.named shadowingFields)) =
        .ok (.letSelf (.named ["__ion_tracer", "cx"]) ["__ion_tracer", "cx"]) ∧
      exec (.struct (.named shadowingFields))
        (.letSelf (.named ["__ion_tracer", "cx"]) ["__ion_tracer", "cx"]) ⟨none, [1, 2]⟩ = none :=
  ⟨rfl, (@exec_implBody_shadowed String Nat noTraceAttr shadowingFields _ [1, 2] (by decide)
    (by decide) rfl rfl).mpr (by decide)⟩

end Spiderfire.Trace
