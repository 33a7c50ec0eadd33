import Mathlib.Data.Nat.Defs
import Mathlib.Algebra.Group.Nat.Basic
import Spiderfire.Basic

namespace Spiderfire

/-- Why `ArrayDisplay::fmt` stops before its end: a `fmt::Error`, which the `?` after
`write_prefix` or `get_descriptor` makes of an exception, or a panic, of `unwrap` on a missing
property or of an element's own formatting. -/
inductive Stop where
  | error
  | panic
  deriving DecidableEq, Repr

/-- A piece of text `ArrayDisplay::fmt` writes, whatever its colour. -/
inductive Piece (Descriptor : Type) where
  /-- What `write_prefix` writes: the constructor's name or tag, if any. -/
  | heading (text : String)
  | text (s : String)
  /-- `NEWLINE`. -/
  | newline
  /-- `indent_str(width)`. -/
  | indent (width : Nat)
  /-- `format_descriptor` on an element's property descriptor. -/
  | descriptor (desc : Descriptor)
  /-- `write_remaining(f, count, inner, colour)`: the number of elements left out. -/
  | remaining (count : Nat) (inner : Option Nat)
  deriving DecidableEq, Repr

namespace Piece

variable {D : Type}

/-- The element a piece writes out, if it is one. -/
def element : Piece D → Option D
  | .descriptor desc => some desc
  | _ => none

/-- The count of elements left out that a piece reports, if it is that report. -/
def leftOut : Piece D → Option Nat
  | .remaining count _ => some count
  | _ => none

end Piece

/-- Formatting into a string: the pieces written so far stay written when it stops. -/
abbrev FmtM (Descriptor : Type) := ExceptT Stop (StateM (List (Piece Descriptor)))

/-- Modelled from the spec: the fields of `format::Config` (format/mod.rs, missing) that array
formatting reads: the nesting depth, the indentation and the multiline switch. -/
structure Config where
  depth : Nat
  indentation : Nat
  multiline : Bool
  deriving DecidableEq, Repr

/-- A JavaScript array as `ArrayDisplay::fmt` reads it: what `write_prefix` finds for it (the text it
writes, or the exception `get_tag` meets), its `u32` length, and `get_descriptor` at each index:
an exception, no property (a hole, where no prototype has one either), or a descriptor. -/
structure JsArray (Descriptor : Type) where
  heading : Except Unit String
  length : Nat
  length_lt : length < 2 ^ 32
  getDescriptor : Nat → Except Unit (Option Descriptor)

/-- What `format_descriptor(..).fmt(f)` comes to on an element's descriptor: `Ok`, or the stop its
`?` passes on, a `fmt::Error` or a panic of the nested formatting. -/
abbrev DescriptorFormat (Descriptor : Type) := Descriptor → Except Stop Unit

namespace JsArray

variable {D : Type} (arr : JsArray D) (describe : DescriptorFormat D)

/-- A turn of the loop at `index` up to the element's text: `get_descriptor(..)?.unwrap()` stops
on an exception or a hole, and the element's formatting may stop it too. -/
def slot (index : Nat) : Except Stop D :=
  match arr.getDescriptor index with
  | .error _ => .error .error
  | .ok none => .error .panic
  | .ok (some desc) => (describe desc).map fun _ => desc

variable {arr describe}

theorem slot_eq_ok {index : Nat} {desc : D} :
    arr.slot describe index = .ok desc ↔
      arr.getDescriptor index = .ok (some desc) ∧ describe desc = .ok () := by
  refine ⟨fun sliced => ?_, fun ⟨found, formatted⟩ => by simp only [slot, found, formatted]; rfl⟩
  unfold slot at sliced
  split at sliced
  · cases sliced
  · cases sliced
  · rename_i found
    obtain ⟨⟨⟩, formatted, rfl⟩ := Except.map_eq_ok sliced
    exact ⟨found, formatted⟩

theorem slot_eq_panic {index : Nat} :
    arr.slot describe index = .error .panic ↔ arr.getDescriptor index = .ok none ∨
      ∃ desc, arr.getDescriptor index = .ok (some desc) ∧ describe desc = .error .panic := by
  unfold slot
  rcases arr.getDescriptor index with _ | _ | found <;> simp
  rcases describe found with _ | ⟨⟩ <;> simp [Except.map]

variable (arr describe)

theorem exists_first_stop : ∀ {n : Nat}, (∃ index < n, (arr.slot describe index).isOk = false) →
    ∃ index < n, (arr.slot describe index).isOk = false ∧ ∀ j < index, (arr.slot describe j).isOk = true
  | 0, ⟨_, below, _⟩ => absurd below (Nat.not_lt_zero _)
  | n + 1, ⟨index, below, stopped⟩ => by
    by_cases earlier : ∃ j < n, (arr.slot describe j).isOk = false
    · obtain ⟨first, shown, stops, before⟩ := exists_first_stop earlier
      exact ⟨first, by omega, stops, before⟩
    · have last : ¬ index < n := fun lt => earlier ⟨index, lt, stopped⟩
      refine ⟨index, below, stopped, fun j lt => ?_⟩
      simpa using fun stops => earlier ⟨j, by omega, stops⟩

theorem exists_descriptors {n : Nat} (dense : ∀ index < n, (arr.slot describe index).isOk = true)
    (default : D) : ∃ descs : Nat → D, ∀ index < n, arr.slot describe index = .ok (descs index) := by
  refine ⟨fun index => match arr.slot describe index with
    | .ok desc => desc
    | .error _ => default, fun index lt => ?_⟩
  obtain ⟨desc, found⟩ := Except.exists_of_isOk (dense index lt)
  simp only [found]

end JsArray

namespace ArrayDisplay

variable {D : Type}

def write (piece : Piece D) : FmtM D Unit := modify (· ++ [piece])

/-- `self.array.get_descriptor(self.cx, index)?.unwrap()`. -/
def descriptorAt (arr : JsArray D) (index : Nat) : FmtM D D :=
  match arr.getDescriptor index with
  | .error _ => throw .error
  | .ok none => throw .panic
  | .ok (some desc) => pure desc

/-- `format_descriptor(..).fmt(f)?` on an element's descriptor. What it wrote before it stopped is
not kept. -/
def writeDescriptor (describe : DescriptorFormat D) (desc : D) : FmtM D Unit :=
  match describe desc with
  | .ok () => write (.descriptor desc)
  | .error stop => throw stop

/-- A turn of the multiline loop: the inner indentation, the element, a comma and a newline. -/
def multilineSlot (describe : DescriptorFormat D) (arr : JsArray D) (inner index : Nat) : FmtM D Unit := do
  write (.indent inner)
  writeDescriptor describe (← descriptorAt arr index)
  write (.text ",")
  write .newline

/-- A turn of the single-line loop: the element, then a comma and a space unless it is the last
one shown. -/
def inlineSlot (describe : DescriptorFormat D) (arr : JsArray D) (shown index : Nat) : FmtM D Unit := do
  writeDescriptor describe (← descriptorAt arr index)
  if index != shown - 1 then
    write (.text ",")
    write (.text " ")

/-- `ArrayDisplay::fmt`: the prefix; `[Array]` beyond depth 4; `[]` for an empty array; otherwise
the first 100 elements one per line, or the first 3 on one line, then the count of the others. -/
def fmt (describe : DescriptorFormat D) (cfg : Config) (arr : JsArray D) : FmtM D Unit := do
  match arr.heading with
  | .error _ => throw .error
  | .ok heading => write (.heading heading)
  if cfg.depth > 4 then
    write (.text "[Array]")
  else if arr.length = 0 then
    write (.text "[]")
  else
    write (.text "[")
    let (remaining, inner) ← if cfg.multiline then do
        write .newline
        let shown := min arr.length 100
        let inner := cfg.indentation + cfg.depth + 1
        (List.range shown).forM (multilineSlot describe arr inner)
        pure (arr.length - shown, some inner)
      else do
        write (.text " ")
        let shown := min arr.length 3
        (List.range shown).forM (inlineSlot describe arr shown)
        pure (arr.length - shown, none)
    write (.remaining remaining inner)
    if cfg.multiline then
      write (.indent (cfg.indentation + cfg.depth))
    write (.text "]")

section Run

variable {α β : Type}

@[simp] theorem run_pure (a : α) (written : List (Piece D)) :
    (pure a : FmtM D α).run.run written = (.ok a, written) := rfl

@[simp] theorem run_throw (stop : Stop) (written : List (Piece D)) :
    (throw stop : FmtM D α).run.run written = (.error stop, written) := rfl

@[simp] theorem run_write (piece : Piece D) (written : List (Piece D)) :
    (write piece).run.run written = (.ok (), written ++ [piece]) := rfl

theorem run_bind (x : FmtM D α) (f : α → FmtM D β) (written : List (Piece D)) :
    (x >>= f).run.run written =
      match x.run.run written with
      | (.ok a, after) => (f a).run.run after
      | (.error stop, after) => (.error stop, after) := by
  show (do let (result, after) ← x.run.run written; ExceptT.bindCont f result |>.run after) = _
  rcases x.run.run written with ⟨_ | a, after⟩ <;> rfl

variable {describe : DescriptorFormat D} {arr : JsArray D} {index : Nat}

theorem run_element_ok {desc : D} (found : arr.slot describe index = .ok desc) (k : Unit → FmtM D α)
    (written : List (Piece D)) :
    (descriptorAt arr index >>= fun desc => writeDescriptor describe desc >>= k).run.run written =
      (k ()).run.run (written ++ [.descriptor desc]) := by
  obtain ⟨present, formatted⟩ := JsArray.slot_eq_ok.mp found
  simp [run_bind, descriptorAt, present, writeDescriptor, formatted]

theorem run_element_stop {stop : Stop} (stopped : arr.slot describe index = .error stop)
    (k : Unit → FmtM D α) (written : List (Piece D)) :
    (descriptorAt arr index >>= fun desc => writeDescriptor describe desc >>= k).run.run written =
      (.error stop, written) := by
  unfold JsArray.slot at stopped
  split at stopped
  case h_3 desc found =>
    rcases formatted : describe desc with _ | ⟨⟩ <;> rw [formatted] at stopped <;> cases stopped
    simp [run_bind, descriptorAt, found, writeDescriptor, formatted]
  all_goals
    rename_i found
    cases stopped
    simp [run_bind, descriptorAt, found]

end Run

section Loop

variable {describe : DescriptorFormat D} {arr : JsArray D}

/-- What a turn of a loop over the indices does: where it gets through its element, it writes
the pieces `out` makes of it; elsewhere it stops as `slot` says. -/
structure SlotSpec (describe : DescriptorFormat D) (arr : JsArray D) (body : Nat → FmtM D Unit)
    (out : Nat → D → List (Piece D)) : Prop where
  ok : ∀ index desc written, arr.slot describe index = .ok desc →
    (body index).run.run written = (.ok (), written ++ out index desc)
  stop : ∀ index stop written, arr.slot describe index = .error stop →
    ∃ after, (body index).run.run written = (.error stop, after)

variable {body : Nat → FmtM D Unit} {out : Nat → D → List (Piece D)}

theorem run_forM_ok (spec : SlotSpec describe arr body out) (descs : Nat → D) :
    ∀ (indices : List Nat), (∀ index ∈ indices, arr.slot describe index = .ok (descs index)) →
      ∀ written : List (Piece D), (indices.forM body).run.run written =
        (.ok (), written ++ indices.flatMap fun index => out index (descs index))
  | [], _, written => by simp
  | index :: rest, found, written => by
    rw [List.forM_cons', run_bind, spec.ok index (descs index) written (found index (.head _))]
    dsimp only
    rw [run_forM_ok spec descs rest fun i member => found i (.tail _ member)]
    simp

theorem run_forM_stop (spec : SlotSpec describe arr body out) {index : Nat} {stop : Stop}
    (stopped : arr.slot describe index = .error stop) (post : List Nat) :
    ∀ (pre : List Nat) (written : List (Piece D)), (∀ i ∈ pre, (arr.slot describe i).isOk = true) →
      ∃ after, ((pre ++ index :: post).forM body).run.run written = (.error stop, after)
  | [], written, _ => by
    obtain ⟨after, stops⟩ := spec.stop index stop written stopped
    exact ⟨after, by rw [List.nil_append, List.forM_cons', run_bind, stops]⟩
  | i :: pre, written, before => by
    obtain ⟨desc, found⟩ := Except.exists_of_isOk (before i (.head _))
    rw [List.cons_append, List.forM_cons', run_bind, spec.ok i desc written found]
    exact run_forM_stop spec stopped post pre _ fun j member => before j (.tail _ member)

theorem range_split {index n : Nat} (lt : index < n) :
    ∃ post, List.range n = List.range index ++ index :: post := by
  obtain ⟨k, rfl⟩ : ∃ k, n = index + 1 + k := ⟨n - index - 1, by omega⟩
  exact ⟨_, by rw [List.range_add, List.range_succ, List.append_assoc]; rfl⟩

theorem multilineSlot_spec (describe : DescriptorFormat D) (arr : JsArray D) (inner : Nat) :
    SlotSpec describe arr (multilineSlot describe arr inner)
      fun _ desc => [.indent inner, .descriptor desc, .text ",", .newline] where
  ok index desc written found := by
    rw [multilineSlot, run_bind, run_write]
    dsimp only
    rw [run_element_ok found, run_bind, run_write]
    dsimp only
    rw [run_write]
    simp only [List.append_assoc, List.singleton_append, List.cons_append, List.nil_append]
  stop index stop written stopped := ⟨written ++ [.indent inner], by
    rw [multilineSlot, run_bind, run_write]
    exact run_element_stop stopped _ _⟩

theorem inlineSlot_spec (describe : DescriptorFormat D) (arr : JsArray D) (shown : Nat) :
    SlotSpec describe arr (inlineSlot describe arr shown)
      fun index desc => .descriptor desc :: if index != shown - 1 then [.text ",", .text " "] else [] where
  ok index desc written found := by
    rw [inlineSlot, run_element_ok found]
    split
    · rw [run_bind, run_write]
      dsimp only
      rw [run_write]
      simp only [List.append_assoc, List.singleton_append, List.cons_append, List.nil_append]
    · simp_all
  stop index stop written stopped := ⟨written, run_element_stop stopped _ _⟩

end Loop

section Fmt

variable (describe : DescriptorFormat D) (cfg : Config) (arr : JsArray D)

theorem fmt_of_heading_error (failed : arr.heading = .error ()) :
    (fmt describe cfg arr).run.run [] = (.error .error, []) := by
  simp [fmt, run_bind, failed]

theorem fmt_of_deep {heading : String} (named : arr.heading = .ok heading) (deep : 4 < cfg.depth) :
    (fmt describe cfg arr).run.run [] = (.ok (), [.heading heading, .text "[Array]"]) := by
  simp [fmt, run_bind, named, deep]

theorem fmt_of_empty {heading : String} (named : arr.heading = .ok heading) (shallow : cfg.depth ≤ 4)
    (empty : arr.length = 0) :
    (fmt describe cfg arr).run.run [] = (.ok (), [.heading heading, .text "[]"]) := by
  simp [fmt, run_bind, named, empty, Nat.not_lt.mpr shallow]

/-- Where every turn it makes gets through its element, `fmt` writes the prefix, then each of the
first 100 elements on a line of its own, or the first 3 on one line, then the count of the
others, and returns `Ok`. -/
theorem fmt_of_dense {heading : String} {descs : Nat → D} (named : arr.heading = .ok heading)
    (shallow : cfg.depth ≤ 4) (nonempty : 0 < arr.length)
    (dense : ∀ index < min arr.length (if cfg.multiline then 100 else 3),
      arr.slot describe index = .ok (descs index)) :
    (fmt describe cfg arr).run.run [] = (.ok (),
      if cfg.multiline then
        [.heading heading, .text "[", .newline] ++
          (List.range (min arr.length 100)).flatMap (fun index =>
            [.indent (cfg.indentation + cfg.depth + 1), .descriptor (descs index), .text ",", .newline]) ++
          [.remaining (arr.length - min arr.length 100) (some (cfg.indentation + cfg.depth + 1)),
            .indent (cfg.indentation + cfg.depth), .text "]"]
      else
        [.heading heading, .text "[", .text " "] ++
          (List.range (min arr.length 3)).flatMap (fun index =>
            .descriptor (descs index) :: if index != min arr.length 3 - 1 then [.text ",", .text " "] else []) ++
          [.remaining (arr.length - min arr.length 3) none, .text "]"]) := by
  have checks : ¬ 4 < cfg.depth ∧ arr.length ≠ 0 := ⟨by omega, by omega⟩
  cases multi : cfg.multiline <;> simp only [multi, Bool.false_eq_true, if_true, if_false] at dense ⊢
  · have loop := run_forM_ok (inlineSlot_spec describe arr (min arr.length 3)) descs _
      fun index member => dense index (List.mem_range.mp member)
    simp [fmt, run_bind, named, checks, multi, loop]
  · have loop := run_forM_ok (multilineSlot_spec describe arr (cfg.indentation + cfg.depth + 1)) descs _
      fun index member => dense index (List.mem_range.mp member)
    simp [fmt, run_bind, named, checks, multi, loop]

/-- Where `write_prefix` succeeds and each shown index has a descriptor whose formatting succeeds,
`fmt` returns `Ok` after writing exactly the shown elements, in the order of their indices, and
one report of the `length - shown` left out. -/
theorem fmt_writes_shown {heading : String} {descs : Nat → D} (named : arr.heading = .ok heading)
    (shallow : cfg.depth ≤ 4) (nonempty : 0 < arr.length)
    (dense : ∀ index < min arr.length (if cfg.multiline then 100 else 3),
      arr.getDescriptor index = .ok (some (descs index)) ∧ describe (descs index) = .ok ()) :
    ((fmt describe cfg arr).run.run []).1 = .ok () ∧
      ((fmt describe cfg arr).run.run []).2.filterMap Piece.element =
        (List.range (min arr.length (if cfg.multiline then 100 else 3))).map descs ∧
      ((fmt describe cfg arr).run.run []).2.filterMap Piece.leftOut =
        [arr.length - min arr.length (if cfg.multiline then 100 else 3)] := by
  rw [fmt_of_dense describe cfg arr named shallow nonempty fun index shown =>
    JsArray.slot_eq_ok.mpr (dense index shown)]
  cases cfg.multiline <;> simp [Piece.element, Piece.leftOut, List.filterMap_flatMap, List.map_eq_flatMap,
    apply_ite (List.filterMap (@Piece.element D)), apply_ite (List.filterMap (@Piece.leftOut D))]

/-- At the first shown index whose turn does not get through its element, `fmt` stops as `slot`
says. -/
theorem fmt_of_stop {heading : String} {index : Nat} {stop : Stop} (named : arr.heading = .ok heading)
    (shallow : cfg.depth ≤ 4) (shown : index < min arr.length (if cfg.multiline then 100 else 3))
    (stopped : arr.slot describe index = .error stop)
    (before : ∀ j < index, (arr.slot describe j).isOk = true) :
    ((fmt describe cfg arr).run.run []).1 = .error stop := by
  have checks : ¬ 4 < cfg.depth ∧ arr.length ≠ 0 := ⟨by omega, by split at shown <;> omega⟩
  have earlier : ∀ j ∈ List.range index, (arr.slot describe j).isOk = true :=
    fun j member => before j (List.mem_range.mp member)
  cases multi : cfg.multiline <;> simp only [multi, Bool.false_eq_true, if_true, if_false] at shown
  · obtain ⟨post, split⟩ := range_split shown
    obtain ⟨after, stops⟩ := run_forM_stop (inlineSlot_spec describe arr (min arr.length 3)) stopped post _
      ([.heading heading, .text "[", .text " "]) earlier
    simp [fmt, run_bind, named, checks, multi, split, stops, -List.forM_append]
  · obtain ⟨post, split⟩ := range_split shown
    obtain ⟨after, stops⟩ := run_forM_stop
      (multilineSlot_spec describe arr (cfg.indentation + cfg.depth + 1)) stopped post _
      ([.heading heading, .text "[", .newline]) earlier
    simp [fmt, run_bind, named, checks, multi, split, stops, -List.forM_append]

/-- `fmt` panics exactly when, at a depth of at most 4 and for a non-empty array, the first of the
shown turns that does not get through its element meets a hole, where the `unwrap` after
`get_descriptor` meets `None`, or an element whose own formatting panics. A sparse array, or one
made with a length and no elements, panics where the claim of a slot per shown index expects a
slot. -/
theorem fmt_panics_iff :
    ((fmt describe cfg arr).run.run []).1 = .error .panic ↔
      (∃ heading, arr.heading = .ok heading) ∧ cfg.depth ≤ 4 ∧ 0 < arr.length ∧
        ∃ index < min arr.length (if cfg.multiline then 100 else 3),
          (arr.getDescriptor index = .ok none ∨
            ∃ desc, arr.getDescriptor index = .ok (some desc) ∧ describe desc = .error .panic) ∧
          ∀ j < index, ∃ desc, arr.getDescriptor j = .ok (some desc) ∧ describe desc = .ok () := by
  have formats : ∀ j, (arr.slot describe j).isOk = true ↔
      ∃ desc, arr.getDescriptor j = .ok (some desc) ∧ describe desc = .ok () := fun j =>
    ⟨fun ok => (Except.exists_of_isOk ok).imp fun _ found => JsArray.slot_eq_ok.mp found,
      fun ⟨_, found⟩ => by rw [JsArray.slot_eq_ok.mpr found]; rfl⟩
  constructor
  · intro panicked
    rcases named : arr.heading with _ | heading
    · rw [fmt_of_heading_error describe cfg arr named] at panicked
      cases panicked
    have shallow : cfg.depth ≤ 4 := Nat.not_lt.mp fun deep => by
      rw [fmt_of_deep describe cfg arr named deep] at panicked
      cases panicked
    have nonempty : 0 < arr.length := Nat.pos_of_ne_zero fun empty => by
      rw [fmt_of_empty describe cfg arr named shallow empty] at panicked
      cases panicked
    by_cases gap : ∃ index < min arr.length (if cfg.multiline then 100 else 3),
        (arr.slot describe index).isOk = false
    · obtain ⟨index, shown, stops, before⟩ := arr.exists_first_stop describe gap
      rcases stopped : arr.slot describe index with stop | desc
      · rw [fmt_of_stop describe cfg arr named shallow shown stopped before] at panicked
        cases panicked
        exact ⟨⟨heading, rfl⟩, shallow, nonempty, index, shown, JsArray.slot_eq_panic.mp stopped,
          fun j lt => (formats j).mp (before j lt)⟩
      · rw [stopped] at stops
        cases stops
    · have dense : ∀ index < min arr.length (if cfg.multiline then 100 else 3),
          (arr.slot describe index).isOk = true := fun index shown => by
        simpa using fun stops => gap ⟨index, shown, stops⟩
      obtain ⟨first, -⟩ := Except.exists_of_isOk (dense 0 (by split <;> omega))
      obtain ⟨descs, found⟩ := arr.exists_descriptors describe dense first
      rw [fmt_of_dense describe cfg arr named shallow nonempty found] at panicked
      cases panicked
  · rintro ⟨⟨heading, named⟩, shallow, -, index, shown, hole, before⟩
    exact fmt_of_stop describe cfg arr named shallow shown (JsArray.slot_eq_panic.mpr hole)
      fun j lt => (formats j).mpr (before j lt)

end Fmt

end ArrayDisplay

def describeAll : DescriptorFormat Int := fun _ => .ok ()

/-- The array of the `delete_sparse` test, `[0, 1]` after `delete(0)`: length 2, with a hole at
index 0. -/
def deleteSparse : JsArray Int where
  heading := .ok ""
  length := 2
  length_lt := by decide
  getDescriptor index := .ok (if index = 1 then some 1 else none)

theorem delete_sparse_format_panics :
    ((ArrayDisplay.fmt describeAll (⟨0, 0, false⟩ : Config) deleteSparse).run.run []).1 = .error .panic :=
  (ArrayDisplay.fmt_panics_iff _ _ _).mpr ⟨⟨"", rfl⟩, by decide, by decide, 0, by decide, .inl rfl, nofun⟩

def fourElements : JsArray Int where
  heading := .ok ""
  length := 4
  length_lt := by decide
  getDescriptor index := .ok (if index < 4 then some (index + 7) else none)

theorem four_elements_show_three :
    fourElements.heading = .ok "" ∧ (⟨0, 0, false⟩ : Config).depth ≤ 4 ∧ 0 < fourElements.length ∧
      (∀ index < min fourElements.length (if (⟨0, 0, false⟩ : Config).multiline then 100 else 3),
        fourElements.getDescriptor index = .ok (some ((index : Int) + 7)) ∧
          describeAll ((index : Int) + 7) = .ok ()) ∧
      ((ArrayDisplay.fmt describeAll ⟨0, 0, false⟩ fourElements).run.run []).1 = .ok () ∧
      ((ArrayDisplay.fmt describeAll ⟨0, 0, false⟩ fourElements).run.run []).2.filterMap Piece.element =
        (List.range (min fourElements.length (if (⟨0, 0, false⟩ : Config).multiline then 100 else 3))).map
          (fun index : Nat => (index : Int) + 7) ∧
      ((ArrayDisplay.fmt describeAll ⟨0, 0, false⟩ fourElements).run.run []).2.filterMap Piece.leftOut =
        [fourElements.length - min fourElements.length (if (⟨0, 0, false⟩ : Config).multiline then 100 else 3)] :=
  have named : fourElements.heading = .ok "" := rfl
  have dense : ∀ index < min fourElements.length (if (⟨0, 0, false⟩ : Config).multiline then 100 else 3),
      fourElements.getDescriptor index = .ok (some ((index : Int) + 7)) ∧
        describeAll ((index : Int) + 7) = .ok () := fun index shown =>
    ⟨by simp only [fourElements, if_pos (show index < 4 by simp at shown; omega)], rfl⟩
  ⟨named, by decide, by decide, dense,
    ArrayDisplay.fmt_writes_shown describeAll ⟨0, 0, false⟩ fourElements named (by decide) (by decide) dense⟩

end Spiderfire
