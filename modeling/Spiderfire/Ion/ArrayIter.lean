import Mathlib.Data.List.Nodup

namespace Spiderfire

/-- `JSID_INT_MAX`: the largest index the engine keeps as an integer property key. -/
def jsidIntMax : Nat := 2147483647

/-- A property key (`jsid`) as `ArrayIndicesIter` reads it: an integer key, at most
`JSID_INT_MAX`, or any other key (a string or a symbol). -/
inductive PropertyKey where
  | int (value : Nat) (le_max : value ≤ jsidIntMax)
  | other (text : String)

/-- The key the engine gives the element at `index`: an integer key up to `JSID_INT_MAX`, the
index's decimal string above it. -/
def indexKey (index : Nat) : PropertyKey :=
  if bound : index ≤ jsidIntMax then .int index bound else .other (toString index)

/-- `key.is_int()`, then `key.to_int() as u32`. -/
def PropertyKey.index? : PropertyKey → Option Nat
  | .int value _ => some value
  | .other _ => none

/-- An end of a double-ended iterator: `next` takes from the front, `next_back` from the back. -/
inductive End where
  | front
  | back
  deriving DecidableEq, Repr

namespace ArrayIndicesIter

def indicesOf (keys : List PropertyKey) : List Nat := keys.filterMap PropertyKey.index?

/-- `ArrayIndicesIter::next`: `for key in self.0.by_ref()` takes keys from the front up to the
first integer one. -/
def next : List PropertyKey → Option Nat × List PropertyKey
  | [] => (none, [])
  | key :: rest =>
    match key.index? with
    | some index => (some index, rest)
    | none => next rest

/-- `ArrayIndicesIter::next_back`: `while let Some(key) = self.0.next_back()` takes keys from
the back up to the last integer one. -/
def nextBack (keys : List PropertyKey) : Option Nat × List PropertyKey :=
  match _last : keys.getLast? with
  | none => (none, keys)
  | some key =>
    match key.index? with
    | some index => (some index, keys.dropLast)
    | none => nextBack keys.dropLast
termination_by keys.length
decreasing_by
  have nonempty : keys ≠ [] := fun empty => by simp [empty] at _last
  have positive := List.length_pos.mpr nonempty
  simp only [List.length_dropLast]
  omega

/-- One call at the given end. -/
def step (keys : List PropertyKey) : End → Option Nat × List PropertyKey
  | .front => next keys
  | .back => nextBack keys

/-- A sequence of calls: each call's end with what it returned, and the keys left. -/
def run : List End → List PropertyKey → List (End × Option Nat) × List PropertyKey
  | [], keys => ([], keys)
  | side :: calls, keys =>
    let (index, rest) := step keys side
    let (results, left) := run calls rest
    ((side, index) :: results, left)

def takenAt (side : End) (results : List (End × Option Nat)) : List Nat :=
  results.filterMap fun result => if result.1 = side then result.2 else none

end ArrayIndicesIter

namespace ArrayIter

/-- Why an `ArrayIter` call panics: `unwrap` on `None`, where the array has no property at the
index it took. -/
inductive Panic where
  | unwrapNone
  deriving DecidableEq, Repr

/-- `Array::get` at each index, as the array is when it is called: the exception a getter
threw, no property (on the array or its prototypes), or the value. -/
abbrev Getter (E V : Type) := Nat → Except E (Option V)

variable {E V : Type}

def present (get : Getter E V) (index : Nat) : Bool :=
  match get index with
  | .ok none => false
  | _ => true

/-- `self.array.get(self.cx, index).transpose().unwrap()`. -/
def element (get : Getter E V) (index : Nat) : Except Panic (Except E V) :=
  match get index with
  | .ok none => .error .unwrapNone
  | .ok (some value) => .ok (.ok value)
  | .error e => .ok (.error e)

/-- `ArrayIter::next` and `next_back`: the index `ArrayIndicesIter` takes at that end, with the
element there. -/
def step (get : Getter E V) (keys : List PropertyKey) (side : End) :
    Except Panic (Option (Nat × Except E V)) × List PropertyKey :=
  ((ArrayIndicesIter.step keys side).1.mapM fun index => (element get index).map (index, ·),
    (ArrayIndicesIter.step keys side).2)

/-- What happens to an iterator after its creation: a call at an end, or the array changing to
`get` (Rust code holding the `&Array` can `set` and `delete` between calls, and script code can
run). -/
inductive Event (E V : Type) where
  | call (side : End)
  | change (get : Getter E V)

/-- A sequence of events: what each call returned, up to the first panic. -/
def run : Getter E V → List PropertyKey → List (Event E V) →
    Except Panic (List (Option (Nat × Except E V)))
  | _, _, [] => .ok []
  | get, keys, .call side :: events => do
    let result ← (step get keys side).1
    let results ← run get (step get keys side).2 events
    pure (result :: results)
  | _, keys, .change get :: events => run get keys events

/-- Each change in the events leaves a property at every index the iterator has not taken. -/
def KeepsPending : List PropertyKey → List (Event E V) → Prop
  | _, [] => True
  | keys, .call side :: events => KeepsPending (ArrayIndicesIter.step keys side).2 events
  | keys, .change get :: events =>
    (∀ index ∈ ArrayIndicesIter.indicesOf keys, present get index) ∧ KeepsPending keys events

end ArrayIter

end Spiderfire

namespace Spiderfire.ArrayIndicesIter

theorem indicesOf_next : ∀ keys : List PropertyKey,
    indicesOf keys = (next keys).1.toList ++ indicesOf (next keys).2
  | [] => rfl
  | key :: rest => by
    cases atKey : key.index? with
    | some index => simp [next, indicesOf, atKey]
    | none => simp only [next, indicesOf, List.filterMap_cons, atKey]; exact indicesOf_next rest

theorem next_none : ∀ {keys : List PropertyKey}, (next keys).1 = none → (next keys).2 = []
  | [], _ => rfl
  | key :: rest, ended => by
    cases atKey : key.index? with
    | some index => simp [next, atKey] at ended
    | none => simp only [next, atKey] at ended ⊢; exact next_none ended

theorem nextBack_eq (keys : List PropertyKey) :
    nextBack keys = ((next keys.reverse).1, (next keys.reverse).2.reverse) := by
  induction keys using List.reverseRecOn with
  | nil => rw [nextBack]; rfl
  | append_singleton init key ih =>
    have last : (init ++ [key]).getLast? = some key := by simp
    rw [nextBack]
    split
    · rename_i empty; rw [last] at empty; cases empty
    · rename_i found atLast
      rw [last] at atLast
      cases atLast
      simp only [List.dropLast_concat, List.reverse_append, List.reverse_singleton,
        List.singleton_append]
      cases atKey : key.index? with
      | some index => simp [next, atKey]
      | none => simp only [next, atKey, ih]

theorem indicesOf_nextBack (keys : List PropertyKey) :
    indicesOf keys = indicesOf (nextBack keys).2 ++ (nextBack keys).1.toList := by
  have front := indicesOf_next keys.reverse
  simp only [indicesOf, List.filterMap_reverse] at front
  rw [nextBack_eq, indicesOf, indicesOf, List.filterMap_reverse, ← List.reverse_reverse
    (keys.filterMap _), front]
  cases (next keys.reverse).1 <;> simp

theorem step_none {keys : List PropertyKey} {side : End} (ended : (step keys side).1 = none) :
    (step keys side).2 = [] := by
  cases side with
  | front => exact next_none ended
  | back =>
    simp only [step, nextBack_eq] at ended ⊢
    rw [next_none ended, List.reverse_nil]

theorem run_nil : ∀ calls : List End, run calls [] = (calls.map (·, none), [])
  | [] => rfl
  | side :: calls => by
    have empty : step [] side = (none, []) := by cases side <;> simp [step, nextBack_eq, next]
    simp only [run, empty, run_nil calls, List.map_cons]

/-- What any sequence of calls from either end takes: the indices returned at the front, those
left, and those returned at the back, last first, are the keys' indices in order. So where the
keys are distinct no index is returned twice, and a run that takes them all returns every one. -/
theorem run_partition (calls : List End) (keys : List PropertyKey) :
    takenAt .front (run calls keys).1 ++ indicesOf (run calls keys).2 ++
        (takenAt .back (run calls keys).1).reverse = indicesOf keys := by
  induction calls generalizing keys with
  | nil => simp [run, takenAt]
  | cons side calls ih =>
    rcases atStep : step keys side with ⟨index, rest⟩
    cases side with
    | front =>
      have taken := indicesOf_next keys
      simp only [step] at atStep
      simp only [atStep] at taken
      rw [taken, ← ih rest]
      cases index <;> simp [run, step, atStep, takenAt]
    | back =>
      have taken := indicesOf_nextBack keys
      simp only [step] at atStep
      simp only [atStep] at taken
      rw [taken, ← ih rest]
      cases index <;> simp [run, step, atStep, takenAt]

/-- The `FusedIterator` promise: after a call returns none, every later call, from either end,
returns none. -/
theorem run_after_none {keys : List PropertyKey} {side : End} (ended : (step keys side).1 = none)
    (calls : List End) :
    ∀ result ∈ (run calls (step keys side).2).1, result.2 = none := by
  rw [step_none ended, run_nil]
  simp

theorem length_key_exhausted :
    (step [.other "length"] .front).1 = none ∧
      ∀ result ∈ (run [.back, .front] (step [.other "length"] .front).2).1, result.2 = none :=
  ⟨rfl, @run_after_none [.other "length"] .front rfl [.back, .front]⟩

theorem step_mem (keys : List PropertyKey) (side : End) :
    (∀ index ∈ (step keys side).1, index ∈ indicesOf keys) ∧
      ∀ index ∈ indicesOf (step keys side).2, index ∈ indicesOf keys := by
  cases side with
  | front =>
    rw [indicesOf_next keys]
    exact ⟨fun _ taken => List.mem_append_left _ (Option.mem_toList.mpr taken),
      fun _ left => List.mem_append_right _ left⟩
  | back =>
    rw [indicesOf_nextBack keys]
    exact ⟨fun _ taken => List.mem_append_right _ (Option.mem_toList.mpr taken),
      fun _ left => List.mem_append_left _ left⟩

theorem mem_indicesOf_of_taken {side : End} {index : Nat} :
    ∀ {calls : List End} {keys : List PropertyKey},
      index ∈ takenAt side (run calls keys).1 → index ∈ indicesOf keys
  | [], _, taken => by simp [run, takenAt] at taken
  | first :: calls, keys, taken => by
    obtain ⟨takenIn, leftIn⟩ := step_mem keys first
    obtain ⟨result, member, selected⟩ := List.mem_filterMap.mp taken
    rcases List.mem_cons.mp member with rfl | later
    · split at selected
      · exact takenIn index selected
      · cases selected
    · exact leftIn index (mem_indicesOf_of_taken (List.mem_filterMap.mpr ⟨result, later, selected⟩))

theorem indicesOf_indexKeys (elements : List Nat) (others : List String) :
    indicesOf (elements.map indexKey ++ others.map .other) = elements.filter (· ≤ jsidIntMax) := by
  induction elements with
  | nil => simp [indicesOf, PropertyKey.index?]
  | cons element rest ih =>
    by_cases bound : element ≤ jsidIntMax
    · simp [indicesOf, indexKey, bound, PropertyKey.index?] at ih ⊢; exact ih
    · simp [indicesOf, indexKey, bound, PropertyKey.index?] at ih ⊢; exact ih

/-- Over an array's keys as the engine lists them (its elements' indices, then its other keys),
any sequence of calls returns only elements' indices up to `JSID_INT_MAX`: an element at a
larger index is never visited. -/
theorem run_skips_large_indices (elements : List Nat) (others : List String) (calls : List End)
    (side : End) {index : Nat}
    (taken : index ∈ takenAt side (run calls (elements.map indexKey ++ others.map .other)).1) :
    index ∈ elements ∧ index ≤ jsidIntMax := by
  have held := mem_indicesOf_of_taken taken
  rw [indicesOf_indexKeys] at held
  simpa using held

theorem large_index_skipped :
    0 ∈ takenAt .front (run [.front, .front] ([0, 3000000000].map indexKey ++ ["length"].map .other)).1 ∧
      0 ∈ [0, 3000000000] ∧ 0 ≤ jsidIntMax :=
  ⟨by decide, run_skips_large_indices [0, 3000000000] ["length"] [.front, .front] .front (by decide)⟩

end Spiderfire.ArrayIndicesIter

namespace Spiderfire.ArrayIter

variable {E V : Type}

/-- A call panics exactly when the index it takes has no property in the array as it is then. -/
theorem step_eq_error_iff (get : Getter E V) (keys : List PropertyKey) (side : End) :
    (step get keys side).1 = .error .unwrapNone ↔
      (ArrayIndicesIter.step keys side).1.any (fun index => !present get index) = true := by
  simp only [step]
  cases (ArrayIndicesIter.step keys side).1 with
  | none => simp [Option.mapM, pure, Except.pure]
  | some index =>
    simp only [Option.mapM, element, present, Option.any_some]
    cases get index with
    | error e => simp [Except.map]
    | ok value => cases value <;> simp [Except.map]

theorem step_ok_of_present {get : Getter E V} {keys : List PropertyKey} {side : End}
    (held : ∀ index ∈ (ArrayIndicesIter.step keys side).1, present get index) :
    ∃ result, (step get keys side).1 = .ok result := by
  rcases stepped : (step get keys side).1 with ⟨⟩ | result
  · have taken := (step_eq_error_iff get keys side).mp stepped
    rcases atStep : (ArrayIndicesIter.step keys side).1 with _ | index <;> rw [atStep] at taken
    · cases taken
    · simp [held index atStep] at taken
  · exact ⟨result, rfl⟩

/-- `ArrayIter` never panics while each change to the array keeps a property at every index it
has not taken, whatever the order of calls at either end and changes. -/
theorem run_ok {get : Getter E V} {keys : List PropertyKey}
    (held : ∀ index ∈ ArrayIndicesIter.indicesOf keys, present get index) :
    ∀ events : List (Event E V), KeepsPending keys events →
      ∃ results, run get keys events = .ok results
  | [], _ => ⟨[], rfl⟩
  | .call side :: events, keeps => by
    obtain ⟨takenIn, leftIn⟩ := ArrayIndicesIter.step_mem keys side
    obtain ⟨results, rest⟩ := @run_ok get (ArrayIndicesIter.step keys side).2
      (fun index left => held index (leftIn index left)) events keeps
    obtain ⟨result, taken⟩ := @step_ok_of_present E V get keys side fun index atIndex =>
      held index (takenIn index atIndex)
    have left : (step get keys side).2 = (ArrayIndicesIter.step keys side).2 := rfl
    exact ⟨result :: results, by rw [run, taken, left, rest]; rfl⟩
  | .change changed :: events, ⟨kept, keeps⟩ => run_ok kept events keeps

def twoElements : Getter Unit Nat := fun index => if index < 2 then .ok (some index) else .ok none

def firstDeleted : Getter Unit Nat := fun index => if index = 1 then .ok (some 1) else .ok none

def twoKeys : List PropertyKey := [.int 0 (by decide), .int 1 (by decide), .other "length"]

theorem delete_behind_no_panic :
    ∃ results, run twoElements twoKeys [.call .front, .change firstDeleted, .call .front, .call .back] =
      .ok results :=
  run_ok (by decide) _ ⟨by decide, trivial⟩

end Spiderfire.ArrayIter
