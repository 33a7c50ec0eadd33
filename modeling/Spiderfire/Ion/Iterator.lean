import Spiderfire.Ion.ArrayIter

namespace Spiderfire.NativeIterator

/-- `IteratorResult`: the object `next` returns. -/
structure IteratorResult (Val : Type) where
  value : Val
  done : Bool
  deriving DecidableEq, Repr

section Protocol

variable {σ Err Val : Type} (undefined : Val)

/-- `Iterator::next_value`: `self.iter.next_value(..).transpose()?` throws the error of an item
that did not convert; otherwise `done` is whether the Rust iterator ended, and the value is the
item or `undefined`. The Rust iterator's state advances either way. -/
def nextValue (iter : σ → Option (Except Err Val) × σ) (state : σ) :
    Except Err (IteratorResult Val) × σ :=
  ((match (iter state).1 with
    | none => .ok ⟨undefined, true⟩
    | some (.ok value) => .ok ⟨value, false⟩
    | some (.error e) => .error e), (iter state).2)

/-- `n` calls of the JavaScript `next` method: what each returned or threw. -/
def runNext (iter : σ → Option (Except Err Val) × σ) : Nat → σ → List (Except Err (IteratorResult Val))
  | 0, _ => []
  | n + 1, state =>
    (nextValue undefined iter state).1 :: runNext iter n (nextValue undefined iter state).2

/-- What `next` returns for a converted item: the value not done, or the conversion's error. -/
def resultOf : Except Err Val → Except Err (IteratorResult Val)
  | .ok value => .ok ⟨value, false⟩
  | .error e => .error e

/-- The impl of `JSIterator` for a Rust iterator: `self.next().map(|val| Box::new(val).into_value(cx))`. -/
def ofRustIter {T : Type} (next : σ → Option T × σ) (intoValue : T → Except Err Val) :
    σ → Option (Except Err Val) × σ :=
  fun state => ((next state).1.map intoValue, (next state).2)

end Protocol

section Runs

variable {σ Err Val : Type} (undefined : Val)

/-- A Rust iterator that yields a list: at each state, `items` is what it has left to return,
the first of which the next call returns. -/
structure Yields (iter : σ → Option (Except Err Val) × σ) (items : σ → List (Except Err Val)) :
    Prop where
  first : ∀ state, (iter state).1 = (items state).head?
  rest : ∀ state, items (iter state).2 = (items state).tail

def finished : Except Err (IteratorResult Val) := .ok ⟨undefined, true⟩

theorem runNext_of_yields_le {iter : σ → Option (Except Err Val) × σ}
    {items : σ → List (Except Err Val)} (yields : Yields iter items) :
    ∀ (n m : Nat) (state : σ), n ≤ m →
      runNext undefined iter n state =
        ((items state).map resultOf ++ List.replicate m (finished undefined)).take n
  | 0, _, _, _ => rfl
  | n + 1, m, state, bound => by
    have first := yields.first state
    have rest := yields.rest state
    simp only [runNext, nextValue, first]
    cases atState : items state with
    | nil =>
      obtain ⟨m, rfl⟩ : ∃ k, m = k + 1 := ⟨m - 1, by omega⟩
      rw [atState] at rest
      simp only [List.head?_nil, List.map_nil, List.nil_append, List.replicate_succ,
        List.take_succ_cons]
      rw [runNext_of_yields_le yields n m _ (by omega), rest]
      rfl
    | cons item others =>
      rw [atState] at rest
      simp only [List.head?_cons, List.map_cons, List.cons_append, List.take_succ_cons]
      rw [runNext_of_yields_le yields n m _ (by omega), rest]
      cases item <;> rfl

/-- Over a Rust iterator that yields a list, `n` calls of `next` return each item's result in
order (a conversion error is thrown in its place, and the next call goes on past it), then
`{ value: undefined, done: true }` on every later call. -/
theorem runNext_of_yields {iter : σ → Option (Except Err Val) × σ}
    {items : σ → List (Except Err Val)} (yields : Yields iter items) (n : Nat) (state : σ) :
    runNext undefined iter n state =
      ((items state).map resultOf ++ List.replicate n (finished undefined)).take n :=
  runNext_of_yields_le undefined yields n n state (Nat.le_refl n)

/-- `vec::IntoIter::next`: the first item left. -/
def listIter {T : Type} (items : List T) : Option T × List T := (items.head?, items.tail)

theorem listIter_yields {T : Type} (intoValue : T → Except Err Val) :
    Yields (ofRustIter listIter intoValue) fun items => items.map intoValue :=
  ⟨fun items => by cases items <;> rfl, fun items => by cases items <;> rfl⟩

theorem vector_conversion_error :
    runNext (0 : Int) (ofRustIter listIter fun n : Nat =>
        if n = 2 then (.error "not convertible" : Except String Int) else .ok (n : Int)) 4 [1, 2, 3] =
      [.ok ⟨1, false⟩, .error "not convertible", .ok ⟨3, false⟩, .ok ⟨0, true⟩] :=
  runNext_of_yields (0 : Int) (listIter_yields _) 4 [1, 2, 3]

/-- `ArrayIndicesIter`, called from the front, yields the indices of its keys. -/
theorem arrayIndices_yields (intoValue : Nat → Except Err Val) :
    Yields (ofRustIter ArrayIndicesIter.next intoValue)
      fun keys => (ArrayIndicesIter.indicesOf keys).map intoValue := by
  have split : ∀ keys, ((ArrayIndicesIter.next keys).1.map intoValue =
        ((ArrayIndicesIter.indicesOf keys).map intoValue).head?) ∧
      (ArrayIndicesIter.indicesOf (ArrayIndicesIter.next keys).2).map intoValue =
        ((ArrayIndicesIter.indicesOf keys).map intoValue).tail := fun keys => by
    have taken := ArrayIndicesIter.indicesOf_next keys
    cases atNext : (ArrayIndicesIter.next keys).1 with
    | none =>
      have empty := ArrayIndicesIter.next_none atNext
      rw [atNext, empty] at taken
      rw [empty, taken]
      exact ⟨rfl, rfl⟩
    | some index =>
      rw [atNext] at taken
      rw [taken]
      exact ⟨rfl, rfl⟩
  exact ⟨fun keys => (split keys).1, fun keys => (split keys).2⟩

/-- The JavaScript iterator over an array's indices, whose `u32`s always convert to numbers:
`n` calls of `next` return each integer key's index in order, then
`{ value: undefined, done: true }` on every later call. -/
theorem runNext_arrayIndices (number : Nat → Val) (n : Nat) (keys : List PropertyKey) :
    runNext undefined (ofRustIter ArrayIndicesIter.next fun index => (.ok (number index) : Except Err Val))
        n keys =
      ((ArrayIndicesIter.indicesOf keys).map (fun index => Except.ok (IteratorResult.mk (number index) false)) ++
        List.replicate n (finished undefined)).take n := by
  rw [runNext_of_yields_le undefined (arrayIndices_yields _) n n keys (Nat.le_refl n), List.map_map]
  rfl

end Runs

end Spiderfire.NativeIterator
