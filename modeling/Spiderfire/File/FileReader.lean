import Spiderfire.File.Reader
import Spiderfire.File.Encoding

namespace Spiderfire

/-- `FileReaderState`, what `readyState` reports. -/
inductive FileReaderState where
  | Empty | Loading | Done
  deriving DecidableEq, Repr

/-- Modelled from the spec: ion's `ErrorKind` (error.rs, missing), cut to the one kind the reader
throws. -/
inductive ErrorKind where
  | Type
  deriving DecidableEq, Repr

/-- Modelled from the spec: ion's `Error` (error.rs, missing), a message and the kind of
JavaScript error it is thrown as. -/
structure ScriptError where
  message : String
  kind : ErrorKind
  deriving DecidableEq, Repr

/-- The error `FileReaderState::validate` returns. -/
def invalidStateError : ScriptError := ⟨"Invalid State for File Reader", .Type⟩

namespace FileReaderState

/-- `FileReaderState::as u8`: `EMPTY`, `LOADING` and `DONE`. -/
def toU8 : FileReaderState → UInt8
  | .Empty => 0
  | .Loading => 1
  | .Done => 2

/-- `FileReaderState::validate`: an error while `Loading`, otherwise the state becomes
`Loading`. -/
def validate : FileReaderState → Except ScriptError FileReaderState
  | .Loading => .error invalidStateError
  | _ => .ok .Loading

theorem validate_eq_error {state : FileReaderState} {e : ScriptError} :
    state.validate = .error e ↔ state = .Loading ∧ e = invalidStateError := by
  cases state <;> simp [validate, eq_comm]

end FileReaderState

/-- Which of the four read methods was called; `Text` carries its optional encoding label. -/
inductive ReadMethod where
  | ArrayBuffer | BinaryString
  | Text (encoding : Option String)
  | DataUrl

/-- The value in the reader's `result` slot. A text result is the string
`decode_without_bom_handling` makes of the bytes, named by the encoding and the bytes. -/
inductive ReaderResult where
  | null
  | arrayBuffer (bytes : List UInt8)
  | binaryString (bytes : List UInt8)
  | text (encoding : Encoding) (bytes : List UInt8)
  | dataUrl (url : String)

/-- A task a read spawned through `future_to_promise`: the method and the blob whose bytes and
type it cloned. -/
structure ReadTask where
  method : ReadMethod
  blob : Blob

/-- What the task stores in `reader.result` when it runs. `readAsText` chooses the encoding inside
the task. -/
def ReadTask.value (crates : EncodingCrates) (task : ReadTask) : ReaderResult :=
  match task.method with
  | .ArrayBuffer => .arrayBuffer task.blob.bytes
  | .BinaryString => .binaryString task.blob.bytes
  | .Text encoding => .text (encodingFromStringMime crates encoding task.blob.kind) task.blob.bytes
  | .DataUrl => .dataUrl (dataUrlOf task.blob)

/-- `FileReader`: its state and result slot, with the tasks its reads spawned that have not run
yet, in the order they were spawned. Its error slot is never written. -/
structure FileReader where
  state : FileReaderState
  result : ReaderResult
  tasks : List ReadTask

namespace FileReader

/-- `FileReader::default`, which the constructor returns. -/
def default : FileReader := ⟨.Empty, .null, []⟩

/-- `readyState`. -/
def getReadyState (reader : FileReader) : UInt8 := reader.state.toU8

/-- The body the four read methods share: `self.state.validate()?`, then spawn the task. A
rejected read returns before it touches the reader. -/
def read (reader : FileReader) (method : ReadMethod) (blob : Blob) : Except ScriptError FileReader := do
  let state ← reader.state.validate
  pure { reader with state, tasks := reader.tasks ++ [⟨method, blob⟩] }

/-- `FileReader::read_as_array_buffer`. -/
def readAsArrayBuffer (reader : FileReader) (blob : Blob) : Except ScriptError FileReader :=
  reader.read .ArrayBuffer blob

/-- `FileReader::read_as_binary_string`. -/
def readAsBinaryString (reader : FileReader) (blob : Blob) : Except ScriptError FileReader :=
  reader.read .BinaryString blob

/-- `FileReader::read_as_text`. -/
def readAsText (reader : FileReader) (blob : Blob) (encoding : Option String) :
    Except ScriptError FileReader :=
  reader.read (.Text encoding) blob

/-- `FileReader::read_as_data_url`. -/
def readAsDataUrl (reader : FileReader) (blob : Blob) : Except ScriptError FileReader :=
  reader.read .DataUrl blob

/-- The event loop runs the `i`-th pending task: `reader.result.set(..)`, and nothing else.
`none` if there is no such task. -/
def runTask (crates : EncodingCrates) (reader : FileReader) (i : Nat) : Option FileReader :=
  reader.tasks[i]?.map fun task =>
    { reader with result := task.value crates, tasks := reader.tasks.eraseIdx i }

theorem read_eq_error {reader : FileReader} {method : ReadMethod} {blob : Blob} {e : ScriptError} :
    reader.read method blob = .error e ↔ reader.state = .Loading ∧ e = invalidStateError := by
  rw [← FileReaderState.validate_eq_error]
  cases checked : reader.state.validate <;> simp [read, checked, bind, Except.bind, pure, Except.pure]

theorem read_eq_ok {reader reader' : FileReader} {method : ReadMethod} {blob : Blob}
    (accepted : reader.read method blob = .ok reader') :
    reader.state ≠ .Loading ∧ reader' = ⟨.Loading, reader.result, reader.tasks ++ [⟨method, blob⟩]⟩ := by
  cases state : reader.state <;>
    simp_all [read, FileReaderState.validate, bind, Except.bind, pure, Except.pure]

theorem runTask_state {crates : EncodingCrates} {reader reader' : FileReader} {i : Nat}
    (ran : reader.runTask crates i = some reader') : reader'.state = reader.state := by
  obtain ⟨_, _, rfl⟩ := Option.map_eq_some'.mp ran
  rfl

end FileReader

/-- What a script or the event loop does to one reader: call a read method, or run one of the
pending tasks. -/
inductive ReaderEvent where
  | read (method : ReadMethod) (blob : Blob)
  | complete (task : Nat)

namespace FileReader

variable (crates : EncodingCrates)

/-- One event, with what it returns to its caller: a read's `Result<()>`; `Ok` for a task run.
A rejected read leaves the reader as it was. `none`: no such task is pending. -/
def step (reader : FileReader) : ReaderEvent → Option (FileReader × Except ScriptError Unit)
  | .read method blob =>
    some (match reader.read method blob with
      | .ok reader' => (reader', .ok ())
      | .error e => (reader, .error e))
  | .complete i => (reader.runTask crates i).map fun reader' => (reader', .ok ())

/-- A run of events from `reader`, with what each returned; `none` if an event is not enabled. -/
def run (reader : FileReader) :
    List ReaderEvent → Option (FileReader × List (Except ScriptError Unit))
  | [] => some (reader, [])
  | event :: rest =>
    match reader.step crates event with
    | none => none
    | some (next, reply) => (next.run rest).map fun (last, replies) => (last, reply :: replies)

/-- The readers of every run from a new one: any interleaving of read calls, of any of the four
methods, with the runs of the tasks they spawn, in any order. -/
inductive Reachable : FileReader → Prop
  | start : Reachable default
  | next {reader reader' : FileReader} {event : ReaderEvent} {reply : Except ScriptError Unit} :
      Reachable reader → reader.step crates event = some (reader', reply) → Reachable reader'

variable {crates}

theorem step_read_rejected {reader reader' : FileReader} {method : ReadMethod} {blob : Blob}
    {reply : Except ScriptError Unit}
    (stepped : reader.step crates (.read method blob) = some (reader', reply)) :
    (reply = .error invalidStateError ↔ reader.state = .Loading) ∧
      (reader.state = .Loading → reader' = reader) := by
  simp only [step, Option.some.injEq] at stepped
  cases result : reader.read method blob with
  | error e =>
    obtain ⟨loading, rfl⟩ := read_eq_error.mp result
    simp only [result, Prod.mk.injEq] at stepped
    obtain ⟨rfl, rfl⟩ := stepped
    exact ⟨iff_of_true rfl loading, fun _ => rfl⟩
  | ok next =>
    obtain ⟨idle, -⟩ := read_eq_ok result
    simp only [result, Prod.mk.injEq] at stepped
    obtain ⟨-, rfl⟩ := stepped
    exact ⟨iff_of_false (by simp) idle, fun loading => absurd loading idle⟩

theorem step_loading {reader reader' : FileReader} {event : ReaderEvent}
    {reply : Except ScriptError Unit} (loading : reader.state = .Loading)
    (stepped : reader.step crates event = some (reader', reply)) : reader'.state = .Loading := by
  cases event with
  | read method blob => rw [(step_read_rejected stepped).2 loading, loading]
  | complete i =>
    obtain ⟨_, ran, same⟩ := Option.map_eq_some'.mp stepped
    cases same
    rw [runTask_state ran, loading]

theorem run_loading {reader reader' : FileReader} {events : List ReaderEvent}
    {replies : List (Except ScriptError Unit)} (loading : reader.state = .Loading)
    (ran : reader.run crates events = some (reader', replies)) : reader'.state = .Loading := by
  induction events generalizing reader replies with
  | nil => cases ran; exact loading
  | cons event rest ih =>
    simp only [run] at ran
    split at ran
    · cases ran
    · rename_i next reply stepped
      obtain ⟨⟨last, later⟩, rest_run, same⟩ := Option.map_eq_some'.mp ran
      cases same
      exact ih (step_loading loading stepped) rest_run

/-- Every reachable reader is new, or `Loading`: no event ever makes it `Done`. -/
theorem Reachable.new_or_loading {reader : FileReader} (reach : Reachable crates reader) :
    reader.state = .Empty ∧ reader.tasks = [] ∨ reader.state = .Loading := by
  induction reach with
  | start => exact .inl ⟨rfl, rfl⟩
  | @next reader reader' event reply _ stepped ih =>
    rcases ih with ⟨empty, idle⟩ | loading
    · cases event with
      | read method blob =>
        simp only [step, Option.some.injEq] at stepped
        cases result : reader.read method blob with
        | error e => simp [(read_eq_error.mp result).1] at empty
        | ok next =>
          simp only [result, Prod.mk.injEq] at stepped
          obtain ⟨rfl, -⟩ := stepped
          exact .inr (by rw [(read_eq_ok result).2])
      | complete i => simp [step, runTask, idle] at stepped
    · exact .inr (step_loading loading stepped)

theorem Reachable.state_ne_done {reader : FileReader} (reach : Reachable crates reader) :
    reader.state ≠ .Done := by
  rcases reach.new_or_loading with ⟨empty, -⟩ | loading <;> simp [*]

/-- Once a read is accepted the reader is `Loading` for good: after any run of events, that
read's own task included, `readyState` is `LOADING`, and every read method throws
`Invalid State for File Reader`, however long ago every task completed. No reader a run from a
new one reaches is ever `DONE`. -/
theorem read_locks_reader {reader accepted last : FileReader} {method : ReadMethod} {blob : Blob}
    {events : List ReaderEvent} {replies : List (Except ScriptError Unit)}
    (first : reader.step crates (.read method blob) = some (accepted, .ok ()))
    (later : accepted.run crates events = some (last, replies)) :
    (last.getReadyState = 1 ∧ ∀ method' blob', last.step crates (.read method' blob') =
      some (last, .error invalidStateError)) ∧
      ∀ reached, Reachable crates reached → reached.getReadyState ≠ 2 := by
  have loading : accepted.state = .Loading := by
    simp only [step, Option.some.injEq] at first
    cases result : reader.read method blob with
    | error e => simp [result] at first
    | ok next =>
      simp only [result, Prod.mk.injEq] at first
      rw [← first.1, (read_eq_ok result).2]
  have stays := run_loading loading later
  refine ⟨⟨by simp [getReadyState, stays, FileReaderState.toU8], fun method' blob' => ?_⟩,
    fun reached reach done => reach.state_ne_done ?_⟩
  · have rejected : last.read method' blob' = .error invalidStateError := read_eq_error.mpr ⟨stays, rfl⟩
    simp [step, rejected]
  · revert done
    unfold getReadyState
    cases reached.state <;> decide

end FileReader

/-- An encoding table without labels and a MIME parser that parses nothing: enough for reads
whose result does not depend on them. -/
def noLabels : EncodingCrates := ⟨fun _ => none, fun _ => none⟩

theorem second_read_after_completion_rejected :
    FileReader.default.step noLabels (.read .ArrayBuffer ⟨[1], none⟩) =
        some (⟨.Loading, .null, [⟨.ArrayBuffer, ⟨[1], none⟩⟩]⟩, .ok ()) ∧
      (⟨.Loading, .null, [⟨.ArrayBuffer, ⟨[1], none⟩⟩]⟩ : FileReader).run noLabels
        [.complete 0] = some (⟨.Loading, .arrayBuffer [1], []⟩, [.ok ()]) ∧
      (((⟨.Loading, .arrayBuffer [1], []⟩ : FileReader).getReadyState = 1 ∧
        ∀ method' blob', (⟨.Loading, .arrayBuffer [1], []⟩ : FileReader).step noLabels
          (.read method' blob') = some (⟨.Loading, .arrayBuffer [1], []⟩, .error invalidStateError)) ∧
        ∀ reached, FileReader.Reachable noLabels reached → reached.getReadyState ≠ 2) :=
  have first : FileReader.default.step noLabels (.read .ArrayBuffer ⟨[1], none⟩) =
      some (⟨.Loading, .null, [⟨.ArrayBuffer, ⟨[1], none⟩⟩]⟩, .ok ()) := rfl
  have later : (⟨.Loading, .null, [⟨.ArrayBuffer, ⟨[1], none⟩⟩]⟩ : FileReader).run noLabels
      [.complete 0] = some (⟨.Loading, .arrayBuffer [1], []⟩, [.ok ()]) := rfl
  ⟨first, later, FileReader.read_locks_reader first later⟩

end Spiderfire
