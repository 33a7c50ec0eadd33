import Mathlib.Data.List.Infix

namespace Spiderfire

/-- `MicrotaskQueue`: the pending microtasks, front first, and the flag `run_jobs` holds while it
drains them. A microtask is named by `τ`; what it does when run is chosen by the run. -/
structure MicrotaskQueue (τ : Type) where
  queue : List τ
  draining : Bool
  deriving DecidableEq, Repr

/-- `MicrotaskQueue::enqueue`: `push_back`. -/
def MicrotaskQueue.enqueue {τ : Type} (q : MicrotaskQueue τ) (microtask : τ) : MicrotaskQueue τ :=
  { q with queue := q.queue ++ [microtask] }

/-- What the code holding the thread does next: the host between drains, otherwise the innermost
running microtask. `finish` is that microtask's `Microtask::run` returning. -/
inductive JobAction (τ ε : Type) where
  | enqueue (microtask : τ)
  | runJobs
  | finish (result : Except ε Unit)

/-- The queue, the microtasks its active `run_jobs` loops are running (innermost first), and the
history of the run: every microtask enqueued and every one popped to run, in order. -/
structure JobState (τ : Type) where
  jobs : MicrotaskQueue τ
  running : List τ
  enqueued : List τ
  started : List τ
  deriving DecidableEq, Repr

namespace JobState

variable {τ ε : Type}

/-- The runtime's queue as `MicrotaskQueue::default` builds it, before anything ran. -/
def init : JobState τ := ⟨⟨[], false⟩, [], [], []⟩

/-- The head of `while let Some(microtask) = self.queue.pop_front()`: run the front microtask, or
leave the loop, clear `draining` and return `Ok(())`. -/
def popFront (s : JobState τ) : JobState τ × Option (Except ε Unit) :=
  match s.jobs.queue with
  | [] => ({ s with jobs := ⟨[], false⟩ }, some (.ok ()))
  | microtask :: rest =>
    ({ s with
        jobs.queue := rest, running := microtask :: s.running, started := s.started ++ [microtask] },
      none)

/-- One action, with the result of the `run_jobs` call it completes, if it completes one.
`runJobs` is `run_jobs` up to its loop; a microtask returning `Err` leaves its loop through `?`,
which skips `self.draining = false`. `none`: `finish` while no microtask runs. -/
def step (s : JobState τ) : JobAction τ ε → Option (JobState τ × Option (Except ε Unit))
  | .enqueue microtask =>
    some ({ s with jobs := s.jobs.enqueue microtask, enqueued := s.enqueued ++ [microtask] }, none)
  | .runJobs =>
    some (if s.jobs.draining then (s, some (.ok ()))
      else popFront { s with jobs := { s.jobs with draining := true } })
  | .finish result =>
    match s.running, result with
    | [], _ => none
    | _ :: outer, .ok () => some (popFront { s with running := outer })
    | _ :: outer, .error e => some ({ s with running := outer }, some (.error e))

/-- A run of actions from `s`, with what each one returned; `none` if an action is not enabled. -/
def run (s : JobState τ) : List (JobAction τ ε) → Option (JobState τ × List (Option (Except ε Unit)))
  | [] => some (s, [])
  | a :: rest =>
    match s.step a with
    | none => none
    | some (next, reply) => (next.run rest).map fun (last, replies) => (last, reply :: replies)

/-- The states of every run from `init`: any interleaving of the host's and the microtasks'
enqueues, top-level and re-entrant `run_jobs` calls, successes and failures. -/
inductive Reachable (ε : Type) : JobState τ → Prop
  | start : Reachable ε init
  | next {s s' : JobState τ} {a : JobAction τ ε} {reply : Option (Except ε Unit)} :
      Reachable ε s → s.step a = some (s', reply) → Reachable ε s'

/-- What every reachable state satisfies: the history is the started microtasks followed by the
queue, at most one microtask runs, and one runs only while `draining` is set. -/
structure Invariant (s : JobState τ) : Prop where
  fifo : s.started ++ s.jobs.queue = s.enqueued
  running_le : s.running.length ≤ 1
  draining_of_running : s.running ≠ [] → s.jobs.draining = true

theorem popFront_invariant {s : JobState τ} (fifo : s.started ++ s.jobs.queue = s.enqueued)
    (idle : s.running = []) (draining : s.jobs.draining = true) :
    Invariant (popFront (ε := ε) s).1 := by
  unfold popFront
  split
  · rename_i empty
    exact ⟨by simpa [empty] using fifo, by simp [idle], by simp [idle]⟩
  · rename_i microtask rest front
    exact ⟨by simpa [front] using fifo, by simp [idle], fun _ => draining⟩

theorem popFront_ok {s s' : JobState τ} (pop : popFront (ε := ε) s = (s', some (.ok ()))) :
    s.jobs.queue = [] ∧ s' = { s with jobs := ⟨[], false⟩ } := by
  unfold popFront at pop
  split at pop
  · exact ⟨‹_›, (Prod.mk.inj pop).1.symm⟩
  · simp at pop

theorem step_invariant {s s' : JobState τ} {a : JobAction τ ε} {reply : Option (Except ε Unit)}
    (inv : Invariant s) (run : s.step a = some (s', reply)) : Invariant s' := by
  cases a with
  | enqueue microtask =>
    cases run
    exact ⟨by simp [MicrotaskQueue.enqueue, ← inv.fifo], inv.running_le, inv.draining_of_running⟩
  | runJobs =>
    simp only [step, Option.some.injEq] at run
    split at run
    · cases run; exact inv
    · rename_i idle
      have stopped : s.running = [] := by
        by_contra busy
        exact idle (inv.draining_of_running busy)
      have after := popFront_invariant (ε := ε) (s := { s with jobs.draining := true }) inv.fifo stopped rfl
      rwa [run] at after
  | finish result =>
    obtain ⟨fifo, running_le, draining_of_running⟩ := inv
    match s, result, run with
    | ⟨jobs, [current], enqueued, started⟩, .ok (), run =>
      have after := popFront_invariant (ε := ε) (s := ⟨jobs, [], enqueued, started⟩) fifo rfl
        (draining_of_running (List.cons_ne_nil _ _))
      rwa [Option.some.inj run] at after
    | ⟨jobs, [current], enqueued, started⟩, .error e, run =>
      cases run
      exact ⟨fifo, by simp, by simp⟩
    | ⟨jobs, _ :: _ :: _, enqueued, started⟩, _, _ => simp at running_le

theorem Reachable.invariant {s : JobState τ} (reach : Reachable ε s) : Invariant s := by
  induction reach with
  | start => exact ⟨rfl, by simp [init], by simp [init]⟩
  | next _ run ih => exact step_invariant ih run

theorem Reachable.run {s s' : JobState τ} {actions : List (JobAction τ ε)}
    {replies : List (Option (Except ε Unit))} (reach : Reachable ε s)
    (run : s.run actions = some (s', replies)) : Reachable ε s' := by
  induction actions generalizing s replies with
  | nil => cases run; exact reach
  | cons a rest ih =>
    simp only [JobState.run] at run
    split at run
    · cases run
    · rename_i next reply step
      obtain ⟨⟨last, replies'⟩, later, same⟩ := Option.map_eq_some'.mp run
      cases same
      exact ih (reach.next step) later

/-- Microtasks run in the order they were enqueued, each at most once; `run_jobs` called while
`draining` is set runs nothing and returns `Ok`; and whenever a drain that started with
`draining` clear returns `Ok`, the queue is empty, `draining` is clear, nothing runs, and every
microtask ever enqueued has been run. -/
theorem Reachable.fifo_drain {s : JobState τ} (reach : Reachable ε s) :
    s.started <+: s.enqueued ∧
    (s.jobs.draining = true → s.step (ε := ε) .runJobs = some (s, some (.ok ()))) ∧
    ∀ (a : JobAction τ ε) s', s.step a = some (s', some (.ok ())) →
      (a = .runJobs → s.jobs.draining = false) →
      s'.jobs.queue = [] ∧ s'.jobs.draining = false ∧ s'.running = [] ∧ s'.started = s'.enqueued := by
  have inv := reach.invariant
  refine ⟨⟨_, inv.fifo⟩, fun draining => by simp [step, draining], ?_⟩
  intro a s' run fresh
  have after := step_invariant inv run
  have drained : s'.jobs.queue = [] ∧ s'.jobs.draining = false ∧ s'.running = [] := by
    cases a with
    | enqueue => simp [step] at run
    | runJobs =>
      have idle := fresh rfl
      have stopped : s.running = [] := by
        by_contra busy
        simp [inv.draining_of_running busy] at idle
      simp only [step, idle, Option.some.injEq] at run
      obtain ⟨_, rfl⟩ := popFront_ok run
      exact ⟨rfl, rfl, stopped⟩
    | finish result =>
      match s, result, run, inv with
      | ⟨jobs, [current], enqueued, started⟩, .ok (), run, _ =>
        obtain ⟨_, rfl⟩ := popFront_ok (Option.some.inj run)
        exact ⟨rfl, rfl, rfl⟩
      | ⟨jobs, [current], enqueued, started⟩, .error e, run, _ => simp [step] at run
      | ⟨jobs, [], enqueued, started⟩, _, run, _ => simp [step] at run
      | ⟨jobs, _ :: _ :: _, enqueued, started⟩, _, _, inv => simpa using inv.running_le
  exact ⟨drained.1, drained.2.1, drained.2.2, by simpa [drained.1] using after.fifo⟩

def secondRunning : JobState Nat := ⟨⟨[], true⟩, [2], [1, 2], [1, 2]⟩

theorem secondRunning_fifo :
    init.run (ε := Unit) [.enqueue 1, .enqueue 2, .runJobs, .finish (.ok ())] =
        some (secondRunning, [none, none, none, none]) ∧
      secondRunning.started <+: secondRunning.enqueued ∧
      (secondRunning.jobs.draining = true →
        secondRunning.step (ε := Unit) .runJobs = some (secondRunning, some (.ok ()))) ∧
      ∀ (a : JobAction Nat Unit) s', secondRunning.step a = some (s', some (.ok ())) →
        (a = .runJobs → secondRunning.jobs.draining = false) →
        s'.jobs.queue = [] ∧ s'.jobs.draining = false ∧ s'.running = [] ∧ s'.started = s'.enqueued :=
  have runs : init.run (ε := Unit) [.enqueue 1, .enqueue 2, .runJobs, .finish (.ok ())] =
      some (secondRunning, [none, none, none, none]) := rfl
  ⟨runs, Reachable.fifo_drain (Reachable.start.run runs)⟩

/-- `draining` set with no microtask running: the state a failed microtask leaves behind. -/
def Stranded (s : JobState τ) : Prop := s.jobs.draining = true ∧ s.running = []

theorem Stranded.step {s s' : JobState τ} {a : JobAction τ ε} {reply : Option (Except ε Unit)}
    (stuck : Stranded s) (run : s.step a = some (s', reply)) :
    Stranded s' ∧ s'.started = s.started ∧ s.jobs.queue <+: s'.jobs.queue ∧
      (reply = none ∨ reply = some (.ok ())) := by
  obtain ⟨draining, idle⟩ := stuck
  cases a with
  | enqueue microtask =>
    cases run
    exact ⟨⟨draining, idle⟩, rfl, ⟨[microtask], rfl⟩, .inl rfl⟩
  | runJobs =>
    simp only [JobState.step, draining, if_true, Option.some.injEq, Prod.mk.injEq] at run
    obtain ⟨rfl, rfl⟩ := run
    exact ⟨⟨draining, idle⟩, rfl, List.prefix_refl _, .inr rfl⟩
  | finish => simp [JobState.step, idle] at run

theorem Stranded.run {s s' : JobState τ} {actions : List (JobAction τ ε)}
    {replies : List (Option (Except ε Unit))} (stuck : Stranded s)
    (run : s.run actions = some (s', replies)) :
    s'.jobs.draining = true ∧ s'.started = s.started ∧ s.jobs.queue <+: s'.jobs.queue ∧
      ∀ reply ∈ replies, reply = none ∨ reply = some (.ok ()) := by
  induction actions generalizing s replies with
  | nil => cases run; exact ⟨stuck.1, rfl, List.prefix_refl _, by simp⟩
  | cons a rest ih =>
    simp only [JobState.run] at run
    split at run
    · cases run
    · rename_i next reply step
      obtain ⟨⟨last, later⟩, rest_run, same⟩ := Option.map_eq_some'.mp run
      cases same
      obtain ⟨stuck', started, grown, quiet⟩ := stuck.step step
      obtain ⟨draining, started', grown', quiet'⟩ := ih stuck' rest_run
      refine ⟨draining, started'.trans started, grown.trans grown', ?_⟩
      intro r member
      rcases List.mem_cons.mp member with rfl | member
      · exact quiet
      · exact quiet' r member

/-- A microtask that fails ends its `run_jobs` through `?` with `draining` still set: that call
returns the error with the rest of the queue unrun, and from then on, whatever the host does,
every `run_jobs` returns `Ok` at once, no microtask runs again and the queue only grows. -/
theorem Reachable.error_strands {s s' last : JobState τ} {e : ε} {reply : Option (Except ε Unit)}
    {actions : List (JobAction τ ε)} {replies : List (Option (Except ε Unit))}
    (reach : Reachable ε s) (fail : s.step (.finish (.error e)) = some (s', reply))
    (later : s'.run actions = some (last, replies)) :
    reply = some (.error e) ∧ s'.jobs.queue = s.jobs.queue ∧ last.jobs.draining = true ∧
      last.started = s'.started ∧ s'.jobs.queue <+: last.jobs.queue ∧
      ∀ r ∈ replies, r = none ∨ r = some (.ok ()) := by
  have inv := reach.invariant
  match s, fail, inv with
  | ⟨jobs, [current], enqueued, started⟩, fail, inv =>
    simp only [step, Option.some.injEq, Prod.mk.injEq] at fail
    obtain ⟨rfl, rfl⟩ := fail
    have stuck : Stranded (⟨jobs, [], enqueued, started⟩ : JobState τ) :=
      ⟨inv.draining_of_running (List.cons_ne_nil _ _), rfl⟩
    exact ⟨rfl, rfl, stuck.run later⟩
  | ⟨jobs, [], enqueued, started⟩, fail, _ => simp [step] at fail
  | ⟨jobs, _ :: _ :: _, enqueued, started⟩, _, inv => simpa using inv.running_le

theorem failing_microtask_strands_next :
    (init.run (ε := Unit) [.enqueue 1, .enqueue 2, .runJobs] =
        some (⟨⟨[2], true⟩, [1], [1, 2], [1]⟩, [none, none, none]) ∧
      (⟨⟨[2], true⟩, [1], [1, 2], [1]⟩ : JobState Nat).step (.finish (.error ())) =
        some (⟨⟨[2], true⟩, [], [1, 2], [1]⟩, some (.error ())) ∧
      (⟨⟨[2], true⟩, [], [1, 2], [1]⟩ : JobState Nat).run (ε := Unit) [.runJobs] =
        some (⟨⟨[2], true⟩, [], [1, 2], [1]⟩, [some (.ok ())])) ∧
    (some (.error ()) = some (Except.error () : Except Unit Unit) ∧ [2] = [2] ∧ true = true ∧
      [1] = [1] ∧ [2] <+: [2] ∧
      ∀ r ∈ [some (Except.ok () : Except Unit Unit)], r = none ∨ r = some (.ok ())) :=
  have runs : init.run (ε := Unit) [.enqueue 1, .enqueue 2, .runJobs] =
      some (⟨⟨[2], true⟩, [1], [1, 2], [1]⟩, [none, none, none]) := rfl
  have later : (⟨⟨[2], true⟩, [], [1, 2], [1]⟩ : JobState Nat).run (ε := Unit) [.runJobs] =
      some (⟨⟨[2], true⟩, [], [1, 2], [1]⟩, [some (.ok ())]) := rfl
  ⟨⟨runs, rfl, later⟩, Reachable.error_strands (Reachable.start.run runs) rfl later⟩

end JobState

end Spiderfire
