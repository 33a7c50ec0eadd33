import Spiderfire.Fetch.Panics

namespace Spiderfire

/-- What the promise `fetch` returns settles to: `fetch_internal`'s `Ok` resolves it with the
Response; its `Err` rejects it with the TypeError of a network error or with the reason the
abort signal fired with. -/
inductive Settlement (ρ : Type) where
  | resolved (response : Response)
  | typeError (message : String)
  | aborted (reason : ρ)

/-- The end of `fetch_internal`: a network error becomes the TypeError that names the request's
URL, any other response resolves the promise. -/
def settleFrom {ρ : Type} (url : Url) (response : Response) : Settlement ρ :=
  if response.kind = .Error then .typeError ("Network Error: Failed to fetch from " ++ url.serialization)
  else .resolved response

/-- The task `future_to_promise` spawns for a fetch, with `main_fetch` seen through its
suspension points (the transport calls and file reads it awaits): how many it has still to
pass, how many of the next ones are already ready, the reason the abort signal fired with, and
the promise's settlement. -/
structure FetchTask (ρ : Type) where
  awaiting : Nat
  ready : Nat
  signal : Option ρ
  settled : Option (Settlement ρ)

/-- What can happen while a fetch is in flight. -/
inductive TaskEvent (ρ : Type) where
  /-- The next suspension point of main_fetch that was not ready becomes ready. -/
  | ready
  /-- Modelled from the spec: the abort signal fires with `reason`; a signal fires once. -/
  | abort (reason : ρ)
  /-- The executor polls the task. -/
  | poll

namespace FetchTask

variable {ρ : Type}

/-- `fetch`: a signal that has already fired rejects the promise at once; otherwise the task is
spawned, with main_fetch not yet polled. -/
def start (awaiting : Nat) (signal : Option ρ) : FetchTask ρ :=
  ⟨awaiting, 0, signal, signal.map .aborted⟩

/-- One poll of `select(send, signal)` in `fetch_internal`. `select` polls main_fetch first: it
runs through every ready suspension point and, past the last one, returns, and the promise
settles from its result. Otherwise the signal's future is polled, which is ready once the
signal fired. -/
def poll (url : Url) (result : Response) (t : FetchTask ρ) : FetchTask ρ :=
  match t.settled with
  | some _ => t
  | none =>
    if t.ready = t.awaiting then
      { t with awaiting := 0, ready := 0, settled := some (settleFrom url result) }
    else
      match t.signal with
      | some reason => { t with awaiting := t.awaiting - t.ready, ready := 0,
                                settled := some (.aborted reason) }
      | none => { t with awaiting := t.awaiting - t.ready, ready := 0 }

def step (url : Url) (result : Response) (t : FetchTask ρ) : TaskEvent ρ → FetchTask ρ
  | .ready => { t with ready := min (t.ready + 1) t.awaiting }
  | .abort reason => { t with signal := t.signal.or (some reason) }
  | .poll => t.poll url result

def run (url : Url) (result : Response) (t : FetchTask ρ) (events : List (TaskEvent ρ)) :
    FetchTask ρ :=
  events.foldl (step url result) t

/-- What a poll of an unsettled task settles the promise to: main_fetch's result when it
returns at this poll, whether or not the signal fired; the abort reason when it does not and
the signal fired; nothing otherwise. -/
def verdict (url : Url) (result : Response) (t : FetchTask ρ) : Option (Settlement ρ) :=
  if t.ready = t.awaiting then some (settleFrom url result) else t.signal.map .aborted

variable (url : Url) (result : Response)

@[simp] theorem run_nil (t : FetchTask ρ) : t.run url result [] = t := rfl

@[simp] theorem run_cons (t : FetchTask ρ) (e : TaskEvent ρ) (events : List (TaskEvent ρ)) :
    t.run url result (e :: events) = (t.step url result e).run url result events := rfl

theorem step_settled {t : FetchTask ρ} {s : Settlement ρ} (settled : t.settled = some s)
    (e : TaskEvent ρ) : (t.step url result e).settled = some s := by
  cases e with
  | ready => exact settled
  | abort reason => exact settled
  | poll => simp [step, poll, settled]

theorem run_settled {t : FetchTask ρ} {s : Settlement ρ} (settled : t.settled = some s)
    (events : List (TaskEvent ρ)) : (t.run url result events).settled = some s := by
  induction events generalizing t with
  | nil => exact settled
  | cons e rest ih => exact ih (step_settled url result settled e)

theorem step_unsettled {t : FetchTask ρ} (unsettled : t.settled = none) (e : TaskEvent ρ) :
    (t.step url result e).settled = match e with
      | .poll => verdict url result t
      | _ => none := by
  cases e with
  | ready => exact unsettled
  | abort reason => exact unsettled
  | poll =>
    simp only [step, poll, unsettled, verdict]
    split
    · rfl
    · split <;> rename_i fired <;> simp [fired]

/-- Over every run of an unsettled task, the promise is settled to `s` exactly when some poll,
made while it was still unsettled, has `s` as its verdict. -/
theorem run_settled_iff {t : FetchTask ρ} (unsettled : t.settled = none)
    (events : List (TaskEvent ρ)) (s : Settlement ρ) :
    (t.run url result events).settled = some s ↔
      ∃ before after, events = before ++ .poll :: after ∧
        (t.run url result before).settled = none ∧ verdict url result (t.run url result before) = some s := by
  induction events generalizing t with
  | nil => simp [unsettled]
  | cons e rest ih =>
    rw [run_cons]
    cases decided : (t.step url result e).settled with
    | some s' =>
      have first : e = .poll ∧ verdict url result t = some s' := by
        rw [step_unsettled url result unsettled e] at decided
        cases e <;> simp_all
      rw [run_settled url result decided]
      constructor
      · rintro ⟨⟩
        exact ⟨[], rest, by simp [first.1], unsettled, first.2⟩
      · rintro ⟨before, after, split, still, verdictEq⟩
        cases before with
        | nil => exact first.2.symm.trans verdictEq
        | cons e' before =>
          obtain ⟨rfl, -⟩ := List.cons.inj split
          rw [run_cons, run_settled url result decided] at still
          cases still
    | none =>
      rw [ih decided]
      constructor
      · rintro ⟨before, after, rfl, still, verdictEq⟩
        exact ⟨e :: before, after, rfl, still, verdictEq⟩
      · rintro ⟨before, after, split, still, verdictEq⟩
        cases before with
        | nil =>
          obtain ⟨rfl, -⟩ := List.cons.inj split
          rw [step_unsettled url result unsettled] at decided
          simp_all
        | cons e' before =>
          obtain ⟨rfl, rfl⟩ := List.cons.inj split
          exact ⟨before, after, rfl, still, verdictEq⟩

/-- Every interleaving of a fetch: a signal fired before the call rejects the promise at once;
otherwise the promise settles at the first poll at which main_fetch returns or the signal has
fired, from main_fetch's result in the first case, even with the signal fired, and with the
abort reason in the second; and it never changes after. -/
theorem fetch_settlement (awaiting : Nat) (signal : Option ρ) (events : List (TaskEvent ρ))
    (s : Settlement ρ) :
    ((start awaiting signal).run url result events).settled = some s ↔
      signal.map .aborted = some s ∨
      signal = none ∧ ∃ before after, events = before ++ .poll :: after ∧
        ((start awaiting signal).run url result before).settled = none ∧
        verdict url result ((start awaiting signal).run url result before) = some s := by
  cases signal with
  | some reason =>
    rw [run_settled url result (s := .aborted reason) rfl]
    simp
  | none => simp [run_settled_iff url result (rfl : (start awaiting none : FetchTask ρ).settled = none)]

end FetchTask

def okResponse : Response := Response.new ⟨200, some "OK", HeaderMap.empty, []⟩ exampleUrl

theorem abort_then_transport_ready_resolves :
    ((FetchTask.start 1 none).run exampleUrl okResponse [.poll, .ready, .abort (), .poll]).settled =
      some (.resolved okResponse) := rfl

end Spiderfire
