/-! The future of a task that was launched, as the thread that holds it sees it.
A task launched asynchronously runs elsewhere and finishes at any moment. A
deferred one runs in the thread that first waits for it. A result is collected
once: the future is invalid from then on. -/

inductive Launch where
  | async
  | deferred
deriving DecidableEq, Repr

inductive Future (τ α : Type) where
  | invalid
  | deferred (task : τ)
  | running (task : τ)
  | ready (result : α)
deriving DecidableEq, Repr

namespace Future

variable {τ α : Type}

def launch (policy : Launch) (task : τ) : Future τ α :=
  match policy with
  | .async => running task
  | .deferred => deferred task

def valid : Future τ α → Bool
  | invalid => false
  | _ => true

def tasks : Future τ α → List τ
  | deferred task => [task]
  | running task => [task]
  | _ => []

def results : Future τ α → List α
  | ready result => [result]
  | _ => []

/-- The task that runs in the thread that waits. -/
def runs : Future τ α → List τ
  | deferred task => [task]
  | _ => []

/-- Collect the result if that takes no waiting. -/
def poll (run : τ → α) : Future τ α → Option α × Future τ α
  | invalid => (none, invalid)
  | deferred task => (some (run task), invalid)
  | running task => (none, running task)
  | ready result => (some result, invalid)

def get (run : τ → α) : Future τ α → Option α
  | deferred task => some (run task)
  | ready result => some result
  | _ => none

section Accounting
variable (run : τ → α) (future : Future τ α) (policy : Launch) (task : τ)

@[simp] theorem tasks_launch : (launch policy task : Future τ α).tasks = [task] := by cases policy <;> rfl

@[simp] theorem results_launch : (launch policy task : Future τ α).results = [] := by cases policy <;> rfl

/-- A poll loses no task: it runs it or leaves it running. -/
theorem poll_tasks : future.runs ++ (future.poll run).2.tasks = future.tasks := by cases future <;> rfl

/-- A poll loses no result: it collects it or there was none. -/
theorem poll_results :
    (future.poll run).1.toList ++ (future.poll run).2.results = future.results ++ future.runs.map run := by
  cases future <;> rfl

theorem poll_valid (still : (future.poll run).2.valid) : future.valid := by
  cases future <;> first | rfl | exact still

theorem get_tasks {result : α} (got : future.get run = some result) : future.runs = future.tasks := by
  cases future <;> first | rfl | cases got

theorem get_results {result : α} (got : future.get run = some result) :
    [result] = future.results ++ future.runs.map run := by
  cases future <;> cases got <;> rfl

theorem tasks_of_invalid (invalid : ¬ future.valid) : future.tasks = [] := by
  cases future <;> first | rfl | exact absurd rfl invalid

theorem results_of_invalid (invalid : ¬ future.valid) : future.results = [] := by
  cases future <;> first | rfl | exact absurd rfl invalid

/-- A future is valid for as long as there is something to run or to collect. -/
theorem valid_iff : future.valid ↔ future.tasks ≠ [] ∨ future.results ≠ [] := by
  cases future <;> simp [valid, tasks, results]

end Accounting
end Future
