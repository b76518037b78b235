/-! Systems that move on inputs from their environment and emit events. A run is
a finite sequence of moves; its trace is what they emitted. -/

namespace Traces

variable {σ ι ε : Type} {step : ι → σ → Option (σ × List ε)} {start mid s s' : σ} {trace more events : List ε}

inductive Run (step : ι → σ → Option (σ × List ε)) (start : σ) : List ε → σ → Prop
  | refl : Run step start [] start
  | move {trace s input s' events} (run : Run step start trace s) (moved : step input s = some (s', events)) :
      Run step start (trace ++ events) s'

/-- What holds at the start and survives every move holds along every run. -/
theorem Run.invariant (run : Run step start trace s) (inv : List ε → σ → Prop) (initial : inv [] start)
    (preserved : ∀ {trace s input s' events}, inv trace s → step input s = some (s', events) → inv (trace ++ events) s') :
    inv trace s := by
  induction run with
  | refl => exact initial
  | move _ moved ih => exact preserved ih moved

/-- What every move costs is paid for by its credit and by a potential that it uses up. -/
theorem Run.amortized (run : Run step start trace s) (cost credit : List ε → Nat) (potential : σ → Nat)
    (costs : ∀ trace events, cost (trace ++ events) = cost trace + cost events)
    (credits : ∀ trace events, credit (trace ++ events) = credit trace + credit events)
    (pays : ∀ {s input s' events}, step input s = some (s', events) →
      cost events + potential s' ≤ credit events + potential s) :
    cost trace + potential s ≤ credit trace + potential start := by
  refine run.invariant (fun trace s => cost trace + potential s ≤ credit trace + potential start) ?_ ?_
  · have nothing := costs [] []
    rw [List.append_nil] at nothing
    omega
  · intro trace s input s' events before moved
    have paid := pays moved
    rw [costs, credits]
    omega

theorem Run.trans (first : Run step start trace mid) (last : Run step mid more s) : Run step start (trace ++ more) s := by
  induction last with
  | refl => rwa [List.append_nil]
  | move _ moved ih =>
    rw [← List.append_assoc]
    exact ih.move moved

def run (step : ι → σ → Option (σ × List ε)) : List ι → σ → Option (σ × List ε)
  | [], s => some (s, [])
  | input :: inputs, s => do
    let (mid, events) ← step input s
    let (last, more) ← run step inputs mid
    return (last, events ++ more)

theorem Run.of_run {inputs : List ι} (ran : run step inputs s = some (s', trace)) : Run step s trace s' := by
  induction inputs generalizing s trace with
  | nil =>
    cases ran
    exact .refl
  | cons input inputs ih =>
    obtain ⟨⟨mid, events⟩, moved, ran⟩ := Option.bind_eq_some_iff.mp ran
    obtain ⟨⟨last, more⟩, rest, ran⟩ := Option.bind_eq_some_iff.mp ran
    cases ran
    exact (Run.refl.move moved).trans (ih rest)

/-- One move of a run, with the states it leads from and to. -/
structure Move (σ ι ε : Type) where
  before : σ
  input : ι
  events : List ε
  after : σ

/-- The system whose trace is the moves themselves. -/
def recorded (step : ι → σ → Option (σ × List ε)) (input : ι) (s : σ) : Option (σ × List (Move σ ι ε)) := do
  let (after, events) ← step input s
  return (after, [⟨s, input, events, after⟩])

theorem recorded_some {input : ι} {moves : List (Move σ ι ε)} (moved : recorded step input s = some (s', moves)) :
    ∃ events, step input s = some (s', events) ∧ moves = [⟨s, input, events, s'⟩] := by
  obtain ⟨⟨after, events⟩, stepped, same⟩ := Option.bind_eq_some_iff.mp moved
  cases same
  exact ⟨events, stepped, rfl⟩

theorem recorded_of {input : ι} (moved : step input s = some (s', events)) :
    recorded step input s = some (s', [⟨s, input, events, s'⟩]) := by
  rw [recorded, moved]
  rfl

theorem recorded_inputs {inputs : List ι} {moves : List (Move σ ι ε)}
    (ran : run (recorded step) inputs s = some (s', moves)) : moves.map (·.input) = inputs := by
  induction inputs generalizing s moves with
  | nil =>
    cases ran
    rfl
  | cons input inputs ih =>
    obtain ⟨⟨mid, events⟩, moved, ran⟩ := Option.bind_eq_some_iff.mp ran
    obtain ⟨⟨last, more⟩, rest, ran⟩ := Option.bind_eq_some_iff.mp ran
    obtain ⟨made, -, rfl⟩ := recorded_some moved
    cases ran
    rw [List.singleton_append, List.map_cons, ih rest]

theorem Run.upTo {before after : List (Move σ ι ε)} {move : Move σ ι ε}
    (run : Run (recorded step) start (before ++ move :: after) s) :
      Run (recorded step) start (before ++ [move]) move.after := by
  generalize same : before ++ move :: after = moves at run
  induction run generalizing after with
  | refl => simp at same
  | @move moves mid input last added run moved ih =>
    obtain ⟨events, stepped, rfl⟩ := recorded_some moved
    rcases List.eq_nil_or_concat after with rfl | ⟨rest, final, rfl⟩
    · obtain ⟨rfl, single⟩ := List.append_inj' same rfl
      obtain rfl := List.singleton_inj.mp single
      exact run.move moved
    · rw [List.concat_eq_append, ← List.cons_append, ← List.append_assoc] at same
      exact ih (List.append_inj' same rfl).1

end Traces
