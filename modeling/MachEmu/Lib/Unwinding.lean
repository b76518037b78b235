import MachEmu.Lib.Traces
import Mathlib.Data.List.Forall2

/-! Two runs of one system on the same inputs. What no single move can tell apart,
no run can tell apart. -/

namespace Traces

variable {σ ι ε : Type} {step : ι → σ → Option (σ × List ε)} {start start' s s' : σ} {moves moves' : List (Move σ ι ε)}

/-- States that no move tells apart. -/
def Unwinds (step : ι → σ → Option (σ × List ε)) (alike : σ → σ → Prop) : Prop :=
  ∀ ⦃input : ι⦄ ⦃s s' after after' : σ⦄ ⦃events events' : List ε⦄, alike s s' → step input s = some (after, events) →
    step input s' = some (after', events') → events' = events ∧ alike after after'

/-- Two moves that look the same from outside. -/
structure Alike (alike : σ → σ → Prop) (move move' : Move σ ι ε) : Prop where
  input : move'.input = move.input
  events : move'.events = move.events
  after : alike move.after move'.after

theorem Run.alike {alike : σ → σ → Prop} (unwinds : Unwinds step alike) (run : Run (recorded step) start moves s)
    (run' : Run (recorded step) start' moves' s') (begins : alike start start')
    (same : moves'.map (·.input) = moves.map (·.input)) : List.Forall₂ (Alike alike) moves moves' ∧ alike s s' := by
  induction run generalizing moves' s' with
  | refl =>
    cases run' with
    | refl => exact ⟨.nil, begins⟩
    | move earlier moved' =>
      obtain ⟨events', stepped', rfl⟩ := recorded_some moved'
      simp at same
  | move run moved ih =>
    obtain ⟨events, stepped, rfl⟩ := recorded_some moved
    cases run' with
    | refl => simp at same
    | move earlier moved' =>
      obtain ⟨events', stepped', rfl⟩ := recorded_some moved'
      rw [List.map_append, List.map_append] at same
      obtain ⟨before, last⟩ := List.append_inj' same rfl
      obtain ⟨matched, related⟩ := ih earlier before
      obtain rfl := List.singleton_inj.mp last
      obtain ⟨told, more⟩ := unwinds related stepped stepped'
      exact ⟨List.rel_append matched (.cons ⟨rfl, told, more⟩ .nil), more⟩

end Traces
