import MachEmu.Proofs.Lifecycle
import MachEmu.Proofs.Timeline

/-! How often interrupts are serviced, and with which count of cycles. -/

namespace MachEmu.Proofs.ServiceCadence
open Machine Loop Traces Cadence Calls Timeline

variable {ω : Type} {setup : Setup ω} {start loop : Loop ω}

structure Serviced (threshold : Int) (marks : List (Mark Served)) : Prop where
  /-- Without a threshold every execution is followed by a call. -/
  every : threshold ≤ 0 → ∀ before amount after, marks = before ++ .work amount :: after → ∃ call rest,
    after = .stop call :: rest
  /-- The ticks up to a call, from the start of the loop or the call before. -/
  between : 0 < threshold → ∀ before gap call after, marks = before ++ gap ++ .stop call :: after →
    Fresh before → ¬ Stops gap →
    threshold ≤ total gap ∧ total gap < threshold + 18
  cycles : ∀ before call after, marks = before ++ .stop call :: after → call.cycles = BitVec.ofNat 64 (total before)
  quit : ∀ before call after, marks = before ++ .stop call :: after → call.result = .ok .quit → after = []

theorem run_serviced {sys : System ω} {clock : CpuClock} {host : SteadyClock.Host} {moves : List (LoopMove ω)}
    (entered : Loop.start setup sys clock host = .ok start) (run : Run (recorded (Loop.step setup)) start moves loop) :
    Serviced setup.ticksPerIsr (timeline setup moves) := by
  obtain ⟨paces, quits⟩ := run_paces run (start_paces entered)
  constructor
  · intro none before amount after same
    exact paces.paced.works same (by omega)
  · intro positive before gap call after same fresh unstopped
    have paced := paces.paced
    have small := paces.small
    rw [same] at paced small
    refine paced.between fresh unstopped ?_ positive
    intro mark member
    exact small mark (by simp [member])
  · exact paces.cycles
  · intro before call after same quit
    exact (quits before call after same quit).1

section Session
open Lifecycle

/-- A program of instructions that do nothing, with a call every ten ticks. -/
def idleSetup : Setup Unit where
  lib := sessionLibraries
  build := ⟨true, false⟩
  opt := Opt.init ⟨true, false⟩
  memoryController := quitter (return 0)
  ioController := quitter (return 0)
  ticksPerIsr := 10
  onLoad := false
  onSave := false

def idleStart : Except Fault (Loop Unit) :=
  Loop.start idleSetup { world := () } (CpuClock.make 2000000 1) ⟨0, [1, 2, 3, 4], []⟩

def idleRun : Option (Loop Unit × Loop Unit × List (LoopMove Unit)) :=
  match idleStart with
  | .error _ => none
  | .ok start =>
    (Traces.run (recorded (Loop.step idleSetup)) (List.replicate 5 (.turn (.ok none) (.ok ()))) start).map
      fun out => (start, out)

theorem idleRun_some {start loop : Loop Unit} {moves : List (LoopMove Unit)} (ran : idleRun = some (start, loop, moves)) :
    Loop.start idleSetup { world := () } (CpuClock.make 2000000 1) ⟨0, [1, 2, 3, 4], []⟩ = .ok start ∧
      Run (recorded (Loop.step idleSetup)) start moves loop := by
  unfold idleRun at ran
  split at ran
  next => cases ran
  next entered =>
    obtain ⟨out, moved, same⟩ := Option.map_eq_some_iff.mp ran
    cases same
    exact ⟨entered, Run.of_run moved⟩

theorem run_serviced_idle : ∃ (start loop : Loop Unit) (moves : List (LoopMove Unit)), idleRun = some (start, loop, moves) ∧
    timeline idleSetup moves = [.work 4, .work 4, .work 4, .stop ⟨3, 12, .ok .quit⟩] ∧
    Serviced idleSetup.ticksPerIsr (timeline idleSetup moves) := by
  have outcome : idleRun.map (fun out => timeline idleSetup out.2.2) =
      some [.work 4, .work 4, .work 4, .stop ⟨3, 12, .ok .quit⟩] := by with_unfolding_all rfl
  obtain ⟨⟨start, loop, moves⟩, ran, same⟩ := Option.map_eq_some_iff.mp outcome
  obtain ⟨entered, run⟩ := idleRun_some ran
  exact ⟨start, loop, moves, ran, same, run_serviced entered run⟩

end Session
end MachEmu.Proofs.ServiceCadence
