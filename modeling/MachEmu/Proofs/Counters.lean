import MachEmu.Proofs.Calls

/-! The clock and the counters of the loop. Only a pass of the loop changes them, and
every way back to its condition starts a new interval between two calls of `ServiceInterrupts`. -/

namespace MachEmu.Proofs.Counters
open Machine Loop Calls

variable {ω : Type} {setup : Setup ω} {loop after : Loop ω} {events : List (Event ω)}

def counters (loop : Loop ω) : CpuClock × SteadyClock.Host × Int × Int :=
  (loop.clock, loop.host, loop.currTime, loop.totalTicks)

/-- The loop thread moves on without a pass. -/
structure Rests (loop after : Loop ω) : Prop where
  counters : counters after = counters loop
  last : after.point = .head ∧ after.lastTicks = after.totalTicks ∨ after.point ≠ .head ∧ after.lastTicks = loop.lastTicks

def Resting (next : Loop ω → Loop ω) : Prop := ∀ loop, Rests loop (next loop)

theorem resting_finish : Resting (ω := ω) finish := fun _ => ⟨rfl, .inl ⟨rfl, rfl⟩⟩

theorem resting_goto {point : Point} (away : point ≠ .head) : Resting (ω := ω) (goto point) :=
  fun _ => ⟨rfl, .inr ⟨away, rfl⟩⟩

theorem resting_fail (fault : Fault) : Resting (ω := ω) (fail fault) := resting_goto Point.noConfusion

theorem resting_powerOff : Resting (ω := ω) powerOff := fun _ => ⟨rfl, .inl ⟨rfl, rfl⟩⟩

theorem load_rests (ran : loop.load setup = (after, events)) : Rests loop after := by
  unfold Loop.load at ran
  split at ran
  next =>
    cases ran
    exact ⟨rfl, .inr ⟨Point.noConfusion, rfl⟩⟩
  next =>
    cases ran
    exact resting_finish loop

theorem save_rests (ran : loop.save setup = some (after, events)) : Rests loop after := by
  unfold Loop.save at ran
  split at ran
  next =>
    split at ran
    next =>
      cases ran
      exact ⟨rfl, .inr ⟨Point.noConfusion, rfl⟩⟩
    next => cases ran
    next world =>
      cases ran
      exact ⟨rfl, .inl ⟨rfl, rfl⟩⟩
    next =>
      cases ran
      exact ⟨rfl, .inr ⟨Point.noConfusion, rfl⟩⟩
  next =>
    cases ran
    exact resting_finish loop

theorem service_rests {isr : ISR} (ran : loop.service setup isr = some (after, events)) : Rests loop after := by
  unfold service at ran
  split at ran
  next => exact load_rests (Option.some.inj ran)
  next => exact save_rests ran
  next =>
    cases ran
    exact resting_goto Point.noConfusion loop
  next =>
    cases ran
    exact resting_goto Point.noConfusion loop
  next =>
    split at ran
    next =>
      cases ran
      exact ⟨rfl, .inl ⟨rfl, rfl⟩⟩
    next =>
      cases ran
      exact resting_finish loop

variable {next : Loop ω → Loop ω}

theorem loadFrom_rests (rests : Resting next) {result : Option (Except Fault String)}
    (ran : loop.loadFrom setup result next = (after, events)) : Rests loop after := by
  unfold loadFrom at ran
  split at ran
  next =>
    cases ran
    exact rests loop
  next fault =>
    cases ran
    exact resting_fail fault loop
  next =>
    split at ran
    next sys loaded =>
      cases ran
      obtain ⟨counters, last⟩ := rests { loop with sys }
      exact ⟨counters, last⟩
    next fault sys loaded =>
      cases ran
      exact ⟨rfl, .inr ⟨Point.noConfusion, rfl⟩⟩

theorem discard_rests (rests : Resting next) (result : Option (Except Fault String)) :
    Rests loop (loop.discard result next) := by
  unfold Loop.discard
  split
  next fault => exact resting_fail fault loop
  next => exact rests loop

theorem turn_rests {loaded : Except Fault (Option String)} {saved : Except Fault Unit} (away : loop.point ≠ .head)
    (moved : loop.turn setup loaded saved = some (after, events)) : Rests loop after := by
  have unchanged {other : Loop ω} (rests : Rests other after) (counters : counters other = counters loop)
      (last : other.lastTicks = loop.lastTicks) : Rests loop after :=
    ⟨rests.counters.trans counters, rests.last.imp_right fun away => ⟨away.1, away.2.trans last⟩⟩
  unfold turn at moved
  split at moved
  next here => exact absurd here away
  next => exact service_rests moved
  next =>
    cases moved
    exact unchanged (loadFrom_rests resting_finish rfl) rfl rfl
  next =>
    cases moved
    exact unchanged (discard_rests resting_finish _) rfl rfl
  next =>
    cases moved
    exact unchanged (loadFrom_rests (resting_goto Point.noConfusion) rfl) rfl rfl
  next =>
    cases moved
    exact unchanged (discard_rests resting_finish _) rfl rfl
  next =>
    unfold quitLoad at moved
    split at moved
    next =>
      obtain ⟨result, -, moved⟩ := Option.bind_eq_some_iff.mp moved
      cases moved
      exact unchanged (loadFrom_rests (resting_goto Point.noConfusion) rfl) rfl rfl
    next =>
      cases moved
      exact resting_goto Point.noConfusion loop
  next =>
    unfold quitSave at moved
    split at moved
    next =>
      obtain ⟨result, -, moved⟩ := Option.bind_eq_some_iff.mp moved
      cases moved
      exact unchanged (discard_rests resting_powerOff _) rfl rfl
    next =>
      cases moved
      exact resting_powerOff loop
  next => cases moved
  next => cases moved

end MachEmu.Proofs.Counters
