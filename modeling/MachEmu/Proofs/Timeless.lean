import MachEmu.Lib.Unwinding
import MachEmu.Proofs.Consoles

/-! Only the io controller is told the time. Where it does not look at it, what a machine
does depends neither on its clock nor on the host it runs on. -/

namespace MachEmu.Proofs.Timeless
open Machine Loop Traces SteadyClock Intel8080 BusDiscipline Boundaries Timeline Calls PlainRam Consoles

variable {ω : Type} {setup : Setup ω} {time : CpuClock × Host × Int} {loop after after' : Loop ω}
  {events events' : List (Event ω)}
  {next : Loop ω → Loop ω}

/-- The loop with another clock, on another host, at another time. -/
def retimed (time : CpuClock × Host × Int) (loop : Loop ω) : Loop ω :=
  { loop with clock := time.1, host := time.2.1, currTime := time.2.2 }

def Untimed (loop after : Loop ω) : Prop := ∃ time, after = retimed time loop

theorem retimed_sys : (retimed time loop).sys = loop.sys := rfl

theorem retimed_accepts (handler : Bool) : (retimed time loop).accepts handler = loop.accepts handler := rfl

section Moves

def Commutes (time : CpuClock × Host × Int) (next : Loop ω → Loop ω) : Prop :=
  ∀ loop, next (retimed time loop) = retimed time (next loop)

theorem finish_commutes : Commutes time (finish (ω := ω)) := fun _ => rfl

theorem goto_commutes (point : Point) : Commutes time (goto (ω := ω) point) := fun _ => rfl

theorem powerOff_commutes : Commutes time (powerOff (ω := ω)) := fun _ => rfl

theorem loadFrom_retimed (commutes : Commutes time next) (result : Option (Except Fault String)) (loop : Loop ω) :
    (retimed time loop).loadFrom setup result next =
      (retimed time (loop.loadFrom setup result next).1, (loop.loadFrom setup result next).2) := by
  unfold loadFrom
  split
  next => rw [commutes]
  next => rfl
  next str =>
    rw [retimed_sys]
    split
    next state loaded => exact congrArg (·, _) (commutes { loop with sys := state })
    next => rfl

theorem discard_retimed (commutes : Commutes time next) (result : Option (Except Fault String)) (loop : Loop ω) :
    (retimed time loop).discard result next = retimed time (loop.discard result next) := by
  unfold Loop.discard
  split
  · rfl
  · exact commutes loop

theorem checkLoad_retimed (commutes : Commutes time next) (onLoad : Except Fault (Option String)) (loop : Loop ω) :
    (retimed time loop).checkLoad setup onLoad next =
      (retimed time (loop.checkLoad setup onLoad next).1, (loop.checkLoad setup onLoad next).2) := by
  let run := fun _ : Unit => loadTask onLoad
  have same : ({ retimed time loop with onLoad := (loop.onLoad.poll run).2 } : Loop ω).loadFrom setup
      (loop.onLoad.poll run).1 next = _ :=
    loadFrom_retimed commutes (loop.onLoad.poll run).1 { loop with onLoad := (loop.onLoad.poll run).2 }
  exact congrArg (fun out => (out.1, (loop.onLoad.runs.map run).map .returned ++ out.2)) same

theorem save_retimed (loop : Loop ω) :
    (retimed time loop).save setup = (loop.save setup).map fun (after, events) => (retimed time after, events) := by
  unfold Loop.save
  rw [retimed_accepts, retimed_sys]
  split
  next =>
    split
    next => rfl
    next => rfl
    next => rfl
    next => rfl
  next => rfl

theorem service_retimed (isr : ISR) (loop : Loop ω) :
    (retimed time loop).service setup isr = (loop.service setup isr).map fun (after, events) =>
      (retimed time after, events) := by
  cases isr with
  | save => exact save_retimed loop
  | load =>
    have loads : (retimed time loop).load setup = (retimed time (loop.load setup).1, (loop.load setup).2) := by
      unfold Loop.load
      rw [retimed_accepts]
      split
      · rfl
      · rfl
    exact congrArg some loads
  | _ => rfl

theorem quitLoad_retimed (onLoad : Except Fault (Option String)) (loop : Loop ω) :
    (retimed time loop).quitLoad setup onLoad = (loop.quitLoad setup onLoad).map fun (after, events) =>
      (retimed time after, events) := by
  have collected (result : Except Fault String) (runs : List (Event ω)) :
      some ((({ retimed time loop with onLoad := .invalid } : Loop ω).loadFrom setup (some result) (goto .quitSave)).1,
        runs ++ (({ retimed time loop with onLoad := .invalid } : Loop ω).loadFrom setup (some result)
          (goto .quitSave)).2) =
      (some ((({ loop with onLoad := .invalid } : Loop ω).loadFrom setup (some result) (goto .quitSave)).1,
        runs ++ (({ loop with onLoad := .invalid } : Loop ω).loadFrom setup (some result) (goto .quitSave)).2)).map
          fun (after, events) => (retimed time after, events) :=
    congrArg (fun out => some (out.1, runs ++ out.2))
      (loadFrom_retimed (goto_commutes .quitSave) (some result) { loop with onLoad := .invalid })
  obtain ⟨sys, clock, host, currTime, totalTicks, lastTicks, loadLaunchPolicy, saveLaunchPolicy, future,
    onSave, point⟩ := loop
  cases future with
  | invalid => rfl
  | deferred => exact collected _ _
  | running => rfl
  | ready => exact collected _ _

theorem quitSave_retimed (onSave : Except Fault Unit) (loop : Loop ω) :
    (retimed time loop).quitSave onSave = (loop.quitSave onSave).map fun (after, events) =>
      (retimed time after, events) := by
  have collected (result : Except Fault String) (runs : List (Event ω)) :
      some (({ retimed time loop with onSave := .invalid } : Loop ω).discard (some result) powerOff, runs) =
        some (retimed time (({ loop with onSave := .invalid } : Loop ω).discard (some result) powerOff), runs) :=
    congrArg (fun after => some (after, runs))
      (discard_retimed powerOff_commutes (some result) { loop with onSave := .invalid })
  obtain ⟨sys, clock, host, currTime, totalTicks, lastTicks, loadLaunchPolicy, saveLaunchPolicy, onLoad,
    future, point⟩ := loop
  cases future with
  | invalid => rfl
  | deferred => exact collected _ _
  | running => rfl
  | ready => exact collected _ _

theorem checkSave_retimed (onSave : Except Fault Unit) (loop : Loop ω) :
    (retimed time loop).checkSave onSave finish =
      (retimed time (loop.checkSave onSave finish).1, (loop.checkSave onSave finish).2) := by
  let run := fun _ : String => saveTask onSave
  have same : ({ retimed time loop with onSave := (loop.onSave.poll run).2 } : Loop ω).discard
      (loop.onSave.poll run).1 finish = _ :=
    discard_retimed finish_commutes (loop.onSave.poll run).1 { loop with onSave := (loop.onSave.poll run).2 }
  exact congrArg (fun after => (after, loop.onSave.runs.map Event.called)) same

/-- Away from the instructions nothing looks at the clock. -/
theorem turn_retimed (away : loop.point ≠ .head) (loaded : Except Fault (Option String)) (saved : Except Fault Unit) :
    (retimed time loop).turn setup loaded saved = (loop.turn setup loaded saved).map fun (after, events) =>
      (retimed time after, events) := by
  obtain ⟨sys, clock, host, currTime, totalTicks, lastTicks, loadLaunchPolicy, saveLaunchPolicy, onLoad,
    onSave, point⟩ := loop
  cases point with
  | head => exact absurd rfl away
  | serviced isr => exact service_retimed isr _
  | startedLoad => exact congrArg some (checkLoad_retimed finish_commutes loaded _)
  | startedSave => exact congrArg some (checkSave_retimed saved _)
  | reapLoad => exact congrArg some (checkLoad_retimed (goto_commutes .reapSave) loaded _)
  | reapSave => exact congrArg some (checkSave_retimed saved _)
  | quitLoad => exact quitLoad_retimed loaded _
  | quitSave => exact quitSave_retimed saved _
  | done => rfl
  | failed => rfl

/-- The io controller answers as if there were no time. -/
def TimeBlind (setup : Setup ω) : Prop := ∀ currTime other cycles,
  setup.ioController.serviceInterrupts currTime cycles = setup.ioController.serviceInterrupts other cycles

def ticked (setup : Setup ω) (ticks : Byte) (sys : System ω) (loop : Loop ω) (out : CpuClock × Host) :
    Option (Loop ω × List (Event ω)) :=
  if loop.totalTicks + ticks.toNat - loop.lastTicks ≥ setup.ticksPerIsr then
    match setup.ioController.serviceInterrupts (BitVec.ofInt 64 out.1.time)
      (BitVec.ofInt 64 (loop.totalTicks + ticks.toNat)) sys.world with
    | .ok isr world => some ((executed ticks { sys with world } out.1 out.2 loop).goto (.serviced isr), [.executed])
    | .error fault world => some ((executed ticks { sys with world } out.1 out.2 loop).fail fault, [.executed])
  else some (executed ticks sys out.1 out.2 loop, [.executed])

theorem ticked_retimed (blind : TimeBlind setup) (ticks : Byte) (sys : System ω) (loop : Loop ω)
    (out out' : CpuClock × Host) : ticked setup ticks sys (retimed time loop) out' =
      (ticked setup ticks sys loop out).map fun (after, events) =>
        (retimed (out'.1, out'.2, out'.1.time) after, events) := by
  unfold ticked
  rw [blind (BitVec.ofInt 64 out'.1.time) (BitVec.ofInt 64 out.1.time)]
  change (if loop.totalTicks + ticks.toNat - loop.lastTicks ≥ setup.ticksPerIsr then _ else _) = _
  split
  next =>
    change (match setup.ioController.serviceInterrupts (BitVec.ofInt 64 out.1.time)
      (BitVec.ofInt 64 (loop.totalTicks + ticks.toNat))
      sys.world with | .ok isr world => _ | .error fault world => _) = _
    split
    next => rfl
    next => rfl
  next => rfl

theorem instruction_untimed (blind : TimeBlind setup) (ran : loop.instruction setup = some (after, events))
    (ran' : (retimed time loop).instruction setup = some (after', events')) : events' = events ∧ Untimed after after' := by
  by_cases on : PoweredOn loop.sys.bus
  · cases execution : execute setup.wiring (pending loop) with
    | error fault sys =>
      rw [instruction_failed on execution] at ran
      rw [@instruction_failed _ _ (retimed time loop) _ _ on execution] at ran'
      cases ran
      cases ran'
      exact ⟨rfl, time, rfl⟩
    | ok ticks sys =>
      have instructs : ∀ loop : Loop ω, PoweredOn loop.sys.bus → execute setup.wiring (pending loop) = .ok ticks sys →
          loop.instruction setup = (loop.clock.tick (ticks.setWidth 64) loop.host).bind (ticked setup ticks sys loop) :=
        fun _ => instruction_executed
      rw [instructs loop on execution] at ran
      rw [instructs (retimed time loop) on execution] at ran'
      obtain ⟨out, -, ran⟩ := Option.bind_eq_some_iff.mp ran
      obtain ⟨out', -, ran'⟩ := Option.bind_eq_some_iff.mp ran'
      rw [ticked_retimed blind ticks sys loop out out', ran] at ran'
      cases ran'
      exact ⟨rfl, _, rfl⟩
  · rw [instruction_off on] at ran
    rw [@instruction_off _ _ (retimed time loop) on] at ran'
    cases ran
    cases ran'
    exact ⟨rfl, time, rfl⟩

theorem step_untimed (blind : TimeBlind setup) : Unwinds (Loop.step setup) Untimed := by
  rintro choice loop _ after after' events events' ⟨time, rfl⟩ moved moved'
  have mapped {out : Option (Loop ω × List (Event ω))} (made : out = some (after, events))
      (same : some (after', events') = out.map fun (after, events) => (retimed time after, events)) :
        events' = events ∧ Untimed after after' := by
    rw [made] at same
    cases same
    exact ⟨rfl, time, rfl⟩
  cases choice with
  | turn loaded saved =>
    by_cases here : loop.point = .head
    · have passes (loop : Loop ω) (here : loop.point = .head) :
          Loop.step setup (.turn loaded saved) loop = loop.instruction setup := by
        simp only [Loop.step, Loop.turn, here]
      rw [passes loop here] at moved
      rw [passes (retimed time loop) here] at moved'
      exact instruction_untimed blind moved moved'
    · exact mapped moved (moved'.symm.trans (turn_retimed here loaded saved))
  | loaded handler =>
    refine mapped moved (moved'.symm.trans ?_)
    obtain ⟨sys, clock, host, currTime, totalTicks, lastTicks, loadLaunchPolicy, saveLaunchPolicy, future,
      onSave, point⟩ := loop
    cases future <;> rfl
  | saved handler =>
    refine mapped moved (moved'.symm.trans ?_)
    obtain ⟨sys, clock, host, currTime, totalTicks, lastTicks, loadLaunchPolicy, saveLaunchPolicy, onLoad,
      future, point⟩ := loop
    cases future <;> rfl
  | outside world => exact mapped moved moved'.symm

end Moves

section Runs
variable {start start' loop' : Loop ω} {moves moves' : List (LoopMove ω)}

/-- Two runs on the same choices, with any two clocks on any two hosts, execute the same
instructions and get the same results, one after the other. -/
theorem run_timeless (blind : TimeBlind setup) (begins : Untimed start start')
    (run : Run (recorded (Loop.step setup)) start moves loop)
    (run' : Run (recorded (Loop.step setup)) start' moves' loop') (choices : moves'.map (·.input) = moves.map (·.input)) :
    List.Forall₂ (Alike Untimed) moves moves' ∧ Untimed loop loop' :=
  run.alike (step_untimed blind) run' begins choices

def hurried (start : Loop ω) : Loop ω :=
  retimed ((start.clock.setTickResolution 10000).2, ⟨0, (List.range 400).map fun n => (n * 1000 : Nat), []⟩, 0) start

/-- A greeting comes out the same at any speed, and not at the same time. -/
theorem greeting_timeless : ∃ (moves moves' : List (LoopMove (Ram CpmIoController)))
    (loop loop' : Loop (Ram CpmIoController)),
    Run (recorded (Loop.step cpmSetup)) cpmStart moves loop ∧
      Run (recorded (Loop.step cpmSetup)) (hurried cpmStart) moves' loop' ∧
      loop.currTime ≠ loop'.currTime ∧ loop.sys.world.io.message = [0x4F, 0x4B] ∧
      List.Forall₂ (Alike Untimed) moves moves' ∧
      Untimed loop loop' := by
  have shown : cpmRun.map (fun out => (out.1.currTime, out.1.sys.world.io.message)) = some (16, [0x4F, 0x4B]) := by
    decide +kernel
  have hurries :
      (Traces.run (recorded (Loop.step cpmSetup)) (List.replicate 67 (.turn (.ok none) (.ok ()))) (hurried cpmStart)).map
      (fun out => out.1.currTime) = some 86000 := by
    decide +kernel
  obtain ⟨⟨loop, moves⟩, ran, same⟩ := Option.map_eq_some_iff.mp shown
  obtain ⟨⟨loop', moves'⟩, ran', currTime'⟩ := Option.map_eq_some_iff.mp hurries
  obtain ⟨currTime, message⟩ := Prod.mk.inj same
  have blind : TimeBlind cpmSetup := fun _ _ _ => rfl
  obtain ⟨matched, untimed⟩ := run_timeless blind ⟨_, rfl⟩ (Run.of_run ran) (Run.of_run ran')
    ((recorded_inputs ran').trans (recorded_inputs ran).symm)
  refine ⟨moves, moves', loop, loop', Run.of_run ran, Run.of_run ran', ?_, message, matched, untimed⟩
  rw [currTime, currTime']
  decide

end Runs
end MachEmu.Proofs.Timeless
