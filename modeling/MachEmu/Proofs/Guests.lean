import MachEmu.Lib.Isa8080Logic
import MachEmu.Proofs.Reference
import MachEmu.Proofs.Times

/-! What is proved of a guest program by the rules of the 8080 holds of the machine that
runs it, along every run. The clock periods of its instructions are the meter. -/

namespace MachEmu.Proofs.Guests
open Isa8080 StatusByte PlainRam Instructions BusDiscipline Boundaries
open Machine Loop Traces Calls Counters Timeline Deliveries Conversations Reference

variable {δ γ : Type} {setup : Setup (Ram δ)} {io : Ports δ} {service : BitVec 64 → BitVec 64 → δ → ISR × δ}
  {start loop after : Loop (Ram δ)} {events : List (Event (Ram δ))} {moves : List (LoopMove (Ram δ))} {waiting : ISR}
  {meter : Flags → Instr → γ → γ} {during : State δ → Prop} {goal : γ → State δ → Prop} {reading : γ}
  {shows : γ → Loop (Ram δ) → Prop}

/-- A meter that keeps up with the counters and the clock of the loop. -/
structure Metered (meter : Flags → Instr → γ → γ) (shows : γ → Loop (Ram δ) → Prop) : Prop where
  rests : ∀ {reading : γ} {loop after : Loop (Ram δ)}, counters after = counters loop →
    shows reading loop → shows reading after
  ticks : ∀ {reading : γ} {loop after : Loop (Ram δ)} {flags : Flags} {instr : Instr},
    loop.clock.tick ((charge flags instr).setWidth 64) loop.host = some (after.clock, after.host) →
    after.currTime = after.clock.time → after.totalTicks = loop.totalTicks + (charge flags instr).toNat →
    shows reading loop → shows (meter flags instr reading) after

/-- Where a program is, and what its meter reads. -/
structure Leading (io : Ports δ) (meter : Flags → Instr → γ → γ) (shows : γ → Loop (Ram δ) → Prop)
    (during : State δ → Prop) (goal : γ → State δ → Prop) (reading : γ) (loop : Loop (Ram δ)) : Prop where
  leads : Leads io.device meter during goal reading (view loop.sys)
  shown : shows reading loop
  form : StatusForm loop.sys.cpu.status

section Steps

theorem Leading.rests (leading : Leading io meter shows during goal reading loop) (metered : Metered meter shows)
    (same : view after.sys = view loop.sys) (cpu : after.sys.cpu = loop.sys.cpu) (still : counters after = counters loop) :
    Leading io meter shows during goal reading after := by
  obtain ⟨leads, shown, form⟩ := leading
  exact ⟨same ▸ leads, metered.rests still shown, cpu ▸ form⟩

theorem pass_leading (wired : Wired setup io service) (metered : Metered meter shows) (here : loop.point = .head)
    (waits : Waits waiting loop) {made : List Access} (pass : Pass setup loop after made)
    (leading : Leading io meter shows during goal reading loop) :
    goal reading (view loop.sys) ∨ ∃ reading, Leading io meter shows during goal reading after := by
  by_cases on : PoweredOn loop.sys.bus
  · obtain reached | ⟨-, instr, decoded, runs, masked, -, rest⟩ := leading.leads.cycle ⟨view loop.sys, none⟩
    · exact .inl reached
    obtain ⟨bus, quiet, begun⟩ := pending_interrupted waits here on
    have off : waiting.cpuLevel = none ∨ loop.sys.cpu.iff = false := .inr masked
    obtain ⟨last, execution, same, formed, -⟩ :=
      execute_masked (s := { loop.sys with bus }) wired leading.form quiet off decoded runs
    rw [← begun] at execution
    have led : Leads io.device meter during goal (meter (view loop.sys).flags instr reading) (view last) := by
      rw [same]
      exact rest
    refine .inr ⟨meter (view loop.sys).flags instr reading, ?_⟩
    cases pass with
    | off off => exact absurd on off
    | failed _ failed => cases execution.symm.trans failed
    | counted _ executed ticked =>
      cases execution.symm.trans executed
      exact ⟨led, metered.ticks ticked rfl rfl leading.shown, formed⟩
    | serviced _ executed ticked _ called =>
      cases execution.symm.trans executed
      rw [wired.io] at called
      cases called
      exact ⟨led.beside _, metered.ticks ticked rfl rfl leading.shown, formed⟩
    | threw _ _ _ _ called =>
      rw [wired.io] at called
      cases called
  · cases pass with
    | off => exact .inr ⟨reading, leading.rests metered rfl rfl rfl⟩
    | failed powered => exact absurd powered on
    | counted powered => exact absurd powered on
    | serviced powered => exact absurd powered on
    | threw powered => exact absurd powered on

theorem turn_leading (wired : Wired setup io service) (metered : Metered meter shows)
    {loaded : Except Fault (Option String)}
    {saved : Except Fault Unit} (away : loop.point ≠ .head) (waits : Waits waiting loop)
    (ran : loop.turn setup loaded saved = some (after, events)) (unloaded : Unloaded events)
    (leading : Leading io meter shows during goal reading loop) : Leading io meter shows during goal reading after := by
  have reads (addr : Word) : ErrorState.Frames id (setup.memoryController.read addr) := by
    obtain ⟨uuid, memory⟩ := wired.memory
    rw [memory]
    exact fun _ => rfl
  have raises : ∀ happening ∈ happenings setup service ⟨loop, .turn loaded saved, events, after⟩, ∃ level,
      happening = .raise level := by
    intro happening member
    unfold happenings at member
    split at member
    next here => exact absurd here away
    next =>
      obtain ⟨level, -, rfl⟩ := List.mem_map.mp member
      exact ⟨_, rfl⟩
    next turns => cases turns
    next => cases member
  have happens : Board.run io.device (happenings setup service ⟨loop, .turn loaded saved, events, after⟩)
      (board loop) = some (board after) ∧
      after.sys.cpu = loop.sys.cpu := turn_happens reads away waits ran unloaded
  obtain ⟨happened, cpu⟩ := happens
  exact leading.rests metered (Board.run_raises raises happened) cpu (turn_rests away ran).counters

theorem step_leading (wired : Wired setup io service) (metered : Metered meter shows) (waits : Waits waiting loop)
    {choice : Choice (Ram δ)} (alone : ∀ world, choice ≠ .outside world)
    (moved : Loop.step setup choice loop = some (after, events))
    (unloaded : Unloaded events) (leading : Leading io meter shows during goal reading loop) :
    goal reading (view loop.sys) ∨ ∃ reading, Leading io meter shows during goal reading after := by
  rcases step_calls moved with ⟨here, -, pass⟩ | ⟨apart, -⟩
  · exact pass_leading wired metered here waits pass leading
  · refine .inr ⟨reading, ?_⟩
    cases Requests.step_taken moved with
    | turn ran =>
      exact turn_leading wired metered (apart.resolve_right fun other => other _ _ rfl) waits ran unloaded leading
    | loaded => exact leading.rests metered rfl rfl rfl
    | saved => exact leading.rests metered rfl rfl rfl
    | outside => exact absurd rfl (alone _)

end Steps

section Runs
variable {lib : Libraries} {build : Build}

def passed (start : Loop (Ram δ)) (moves : List (LoopMove (Ram δ))) : List (Loop (Ram δ)) := start :: moves.map (·.after)

theorem run_leading (entered : Lifecycle.Entered lib build setup start) (wired : Wired setup io service)
    (metered : Metered meter shows)
    (leads : Leads io.device meter during goal reading (view start.sys)) (shown : shows reading start)
    (run : Run (recorded (Loop.step setup)) start moves loop) (unloaded : ∀ move ∈ moves, Unloaded move.events)
    (alone : Alone moves) :
    (∃ state ∈ passed start moves, ∃ reading, shows reading state ∧ goal reading (view state.sys)) ∨
      during (view loop.sys) := by
  obtain ⟨quiet, here, -, -⟩ := entered.begins
  obtain ⟨-, form⟩ := Entered.board entered
  have along : (∃ waiting, Waits waiting loop) ∧ loop ∈ passed start moves ∧
      ((∀ move ∈ moves, Unloaded move.events) → Alone moves →
      (∃ state ∈ passed start moves, ∃ reading, shows reading state ∧ goal reading (view state.sys)) ∨
        ∃ reading, Leading io meter shows during goal reading loop) := by
    refine run.invariant (fun moves loop => (∃ waiting, Waits waiting loop) ∧ loop ∈ passed start moves ∧
      ((∀ move ∈ moves, Unloaded move.events) → Alone moves →
        (∃ state ∈ passed start moves, ∃ reading, shows reading state ∧ goal reading (view state.sys)) ∨
          ∃ reading, Leading io meter shows during goal reading loop)) ?_ ?_
    · exact ⟨⟨.noInterrupt, waits_head here quiet rfl⟩, List.mem_cons_self .., fun _ _ =>
        .inr ⟨reading, leads, shown, form⟩⟩
    · intro moves loop choice after added ⟨⟨waiting, waits⟩, among, before⟩ moved
      obtain ⟨events, stepped, rfl⟩ := recorded_some moved
      have more : passed start (moves ++ [⟨loop, choice, events, after⟩]) = passed start moves ++ [after] := by
        rw [passed, List.map_append]
        rfl
      rw [more]
      refine ⟨⟨_, @step_waits _ _ _ _ _ _ ⟨[], waiting⟩ waits stepped⟩,
        List.mem_append_right _ (List.mem_singleton_self _), ?_⟩
      intro unloaded alone
      obtain ⟨earlier, last⟩ := List.forall_mem_append.mp unloaded
      obtain ⟨others, mine⟩ := List.forall_mem_append.mp alone
      rcases before earlier others with ⟨state, member, reached⟩ | ⟨reading, leading⟩
      · exact .inl ⟨state, List.mem_append_left _ member, reached⟩
      · rcases step_leading wired metered waits (mine _ (List.mem_singleton_self _)) stepped
          (last _ (List.mem_singleton_self _)) leading
          with reached | leading'
        · exact .inl ⟨loop, List.mem_append_left _ among, reading, leading.shown, reached⟩
        · exact .inr leading'
  obtain ⟨-, among, outcome⟩ := along
  rcases outcome unloaded alone with reached | ⟨reading, leads, shown, -⟩
  · exact .inl reached
  · rcases leads.cycle ⟨view loop.sys, none⟩ with reached | ⟨holds, -⟩
    · exact .inl ⟨loop, among, reading, shown, reached⟩
    · exact .inr holds

def cycles (flags : Flags) (instr : Instr) (passed : Nat) : Nat := passed + (charge flags instr).toNat

theorem cycles_metered : Metered cycles fun (passed : Nat) (loop : Loop (Ram δ)) => loop.totalTicks = passed where
  rests still shown := (congrArg (·.2.2.2) still).trans shown
  ticks _ _ total shown := by rw [total, shown, cycles, Int.natCast_add]

theorem Entered.unticked (entered : Lifecycle.Entered lib build setup start) : start.totalTicks = 0 := by
  obtain ⟨-, -, -, launches, -, started⟩ := entered
  rw [Lifecycle.launch_ok launches] at started
  obtain ⟨loadAsync, -, started⟩ := ErrorState.except_bind_ok_iff.mp started
  obtain ⟨saveAsync, -, started⟩ := ErrorState.except_bind_ok_iff.mp started
  cases started
  rfl

/-- However a run interleaves with requests, devices, saves and interrupts, its program is on its way
until the run comes to the goal, after as many cycles as the instructions take. -/
theorem run_leads (entered : Lifecycle.Entered lib build setup start) (wired : Wired setup io service)
    {goal : Nat → State δ → Prop} (leads : Leads io.device cycles during goal 0 (view start.sys))
    (run : Run (recorded (Loop.step setup)) start moves loop)
    (unloaded : ∀ move ∈ moves, Unloaded move.events) (alone : Alone moves) :
    (∃ state ∈ passed start moves, ∃ passed : Nat, state.totalTicks = passed ∧ goal passed (view state.sys)) ∨
      during (view loop.sys) :=
  run_leading entered wired cycles_metered leads (Entered.unticked entered) run unloaded alone

end Runs

section Session
open Lifecycle

def nopWorld : Ram Nat := ⟨fun _ => 0, 0⟩

def nopStart : Loop (Ram Nat) := { raisingStart with sys := { world := nopWorld } }

def nopRun : Option (Loop (Ram Nat) × List (LoopMove (Ram Nat))) :=
  Traces.run (recorded (Loop.step raisingSetup)) (List.replicate 11 (.turn (.ok none) (.ok ()))) nopStart

theorem nop_leads {goal : Nat → State Nat → Prop} {passed : Nat} {s : State Nat} (mem : s.mem = fun _ => 0)
    (masked : s.inte = false) (early : s.pc ≠ 3) (rest : Leads quietPorts.device cycles (·.pc ≠ 3) goal (passed + 4)
      (exec quietPorts.device .nop s)) :
    Leads quietPorts.device cycles (·.pc ≠ 3) goal passed s := by
  have decoded : decode (s.mem s.pc) = some .nop := by
    rw [mem]
    change decode 0x00 = some .nop
    decide
  exact .silent masked (fun _ => early) decoded nofun nofun nofun rest

/-- Three instructions, though an interrupt is requested after the first. -/
theorem raised_leads : ∃ (moves : List (LoopMove (Ram Nat))) (loop : Loop (Ram Nat)),
    Run (recorded (Loop.step raisingSetup)) nopStart moves loop ∧ loop.point = .done ∧
      ∃ state ∈ passed nopStart moves, ∃ cycles : Nat, state.totalTicks = cycles ∧ cycles = 12 ∧
      (view state.sys).pc = 3 := by
  have entered : enter sessionLibraries ⟨true, false⟩ nopWorld
      [.setMemoryController (some (ramController (Vector.replicate 16 0))),
        .setIoController (some raisingController)] 0 [1, 2, 3] =
        some (raisingSetup, nopStart) := by
    with_unfolding_all rfl
  have outcome :
      nopRun.map (fun out => (out.1.point, out.1.sys.cpu.pc, out.2.flatMap fun move => move.events.filterMap loadedText,
      out.2.map (·.input))) = some (.done, 3, [], List.replicate 11 (.turn (.ok none) (.ok ()))) := by
    with_unfolding_all rfl
  obtain ⟨⟨loop, moves⟩, ran, same⟩ := Option.map_eq_some_iff.mp outcome
  simp only [Prod.mk.injEq, List.flatMap_eq_nil_iff] at same
  obtain ⟨done, pc, silent, inputs⟩ := same
  have run : Run (recorded (Loop.step raisingSetup)) nopStart moves loop := Run.of_run ran
  have alone : Alone moves := alone_of (by rw [inputs]; exact fun choice member => ⟨_, _, List.eq_of_mem_replicate member⟩)
  have leads : Leads quietPorts.device cycles (·.pc ≠ 3) (fun cycles s => cycles = 12 ∧ s.pc = 3) 0 (view nopStart.sys) :=
    nop_leads rfl rfl
      (by decide) <| nop_leads rfl rfl (by decide) <| nop_leads rfl rfl (by decide) <| .done fun _ => ⟨rfl, rfl⟩
  have ended := run_leads (enter_entered entered) ⟨⟨_, rfl⟩, rfl⟩ leads run
      (fun move member => unloaded_of (silent move member)) alone
  exact ⟨moves, loop, run, done, ended.resolve_right fun early => early pc⟩

end Session
end MachEmu.Proofs.Guests
