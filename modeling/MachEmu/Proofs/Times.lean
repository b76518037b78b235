import MachEmu.Proofs.Lockstep
import MachEmu.Proofs.Pacing

/-! The time and the count of cycles that a run shows to the outside. In the first run of a
machine the time never goes back and never passes that of the host, and the cycles never
run ahead of it by more than a period of the clock. -/

namespace MachEmu.Proofs.Times
open Machine Loop Traces SteadyClock CpuClock BusDiscipline Calls Counters Timeline Lockstep ClockReset ErrorState

variable {ω : Type} {setup : Setup ω} {loop after start : Loop ω} {events : List (Event ω)} {epoch resolution : Int}

/-- The time and the cycles of a loop, at 500 nanoseconds a cycle. -/
structure Timely (epoch resolution : Int) (loop : Loop ω) : Prop where
  past : loop.currTime ≤ loop.host.last - epoch
  covered : loop.totalTicks * 500 < loop.currTime + max 1 (resolution / 500) * 500

section Steps

def Shows (loop : Loop ω) (call : Served) : Prop :=
  call.currTime = BitVec.ofInt 64 loop.currTime ∧ call.cycles = BitVec.ofInt 64 loop.totalTicks

/-- Clock and counters go on together, by the ticks of an execution, or stand still. -/
inductive Advance (loop after : Loop ω) : Prop
  | rests (same : counters after = counters loop)
  | ticks (ticks : Byte) (few : ticks.toNat ≤ 18)
      (ticked : loop.clock.tick (ticks.setWidth 64) loop.host = some (after.clock, after.host))
      (shown : after.currTime = after.clock.time) (total : after.totalTicks = loop.totalTicks + ticks.toNat)

theorem step_advance {choice : Choice ω} (moved : Loop.step setup choice loop = some (after, events)) :
    Advance loop after ∧ ∀ call ∈ served (calls setup choice loop), Shows after call := by
  rcases step_calls moved with ⟨-, -, pass⟩ | ⟨apart, only⟩
  · generalize calls setup choice loop = made at pass
    cases pass with
    | off => exact ⟨.rests rfl, List.forall_mem_nil _⟩
    | failed on execution only =>
      refine ⟨.rests rfl, ?_⟩
      rw [served_transfers only]
      exact List.forall_mem_nil _
    | counted on execution ticked early only =>
      refine ⟨.ticks _ (Ticks.execute_most execution) ticked rfl rfl, ?_⟩
      rw [served_transfers only]
      exact List.forall_mem_nil _
    | serviced on execution ticked due called only =>
      refine ⟨.ticks _ (Ticks.execute_most execution) ticked rfl rfl, ?_⟩
      rw [served_last only]
      exact List.forall_mem_singleton.mpr ⟨rfl, rfl⟩
    | threw on execution ticked due called only =>
      refine ⟨.ticks _ (Ticks.execute_most execution) ticked rfl rfl, ?_⟩
      rw [served_last only]
      exact List.forall_mem_singleton.mpr ⟨rfl, rfl⟩
  · rw [served_transfers only]
    refine ⟨?_, List.forall_mem_nil _⟩
    cases Requests.step_taken moved with
    | turn ran => exact .rests (turn_rests (apart.resolve_right fun other => other _ _ rfl) ran).counters
    | loaded => exact .rests rfl
    | saved => exact .rests rfl
    | outside => exact .rests rfl

end Steps

section Samples

/-- What the loop has read from a clock that was reset at `epoch`. -/
structure Sampled (epoch : Int) (loop : Loop ω) : Prop where
  steady : loop.host.Steady
  shown : loop.currTime = loop.clock.time
  epoch : loop.clock.epoch = epoch
  time : loop.clock.time = loop.clock.lastTime - loop.clock.epoch
  passed : loop.clock.lastTime ≤ loop.host.last

theorem Sampled.past (sampled : Sampled epoch loop) : loop.currTime ≤ loop.host.last - epoch := by
  obtain ⟨-, shown, rfl, time, passed⟩ := sampled
  omega

theorem tick_sampled {clock ticked : CpuClock} {host last : Host} {ticks : BitVec 64} (steady : host.Steady)
    (time : clock.time = clock.lastTime - clock.epoch) (passed : clock.lastTime ≤ host.last)
    (ran : clock.tick ticks host = some (ticked, last)) : last.Steady ∧ ticked.epoch = clock.epoch ∧
      ticked.time = ticked.lastTime - ticked.epoch ∧ clock.time ≤ ticked.time ∧ ticked.lastTime ≤ last.last := by
  rcases tick_cases ran with ⟨-, correlates⟩ | ⟨-, -, rfl, rfl⟩ | ⟨-, -, samples⟩
  · obtain ⟨first, looked, look, correlates⟩ := bind_some_iff.mp correlates
    obtain ⟨left, rested, sleeps, correlates⟩ := bind_some_iff.mp correlates
    obtain ⟨error, spun, spins, correlates⟩ := bind_some_iff.mp correlates
    obtain ⟨lastTime, shown, samples, correlates⟩ := bind_some_iff.mp correlates
    obtain ⟨rfl, rfl⟩ := pure_some_iff.mp correlates
    obtain ⟨later, begun, steady⟩ := now_some steady look
    obtain ⟨slept, -, steady⟩ := Pacing.sleepFor_some steady sleeps
    obtain ⟨-, waited, -, steady⟩ := Pacing.spinFor_some steady spins
    obtain ⟨latest, ended, steady⟩ := now_some steady samples
    exact ⟨steady, rfl, rfl, by dsimp only; omega, Int.le_of_eq ended.symm⟩
  · exact ⟨steady, rfl, time, Int.le_refl _, passed⟩
  · obtain ⟨lastTime, shown, look, samples⟩ := bind_some_iff.mp samples
    obtain ⟨rfl, rfl⟩ := pure_some_iff.mp samples
    obtain ⟨later, ended, steady⟩ := now_some steady look
    exact ⟨steady, rfl, rfl, by dsimp only; omega, Int.le_of_eq ended.symm⟩

theorem Sampled.advance (sampled : Sampled epoch loop) (advance : Advance loop after) :
    Sampled epoch after ∧ loop.currTime ≤ after.currTime := by
  obtain ⟨steady, shown, since, time, passed⟩ := sampled
  cases advance with
  | rests same =>
    obtain ⟨clock, host, current, -⟩ : after.clock = loop.clock ∧ after.host = loop.host ∧ after.currTime = loop.currTime ∧
        after.totalTicks = loop.totalTicks := by simpa [counters] using same
    refine ⟨⟨?_, ?_, ?_, ?_, ?_⟩, Int.le_of_eq current.symm⟩
    · rw [host]
      exact steady
    · rw [current, clock, shown]
    · rw [clock, since]
    · rw [clock, time]
    · rw [clock, host]
      exact passed
  | ticks ticks few ticked sampled total =>
    obtain ⟨steady, same, time, later, passed⟩ := tick_sampled steady time passed ticked
    refine ⟨⟨steady, sampled, same.trans since, time, passed⟩, ?_⟩
    rw [shown, sampled]
    exact later

/-- The times of the loop up to here do not go back. -/
theorem run_sampled {moves : List (LoopMove ω)} (sampled : Sampled epoch start)
    (run : Run (recorded (Loop.step setup)) start moves loop) :
    Sampled epoch loop ∧ start.currTime ≤ loop.currTime ∧
      (∀ move ∈ moves, (∀ call ∈ served (calls setup move.input move.before), Shows move.after call) ∧
        start.currTime ≤ move.after.currTime ∧ move.after.currTime ≤ loop.currTime) ∧
      moves.Pairwise (fun earlier later => earlier.after.currTime ≤ later.after.currTime) := by
  refine run.invariant (fun moves loop => Sampled epoch loop ∧ start.currTime ≤ loop.currTime ∧
      (∀ move ∈ moves, (∀ call ∈ served (calls setup move.input move.before), Shows move.after call) ∧
        start.currTime ≤ move.after.currTime ∧ move.after.currTime ≤ loop.currTime) ∧
      moves.Pairwise (fun earlier later => earlier.after.currTime ≤ later.after.currTime))
    ⟨sampled, Int.le_refl _, List.forall_mem_nil _, .nil⟩ ?_
  intro moves loop choice after added ⟨sampled, passed, shown, sorted⟩ moved
  obtain ⟨events, stepped, rfl⟩ := recorded_some moved
  obtain ⟨advance, shows⟩ := step_advance stepped
  obtain ⟨kept, later⟩ := sampled.advance advance
  have passed' := Int.le_trans passed later
  refine ⟨kept, passed', List.forall_mem_append.mpr ⟨?_, List.forall_mem_singleton.mpr ⟨shows, passed', Int.le_refl _⟩⟩, ?_⟩
  · intro move member
    obtain ⟨shows, since, before⟩ := shown move member
    exact ⟨shows, since, Int.le_trans before later⟩
  · refine List.pairwise_append.mpr ⟨sorted, List.pairwise_singleton _ _, ?_⟩
    intro earlier member last same
    rw [List.mem_singleton] at same
    rw [same]
    exact Int.le_trans (shown earlier member).2.2 later

end Samples

section Clocks

/-- The clock in a first run with a resolution. -/
structure Clocked (epoch resolution : Int) (loop : Loop ω) : Prop extends Sampled epoch loop where
  paced : Pacing.Paced loop.totalTicks loop.clock loop.host
  period : loop.clock.totalTicks = resolution / 500
  waiting : loop.clock.tickCount = 0 ∨ loop.clock.tickCount < resolution / 500

theorem Clocked.timely (clocked : Clocked epoch resolution loop) : Timely epoch resolution loop := by
  obtain ⟨sampled, paced, period, waiting⟩ := clocked
  refine ⟨sampled.past, ?_⟩
  obtain ⟨waited, -⟩ := paced.time
  rw [sampled.shown]
  omega

theorem Clocked.below (clocked : Clocked epoch resolution loop) : loop.clock.tickCount ≤ loop.clock.totalTicks := by
  have positive := clocked.paced.resolution.1
  have waiting := clocked.waiting
  have period := clocked.period
  omega

/-- A tick starts a period or leaves less than one to wait for. -/
theorem tick_counted {passed : Int} {clock ticked : CpuClock} {host last : Host} {ticks : BitVec 64}
    (paced : Pacing.Paced passed clock host) (below : clock.tickCount ≤ clock.totalTicks) (small : ticks.toNat ≤ 255)
    (ran : clock.tick ticks host = some (ticked, last)) : ticked.totalTicks = clock.totalTicks ∧
      ticked.tickCount = if clock.totalTicks ≤ clock.tickCount + ticks.toNat then 0 else clock.tickCount + ticks.toNat := by
  rw [Pacing.tick_eq paced below small] at ran
  split at ran
  next reached =>
    obtain ⟨zero, same⟩ := correlate_restarts ran
    exact ⟨same, by rw [if_pos reached, zero]⟩
  next early =>
    obtain ⟨rfl, rfl⟩ := pure_some_iff.mp ran
    exact ⟨rfl, by rw [if_neg early]⟩

theorem Clocked.advance (clocked : Clocked epoch resolution loop) (advance : Advance loop after) :
    Clocked epoch resolution after := by
  have below := clocked.below
  obtain ⟨sampled, paced, period, waiting⟩ := clocked
  have sampled := (sampled.advance advance).1
  cases advance with
  | rests same =>
    obtain ⟨clock, host, -, total⟩ : after.clock = loop.clock ∧ after.host = loop.host ∧ after.currTime = loop.currTime ∧
        after.totalTicks = loop.totalTicks := by simpa [counters] using same
    refine ⟨sampled, ?_, clock ▸ period, clock ▸ waiting⟩
    rw [clock, host, total]
    exact paced
  | ticks ticks few ticked shown total =>
    have wide : (ticks.setWidth 64).toNat = ticks.toNat := by
      rw [BitVec.toNat_setWidth]
      omega
    obtain ⟨steps, -⟩ := Pacing.tick_paced paced below (by omega) ticked
    obtain ⟨length, left⟩ := tick_counted paced below (by omega) ticked
    refine ⟨sampled, ?_, length.trans period, ?_⟩
    · rw [total, ← wide]
      exact steps
    · rw [left]
      split <;> omega

theorem run_clocked {moves : List (LoopMove ω)} (clocked : Clocked epoch resolution start)
    (run : Run (recorded (Loop.step setup)) start moves loop) :
    Clocked epoch resolution loop ∧ ∀ move ∈ moves, Timely epoch resolution move.after := by
  refine run.invariant (fun moves loop => Clocked epoch resolution loop ∧ ∀ move ∈ moves,
    Timely epoch resolution move.after)
    ⟨clocked, List.forall_mem_nil _⟩ ?_
  intro moves loop choice after added ⟨clocked, timely⟩ moved
  obtain ⟨events, stepped, rfl⟩ := recorded_some moved
  have kept := clocked.advance (step_advance stepped).1
  exact ⟨kept, List.forall_mem_append.mpr ⟨timely, List.forall_mem_singleton.mpr kept.timely⟩⟩

end Clocks

section Machines
open Lifecycle Adjustments Threshold
variable {lib : Libraries} {build : Build} {m : Machine ω} {history : List (Entry ω)}

def untimed (m : Machine ω) : Option Host × CpuClock := (m.fut, { m.clock with totalTicks := 0 })

theorem setTickResolution_untimed (resolution : Int) (clock : CpuClock) :
    { (clock.setTickResolution resolution).2 with totalTicks := 0 } = { clock with totalTicks := 0 } := by
  unfold setTickResolution
  split
  · rfl
  · rfl

theorem setClockResolution_untimed (clockResolution : Int) (s : Machine ω) :
    Ends (fun after => untimed after = untimed s) (setClockResolution lib build clockResolution) s := by
  refine Ends.get_bind <| Ends.guard rfl <| Ends.guard rfl <| Ends.get_bind <| Ends.ofExcept_bind rfl fun opt set => ?_
  refine Ends.modify_bind <| Ends.get_bind ?_
  have kept : (s.fut, { (s.clock.setTickResolution clockResolution).2 with totalTicks := 0 }) = untimed s := by
    rw [setTickResolution_untimed]
    rfl
  dsimp only
  refine Ends.modify_bind ?_
  split
  · refine Ends.ofExcept_bind kept fun freq _ => Ends.ofExcept_bind kept fun ticksPerIsr _ => ?_
    exact Ends.modify_bind kept
  · exact kept

/-- No call but a run does more to the clock than set its resolution. -/
theorem answer_untimed {call : Call ω} {reply : Reply} {after : Machine ω}
    (other : ∀ pc epoch readings threads moves, call ≠ .run pc epoch readings threads moves) (unused : m.fut = none)
    (answered : answer lib build call m = some (reply, after)) : untimed after = untimed m := by
  have framed {α : Type} {x : EStateM Fault (Machine ω) α} {returns : α → Reply} (frames : Frames untimed x)
      (replied : replies returns (x m) = (reply, after)) : untimed after = untimed m :=
    replies_ends (show Ends (fun after => untimed after = untimed m) x m from frames m) replied
  cases call with
  | setOptions options =>
    exact framed (Frames.get.bind fun _ => Frames.guard <| Frames.get.bind fun _ => (Frames.ofExcept _).bind fun _ =>
      (Frames.modify fun _ => by rfl).bind fun _ => Frames.pure _) (Option.some.inj answered)
  | setClockResolution resolution => exact replies_ends (setClockResolution_untimed resolution m) (Option.some.inj answered)
  | setMemoryController controller =>
    exact framed (Frames.guard <| Frames.get.bind fun _ => Frames.guard <|
      Frames.modify fun _ => by rfl) (Option.some.inj answered)
  | setIoController controller =>
    exact framed (Frames.guard <| Frames.get.bind fun _ => Frames.guard <|
      Frames.modify fun _ => by rfl) (Option.some.inj answered)
  | onLoad handler =>
    exact framed (Frames.get.bind fun _ => Frames.guard <| Frames.modify fun _ => by rfl) (Option.some.inj answered)
  | onSave handler =>
    exact framed (Frames.get.bind fun _ => Frames.guard <| Frames.modify fun _ => by rfl) (Option.some.inj answered)
  | run pc epoch readings threads moves => exact absurd rfl (other pc epoch readings threads moves)
  | waitForCompletion moves =>
    obtain ⟨result, ran, replied⟩ := Option.map_eq_some_iff.mp answered
    have idle : ¬ m.fut.isSome = true := by simp [unused]
    rw [Machine.waitForCompletion, if_neg idle] at ran
    cases ran
    cases replied
    rfl

theorem history_untimed {options : Option String} {maxResolution : Int} {world : ω} {new : Machine ω}
    (made : make lib build options maxResolution world = .ok new) (run : Run (step lib build) new history m)
    (unrun : Unrun history) : untimed m = (none, { CpuClock.make 2000000 maxResolution with totalTicks := 0 }) := by
  obtain ⟨opt, rfl⟩ := make_made made
  have along : Unrun history → untimed m = (none, { CpuClock.make 2000000 maxResolution with totalTicks := 0 }) := by
    refine run.invariant (fun history m => Unrun history →
      untimed m = (none, { CpuClock.make 2000000 maxResolution with totalTicks := 0 }))
      (fun _ => rfl) ?_
    intro history m call after events before moved unrun
    obtain ⟨earlier, now⟩ := List.forall_mem_append.mp unrun
    obtain ⟨reply, rfl, answered⟩ := step_entry moved
    have same := before earlier
    exact (answer_untimed (now _ (List.mem_singleton_self _)) (congrArg Prod.fst same) answered).trans same
  exact along unrun

theorem setTickResolution_total (clock : CpuClock) (period : clock.timePeriod = 500)
    (range : 0 ≤ resolution ∧ resolution ≤ 10000000000) :
    (clock.setTickResolution resolution).2 = { clock with totalTicks := resolution / 500 } := by
  have asked : resolution ≥ 0 ∧ clock.timePeriod ≥ 0 := ⟨range.1, by omega⟩
  have ticks : resolution.tdiv 500 = resolution / 500 := Int.tdiv_eq_ediv_of_nonneg range.1
  rw [setTickResolution, if_pos asked, period, ticks, narrow_of_range ⟨by omega, by omega⟩]

theorem setTickResolution_same {clock other : CpuClock}
    (same : { clock with totalTicks := 0 } = { other with totalTicks := 0 }) (resolution : Int) :
    (clock.setTickResolution resolution).2 = (other.setTickResolution resolution).2 := by
  have set (clock : CpuClock) : (clock.setTickResolution resolution).2 =
      { { clock with totalTicks := 0 } with totalTicks := (({ clock with totalTicks := 0 } :
        CpuClock).setTickResolution resolution).2.totalTicks } := by
    unfold setTickResolution
    dsimp only
    split <;> rfl
  rw [set clock, set other, same]

/-- The loop of a first run starts with a clock that is new but for its resolution. -/
theorem first_run_clock {maxResolution : Int} (first : FirstRun lib build maxResolution m setup start) :
    start.currTime = 0 ∧ start.totalTicks = 0 ∧ ∃ resolution, m.opt.clockResolution = .ok resolution ∧
      start.clock = (((CpuClock.make 2000000 maxResolution).resetAt start.host.last).setTickResolution resolution).2 := by
  obtain @⟨options, world, new, m, prepared, launched, history, pc, epoch, readings, threads, policy, setup, start,
    made, run, unrun,
    prepares, launches, configured, entered⟩ := first
  have kept : { m.clock with totalTicks := 0 } = { CpuClock.make 2000000 maxResolution with totalTicks := 0 } :=
    congrArg Prod.snd (history_untimed made run unrun)
  have reset : { m.clock.resetAt epoch with totalTicks := 0 } =
      { (CpuClock.make 2000000 maxResolution).resetAt epoch with totalTicks := 0 } :=
    congrArg (CpuClock.resetAt epoch) kept
  obtain ⟨resolution, opt, resolves, options, stored, clock, -⟩ := prepare_prepared prepares
  rw [launch_ok launches] at entered
  obtain ⟨loadAsync, -, entered⟩ := except_bind_ok_iff.mp entered
  obtain ⟨saveAsync, -, entered⟩ := except_bind_ok_iff.mp entered
  obtain rfl := Except.ok.inj entered
  exact ⟨rfl, rfl, resolution, resolves, clock.trans (setTickResolution_same reset resolution)⟩

theorem first_run_sampled {maxResolution : Int} (first : FirstRun lib build maxResolution m setup start)
    (steady : start.host.Steady) :
    Sampled start.host.last start ∧ start.currTime = 0 ∧ start.clock.tickCount = 0 := by
  obtain ⟨current, -, resolution, -, clock⟩ := first_run_clock first
  have kept := setTickResolution_untimed resolution ((CpuClock.make 2000000 maxResolution).resetAt start.host.last)
  rw [← clock] at kept
  have epoch : start.clock.epoch = start.host.last := congrArg CpuClock.epoch kept
  have lastTime : start.clock.lastTime = start.host.last := congrArg CpuClock.lastTime kept
  have time : start.clock.time = 0 := congrArg CpuClock.time kept
  exact ⟨⟨steady, current.trans time.symm,
    epoch, by omega, Int.le_of_eq lastTime⟩, current, congrArg CpuClock.tickCount kept⟩

theorem first_run_clocked {maxResolution : Int} (first : FirstRun lib build maxResolution m setup start)
    (steady : start.host.Steady)
    (resolves : m.opt.clockResolution = .ok resolution) (range : 0 ≤ resolution ∧ resolution ≤ 10000000000) :
    Clocked start.host.last resolution start := by
  obtain ⟨-, total, other, same, clock⟩ := first_run_clock first
  obtain rfl := Except.ok.inj (resolves.symm.trans same)
  rw [setTickResolution_total _ rfl range] at clock
  obtain ⟨sampled, -, count⟩ := first_run_sampled first steady
  have ticks : 0 ≤ resolution / 500 ∧ resolution / 500 ≤ 20000000 := by omega
  refine ⟨sampled, ?_, by rw [clock], .inl count⟩
  rw [total, clock]
  exact ⟨steady, rfl, ticks, Int.le_refl _, Int.le_refl _,
    ⟨(Int.sub_self _).symm, Int.le_refl _⟩, by simp [CpuClock.make, resetAt]⟩

theorem first_run_entered {maxResolution : Int} (first : FirstRun lib build maxResolution m setup start) :
    Entered lib build setup start := by
  obtain ⟨made, run, unrun, prepares, launches, configured, entered⟩ := first
  exact .enter made run prepares launches configured entered

theorem history_calls {after : Machine ω} {calls : List (Call ω)}
    (ran : Traces.run (step lib build) calls m = some (after, history)) : history.map (·.call) = calls := by
  induction calls generalizing m history with
  | nil =>
    cases ran
    rfl
  | cons call calls ih =>
    obtain ⟨⟨mid, events⟩, moved, ran⟩ := Option.bind_eq_some_iff.mp ran
    obtain ⟨⟨last, more⟩, rest, ran⟩ := Option.bind_eq_some_iff.mp ran
    cases ran
    obtain ⟨reply, rfl, -⟩ := step_entry moved
    rw [List.map_append, ih rest]
    rfl

def ready (lib : Libraries) (build : Build) (world : ω) (calls : List (Call ω)) : Option (Machine ω) :=
  match make lib build none 1 world with
  | .error _ => none
  | .ok new => (Traces.run (step lib build) calls new).map (·.1)

theorem enter_first {world : ω} {calls : List (Call ω)} {pc : Word} {readings : List Int}
    (entered : enter lib build world calls pc readings = some (setup, start)) (idle : ∀ call ∈ calls, starts call = false) :
    ∃ m, ready lib build world calls = some m ∧ FirstRun lib build 1 m setup start := by
  unfold enter at entered
  split at entered
  next => cases entered
  next new made =>
    split at entered
    next => cases entered
    next m history ran =>
      have called : ready lib build world calls = some m := by
        rw [ready, made]
        exact congrArg (Option.map Prod.fst) ran
      have unrun : Unrun history := by
        intro entry member pc epoch readings threads moves call
        have asked : entry.call ∈ calls := history_calls ran ▸ List.mem_map_of_mem member
        have started := idle _ asked
        rw [call] at started
        cases started
      split at entered
      next => cases entered
      next prepared prepares =>
        split at entered
        next => cases entered
        next policy launched launches =>
          split at entered
          next => cases entered
          next configured =>
            split at entered
            next => cases entered
            next started =>
              cases entered
              exact ⟨m, called, .run made (Run.of_run ran) unrun prepares launches configured started⟩

/-- The times of a first run on a steady host. -/
theorem run_timely {maxResolution : Int} {moves : List (LoopMove ω)}
    (first : FirstRun lib build maxResolution m setup start)
    (steady : start.host.Steady) (resolves : m.opt.clockResolution = .ok resolution)
    (range : 0 ≤ resolution ∧ resolution ≤ 10000000000) (run : Run (recorded (Loop.step setup)) start moves loop) :
    Timely start.host.last resolution loop ∧
      (∀ move ∈ moves, Timely start.host.last resolution move.after ∧
        ∀ call ∈ served (calls setup move.input move.before), Shows move.after call) ∧
      moves.Pairwise (fun earlier later => earlier.after.currTime ≤ later.after.currTime) := by
  obtain ⟨clocked, timely⟩ := run_clocked (first_run_clocked first steady resolves range) run
  obtain ⟨-, -, shown, sorted⟩ := run_sampled (first_run_sampled first steady).1 run
  exact ⟨clocked.timely, fun move member => ⟨timely move member, (shown move member).1⟩, sorted⟩

/-- Twenty cycles of a run, over once the host has waited for them. -/
theorem tick_run_timely : ∃ (m : Machine Unit) (setup : Setup Unit) (start loop : Loop Unit) (moves : List (LoopMove Unit)),
    FirstRun tickLibraries ⟨true, false⟩ 1 m setup start ∧ Run (recorded (Loop.step setup)) start moves loop ∧
    moves.map (fun move => (move.after.currTime, move.after.totalTicks)) = [(0, 4), (0, 8), (0, 12), (0, 16), (20001, 20)] ∧
    Timely 0 10000 loop ∧
    (∀ move ∈ moves, Timely 0 10000 move.after ∧ ∀ call ∈ served (calls setup move.input move.before),
      Shows move.after call) ∧
    moves.Pairwise (fun earlier later => earlier.after.currTime ≤ later.after.currTime) := by
  have outcome : (firstRun tickCalls [10, 20, 20000, 20001] 5).map
      (fun out => (out.2.1.map (fun entry => starts entry.call), out.1.opt.clockResolution,
      out.2.2.2.1.host, out.2.2.2.2.2.map (fun move => (move.after.currTime, move.after.totalTicks)))) =
      some ([false, false, false], .ok 10000, ⟨0, [10, 20, 20000, 20001], []⟩,
        [(0, 4), (0, 8), (0, 12), (0, 16), (20001, 20)]) := by
    with_unfolding_all rfl
  obtain ⟨⟨m, history, setup, start, loop, moves⟩, ran, same⟩ := Option.map_eq_some_iff.mp outcome
  simp only [Prod.mk.injEq] at same
  obtain ⟨none, resolves, host, shown⟩ := same
  have length : history.length = 3 := by simpa using congrArg List.length none
  obtain ⟨first, run⟩ := firstRun_some ran (unrun_of (by rw [none, length]; rfl))
  have steady : start.host.Steady := by
    rw [host]
    unfold Host.Steady
    decide
  have begins : start.host.last = 0 := by rw [host]
  exact ⟨m, setup, start, loop, moves, first, run, shown,
    begins ▸ run_timely first steady resolves ⟨by decide, by decide⟩ run⟩

end Machines
end MachEmu.Proofs.Times
