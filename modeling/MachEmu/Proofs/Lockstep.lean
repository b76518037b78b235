import MachEmu.Proofs.Threshold

/-! The ticks of the clock and the services of interrupts in the first run of a machine
whose frequency of services is one. Clock and loop count on their own, and stay in step. -/

namespace MachEmu.Proofs.Lockstep
open Machine Loop Traces SteadyClock CpuClock BusDiscipline Calls Counters Timeline ClockReset Threshold Options ErrorState

variable {ω : Type} {setup : Setup ω} {loop after start : Loop ω} {events : List (Event ω)}

/-- The clock as a tick leaves it that only counts. -/
def counted (ticks : BitVec 64) (clock : CpuClock) : CpuClock :=
  { clock with tickCount := narrow (clock.tickCount + ticks.toNat) }

/-- Interrupts are serviced after an execution just when its ticks complete a period of the
clock, and with the time that is sampled then. -/
structure InStep (setup : Setup ω) (move : LoopMove ω) : Prop where
  called : ∀ ticks, executes setup move.input move.before = some ticks →
    ((∃ call, served (calls setup move.input move.before) = [call]) ↔
      synchronises (ticks.setWidth 64) move.before.clock = true)
  time : ∀ ticks call, executes setup move.input move.before = some ticks →
    call ∈ served (calls setup move.input move.before) →
    correlate (counted (ticks.setWidth 64) move.before.clock) move.before.host = some (move.after.clock, move.after.host) ∧
      call.currTime = BitVec.ofInt 64 move.after.clock.time
  /-- There are no other calls. -/
  once : (served (calls setup move.input move.before)).length ≤ 1
  apart : executes setup move.input move.before = none → served (calls setup move.input move.before) = []

section Clock
variable {clock ticked : CpuClock} {ticks : BitVec 64} {host last : Host}

theorem tick_synchronises (due : synchronises ticks clock = true) : clock.tick ticks = correlate (counted ticks clock) := by
  obtain ⟨on, reached⟩ := of_decide_eq_true due
  rw [tick, if_pos on]
  exact if_pos reached

theorem tick_counts (on : 0 ≤ clock.totalTicks) (early : synchronises ticks clock = false) (host : Host) :
    clock.tick ticks host = some (counted ticks clock, host) := by
  have short : ¬ clock.totalTicks ≤ (counted ticks clock).tickCount := fun reached => of_decide_eq_false early ⟨on, reached⟩
  rw [tick, if_pos on]
  change (if clock.totalTicks ≤ (counted ticks clock).tickCount then correlate
    (counted ticks clock) else return counted ticks clock) host = _
  rw [if_neg short]
  rfl

theorem correlate_restarts (ran : correlate clock host = some (ticked, last)) :
    ticked.tickCount = 0 ∧ ticked.totalTicks = clock.totalTicks := by
  obtain ⟨error, lastTime, rfl⟩ := correlate_some ran
  exact ⟨rfl, rfl⟩

end Clock

section Steps

/-- The period of the clock is the threshold of the loop, and both have counted the same. -/
structure Locked (setup : Setup ω) (loop : Loop ω) : Prop where
  period : loop.clock.totalTicks = setup.ticksPerIsr
  range : 0 ≤ setup.ticksPerIsr ∧ setup.ticksPerIsr ≤ 20000000
  small : 0 ≤ loop.clock.tickCount ∧ loop.clock.tickCount ≤ setup.ticksPerIsr
  head : loop.point = .head → loop.clock.tickCount = loop.totalTicks - loop.lastTicks
  away : loop.point ≠ .head → ¬ Point.Ended loop.point → loop.clock.tickCount = 0

/-- At the condition of the loop, the clock is due just when the loop is. -/
theorem Locked.due (locked : Locked setup loop) (here : loop.point = .head) {ticks : Byte} (few : ticks.toNat ≤ 18) :
    (counted (ticks.setWidth 64) loop.clock).tickCount = loop.totalTicks + ticks.toNat - loop.lastTicks ∧
    (synchronises (ticks.setWidth 64) loop.clock = true ↔
      setup.ticksPerIsr ≤ loop.totalTicks + ticks.toNat - loop.lastTicks) := by
  obtain ⟨period, ⟨positive, most⟩, ⟨low, high⟩, head, -⟩ := locked
  have same := head here
  have wide : (ticks.setWidth 64).toNat = ticks.toNat := by
    rw [BitVec.toNat_setWidth]
    omega
  have count : narrow (loop.clock.tickCount + (ticks.setWidth 64).toNat) =
      loop.totalTicks + ticks.toNat - loop.lastTicks := by
    rw [wide, narrow_of_range ⟨by omega, by omega⟩]
    omega
  refine ⟨count, ?_⟩
  unfold synchronises
  rw [count, period, decide_eq_true_iff]
  exact ⟨And.right, fun due => ⟨positive, due⟩⟩

theorem Locked.beside {next : Loop ω} (locked : Locked setup loop) (clock : next.clock = loop.clock)
    (there : next.point = loop.point)
    (total : next.totalTicks = loop.totalTicks) (last : next.lastTicks = loop.lastTicks) : Locked setup next := by
  obtain ⟨period, range, small, head, away⟩ := locked
  refine ⟨clock ▸ period, range, clock ▸ small, ?_, ?_⟩
  · intro here
    rw [clock, total, last]
    exact head (there ▸ here)
  · intro gone live
    rw [clock]
    exact away (there ▸ gone) (there ▸ live)

theorem Locked.ended {next : Loop ω} (locked : Locked setup loop) (clock : next.clock = loop.clock)
    (ended : Point.Ended next.point) : Locked setup next := by
  refine ⟨clock ▸ locked.period, locked.range, clock ▸ locked.small, ?_, fun _ live => absurd ended live⟩
  intro here
  rcases ended with done | ⟨fault, failed⟩
  · cases here.symm.trans done
  · cases here.symm.trans failed

theorem Locked.rests {next : Loop ω} (locked : Locked setup loop) (away : loop.point ≠ .head)
    (live : ¬ Point.Ended loop.point) (rests : Rests loop next) : Locked setup next := by
  obtain ⟨counters, last⟩ := rests
  have clock : next.clock = loop.clock := congrArg Prod.fst counters
  have zero : next.clock.tickCount = 0 := by rw [clock, locked.away away live]
  refine ⟨clock ▸ locked.period, locked.range, clock ▸ locked.small, ?_, fun _ _ => zero⟩
  intro here
  obtain ⟨-, same⟩ := last.resolve_right fun gone => gone.1 here
  omega

theorem Locked.restarts {next : Loop ω} (locked : Locked setup loop) {ticks : BitVec 64} {host last : Host}
    (ran : correlate (counted ticks loop.clock) host = some (next.clock, last)) (away : next.point ≠ .head) :
      Locked setup next := by
  obtain ⟨zero, same⟩ := correlate_restarts ran
  have positive := locked.range.1
  exact ⟨same.trans locked.period, locked.range, by omega, fun here => absurd here away, fun _ _ => zero⟩

section Moves
variable {move : LoopMove ω} {ticks : Byte}

theorem inStep_apart (none : executes setup move.input move.before = none)
    (silent : served (calls setup move.input move.before) = []) : InStep setup move := by
  refine ⟨?_, ?_, by simp [silent], fun _ => silent⟩
  · intro ticks some
    cases none.symm.trans some
  · intro ticks call some
    cases none.symm.trans some

theorem inStep_counted (some : executes setup move.input move.before = some ticks)
    (silent : served (calls setup move.input move.before) = [])
    (early : ¬ synchronises (ticks.setWidth 64) move.before.clock = true) : InStep setup move := by
  refine ⟨?_, ?_, by simp [silent], fun _ => silent⟩
  · intro other again
    cases some.symm.trans again
    refine ⟨?_, fun due => absurd due early⟩
    intro ⟨call, only⟩
    cases silent.symm.trans only
  · intro other call again member
    rw [silent] at member
    cases member

theorem inStep_called {call : Served} (some : executes setup move.input move.before = some ticks)
    (only : served (calls setup move.input move.before) = [call])
    (due : synchronises (ticks.setWidth 64) move.before.clock = true)
    (ran : correlate (counted (ticks.setWidth 64) move.before.clock) move.before.host = .some
      (move.after.clock, move.after.host))
    (time : call.currTime = BitVec.ofInt 64 move.after.clock.time) : InStep setup move := by
  refine ⟨?_, ?_, by simp [only], ?_⟩
  · intro other again
    cases some.symm.trans again
    exact ⟨fun _ => due, fun _ => ⟨call, only⟩⟩
  · intro other made again member
    cases some.symm.trans again
    rw [only, List.mem_singleton] at member
    rw [member]
    exact ⟨ran, time⟩
  · intro none
    cases some.symm.trans none

end Moves

theorem step_locked {choice : Choice ω} (locked : Locked setup loop)
    (moved : Loop.step setup choice loop = some (after, events)) :
    Locked setup after ∧ InStep setup ⟨loop, choice, events, after⟩ := by
  rcases step_calls moved with ⟨here, ⟨loaded, saved, rfl⟩, pass⟩ | ⟨apart, only⟩
  · generalize made : calls setup (.turn loaded saved) loop = accesses at pass
    cases pass with
    | off off =>
      refine ⟨locked.ended rfl (.inl rfl), inStep_apart (executes_off here off) ?_⟩
      rw [made]
      rfl
    | failed on execution only =>
      refine ⟨locked.ended rfl (.inr ⟨_, rfl⟩), inStep_apart ?_ ?_⟩
      · rw [executes_head here on, execution]
      · rw [made, served_transfers only]
    | @counted ticks sys clock host transfers on execution ticked early only =>
      obtain ⟨count, due⟩ := locked.due here (Ticks.execute_most execution)
      have short : ¬ synchronises (ticks.setWidth 64) loop.clock = true := fun reached => early (due.mp reached)
      have on' : 0 ≤ loop.clock.totalTicks := locked.period ▸ locked.range.1
      obtain ⟨rfl, rfl⟩ :=
        Prod.mk.inj (Option.some.inj (ticked.symm.trans (tick_counts on' (Bool.eq_false_iff.mpr short) loop.host)))
      have low := locked.small.1
      have before := locked.head here
      refine ⟨⟨locked.period, locked.range, ?_, fun _ => count, fun away => absurd here away⟩, inStep_counted ?_ ?_ short⟩
      · change 0 ≤ (counted (ticks.setWidth 64) loop.clock).tickCount ∧
          (counted (ticks.setWidth 64) loop.clock).tickCount ≤ setup.ticksPerIsr
        rw [count]
        omega
      · exact (executes_head here on).trans (by rw [execution])
      · rw [made, served_transfers only]
    | @serviced ticks sys clock host isr world transfers on execution ticked reached called only =>
      obtain ⟨-, due⟩ := locked.due here (Ticks.execute_most execution)
      have ran := ticked
      rw [tick_synchronises (due.mpr reached)] at ran
      have some : executes setup (.turn loaded saved) loop = some ticks := (executes_head here on).trans (by rw [execution])
      have one := served_last only .io (BitVec.ofInt 64 clock.time)
          (BitVec.ofInt 64 (loop.totalTicks + ticks.toNat)) (.ok isr)
      rw [← made] at one
      exact ⟨locked.restarts ran Point.noConfusion, inStep_called some one (due.mpr reached) ran rfl⟩
    | @threw ticks sys clock host fault world transfers on execution ticked reached called only =>
      obtain ⟨-, due⟩ := locked.due here (Ticks.execute_most execution)
      have ran := ticked
      rw [tick_synchronises (due.mpr reached)] at ran
      have some : executes setup (.turn loaded saved) loop = some ticks := (executes_head here on).trans (by rw [execution])
      have one := served_last only .io (BitVec.ofInt 64 clock.time)
          (BitVec.ofInt 64 (loop.totalTicks + ticks.toNat)) (.error fault)
      rw [← made] at one
      exact ⟨locked.restarts ran Point.noConfusion, inStep_called some one (due.mpr reached) ran rfl⟩
  · refine ⟨?_, inStep_apart (executes_apart apart) (served_transfers only)⟩
    cases Requests.step_taken moved with
    | turn ran =>
      have away : loop.point ≠ .head := apart.resolve_right fun other => other _ _ rfl
      refine locked.rests away ?_ (turn_rests away ran)
      rintro (done | ⟨fault, failed⟩)
      · simp [turn, done] at ran
      · simp [turn, failed] at ran
    | loaded => exact locked.beside rfl rfl rfl rfl
    | saved => exact locked.beside rfl rfl rfl rfl
    | outside => exact locked.beside rfl rfl rfl rfl

theorem run_locked {moves : List (LoopMove ω)} (locked : Locked setup start)
    (run : Run (recorded (Loop.step setup)) start moves loop) : ∀ move ∈ moves, InStep setup move := by
  have along : Locked setup loop ∧ ∀ move ∈ moves, InStep setup move := by
    refine run.invariant (fun moves loop => Locked setup loop ∧ ∀ move ∈ moves, InStep setup move) ⟨locked,
      List.forall_mem_nil _⟩ ?_
    intro moves loop choice after added ⟨locked, before⟩ moved
    obtain ⟨events, stepped, rfl⟩ := recorded_some moved
    obtain ⟨kept, now⟩ := step_locked locked stepped
    exact ⟨kept, List.forall_mem_append.mpr ⟨before, List.forall_mem_singleton.mpr now⟩⟩
  exact along.2

end Steps

section Machines
open Lifecycle Adjustments
variable {lib : Libraries} {build : Build} {m : Machine ω} {history : List (Entry ω)}

def Unrun (history : List (Entry ω)) : Prop :=
  ∀ entry ∈ history, ∀ pc epoch readings threads moves, entry.call ≠ .run pc epoch readings threads moves

def traces (m : Machine ω) : Option Host × Int := (m.fut, m.clock.tickCount)

theorem setTickResolution_count (resolution : Int) (clock : CpuClock) :
    (clock.setTickResolution resolution).2.tickCount = clock.tickCount := by
  unfold setTickResolution
  split
  · rfl
  · rfl

theorem setClockResolution_traces (clockResolution : Int) (s : Machine ω) :
    Ends (fun after => traces after = traces s) (setClockResolution lib build clockResolution) s := by
  refine Ends.get_bind <| Ends.guard rfl <| Ends.guard rfl <| Ends.get_bind <| Ends.ofExcept_bind rfl fun opt set => ?_
  refine Ends.modify_bind <| Ends.get_bind ?_
  have count : (s.fut, (s.clock.setTickResolution clockResolution).2.tickCount) = traces s := by
    rw [setTickResolution_count]
    rfl
  dsimp only
  refine Ends.modify_bind ?_
  split
  · refine Ends.ofExcept_bind count fun freq _ => Ends.ofExcept_bind count fun ticksPerIsr _ => ?_
    exact Ends.modify_bind count
  · exact count

theorem frames_traces {α : Type} {x : EStateM Fault (Machine ω) α} (frames : Frames traces x) :
    Ends (fun after => traces after = traces m) x m := frames m

theorem answer_traces {call : Call ω} {reply : Reply} {after : Machine ω}
    (other : ∀ pc epoch readings threads moves, call ≠ .run pc epoch readings threads moves) (unused : m.fut = none)
    (answered : answer lib build call m = some (reply, after)) : traces after = traces m := by
  cases call with
  | setOptions options =>
    have frames : Frames (traces (ω := ω)) (setOptions lib build options) :=
      Frames.get.bind fun _ => Frames.guard <| Frames.get.bind fun _ => (Frames.ofExcept _).bind fun _ =>
        (Frames.modify fun _ => by rfl).bind fun _ => Frames.pure _
    exact replies_ends (frames_traces frames) (Option.some.inj answered)
  | setClockResolution resolution => exact replies_ends (setClockResolution_traces resolution m) (Option.some.inj answered)
  | setMemoryController controller =>
    have frames : Frames traces (setMemoryController controller) :=
      Frames.guard <| Frames.get.bind fun _ => Frames.guard <| Frames.modify fun _ => by rfl
    exact replies_ends (frames_traces frames) (Option.some.inj answered)
  | setIoController controller =>
    have frames : Frames traces (setIoController controller) :=
      Frames.guard <| Frames.get.bind fun _ => Frames.guard <| Frames.modify fun _ => by rfl
    exact replies_ends (frames_traces frames) (Option.some.inj answered)
  | onLoad handler =>
    have frames : Frames (traces (ω := ω)) (setOnLoad handler) :=
      Frames.get.bind fun _ => Frames.guard <| Frames.modify fun _ => by rfl
    exact replies_ends (frames_traces frames) (Option.some.inj answered)
  | onSave handler =>
    have frames : Frames (traces (ω := ω)) (setOnSave handler) :=
      Frames.get.bind fun _ => Frames.guard <| Frames.modify fun _ => by rfl
    exact replies_ends (frames_traces frames) (Option.some.inj answered)
  | run pc epoch readings threads moves => exact absurd rfl (other pc epoch readings threads moves)
  | waitForCompletion moves =>
    obtain ⟨result, ran, replied⟩ := Option.map_eq_some_iff.mp answered
    have idle : ¬ m.fut.isSome = true := by simp [unused]
    rw [Machine.waitForCompletion, if_neg idle] at ran
    cases ran
    cases replied
    rfl

/-- Before its first run, the clock of a machine has not counted. -/
theorem history_unrun {options : Option String} {maxResolution : Int} {world : ω} {new : Machine ω}
    (made : make lib build options maxResolution world = .ok new) (run : Run (step lib build) new history m)
    (unrun : Unrun history) : traces m = (none, 0) := by
  obtain ⟨opt, rfl⟩ := make_made made
  have along : Unrun history → traces m = (none, 0) := by
    refine run.invariant (fun history m => Unrun history → traces m = (none, 0)) (fun _ => rfl) ?_
    intro history m call after events before moved unrun
    obtain ⟨earlier, now⟩ := List.forall_mem_append.mp unrun
    obtain ⟨reply, rfl, answered⟩ := step_entry moved
    have same := before earlier
    exact (answer_traces (now _ (List.mem_singleton_self _)) (congrArg Prod.fst same) answered).trans same
  exact along unrun

/-- The loop that the first run of a machine enters, on a host with the timer. -/
inductive FirstRun (lib : Libraries) (build : Build) (maxResolution : Int) : Machine ω → Setup ω → Loop ω → Prop
  | run {options : Option String} {world : ω} {new m prepared launched : Machine ω} {history : List (Entry ω)} {pc : Word}
      {epoch : Int} {readings : List Int} {threads : Bool} {policy : Launch} {setup : Setup ω} {start : Loop ω}
      (made : make lib build options maxResolution world = .ok new) (run : Run (step lib build) new history m)
        (unrun : Unrun history)
      (prepares : prepare lib build pc epoch m = .ok () prepared)
      (launches : launch threads ⟨epoch, readings, []⟩ prepared = .ok policy launched)
      (configured : launched.setup lib build = some setup)
      (entered : Loop.start setup launched.sys launched.clock ⟨epoch, readings, []⟩ = .ok start) :
      FirstRun lib build maxResolution m setup start

/-- The resolution in ticks of a nominal speed of two megahertz. -/
theorem setTickResolution_ticks {resolution : Int} (clock : CpuClock) (period : clock.timePeriod = 500)
    (range : clock.maxResolution ≤ resolution) (low : 0 ≤ resolution) (high : resolution ≤ 10000000000) :
    clock.setTickResolution resolution = (.noError, { clock with totalTicks := resolution / 500 }) := by
  have asked : resolution ≥ 0 ∧ clock.timePeriod ≥ 0 := ⟨low, by omega⟩
  have ticks : resolution.tdiv 500 = resolution / 500 := Int.tdiv_eq_ediv_of_nonneg low
  rw [setTickResolution, if_pos asked, if_neg (Int.not_lt.mpr range), period, ticks, narrow_of_range ⟨by omega, by omega⟩]

theorem history_ranged {options : Option String} {maxResolution : Int} {world : ω} {new : Machine ω}
    (made : make lib build options maxResolution world = .ok new) (run : Run (step lib build) new history m) :
    Ranged 2000000 maxResolution m.clock := by
  obtain ⟨opt, rfl⟩ := make_made made
  exact (adjusted_reachable (history_adjusted run) .new).ranged

/-- The clock at the beginning of a run, and the threshold of the loop. -/
theorem first_run_locked {maxResolution resolution : Int} (first : FirstRun lib build maxResolution m setup start)
    (timer : 0 ≤ maxResolution) (range : maxResolution ≤ resolution ∧ resolution ≤ 10000000000)
    (resolves : m.opt.clockResolution = .ok resolution) (frequency : m.opt.isrFreq = .ok 1)
    (parses : Parses lib resolution) : Locked setup start := by
  obtain @⟨options, world, new, m, prepared, launched, history, pc, epoch, readings, threads, policy, setup, start,
    made, run, unrun,
    prepares, launches, configured, entered⟩ := first
  have count : m.clock.tickCount = 0 := congrArg Prod.snd (history_unrun made run unrun)
  obtain ⟨other, opt, same, prepared'⟩ := prepare_prepared prepares
  obtain rfl := Except.ok.inj (resolves.symm.trans same)
  have ranged := history_ranged made run
  have slow : 0 ≤ resolution := Int.le_trans timer range.1
  have set := setTickResolution_ticks (m.clock.resetAt epoch) ranged.period (ranged.host ▸ range.1) slow range.2
  obtain ⟨options, stored, clock, recomputed, -⟩ := prepared'
  rw [set] at clock recomputed
  obtain ⟨freq, read, converted⟩ := recomputed rfl
  rw [isrFreq_resolution parses options, frequency] at read
  obtain rfl := Except.ok.inj read
  have threshold : prepared.ticksPerIsr = resolution / 500 := by
    rw [toInt64_some converted, one_mul]
    exact truncate_intCast _
  have taken : setup.ticksPerIsr = prepared.ticksPerIsr := by
    rw [launch_ok launches] at configured
    obtain ⟨memory, -, configured⟩ := Option.bind_eq_some_iff.mp configured
    obtain ⟨io, -, configured⟩ := Option.bind_eq_some_iff.mp configured
    obtain rfl := Option.some.inj configured
    rfl
  rw [launch_ok launches] at entered
  obtain ⟨loadAsync, -, entered⟩ := except_bind_ok_iff.mp entered
  obtain ⟨saveAsync, -, entered⟩ := except_bind_ok_iff.mp entered
  obtain rfl := Except.ok.inj entered
  have zero : prepared.clock.tickCount = 0 := by
    rw [clock]
    exact count
  have total : prepared.clock.totalTicks = resolution / 500 := by rw [clock]
  refine ⟨?_, ?_, ?_, fun _ => zero, fun away => absurd rfl away⟩
  · rw [taken, threshold]
    exact total
  · rw [taken, threshold]
    omega
  · change 0 ≤ prepared.clock.tickCount ∧ prepared.clock.tickCount ≤ setup.ticksPerIsr
    rw [taken, threshold, zero]
    omega

/-- With a frequency of one, interrupts are serviced exactly on the ticks of the clock. -/
theorem first_run_in_step {maxResolution resolution : Int} {moves : List (LoopMove ω)}
    (first : FirstRun lib build maxResolution m setup start) (timer : 0 ≤ maxResolution)
    (range : maxResolution ≤ resolution ∧ resolution ≤ 10000000000) (resolves : m.opt.clockResolution = .ok resolution)
    (frequency : m.opt.isrFreq = .ok 1) (parses : Parses lib resolution)
    (run : Run (recorded (Loop.step setup)) start moves loop) : ∀ move ∈ moves, InStep setup move :=
  run_locked (first_run_locked first timer range resolves frequency parses) run

end Machines

section Session
open Lifecycle

def starts : Call ω → Bool
  | .run .. => true
  | _ => false

theorem unrun_of {history : List (Entry ω)} (none :
    history.map (fun entry => starts entry.call) = List.replicate history.length false) :
    Unrun history := by
  intro entry member pc epoch readings threads moves call
  have among : starts entry.call ∈ List.replicate history.length false := none ▸ List.mem_map_of_mem member
  have idle := List.eq_of_mem_replicate among
  rw [call] at idle
  cases idle

def firstRun (calls : List (Call Unit)) (readings : List Int) (turns : Nat) :
    Option (Machine Unit × List (Entry Unit) × Setup Unit × Loop Unit × Loop Unit × List (LoopMove Unit)) :=
  match make tickLibraries ⟨true, false⟩ none 1 () with
  | .error _ => none
  | .ok new =>
    match Traces.run (step tickLibraries ⟨true, false⟩) calls new with
    | none => none
    | some (m, history) =>
      match prepare tickLibraries ⟨true, false⟩ 0 0 m with
      | .error _ _ => none
      | .ok () prepared =>
        match launch true ⟨0, readings, []⟩ prepared with
        | .error _ _ => none
        | .ok _ launched =>
          match launched.setup tickLibraries ⟨true, false⟩ with
          | none => none
          | some setup =>
            match Loop.start setup launched.sys launched.clock ⟨0, readings, []⟩ with
            | .error _ => none
            | .ok start =>
              (Traces.run (recorded (Loop.step setup)) (List.replicate turns (.turn (.ok none) (.ok ()))) start).map
                fun out => (m, history, setup, start, out)

theorem firstRun_some {calls : List (Call Unit)} {readings : List Int} {turns : Nat} {m : Machine Unit}
    {history : List (Entry Unit)} {setup : Setup Unit} {start loop : Loop Unit} {moves : List (LoopMove Unit)}
    (ran : firstRun calls readings turns = some (m, history, setup, start, loop, moves)) (unrun : Unrun history) :
    FirstRun tickLibraries ⟨true, false⟩ 1 m setup start ∧ Run (recorded (Loop.step setup)) start moves loop := by
  unfold firstRun at ran
  split at ran
  next => cases ran
  next new made =>
    split at ran
    next => cases ran
    next called =>
      split at ran
      next => cases ran
      next prepared prepares =>
        split at ran
        next => cases ran
        next policy launched launches =>
          split at ran
          next => cases ran
          next configured =>
            split at ran
            next => cases ran
            next entered =>
              obtain ⟨out, moved, same⟩ := Option.map_eq_some_iff.mp ran
              cases same
              exact ⟨.run made (Run.of_run called) unrun prepares launches configured entered, Run.of_run moved⟩

/-- The fifth instruction of four ticks completes a period of twenty. -/
theorem first_run_in_step_ticks : ∃ (m : Machine Unit) (setup : Setup Unit) (start loop : Loop Unit)
    (moves : List (LoopMove Unit)),
    FirstRun tickLibraries ⟨true, false⟩ 1 m setup start ∧ Run (recorded (Loop.step setup)) start moves loop ∧
    timeline setup moves = [.work 4, .work 4, .work 4, .work 4, .work 4, .stop ⟨20001, 20, .ok .quit⟩] ∧
    ∀ move ∈ moves, InStep setup move := by
  have outcome : (firstRun tickCalls [10, 20, 20000, 20001] 5).map
      (fun out => (out.2.1.map (fun entry => starts entry.call), out.1.opt.clockResolution,
      out.1.opt.isrFreq, timeline out.2.2.1 out.2.2.2.2.2)) = some ([false, false, false], .ok 10000, .ok 1,
        [.work 4, .work 4, .work 4, .work 4, .work 4, .stop ⟨20001, 20, .ok .quit⟩]) := by with_unfolding_all rfl
  obtain ⟨⟨m, history, setup, start, loop, moves⟩, ran, same⟩ := Option.map_eq_some_iff.mp outcome
  simp only [Prod.mk.injEq] at same
  obtain ⟨none, resolves, frequency, marks⟩ := same
  have length : history.length = 3 := by simpa using congrArg List.length none
  obtain ⟨first, run⟩ := firstRun_some ran (unrun_of (by rw [none, length]; rfl))
  have parses : Parses tickLibraries 10000 := by with_unfolding_all rfl
  exact ⟨m, setup, start, loop, moves, first, run, marks,
    first_run_in_step first (by decide) ⟨by decide, by decide⟩ resolves frequency parses run⟩

end Session
end MachEmu.Proofs.Lockstep
