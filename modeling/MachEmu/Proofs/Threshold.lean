import MachEmu.Proofs.Adjustments
import MachEmu.Proofs.Options
import MachEmu.Proofs.ServiceCadence

/-! Which options the threshold between two calls of `ServiceInterrupts` comes from. -/

namespace MachEmu.Proofs.Threshold
open ErrorState Machine Traces Cadence Calls Timeline Adjustments Options

variable {ω : Type} {lib : Libraries} {build : Build} {new m prepared launched : Machine ω} {setup : Setup ω}
  {pc : Word} {epoch : Int}

section Preparation

/-- What `Run` sets up before the machine is running. -/
structure Prepared (lib : Libraries) (build : Build) (resolution : Int) (opt : Opt) (set : ErrorCode × CpuClock)
    (m prepared : Machine ω) : Prop where
  options : m.opt.setOptions lib build (some (resolutionText resolution)) = .ok opt
  stored : prepared.opt = opt
  clock : prepared.clock = set.2
  recomputed : set.1 = .noError → ∃ freq, opt.isrFreq = .ok freq ∧
    toInt64 (freq * set.2.totalTicks) = .ok prepared.ticksPerIsr
  warned : set.1 ≠ .noError → prepared.ticksPerIsr = m.ticksPerIsr

theorem setClockResolution_prepared {resolution : Int} {err : ErrorCode}
    (set : setClockResolution lib build resolution m = .ok err prepared) :
    ∃ opt, Prepared lib build resolution opt (m.clock.setTickResolution resolution) m prepared := by
  obtain ⟨_, _, ⟨⟩, set⟩ := bind_ok_iff.mp set
  obtain ⟨-, set⟩ := guard_ok_iff.mp set
  obtain ⟨-, set⟩ := guard_ok_iff.mp set
  obtain ⟨_, _, ⟨⟩, set⟩ := bind_ok_iff.mp set
  obtain ⟨opt, _, stored, set⟩ := bind_ok_iff.mp set
  obtain ⟨options, rfl⟩ := ofExcept_ok_iff.mp stored
  obtain ⟨_, _, ⟨⟩, set⟩ := bind_ok_iff.mp set
  obtain ⟨_, _, ⟨⟩, set⟩ := bind_ok_iff.mp set
  dsimp only at set
  obtain ⟨_, _, ⟨⟩, set⟩ := bind_ok_iff.mp set
  refine ⟨opt, ?_⟩
  split at set
  next accepted =>
    obtain ⟨freq, _, converted, set⟩ := bind_ok_iff.mp set
    obtain ⟨frequency, rfl⟩ := ofExcept_ok_iff.mp converted
    obtain ⟨ticksPerIsr, _, converted, set⟩ := bind_ok_iff.mp set
    obtain ⟨product, rfl⟩ := ofExcept_ok_iff.mp converted
    obtain ⟨_, _, ⟨⟩, set⟩ := bind_ok_iff.mp set
    cases set
    exact ⟨options, rfl, rfl, fun _ => ⟨freq, frequency, product⟩, fun warned => absurd accepted warned⟩
  next warned =>
    cases set
    exact ⟨options, rfl, rfl, fun accepted => absurd accepted warned, fun _ => rfl⟩

theorem prepare_prepared (prepares : prepare lib build pc epoch m = .ok () prepared) : ∃ resolution opt,
    m.opt.clockResolution = .ok resolution ∧
      Prepared lib build resolution opt ((m.clock.resetAt epoch).setTickResolution resolution) m prepared := by
  obtain ⟨_, _, ⟨⟩, prepares⟩ := bind_ok_iff.mp prepares
  obtain ⟨-, prepares⟩ := guard_ok_iff.mp prepares
  obtain ⟨_, _, ⟨⟩, prepares⟩ := bind_ok_iff.mp prepares
  obtain ⟨-, prepares⟩ := guard_ok_iff.mp prepares
  obtain ⟨_, _, ⟨⟩, prepares⟩ := bind_ok_iff.mp prepares
  obtain ⟨-, prepares⟩ := guard_ok_iff.mp prepares
  obtain ⟨_, _, ⟨⟩, prepares⟩ := bind_ok_iff.mp prepares
  obtain ⟨_, _, ⟨⟩, prepares⟩ := bind_ok_iff.mp prepares
  obtain ⟨resolution, _, converted, prepares⟩ := bind_ok_iff.mp prepares
  obtain ⟨read, rfl⟩ := ofExcept_ok_iff.mp converted
  obtain ⟨err, _, set, prepares⟩ := bind_ok_iff.mp prepares
  cases prepares
  obtain ⟨opt, options, stored, clock, recomputed, warned⟩ := setClockResolution_prepared set
  exact ⟨resolution, opt, read, options, stored, clock, recomputed, warned⟩

end Preparation

section Resolutions
variable {maxResolution resolution : Int}

def tickResolution (maxResolution resolution : Int) : ErrorCode × Int :=
  let (err, clock) := (CpuClock.make 2000000 maxResolution).setTickResolution resolution
  (err, clock.totalTicks)

/-- The host timer is too coarse for the resolution. -/
def Coarse (maxResolution resolution : Int) : Prop := 0 ≤ resolution ∧ resolution < maxResolution

theorem tickResolution_warns : (tickResolution maxResolution resolution).1 = .noError ↔
    ¬ Coarse maxResolution resolution := by
  unfold tickResolution CpuClock.setTickResolution Coarse CpuClock.make
  dsimp only
  split
  next requested =>
    split
    next coarse => simp [requested.1, coarse]
    next fine => simp [requested.1, Int.not_lt.mp fine]
  next free =>
    have negative : ¬ 0 ≤ resolution := fun requested => free ⟨requested, Int.natCast_nonneg _⟩
    simp [negative]

/-- The clock of a machine has the period and the host timer it was made with. -/
theorem setTickResolution_ranged {clock : CpuClock} (ranged : ClockReset.Ranged 2000000 maxResolution clock)
    (resolution : Int) : (clock.setTickResolution resolution).1 = (tickResolution maxResolution resolution).1 ∧
      (clock.setTickResolution resolution).2.totalTicks = (tickResolution maxResolution resolution).2 := by
  have period : (CpuClock.make 2000000 maxResolution).timePeriod = clock.timePeriod := ranged.period.symm
  have host : (CpuClock.make 2000000 maxResolution).maxResolution = clock.maxResolution := ranged.host.symm
  unfold tickResolution CpuClock.setTickResolution
  rw [period, host]
  split
  · exact ⟨rfl, rfl⟩
  · exact ⟨rfl, rfl⟩

theorem toInt64_some {value : Rat} {n : Int} (converted : toInt64 value = .ok n) : n = Json.truncate value := by
  unfold toInt64 at converted
  dsimp only at converted
  split at converted
  next => cases converted; rfl
  next => cases converted

theorem adjusted_reachable {before after : Kept} (adjusted : Adjusted lib build before after)
    (reached : ClockReset.Reachable 2000000 maxResolution before.2) :
      ClockReset.Reachable 2000000 maxResolution after.2 := by
  induction adjusted with
  | refl => exact reached
  | tail _ step ih =>
    cases step with
    | options => exact ih
    | resolution resolution => exact .setTickResolution resolution ih
    | reset epoch =>
      have ran (clock : CpuClock) : clock.reset ⟨0, [epoch], []⟩ = some (clock.resetAt epoch, ⟨epoch, [], []⟩) := rfl
      exact .reset ih (ran _)
    | tick ran => exact .tick _ ih ran

end Resolutions

section Runs
variable {maxResolution resolution : Int} {freq : Rat} {history : List (Entry ω)}

/-- A `Run` gets as far as its loop, after any calls on a machine whose host has the timer. -/
inductive Launched (lib : Libraries) (build : Build) (maxResolution : Int) : Machine ω → Setup ω → Prop
  | run {options : Option String} {world : ω} {new m prepared launched : Machine ω} {history : List (Entry ω)} {pc : Word}
      {epoch : Int} {threads : Bool} {host : SteadyClock.Host} {policy : Launch} {setup : Setup ω}
      (made : make lib build options maxResolution world = .ok new) (run : Run (step lib build) new history m)
      (prepares : prepare lib build pc epoch m = .ok () prepared)
        (launches : launch threads host prepared = .ok policy launched)
      (configured : launched.setup lib build = some setup) : Launched lib build maxResolution m setup

def threshold (freq : Rat) (maxResolution resolution : Int) : Int :=
  Json.truncate (freq * (tickResolution maxResolution resolution).2)

theorem threshold_zero (maxResolution resolution : Int) : threshold 0 maxResolution resolution = 0 := by
  rw [threshold, Rat.zero_mul]
  decide

structure Reflects (setup : Setup ω) (freq : Rat) (maxResolution resolution : Int) : Prop where
  threshold : setup.ticksPerIsr = threshold freq maxResolution resolution
  /-- Without a frequency interrupts are serviced after every instruction. -/
  every : freq = 0 → ∀ {sys clock host start loop} {moves : List (LoopMove ω)},
    Loop.start setup sys clock host = .ok start →
    Run (recorded (Loop.step setup)) start moves loop → ∀ before amount after,
      timeline setup moves = before ++ .work amount :: after →
    ∃ call rest, after = .stop call :: rest

theorem reflects_iff : Reflects setup freq maxResolution resolution ↔
    setup.ticksPerIsr = threshold freq maxResolution resolution := by
  refine ⟨Reflects.threshold, fun same => ⟨same, ?_⟩⟩
  rintro rfl sys clock host start loop moves entered run
  refine (ServiceCadence.run_serviced entered run).every ?_
  rw [same, threshold_zero]

/-- After any calls, the threshold of a run is that of its options unless the host timer is
too coarse for the resolution. Then it is left from before. -/
theorem threshold_iff (launched : Launched lib build maxResolution m setup)
    (resolves : m.opt.clockResolution = .ok resolution)
    (frequency : m.opt.isrFreq = .ok freq) (parses : Parses lib resolution) :
    Reflects setup freq maxResolution resolution ↔
      ¬ Coarse maxResolution resolution ∨ m.ticksPerIsr = threshold freq maxResolution resolution := by
  obtain @⟨options, world, new, m, prepared, launched, history, pc, epoch, threads, host, policy, setup, made, run,
    prepares, launches,
    configured⟩ := launched
  obtain ⟨opt, rfl⟩ := Lifecycle.make_made made
  have adjusted : Adjusted lib build _ (kept m) := history_adjusted run
  have reached : ClockReset.Reachable 2000000 maxResolution m.clock := by
    apply adjusted_reachable adjusted
    exact .new
  have ranged : ClockReset.Ranged 2000000 maxResolution (m.clock.resetAt epoch) :=
    ⟨reached.ranged.period, reached.ranged.host, reached.ranged.count, reached.ranged.total⟩
  obtain ⟨other, stored, same, prepared'⟩ := prepare_prepared prepares
  cases resolves.symm.trans same
  obtain ⟨warning, ticks⟩ := setTickResolution_ranged ranged resolution
  have taken : setup.ticksPerIsr = prepared.ticksPerIsr := by
    rw [Lifecycle.launch_ok launches] at configured
    obtain ⟨memory, -, configured⟩ := Option.bind_eq_some_iff.mp configured
    obtain ⟨io, -, configured⟩ := Option.bind_eq_some_iff.mp configured
    cases configured
    rfl
  rw [reflects_iff, taken, ← tickResolution_warns, ← warning]
  by_cases accepted : ((m.clock.resetAt epoch).setTickResolution resolution).1 = .noError
  · obtain ⟨converted, read, product⟩ := prepared'.recomputed accepted
    rw [isrFreq_resolution parses prepared'.options, frequency] at read
    cases read
    have exactly := toInt64_some product
    rw [ticks] at exactly
    exact ⟨fun _ => .inl accepted, fun _ => exactly⟩
  · rw [prepared'.warned accepted]
    exact ⟨.inr, fun either => either.resolve_left accepted⟩

end Runs

section Session
open Lifecycle

def tickOptions : String := "\x7b\"clockResolution\":10000,\"isrFreq\":1\x7d"

def realtimeOptions : String := "\x7b\"clockResolution\":0,\"isrFreq\":0\x7d"

def tickLibraries : Libraries := { sessionLibraries with
  parse := fun text =>
    if text = tickOptions then some (.object [("clockResolution", .integer 10000), ("isrFreq", .integer 1)])
    else if text = realtimeOptions then some (.object [("clockResolution", .integer 0), ("isrFreq", .integer 0)])
    else if text = "\x7b\"clockResolution\":10000\x7d" then some (.object [("clockResolution", .integer 10000)])
    else if text = "\x7b\"clockResolution\":0\x7d" then some (.object [("clockResolution", .integer 0)])
    else sessionLibraries.parse text }

/-- Interrupts are serviced once a tick of the clock, and quit the run. -/
def tickCalls : List (Call Unit) :=
  [.setOptions (some tickOptions), .setMemoryController (some (quitter (return 0))),
    .setIoController (some (quitter (return 0)))]

/-- After such a run they are to be serviced at every instruction. -/
def realtimeCalls : List (Call Unit) :=
  tickCalls ++ [.run 0 0 [10, 20, 20000, 20001] false (List.replicate 9 (.turn (.ok none) (.ok ()))),
    .setOptions (some realtimeOptions)]

def begin (calls : List (Call Unit)) : Option (Machine Unit × Setup Unit) :=
  match make tickLibraries ⟨true, false⟩ none 1 () with
  | .error _ => none
  | .ok new =>
    match Traces.run (step tickLibraries ⟨true, false⟩) calls new with
    | none => none
    | some (m, _) =>
      match (do prepare tickLibraries ⟨true, false⟩ 0 0; launch true ⟨0, [], []⟩) m with
      | .error _ _ => none
      | .ok _ launched => (launched.setup tickLibraries ⟨true, false⟩).map fun setup => (m, setup)

theorem begin_launched {calls : List (Call Unit)} {m : Machine Unit} {setup : Setup Unit}
    (begun : begin calls = some (m, setup)) : Launched tickLibraries ⟨true, false⟩ 1 m setup := by
  unfold begin at begun
  split at begun
  next => cases begun
  next new made =>
    split at begun
    next => cases begun
    next before history ran =>
      split at begun
      next => cases begun
      next policy launched started =>
        obtain ⟨done, prepared, prepares, launches⟩ := bind_ok_iff.mp started
        obtain ⟨taken, configured, same⟩ := Option.map_eq_some_iff.mp begun
        cases same
        exact .run made (Run.of_run ran) prepares launches configured

theorem threshold_iff_ticks : ∃ (m : Machine Unit) (setup : Setup Unit),
    Launched tickLibraries ⟨true, false⟩ 1 m setup ∧ setup.ticksPerIsr = 20 ∧
    (Reflects setup 1 1 10000 ↔ ¬ Coarse 1 10000 ∨ m.ticksPerIsr = threshold 1 1 10000) := by
  have outcome : (begin tickCalls).map (fun out => (out.1.opt.clockResolution, out.1.opt.isrFreq, out.2.ticksPerIsr)) =
      some (.ok 10000, .ok 1, 20) := by with_unfolding_all rfl
  obtain ⟨⟨m, setup⟩, begun, same⟩ := Option.map_eq_some_iff.mp outcome
  simp only [Prod.mk.injEq] at same
  obtain ⟨resolves, frequency, ticks⟩ := same
  have parses : Parses tickLibraries 10000 := by with_unfolding_all rfl
  exact ⟨m, setup, begin_launched begun, ticks, threshold_iff (begin_launched begun) resolves frequency parses⟩

/-- The run in real time still services interrupts once in twenty ticks. -/
theorem stale_threshold : ∃ (m : Machine Unit) (setup : Setup Unit),
    Launched tickLibraries ⟨true, false⟩ 1 m setup ∧ m.opt.clockResolution = .ok 0 ∧
    m.opt.isrFreq = .ok 0 ∧ setup.ticksPerIsr = 20 ∧ ¬ Reflects setup 0 1 0 := by
  have outcome : (begin realtimeCalls).map (fun out => (out.1.opt.clockResolution, out.1.opt.isrFreq, out.2.ticksPerIsr)) =
      some (.ok 0, .ok 0, 20) := by with_unfolding_all rfl
  obtain ⟨⟨m, setup⟩, begun, same⟩ := Option.map_eq_some_iff.mp outcome
  simp only [Prod.mk.injEq] at same
  obtain ⟨resolves, frequency, ticks⟩ := same
  refine ⟨m, setup, begin_launched begun, resolves, frequency, ticks, fun reflects => ?_⟩
  have reflected := reflects.threshold
  rw [ticks, threshold_zero] at reflected
  exact absurd reflected (by decide)

end Session
end MachEmu.Proofs.Threshold
