import MachEmu.Proofs.Pacing

/-! A clock that is reset once more. `Reset` takes a new epoch. The ticks of the period,
the error and the time stay as an earlier run left them. -/

namespace MachEmu.Proofs.ClockReset
open SteadyClock CpuClock Pacing

/-- The clocks that a new one can become. -/
inductive Reachable (speed : Nat) (maxResolution : Int) : CpuClock → Prop
  | new : Reachable speed maxResolution (make speed maxResolution)
  | setTickResolution {clock : CpuClock} (resolution : Int) (reached : Reachable speed maxResolution clock) :
      Reachable speed maxResolution (clock.setTickResolution resolution).2
  | tick {clock after : CpuClock} {host mid : Host} (ticks : BitVec 64) (reached : Reachable speed maxResolution clock)
      (ran : clock.tick ticks host = some (after, mid)) : Reachable speed maxResolution after
  | reset {clock after : CpuClock} {host mid : Host} (reached : Reachable speed maxResolution clock)
      (ran : clock.reset host = some (after, mid)) : Reachable speed maxResolution after

structure Shown where
  synchronised : Bool
  time : Int
deriving DecidableEq, Repr

def synchronises (ticks : BitVec 64) (clock : CpuClock) : Bool :=
  0 ≤ clock.totalTicks ∧ clock.totalTicks ≤ narrow (clock.tickCount + ticks.toNat)

/-- One `Tick` after the other. The readings that are taken and the sleeps that are asked
for show on the host. -/
def calls : List (BitVec 64) → CpuClock → ClockM (List Shown)
  | [], _ => return []
  | ticks :: rest, clock => do
    let after ← clock.tick ticks
    return ⟨synchronises ticks clock, after.time⟩ :: (← calls rest after)

/-- After a reset at the same time the two clocks cannot be told apart. -/
def Forgets (clock fresh : CpuClock) : Prop :=
  ∀ ticks host, host.Steady → (clock.reset >>= calls ticks) host = (fresh.reset >>= calls ticks) host

section Ticks
variable {clock after : CpuClock} {host mid : Host} {ticks : BitVec 64}

theorem correlate_some (ran : correlate clock host = some (after, mid)) : ∃ error lastTime,
    after = { clock with error, tickCount := 0, lastTime, time := lastTime - clock.epoch } := by
  obtain ⟨_, _, -, ran⟩ := bind_some_iff.mp ran
  obtain ⟨_, _, -, ran⟩ := bind_some_iff.mp ran
  obtain ⟨error, _, -, ran⟩ := bind_some_iff.mp ran
  obtain ⟨lastTime, _, -, ran⟩ := bind_some_iff.mp ran
  obtain ⟨rfl, -⟩ := pure_some_iff.mp ran
  exact ⟨error, lastTime, rfl⟩

theorem sample_some (ran : sample clock host = some (after, mid)) : ∃ lastTime,
    after = { clock with lastTime, time := lastTime - clock.epoch } := by
  obtain ⟨lastTime, _, -, ran⟩ := bind_some_iff.mp ran
  obtain ⟨rfl, -⟩ := pure_some_iff.mp ran
  exact ⟨lastTime, rfl⟩

/-- A call of `Tick` synchronises, counts or samples. -/
theorem tick_cases (ran : clock.tick ticks host = some (after, mid)) :
    (synchronises ticks clock = true ∧
        correlate { clock with tickCount := narrow (clock.tickCount + ticks.toNat) } host = some (after, mid)) ∨
      (synchronises ticks clock = false ∧ 0 ≤ clock.totalTicks ∧
        after = { clock with tickCount := narrow (clock.tickCount + ticks.toNat) } ∧ mid = host) ∨
      (synchronises ticks clock = false ∧ clock.totalTicks < 0 ∧ sample clock host = some (after, mid)) := by
  unfold tick at ran
  unfold synchronises
  split at ran
  next on =>
    dsimp only at ran
    split at ran
    next reached => exact .inl ⟨decide_eq_true ⟨on, reached⟩, ran⟩
    next below =>
      obtain ⟨rfl, rfl⟩ := pure_some_iff.mp ran
      exact .inr (.inl ⟨decide_eq_false fun both => below both.2, on, rfl, rfl⟩)
  next off => exact .inr (.inr ⟨decide_eq_false fun both => off both.1, Int.not_le.mp off, ran⟩)

end Ticks

section Ranges
variable {speed : Nat} {maxResolution : Int} {clock : CpuClock}

def InRange (n : Int) : Prop := -2 ^ 31 ≤ n ∧ n < 2 ^ 31

theorem inRange_zero : InRange 0 := ⟨by decide, by decide⟩

theorem inRange_unset : InRange (-1) := ⟨by decide, by decide⟩

theorem narrow_range (n : Int) : InRange (narrow n) := ⟨BitVec.le_toInt _, BitVec.toInt_lt⟩

theorem narrow_of_range {n : Int} (range : InRange n) : narrow n = n := by
  obtain ⟨low, high⟩ := range
  rw [narrow, BitVec.toInt_ofInt]
  exact Int.bmod_eq_of_le (by omega) (by omega)

def ticksTo (n : Int) : BitVec 64 := BitVec.ofInt 64 n

theorem narrow_ticksTo (count n : Int) : narrow (count + (ticksTo n).toNat) = narrow (count + n) := by
  have whole : ((ticksTo n).toNat : Int) = n % 2 ^ 64 := by
    rw [ticksTo, BitVec.toNat_ofInt, Int.toNat_of_nonneg (Int.emod_nonneg n (by decide))]
    rfl
  refine congrArg BitVec.toInt (BitVec.eq_of_toNat_eq ?_)
  rw [BitVec.toNat_ofInt, BitVec.toNat_ofInt, whole]
  have same : (count + n % 2 ^ 64) % (2 ^ 32 : Nat) = (count + n) % (2 ^ 32 : Nat) := by omega
  rw [same]

/-- Both counters are an `int`, and the period is that of the speed. -/
structure Ranged (speed : Nat) (maxResolution : Int) (clock : CpuClock) : Prop where
  period : clock.timePeriod = (1000000000 / speed : Nat)
  host : clock.maxResolution = maxResolution
  count : InRange clock.tickCount
  total : InRange clock.totalTicks

theorem Ranged.correlate {after : CpuClock} {host mid : Host} (ranged : Ranged speed maxResolution clock)
    (ran : correlate clock host = some (after, mid)) : Ranged speed maxResolution after := by
  obtain ⟨error, lastTime, rfl⟩ := correlate_some ran
  exact ⟨ranged.period, ranged.host, inRange_zero, ranged.total⟩

theorem Reachable.ranged (reached : Reachable speed maxResolution clock) : Ranged speed maxResolution clock := by
  induction reached with
  | new => exact ⟨rfl, rfl, inRange_zero, inRange_unset⟩
  | setTickResolution resolution _ ih =>
    obtain ⟨period, host, count, total⟩ := ih
    unfold CpuClock.setTickResolution
    split
    next => exact ⟨period, host, count, narrow_range _⟩
    next => exact ⟨period, host, count, inRange_unset⟩
  | @tick clock after host mid ticks _ ran ih =>
    have counted (n : Int) : Ranged speed maxResolution { clock with tickCount := narrow n } :=
      ⟨ih.period, ih.host, narrow_range n, ih.total⟩
    rcases tick_cases ran with ⟨-, ran⟩ | ⟨-, -, rfl, -⟩ | ⟨-, -, ran⟩
    · exact (counted _).correlate ran
    · exact counted _
    · obtain ⟨lastTime, rfl⟩ := sample_some ran
      exact ⟨ih.period, ih.host, ih.count, ih.total⟩
  | reset _ ran ih =>
    obtain ⟨_, _, -, ran⟩ := bind_some_iff.mp ran
    obtain ⟨rfl, -⟩ := pure_some_iff.mp ran
    exact ⟨ih.period, ih.host, ih.count, ih.total⟩

/-- The period of a speed of at most a tick a nanosecond. -/
theorem Ranged.positive (ranged : Ranged speed maxResolution clock) (slow : 0 < speed ∧ speed ≤ 1000000000) :
    0 < clock.timePeriod := by
  rw [ranged.period]
  exact_mod_cast Nat.div_pos slow.2 slow.1

end Ranges

section Calls
variable {clock fresh after : CpuClock} {host mid : Host} {ticks : BitVec 64}

theorem calls_cons (ticks : BitVec 64) (rest : List (BitVec 64)) : calls (ticks :: rest) clock host =
    (clock.tick ticks host).bind fun out =>
      (calls rest out.1 out.2).map fun shown => (⟨synchronises ticks clock, out.1.time⟩ :: shown.1, shown.2) := by
  rw [calls]
  cases ran : clock.tick ticks host with
  | none => exact bind_none ran
  | some out =>
    rw [bind_some ran]
    dsimp only [Option.bind_some]
    cases rests : calls rest out.1 out.2 with
    | none => exact bind_none rests
    | some shown => exact bind_some rests

theorem calls_one : calls [ticks] clock host =
    (clock.tick ticks host).map fun out => ([⟨synchronises ticks clock, out.1.time⟩], out.2) := by
  rw [calls_cons]
  cases clock.tick ticks host <;> rfl

theorem reset_calls (epoch last : Int) (upcoming requests : List Int) (tickings : List (BitVec 64)) :
    (clock.reset >>= calls tickings) ⟨last, epoch :: upcoming, requests⟩ =
      calls tickings (clock.resetAt epoch) ⟨epoch, upcoming, requests⟩ := rfl

theorem tick_counts {n : Int} (on : 0 ≤ clock.totalTicks) (range : InRange (clock.tickCount + n))
    (below : clock.tickCount + n < clock.totalTicks) :
    clock.tick (ticksTo n) host = some ({ clock with tickCount := clock.tickCount + n }, host) := by
  rw [tick, if_pos on]
  dsimp only
  rw [narrow_ticksTo, narrow_of_range range, if_neg (Int.not_le.mpr below)]
  rfl

theorem tick_correlates {n : Int} (on : 0 ≤ clock.totalTicks) (range : InRange (clock.tickCount + n))
    (reached : clock.totalTicks ≤ clock.tickCount + n) :
    clock.tick (ticksTo n) = correlate { clock with tickCount := clock.tickCount + n } := by
  rw [tick, if_pos on]
  dsimp only
  rw [narrow_ticksTo, narrow_of_range range, if_pos reached]

/-- On a host without a reading only a clock that counts returns. -/
theorem counts_unlike {ahead : CpuClock} {n last : Int} (on : 0 ≤ clock.totalTicks)
    (same : ahead.totalTicks = clock.totalTicks)
    (behindRange : InRange (clock.tickCount + n)) (below : clock.tickCount + n < clock.totalTicks)
    (aheadRange : InRange (ahead.tickCount + n)) (reached : clock.totalTicks ≤ ahead.tickCount + n) :
    calls [ticksTo n] clock ⟨last, [], []⟩ ≠ calls [ticksTo n] ahead ⟨last, [], []⟩ := by
  intro alike
  rw [calls_one, calls_one, tick_counts on behindRange below,
    tick_correlates (same ▸ on) aheadRange (same ▸ reached)] at alike
  cases alike

variable {last reading nanos : Int} {requests : List Int}

theorem now_next (upcoming : List Int) :
    now ⟨last, reading :: upcoming, requests⟩ = some (reading, ⟨reading, upcoming, requests⟩) := rfl

theorem sleepFor_short (short : nanos < 1000000) : sleepFor nanos host = some (nanos, host) := by
  rw [sleepFor, if_neg (Int.not_le.mpr short)]
  rfl

/-- While the host stands still, synchronising ends if and only if there is nothing to wait for. -/
theorem correlate_isSome : (correlate clock ⟨last, [reading, reading, reading], requests⟩).isSome ↔
    clock.tickCount * clock.timePeriod - (reading - clock.lastTime) + clock.error ≤ 0 := by
  unfold correlate
  rw [bind_some (now_next _)]
  generalize clock.tickCount * clock.timePeriod - (reading - clock.lastTime) + clock.error = nanos
  by_cases sleeps : nanos ≥ 1000000
  · have slept : sleepFor nanos ⟨reading, [reading, reading], requests⟩ =
        some (nanos - (reading - reading), ⟨reading, [], requests ++ [sleepRequest nanos]⟩) := by
      rw [sleepFor, if_pos sleeps]
      rfl
    have waits : (sleepFor nanos >>= fun left => spinFor left >>= fun error => sample { clock with error, tickCount := 0 })
        ⟨reading, [reading, reading], requests⟩ = none := by
      rw [bind_some slept]
      exact bind_none (bind_none rfl)
    rw [waits]
    exact iff_of_false Bool.false_ne_true (by omega)
  · rw [bind_some (sleepFor_short (by omega))]
    by_cases early : nanos > 0
    · have spun : spinFor nanos ⟨reading, [reading, reading], requests⟩ = none := by
        rw [spinFor, bind_some (now_next _), if_pos early]
        refine bind_none ?_
        rw [spinUntil]
        dsimp only
        rw [spin, if_pos (by omega), spin, if_pos (by omega)]
        rfl
      rw [bind_none spun]
      exact iff_of_false Bool.false_ne_true (by omega)
    · have spun : spinFor nanos ⟨reading, [reading, reading], requests⟩ = some (nanos, ⟨reading, [reading], requests⟩) := by
        rw [spinFor, bind_some (now_next _), if_neg early]
        rfl
      rw [bind_some spun]
      exact iff_of_true rfl (by omega)

end Calls

section Resets
variable {speed : Nat} {maxResolution resolution : Int} {clock fresh : CpuClock}

theorem calls_free {ticks : List (BitVec 64)} {host : Host} (off : clock.totalTicks < 0)
    (same : fresh.totalTicks = clock.totalTicks)
    (epoch : fresh.epoch = clock.epoch) : calls ticks clock host = calls ticks fresh host := by
  induction ticks generalizing clock fresh host with
  | nil => rfl
  | cons t ticks ih =>
    have samples {clock : CpuClock} (off : clock.totalTicks < 0) : clock.tick t = sample clock := by
      rw [tick, if_neg (Int.not_le.mpr off)]
    have silent {clock : CpuClock} (off : clock.totalTicks < 0) : synchronises t clock = false := by
      simp [synchronises, Int.not_le.mpr off]
    have off' : fresh.totalTicks < 0 := same ▸ off
    rw [calls_cons, calls_cons, samples off, samples off', silent off, silent off']
    obtain ⟨last, upcoming, requests⟩ := host
    cases upcoming with
    | nil => rfl
    | cons reading upcoming =>
      have sampled (clock : CpuClock) : sample clock ⟨last, reading :: upcoming, requests⟩ =
        some ({ clock with lastTime := reading, time := reading - clock.epoch }, ⟨reading, upcoming, requests⟩) := rfl
      rw [sampled, sampled, Option.bind_some, Option.bind_some, epoch]
      dsimp only
      have rest : calls ticks { clock with lastTime := reading, time := reading - clock.epoch } ⟨reading,
          upcoming, requests⟩ =
          calls ticks { fresh with lastTime := reading, time := reading - clock.epoch } ⟨reading, upcoming, requests⟩ :=
        ih off same epoch
      rw [rest, epoch]

def cleared (clock : CpuClock) : CpuClock := { clock with tickCount := 0, error := 0, time := 0 }

theorem cleared_eq (count : clock.tickCount = 0) (error : clock.error = 0) (time : clock.time = 0) :
    cleared clock = clock := by
  obtain ⟨totalTicks, tickCount, timePeriod, left, epoch, lastTime, shown, host⟩ := clock
  cases count
  cases error
  cases time
  rfl

/-- A new clock has the resolution and nothing of a run. -/
theorem fresh_resetAt (epoch : Int) (ranged : Ranged speed maxResolution clock)
    (same : ((make speed maxResolution).setTickResolution resolution).2.totalTicks = clock.totalTicks) :
    ((make speed maxResolution).setTickResolution resolution).2.resetAt epoch = (cleared clock).resetAt epoch := by
  obtain ⟨period, host, -, -⟩ := ranged
  rw [cleared, ← same, period, host, CpuClock.setTickResolution]
  split <;> rfl

section Distinguished
variable (on : 0 ≤ clock.totalTicks) (ranged : Ranged speed maxResolution clock)
  (forgets : ∀ n upcoming, Host.Steady ⟨0, upcoming, []⟩ → calls [ticksTo n] (clock.resetAt 0) ⟨0, upcoming, []⟩ =
    calls [ticksTo n] ((cleared clock).resetAt 0) ⟨0, upcoming, []⟩)
include on ranged forgets

theorem forgets_count : clock.tickCount = 0 := by
  obtain ⟨-, -, ⟨low, high⟩, -, small⟩ := ranged
  have alone : Host.Steady ⟨0, [], []⟩ := List.pairwise_singleton _ _
  rcases Int.lt_trichotomy clock.tickCount 0 with behind | clean | ahead
  · have range : InRange (clock.tickCount + clock.totalTicks) := ⟨by omega, by omega⟩
    have below : clock.tickCount + clock.totalTicks < clock.totalTicks := by omega
    have cleanRange : InRange (0 + clock.totalTicks) := ⟨by omega, by omega⟩
    have reached : clock.totalTicks ≤ 0 + clock.totalTicks := by omega
    exact absurd (forgets _ [] alone) (counts_unlike on rfl range below cleanRange reached)
  · exact clean
  · have range : InRange (clock.tickCount + (clock.totalTicks - clock.tickCount)) := ⟨by omega, by omega⟩
    have reached : clock.totalTicks ≤ clock.tickCount + (clock.totalTicks - clock.tickCount) := by omega
    have cleanRange : InRange (0 + (clock.totalTicks - clock.tickCount)) := ⟨by omega, by omega⟩
    have below : 0 + (clock.totalTicks - clock.tickCount) < clock.totalTicks := by omega
    exact absurd (forgets _ [] alone).symm (counts_unlike on rfl cleanRange below range reached)

/-- Enough ticks for the counter to wrap leave both clocks counting, and show the time. -/
theorem forgets_time (clean : clock.tickCount = 0) : clock.time = 0 := by
  obtain ⟨-, -, -, -, small⟩ := ranged
  have alone : Host.Steady ⟨0, [], []⟩ := List.pairwise_singleton _ _
  have same := forgets (-2 ^ 31) [] alone
  have counts (other : CpuClock) (total : other.totalTicks = clock.totalTicks) (zero : other.tickCount = 0) :
      calls [ticksTo (-2 ^ 31)] other ⟨0, [], []⟩ =
        some ([⟨synchronises (ticksTo (-2 ^ 31)) other, other.time⟩], ⟨0, [], []⟩) := by
    rw [calls_one, tick_counts (total ▸ on) (zero ▸ ⟨by decide, by decide⟩) (by omega)]
    rfl
  rw [counts (clock.resetAt 0) rfl clean, counts ((cleared clock).resetAt 0) rfl rfl] at same
  injection same with same
  injection same with shown
  injection shown with shown
  injection shown

/-- A wait that ends on one clock only tells the errors apart. -/
theorem forgets_error (clean : clock.tickCount = 0) (positive : 0 < clock.timePeriod) : clock.error = 0 := by
  obtain ⟨-, -, -, -, small⟩ := ranged
  have waits (n reading : Int) (range : InRange n) (reached : clock.totalTicks ≤ n) (later : 0 ≤ reading) :
      n * clock.timePeriod - reading + clock.error ≤ 0 ↔ n * clock.timePeriod - reading ≤ 0 := by
    have steady : Host.Steady ⟨0, [reading, reading, reading], []⟩ := by
      simp [Host.Steady, later]
    have same := congrArg Option.isSome (forgets n [reading, reading, reading] steady)
    have ends (other : CpuClock) (total : other.totalTicks = clock.totalTicks) (zero : other.tickCount = 0)
        (last : other.lastTime = 0) :
        (calls [ticksTo n] other ⟨0, [reading, reading, reading], []⟩).isSome ↔
          n * other.timePeriod - reading + other.error ≤ 0 := by
      rw [calls_one, Option.isSome_map, tick_correlates (total ▸ on)
        (by rwa [zero, Int.zero_add]) (by omega), correlate_isSome]
      dsimp only
      rw [zero, last, Int.zero_add, Int.sub_zero]
    have dirty := ends (clock.resetAt 0) rfl clean rfl
    have fresh := ends ((cleared clock).resetAt 0) rfl rfl rfl
    rw [← same] at fresh
    have both := dirty.symm.trans fresh
    dsimp only [resetAt, cleared] at both
    rwa [Int.add_zero] at both
  have range {n : Int} (nonneg : 0 ≤ n) (below : n < 2 ^ 31) : InRange n := ⟨by omega, below⟩
  have nonpos : clock.error ≤ 0 := by
    have later : 0 ≤ clock.totalTicks * clock.timePeriod := Int.mul_nonneg on (Int.le_of_lt positive)
    have exact := (waits _ _ (range on small) (Int.le_refl _) later).mpr (by omega)
    omega
  have nonneg : 0 ≤ clock.error := by
    have period : 0 < max clock.totalTicks 1 * clock.timePeriod := Int.mul_pos (by omega) positive
    have early := (waits (max clock.totalTicks 1) (max 0 (max clock.totalTicks 1 * clock.timePeriod + clock.error))
      (range (by omega) (by omega)) (by omega) (by omega)).mp (by omega)
    omega
  omega

end Distinguished

/-- A reset forgets the runs before it if and only if the clock does not synchronise at all
or nothing is left of them. -/
theorem forgets_iff (slow : 0 < speed ∧ speed ≤ 1000000000) (reached : Reachable speed maxResolution clock)
    (same : ((make speed maxResolution).setTickResolution resolution).2.totalTicks = clock.totalTicks) :
    Forgets clock ((make speed maxResolution).setTickResolution resolution).2 ↔
      clock.totalTicks < 0 ∨ clock.tickCount = 0 ∧ clock.error = 0 ∧ clock.time = 0 := by
  have ranged := reached.ranged
  constructor
  · intro forgets
    by_cases off : clock.totalTicks < 0
    · exact .inl off
    · have on : 0 ≤ clock.totalTicks := Int.not_lt.mp off
      have alike (n : Int) (upcoming : List Int) (steady : Host.Steady ⟨0, upcoming, []⟩) :
          calls [ticksTo n] (clock.resetAt 0) ⟨0, upcoming, []⟩ =
            calls [ticksTo n] ((cleared clock).resetAt 0) ⟨0, upcoming, []⟩ := by
        have begun : Host.Steady ⟨0, 0 :: upcoming, []⟩ := by
          refine List.pairwise_cons.mpr ⟨?_, steady⟩
          exact List.forall_mem_cons.mpr ⟨Int.le_refl 0, (List.pairwise_cons.mp steady).1⟩
        have same' := forgets [ticksTo n] ⟨0, 0 :: upcoming, []⟩ begun
        rwa [reset_calls, reset_calls, fresh_resetAt 0 ranged same] at same'
      have count := forgets_count on ranged alike
      exact .inr ⟨count, forgets_error on ranged alike count (ranged.positive slow), forgets_time on ranged alike count⟩
  · intro condition ticks host _
    obtain ⟨last, upcoming, requests⟩ := host
    cases upcoming with
    | nil => rfl
    | cons epoch upcoming =>
      rw [reset_calls, reset_calls, fresh_resetAt epoch ranged same]
      rcases condition with off | ⟨count, error, time⟩
      · exact calls_free off rfl rfl
      · rw [cleared_eq count error time]

end Resets

/-- A clock of 2 MHz that is left after one period of two ticks, which came 4 microseconds late. -/
def late : CpuClock :=
  { totalTicks := 2, timePeriod := 500, error := -4000, lastTime := 5000, time := 5000, maxResolution := 1 }

theorem late_reachable : Reachable 2000000 1 late := by
  have set : Reachable 2000000 1 ((make 2000000 1).setTickResolution 1000).2 := .setTickResolution 1000 .new
  have begins : ((make 2000000 1).setTickResolution 1000).2.reset ⟨0, [0, 5000, 5000, 5000], []⟩ =
    some (((make 2000000 1).setTickResolution 1000).2.resetAt 0, ⟨0, [5000, 5000, 5000], []⟩) := rfl
  have ticks : (((make 2000000 1).setTickResolution 1000).2.resetAt 0).tick 2 ⟨0, [5000, 5000, 5000], []⟩ =
    some (late, ⟨5000, [], []⟩) := rfl
  exact .tick 2 (.reset set begins) ticks

/-- The first tick after the reset shows the time of the run before. -/
theorem late_does_not_forget : Reachable 2000000 1 late ∧
    late.totalTicks = ((make 2000000 1).setTickResolution 1000).2.totalTicks ∧
    ¬ Forgets late ((make 2000000 1).setTickResolution 1000).2 := by
  refine ⟨late_reachable, rfl, ?_⟩
  intro forgets
  have same := forgets [1] ⟨5000, [6000], []⟩ (by simp [Host.Steady])
  have shown : (late.reset >>= calls [1]) ⟨5000, [6000], []⟩ = some ([⟨false, 5000⟩], ⟨6000, [], []⟩) := by decide
  have fresh : (((make 2000000 1).setTickResolution 1000).2.reset >>= calls [1]) ⟨5000, [6000], []⟩ =
      some ([⟨false, 0⟩], ⟨6000, [], []⟩) := by decide
  rw [shown, fresh] at same
  cases same

theorem forgets_iff_late : Forgets late ((make 2000000 1).setTickResolution 1000).2 ↔
    late.totalTicks < 0 ∨ late.tickCount = 0 ∧ late.error = 0 ∧ late.time = 0 :=
  forgets_iff ⟨by decide, by decide⟩ late_reachable rfl

end MachEmu.Proofs.ClockReset
