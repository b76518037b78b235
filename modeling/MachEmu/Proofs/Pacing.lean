import MachEmu.CpuClock
import Mathlib.Algebra.Group.Int.Defs

/-! The cpu never runs ahead of the host. Whatever a wait overshoots by is the
error, and the last sample together with the error never falls behind the ticks
that have been waited for. -/

namespace MachEmu.Proofs.Pacing
open SteadyClock CpuClock

section Waits
variable {host after : Host} {spinTime left : Int}

theorem sleepFor_some (steady : host.Steady) (slept : sleepFor spinTime host = some (left, after)) :
    host.last ≤ after.last ∧ host.last + spinTime ≤ after.last + left ∧ after.Steady := by
  unfold sleepFor at slept
  split at slept
  next =>
    obtain ⟨start, asleep, first, slept⟩ := bind_some_iff.mp slept
    obtain ⟨_, resting, rests, slept⟩ := bind_some_iff.mp slept
    obtain ⟨awake, woken, second, slept⟩ := bind_some_iff.mp slept
    obtain ⟨rfl, rfl⟩ := pure_some_iff.mp slept
    obtain ⟨later, same, steady⟩ := now_some steady first
    obtain ⟨still, keeps⟩ := sleep_some rests
    obtain ⟨latest, last, steady⟩ := now_some (keeps steady) second
    rw [still, same] at latest
    rw [last]
    exact ⟨by omega, by omega, steady⟩
  next =>
    obtain ⟨rfl, rfl⟩ := pure_some_iff.mp slept
    exact ⟨Int.le_refl _, Int.le_refl _, steady⟩

theorem spinFor_some (steady : host.Steady) (spun : spinFor spinTime host = some (left, after)) :
    left ≤ 0 ∧ host.last ≤ after.last ∧ host.last + spinTime ≤ after.last + left ∧ after.Steady := by
  unfold spinFor at spun
  obtain ⟨start, begun, first, spun⟩ := bind_some_iff.mp spun
  obtain ⟨later, same, steady⟩ := now_some steady first
  split at spun
  next =>
    obtain ⟨stop, ended, spins, spun⟩ := bind_some_iff.mp spun
    obtain ⟨rfl, rfl⟩ := pure_some_iff.mp spun
    obtain ⟨latest, reached, last, steady⟩ := spinUntil_some steady spins
    rw [same] at latest
    rw [last]
    exact ⟨by omega, by omega, by omega, steady⟩
  next overdue =>
    obtain ⟨rfl, rfl⟩ := pure_some_iff.mp spun
    rw [same]
    exact ⟨by omega, later, by omega, steady⟩

end Waits

/-- A clock at 2 MHz that has seen `passed` ticks since it was reset. -/
structure Paced (passed : Int) (clock : CpuClock) (host : Host) : Prop where
  steady : host.Steady
  period : clock.timePeriod = 500
  resolution : 0 ≤ clock.totalTicks ∧ clock.totalTicks ≤ 20000000
  counting : 0 ≤ clock.tickCount
  overspin : clock.error ≤ 0
  sampled : clock.time = clock.lastTime - clock.epoch ∧ clock.lastTime ≤ host.last
  behind : clock.epoch + (passed - clock.tickCount) * 500 ≤ clock.lastTime + clock.error

variable {passed : Int} {clock clock' : CpuClock} {host after : Host}

/-- The time of a paced clock lies between the ticks that were waited for and the host's. -/
theorem Paced.time (paced : Paced passed clock host) :
    (passed - clock.tickCount) * 500 ≤ clock.time ∧ clock.time ≤ host.last - clock.epoch := by
  obtain ⟨-, -, -, -, overspin, ⟨time, sampled⟩, behind⟩ := paced
  omega

/-- One synchronisation waits for all the ticks counted so far. -/
theorem correlate_paced (paced : Paced passed clock host) (ran : correlate clock host = some (clock', after)) :
    Paced passed clock' after ∧ clock'.tickCount = 0 ∧ clock'.epoch = clock.epoch ∧ clock.time ≤ clock'.time := by
  obtain ⟨steady, period, resolution, counting, overspin, ⟨time, sampled⟩, behind⟩ := paced
  unfold correlate at ran
  obtain ⟨current, mid, looked, ran⟩ := bind_some_iff.mp ran
  obtain ⟨rest, awake, slept, ran⟩ := bind_some_iff.mp ran
  obtain ⟨error, done, spun, ran⟩ := bind_some_iff.mp ran
  obtain ⟨lastTime, sampledHost, look, ran⟩ := bind_some_iff.mp ran
  obtain ⟨rfl, rfl⟩ := pure_some_iff.mp ran
  obtain ⟨later, same, steady⟩ := now_some steady looked
  obtain ⟨slower, sleeping, steady⟩ := sleepFor_some steady slept
  obtain ⟨late, longer, spinning, steady⟩ := spinFor_some steady spun
  obtain ⟨latest, last, steady⟩ := now_some steady look
  rw [period] at sleeping
  have waited : clock.epoch + passed * 500 ≤ lastTime + error := by omega
  refine ⟨⟨steady, period, resolution, Int.le_refl _, late, ⟨rfl, Int.le_of_eq last.symm⟩, ?_⟩, rfl, rfl, ?_⟩
  · dsimp only
    omega
  · dsimp only
    omega

theorem narrow_of_small {n : Int} (bounds : 0 ≤ n ∧ n < 2 ^ 31) : narrow n = n := by
  rw [narrow, BitVec.toInt_ofInt]
  exact Int.bmod_eq_of_le (by omega) (by omega)

/-- The ticks counted since the last synchronisation stay far below the range of an `int`. -/
theorem tick_eq (paced : Paced passed clock host) (below : clock.tickCount ≤ clock.totalTicks)
    {ticks : BitVec 64} (small : ticks.toNat ≤ 255) :
    tick ticks clock = if clock.totalTicks ≤ clock.tickCount + ticks.toNat then
        correlate { clock with tickCount := clock.tickCount + ticks.toNat }
      else return { clock with tickCount := clock.tickCount + ticks.toNat } := by
  have bound := paced.resolution.2
  have counting := paced.counting
  have counted : narrow (clock.tickCount + ticks.toNat) = clock.tickCount + ticks.toNat :=
    narrow_of_small (by omega)
  rw [tick, if_pos paced.resolution.1, counted]

theorem Paced.count (paced : Paced passed clock host) (ticks : Nat) :
    Paced (passed + ticks) { clock with tickCount := clock.tickCount + ticks } host := by
  obtain ⟨steady, period, resolution, counting, overspin, sampled, behind⟩ := paced
  refine ⟨steady, period, resolution, Int.add_nonneg counting (Int.natCast_nonneg _), overspin, sampled, ?_⟩
  dsimp only
  omega

/-- A tick counts, and once the resolution is reached it synchronises. -/
theorem tick_paced (paced : Paced passed clock host) (below : clock.tickCount ≤ clock.totalTicks)
    {ticks : BitVec 64} (small : ticks.toNat ≤ 255) (ran : tick ticks clock host = some (clock', after)) :
    Paced (passed + ticks.toNat) clock' after ∧ clock'.tickCount ≤ clock'.totalTicks ∧ clock'.epoch = clock.epoch ∧
      clock.time ≤ clock'.time ∧ (clock.totalTicks ≤ clock.tickCount + ticks.toNat → clock'.tickCount = 0) := by
  have counted := paced.count ticks.toNat
  rw [tick_eq paced below small] at ran
  split at ran
  next reached =>
    obtain ⟨paced, zero, epoch, time⟩ := correlate_paced counted ran
    exact ⟨paced, zero ▸ paced.resolution.1, epoch, time, fun _ => zero⟩
  next counts =>
    obtain ⟨rfl, rfl⟩ := pure_some_iff.mp ran
    exact ⟨counted, by dsimp only; omega, rfl, Int.le_refl _, fun reached => absurd reached counts⟩

theorem sample_returns (clock : CpuClock) (more : host.upcoming ≠ []) : (sample clock host).isSome := by
  obtain ⟨after, looked, -⟩ := now_returns more
  rw [sample, bind_some looked]
  rfl

theorem spinFor_returns {spinTime first reading : Int} {before rest : List Int}
    (readings : host.upcoming = first :: before ++ reading :: rest) (late : first + spinTime ≤ reading) :
    ∃ left after, spinFor spinTime host = some (left, after) ∧ ∃ skipped, after.upcoming = skipped ++ rest := by
  have more : host.upcoming ≠ [] := by
    rw [readings]
    exact List.cons_ne_nil _ _
  obtain ⟨mid, looked, same⟩ := now_returns more
  obtain ⟨rfl, upcoming⟩ := List.cons.inj (readings.symm.trans same)
  unfold spinFor
  rw [bind_some looked]
  split
  next =>
    obtain ⟨after, spun, skipped⟩ := spinUntil_returns upcoming.symm late
    exact ⟨_, after, bind_some spun, skipped⟩
  next => exact ⟨spinTime, mid, rfl, before ++ [reading], by rw [← upcoming, List.append_assoc]; rfl⟩

theorem correlate_returns (paced : Paced passed clock host) {first second third fourth reading last : Int}
    {before rest : List Int}
    (readings : host.upcoming = first :: second :: third :: fourth :: before ++ reading :: last :: rest)
    (late : fourth + clock.tickCount * 500 ≤ reading) : (correlate clock host).isSome := by
  obtain ⟨steady, period, resolution, counting, overspin, ⟨time, sampled⟩, behind⟩ := paced
  obtain ⟨start, upcoming, requests⟩ := host
  dsimp only at readings sampled
  subst readings
  simp only [Host.Steady, List.pairwise_cons, List.cons_append, List.mem_cons] at steady
  have later : start ≤ first := steady.1 first (.inl rfl)
  have second_third : second ≤ third := steady.2.2.1 third (.inl rfl)
  have second_fourth : second ≤ fourth := steady.2.2.1 fourth (.inr (.inl rfl))
  have looked : now ⟨start, first :: second :: third :: fourth :: before ++ reading :: last :: rest, requests⟩ =
    some (first, ⟨first, second :: third :: fourth :: before ++ reading :: last :: rest, requests⟩) := rfl
  unfold correlate
  rw [bind_some looked, period]
  generalize wait : clock.tickCount * 500 - (first - clock.lastTime) + clock.error = nanos
  by_cases sleeps : nanos ≥ 1000000
  · have slept : sleepFor nanos ⟨first, second :: third :: fourth :: before ++ reading :: last :: rest, requests⟩ =
        some (nanos - (third - second),
          ⟨third, fourth :: before ++ reading :: last :: rest, requests ++ [sleepRequest nanos]⟩) := by
      unfold sleepFor
      rw [if_pos sleeps]
      rfl
    obtain ⟨error, spun, ran, skipped, upcoming⟩ := @spinFor_returns
      ⟨third, fourth :: before ++ reading :: last :: rest, requests ++ [sleepRequest nanos]⟩
      (nanos - (third - second)) _ _ _ _ rfl (by omega)
    rw [bind_some slept, bind_some ran]
    exact sample_returns _ (by rw [upcoming]; simp)
  · have awake : sleepFor nanos ⟨first, second :: third :: fourth :: before ++ reading :: last :: rest, requests⟩ =
        some (nanos, ⟨first, second :: third :: fourth :: before ++ reading :: last :: rest, requests⟩) := by
      unfold sleepFor
      rw [if_neg sleeps]
      rfl
    obtain ⟨error, spun, ran, skipped, upcoming⟩ := @spinFor_returns
      ⟨first, second :: (third :: fourth :: before) ++ reading :: last :: rest, requests⟩ nanos _ _ _ _ rfl (by omega)
    rw [bind_some awake, bind_some ran]
    exact sample_returns _ (by rw [upcoming]; simp)

/-- A tick returns on a host clock that moves on: four readings for the sleep and the
start of the spin, one that is late enough, and one to sample. -/
theorem tick_returns (paced : Paced passed clock host) (below : clock.tickCount ≤ clock.totalTicks)
    {ticks : BitVec 64} (small : ticks.toNat ≤ 255) {first second third fourth reading last : Int}
    {before rest : List Int}
    (readings : host.upcoming = first :: second :: third :: fourth :: before ++ reading :: last :: rest)
    (late : fourth + (clock.tickCount + ticks.toNat) * 500 ≤ reading) : (tick ticks clock host).isSome := by
  rw [tick_eq paced below small]
  split
  next => exact correlate_returns (paced.count ticks.toNat) readings late
  next => rfl

def started (resolution maxResolution : Int) : ClockM CpuClock := do
  let clock ← (make 2000000 maxResolution).reset
  return (clock.setTickResolution resolution).2

theorem started_paced {resolution maxResolution : Int} (range : 0 ≤ resolution ∧ resolution ≤ 10 ^ 10)
    (steady : host.Steady) (ran : started resolution maxResolution host = some (clock, after)) :
    Paced 0 clock after ∧ clock.tickCount ≤ clock.totalTicks := by
  obtain ⟨fresh, mid, reset, ran⟩ := bind_some_iff.mp ran
  obtain ⟨epoch, looked, look, reset⟩ := bind_some_iff.mp reset
  obtain ⟨rfl, rfl⟩ := pure_some_iff.mp reset
  obtain ⟨rfl, rfl⟩ := pure_some_iff.mp ran
  obtain ⟨-, last, steady⟩ := now_some steady look
  have quotient : 0 ≤ resolution.tdiv 500 ∧ resolution.tdiv 500 ≤ 20000000 := by
    rw [Int.tdiv_eq_ediv_of_nonneg range.1]
    omega
  have ticks : narrow (resolution.tdiv 500) = resolution.tdiv 500 := narrow_of_small (by omega)
  have period : (resetAt epoch (make 2000000 maxResolution)).timePeriod = 500 := rfl
  have accepted : resolution ≥ 0 ∧ (resetAt epoch (make 2000000 maxResolution)).timePeriod ≥ 0 :=
    ⟨range.1, Int.natCast_nonneg _⟩
  rw [setTickResolution, if_pos accepted, period, ticks]
  exact ⟨⟨steady, rfl, quotient, Int.le_refl _, Int.le_refl _, ⟨(Int.sub_self _).symm, Int.le_of_eq last.symm⟩,
    by dsimp only [make, resetAt]; omega⟩, quotient.1⟩

/-- What is observed of one call of `Tick`: the ticks passed since the reset, whether
the call synchronised, the returned time, the error, and the host time since the reset. -/
structure Sample where
  passed : Int
  synchronised : Bool
  time : Int
  error : Int
  elapsed : Int
deriving DecidableEq, Repr

def run : List (BitVec 64) → Int → CpuClock → ClockM (List Sample)
  | [], _, _ => return []
  | ticks :: rest, passed, clock => do
    let after ← clock.tick ticks
    let sample : Sample := {
      passed := passed + ticks.toNat
      synchronised := clock.totalTicks ≤ clock.tickCount + ticks.toNat
      time := after.time
      error := after.error
      elapsed := (← get).last - after.epoch }
    return sample :: (← run rest sample.passed after)

/-- What each call of a run promises, given the time before it. -/
def Sample.Sound (before : Int) (sample : Sample) : Prop :=
  before ≤ sample.time ∧ sample.error ≤ 0 ∧ sample.time ≤ sample.elapsed ∧
    (sample.synchronised = true → sample.passed * 500 ≤ sample.time)

theorem run_paced {ticks : List (BitVec 64)} {samples : List Sample} (paced : Paced passed clock host)
    (below : clock.tickCount ≤ clock.totalTicks) (small : ∀ t ∈ ticks, t.toNat ≤ 255)
    (ran : run ticks passed clock host = some (samples, after)) :
    (∀ sample ∈ samples, sample.Sound clock.time) ∧ samples.Pairwise (·.time ≤ ·.time) := by
  induction ticks generalizing passed clock host samples with
  | nil =>
    obtain ⟨rfl, rfl⟩ := pure_some_iff.mp ran
    exact ⟨fun _ member => absurd member List.not_mem_nil, .nil⟩
  | cons t ticks ih =>
    obtain ⟨next, ticked, tick, ran⟩ := bind_some_iff.mp ran
    obtain ⟨_, _, ⟨⟩, ran⟩ := bind_some_iff.mp ran
    obtain ⟨rest, final, runs, ran⟩ := bind_some_iff.mp ran
    obtain ⟨rfl, rfl⟩ := pure_some_iff.mp ran
    obtain ⟨paced, lower, epoch, forward, synchronised⟩ :=
      tick_paced paced below (small t (List.mem_cons_self ..)) tick
    obtain ⟨sound, ordered⟩ := ih paced lower (fun t member => small t (List.mem_cons_of_mem _ member)) runs
    obtain ⟨waited, elapsed⟩ := paced.time
    refine ⟨?_, List.pairwise_cons.mpr ⟨fun sample member => (sound sample member).1, ordered⟩⟩
    intro sample member
    rcases List.mem_cons.mp member with rfl | member
    · refine ⟨forward, paced.overspin, elapsed, fun synced => ?_⟩
      rw [synchronised (of_decide_eq_true synced), Int.sub_zero] at waited
      exact waited
    · obtain ⟨later, rest⟩ := sound sample member
      exact ⟨Int.le_trans forward later, rest⟩

/-- A new clock that is reset and ticked, at any resolution and against any steady
clock: the error is never positive, returned times go up and stay within the host
time that has passed, and a synchronisation returns no less than the ticks take. -/
theorem never_ahead {resolution maxResolution : Int} (range : 0 ≤ resolution ∧ resolution ≤ 10 ^ 10)
    (steady : host.Steady) {ticks : List (BitVec 64)} (small : ∀ t ∈ ticks, t.toNat ≤ 255) {samples : List Sample}
    (ran : (started resolution maxResolution >>= run ticks 0) host = some (samples, after)) :
    samples.Pairwise (·.time ≤ ·.time) ∧ ∀ sample ∈ samples,
      sample.error ≤ 0 ∧ sample.time ≤ sample.elapsed ∧
      (sample.synchronised = true → sample.passed * (make 2000000 maxResolution).timePeriod ≤ sample.time) := by
  obtain ⟨clock, mid, reset, ran⟩ := bind_some_iff.mp ran
  obtain ⟨paced, below⟩ := started_paced range steady reset
  obtain ⟨sound, ordered⟩ := run_paced paced below small ran
  exact ⟨ordered, fun sample member => (sound sample member).2⟩

theorem never_ahead_two_ticks :
    [(⟨10, true, 6100, -900, 6100⟩ : Sample), ⟨14, true, 7400, -50, 7400⟩].Pairwise (·.time ≤ ·.time) ∧
    ∀ sample ∈ [(⟨10, true, 6100, -900, 6100⟩ : Sample), ⟨14, true, 7400, -50, 7400⟩],
      sample.error ≤ 0 ∧ sample.time ≤ sample.elapsed ∧
      (sample.synchronised = true → sample.passed * (make 2000000 1).timePeriod ≤ sample.time) :=
  have steady : (⟨0, [0, 100, 200, 3000, 6000, 6100, 6200, 6300, 7350, 7400], []⟩ : Host).Steady := by
    unfold Host.Steady
    decide
  have small : ∀ t ∈ ([10, 4] : List (BitVec 64)), t.toNat ≤ 255 := by simp
  have ran : (started 0 1 >>= run [10, 4] 0) ⟨0, [0, 100, 200, 3000, 6000, 6100, 6200, 6300, 7350, 7400], []⟩ =
      some ([⟨10, true, 6100, -900, 6100⟩, ⟨14, true, 7400, -50, 7400⟩], ⟨7400, [], []⟩) := by decide +kernel
  never_ahead ⟨by decide, by decide⟩ steady small ran

end MachEmu.Proofs.Pacing
