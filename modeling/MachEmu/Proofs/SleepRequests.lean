import MachEmu.Proofs.Lockstep
import MachEmu.Proofs.Starvation

/-! The sleeps that the clock asks for. A request is a number of nanoseconds, and
`nanosleep` takes no more of them than make up a second. -/

namespace MachEmu.Proofs.SleepRequests
open SteadyClock CpuClock ClockReset Traces
open Pacing (sleepFor_some spinFor_some)
open Lockstep (counted tick_synchronises)

section Requests
variable {arm : Bool} {request nanos : Int}

/-- `nanosleep` takes the request: its `tv_nsec` is a part of a second. Any other is refused
with an error, and nothing is slept. -/
def Accepted (arm : Bool) (request : Int) : Prop :=
  ∃ nsec, tvNsec arm request = some nsec ∧ 0 ≤ nsec ∧ nsec ≤ 999999999

/-- A part of a second fits both widths. -/
theorem accepted_iff : Accepted arm request ↔ 0 ≤ request ∧ request ≤ 999999999 := by
  unfold Accepted tvNsec
  constructor
  · rintro ⟨nsec, converted, bounds⟩
    obtain ⟨-, same⟩ := Option.ite_none_right_eq_some.mp converted
    cases same
    exact bounds
  · intro bounds
    refine ⟨request, if_pos ?_, bounds⟩
    cases arm <;> simp only [Bool.false_eq_true, if_true, if_false] <;> omega

/-- The longest wait of which seven tenths are less than a second. -/
theorem accepted_sleepRequest (positive : 0 ≤ nanos) : Accepted arm (sleepRequest nanos) ↔ nanos ≤ 1428571428 := by
  rw [accepted_iff, sleepRequest, Int.tdiv_eq_ediv_of_nonneg (by omega)]
  omega

def asked (nanos : Int) : List Int := if nanos ≥ 1000000 then [sleepRequest nanos] else []

end Requests

section Waits
variable {host after : Host} {spinTime left : Int} {clock clock' : CpuClock} {ticks : BitVec 64}

theorem sleepFor_asks (slept : sleepFor spinTime host = some (left, after)) :
    after.requests = host.requests ++ asked spinTime := by
  unfold sleepFor at slept
  unfold asked
  split at slept
  next long =>
    obtain ⟨start, begun, first, slept⟩ := bind_some_iff.mp slept
    obtain ⟨_, resting, rests, slept⟩ := bind_some_iff.mp slept
    obtain ⟨awake, woken, second, slept⟩ := bind_some_iff.mp slept
    obtain ⟨rfl, rfl⟩ := pure_some_iff.mp slept
    rw [if_pos long, (now_takes second).2, sleep_asks rests, (now_takes first).2]
  next short =>
    obtain ⟨rfl, rfl⟩ := pure_some_iff.mp slept
    rw [if_neg short, List.append_nil]

theorem spinFor_late (spun : spinFor spinTime host = some (left, after)) : left ≤ 0 ∧ after.requests = host.requests := by
  unfold spinFor at spun
  obtain ⟨start, begun, first, spun⟩ := bind_some_iff.mp spun
  have same := (now_takes first).2
  split at spun
  next =>
    obtain ⟨stop, ended, spins, spun⟩ := bind_some_iff.mp spun
    obtain ⟨rfl, rfl⟩ := pure_some_iff.mp spun
    obtain ⟨late, still⟩ := spinUntil_late spins
    exact ⟨by omega, still.trans same⟩
  next overdue =>
    obtain ⟨rfl, rfl⟩ := pure_some_iff.mp spun
    exact ⟨by omega, same⟩

/-- How far the clock is ahead of the host at a reading. -/
def owed (clock : CpuClock) (reading : Int) : Int :=
  clock.tickCount * clock.timePeriod - (reading - clock.lastTime) + clock.error

def wait (ticks : BitVec 64) (clock : CpuClock) (host : Host) : Option Int :=
  if synchronises ticks clock then host.upcoming.head?.map (owed (counted ticks clock)) else none

theorem correlate_asks (ran : correlate clock host = some (clock', after)) :
    ∃ reading, host.upcoming.head? = some reading ∧ after.requests = host.requests ++ asked (owed clock reading) ∧
      clock'.error ≤ 0 := by
  unfold correlate at ran
  obtain ⟨reading, mid, looked, ran⟩ := bind_some_iff.mp ran
  obtain ⟨rest, awake, slept, ran⟩ := bind_some_iff.mp ran
  obtain ⟨error, done, spun, ran⟩ := bind_some_iff.mp ran
  obtain ⟨lastTime, sampled, look, ran⟩ := bind_some_iff.mp ran
  obtain ⟨rfl, rfl⟩ := pure_some_iff.mp ran
  obtain ⟨upcoming, same⟩ := now_takes looked
  obtain ⟨late, still⟩ := spinFor_late spun
  refine ⟨reading, ?_, ?_, late⟩
  · rw [upcoming]
    rfl
  · rw [(now_takes look).2, still, sleepFor_asks slept, same]
    rfl

theorem tick_asks (ran : tick ticks clock host = some (clock', after)) :
    after.requests = host.requests ++ (wait ticks clock host).toList.flatMap asked := by
  unfold wait
  rcases tick_cases ran with ⟨synced, ran⟩ | ⟨silent, -, -, rfl⟩ | ⟨silent, -, ran⟩
  · have waited : correlate (counted ticks clock) host = some (clock', after) := ran
    obtain ⟨reading, first, asks, -⟩ := correlate_asks waited
    rw [if_pos synced, first, asks]
    simp
  · simp [silent]
  · obtain ⟨lastTime, mid, look, ran⟩ := bind_some_iff.mp ran
    obtain ⟨rfl, rfl⟩ := pure_some_iff.mp ran
    simp [silent, (now_takes look).2]

end Waits

section Rests
variable {host after : Host} {clock clock' : CpuClock} {ticks : BitVec 64} {arm : Bool}

def newRequests (host after : Host) : List Int := after.requests.drop host.requests.length

/-- What a call of `Tick` is to make of its wait: no request is refused, and a wait of a
second or more is not left to the spin alone. -/
structure Rested (arm : Bool) (ticks : BitVec 64) (clock : CpuClock) (host after : Host) : Prop where
  accepted : ∀ request ∈ newRequests host after, Accepted arm request
  slept : ∀ nanos ∈ wait ticks clock host, 1000000000 ≤ nanos → ∃ request ∈ newRequests host after, Accepted arm request

theorem newRequests_tick (ran : tick ticks clock host = some (clock', after)) :
    newRequests host after = (wait ticks clock host).toList.flatMap asked := by
  rw [newRequests, tick_asks ran, List.drop_left]

/-- The wait decides, whatever the host does during it. -/
theorem rested_iff (ran : tick ticks clock host = some (clock', after)) :
    Rested arm ticks clock host after ↔ ∀ nanos ∈ wait ticks clock host, nanos ≤ 1428571428 := by
  have asks := newRequests_tick ran
  constructor
  · intro ⟨accepted, _⟩ nanos waits
    rw [asks, waits] at accepted
    by_cases long : nanos ≥ 1000000
    · have member : sleepRequest nanos ∈ (some nanos).toList.flatMap asked := by simp [asked, long]
      exact (accepted_sleepRequest (by omega)).mp (accepted _ member)
    · omega
  · intro short
    have fits : ∀ nanos ∈ wait ticks clock host, ∀ request ∈ asked nanos, Accepted arm request := by
      intro nanos waits request member
      unfold asked at member
      split at member
      next long =>
        rw [List.mem_singleton.mp member]
        exact (accepted_sleepRequest (by omega)).mpr (short nanos waits)
      next => cases member
    refine ⟨fun request member => ?_, fun nanos waits second => ?_⟩
    · rw [asks] at member
      obtain ⟨nanos, waits, member⟩ := List.mem_flatMap.mp member
      exact fits nanos (Option.mem_toList.mp waits) request member
    · have member : sleepRequest nanos ∈ asked nanos := by simp [asked, show 1000000 ≤ nanos by omega]
      refine ⟨sleepRequest nanos, ?_, fits nanos waits _ member⟩
      rw [asks]
      exact List.mem_flatMap_of_mem (Option.mem_toList.mpr waits) member

end Rests

section Bounds
variable {host after : Host} {clock clock' : CpuClock} {ticks : BitVec 64} {arm : Bool}

/-- A clock at 2 MHz that has not got ahead of the host. -/
structure Behind (clock : CpuClock) (host : Host) : Prop where
  steady : host.Steady
  period : clock.timePeriod = 500
  overspin : clock.error ≤ 0
  sampled : clock.lastTime ≤ host.last

theorem Behind.counted (behind : Behind clock host) : Behind (counted ticks clock) host :=
  ⟨behind.steady, behind.period, behind.overspin, behind.sampled⟩

/-- No wait is longer than the ticks take that it is for. -/
theorem Behind.owed_le (behind : Behind clock host) {reading : Int} (first : host.upcoming.head? = some reading) :
    owed clock reading ≤ clock.tickCount * 500 := by
  obtain ⟨steady, period, overspin, sampled⟩ := behind
  have later : host.last ≤ reading := (List.pairwise_cons.mp steady).1 reading (List.mem_of_mem_head? first)
  rw [owed, period]
  omega

theorem correlate_behind (behind : Behind clock host) (ran : correlate clock host = some (clock', after)) :
    Behind clock' after := by
  obtain ⟨-, -, -, late⟩ := correlate_asks ran
  obtain ⟨steady, period, -, -⟩ := behind
  unfold correlate at ran
  obtain ⟨reading, mid, looked, ran⟩ := bind_some_iff.mp ran
  obtain ⟨rest, awake, slept, ran⟩ := bind_some_iff.mp ran
  obtain ⟨error, done, spun, ran⟩ := bind_some_iff.mp ran
  obtain ⟨lastTime, sampled, look, ran⟩ := bind_some_iff.mp ran
  obtain ⟨rfl, rfl⟩ := pure_some_iff.mp ran
  obtain ⟨-, -, steady⟩ := now_some steady looked
  obtain ⟨-, -, steady⟩ := sleepFor_some steady slept
  obtain ⟨-, -, -, steady⟩ := spinFor_some steady spun
  obtain ⟨-, last, steady⟩ := now_some steady look
  exact ⟨steady, period, late, Int.le_of_eq last.symm⟩

theorem sample_behind (behind : Behind clock host) (ran : sample clock host = some (clock', after)) :
    Behind clock' after := by
  obtain ⟨lastTime, mid, look, ran⟩ := bind_some_iff.mp ran
  obtain ⟨rfl, rfl⟩ := pure_some_iff.mp ran
  obtain ⟨-, last, steady⟩ := now_some behind.steady look
  exact ⟨steady, behind.period, behind.overspin, Int.le_of_eq last.symm⟩

theorem tick_behind (behind : Behind clock host) (ran : tick ticks clock host = some (clock', after)) :
    Behind clock' after := by
  rcases tick_cases ran with ⟨-, ran⟩ | ⟨-, -, rfl, rfl⟩ | ⟨-, -, ran⟩
  · exact correlate_behind behind.counted ran
  · exact behind.counted
  · exact sample_behind behind ran

/-- The ticks that a resolution takes, and the ticks counted so far. -/
structure Count where
  totalTicks : Int := -1
  tickCount : Int := 0
deriving DecidableEq, Repr

def tally (clock : CpuClock) : Count := ⟨clock.totalTicks, clock.tickCount⟩

/-- A call of `Tick` that reaches the resolution has no more ticks to wait for than ask for
less than a second. Each of them adds 350 ns to the request, seven tenths of its period. -/
def Brief (ticks : BitVec 64) (count : Count) : Prop :=
  0 ≤ count.totalTicks → count.totalTicks ≤ narrow (count.tickCount + ticks.toNat) →
    narrow (count.tickCount + ticks.toNat) ≤ 2857142

theorem wait_synchronises {nanos : Int} (waits : nanos ∈ wait ticks clock host) :
    (0 ≤ clock.totalTicks ∧ clock.totalTicks ≤ narrow (clock.tickCount + ticks.toNat)) ∧
      ∃ reading, host.upcoming.head? = some reading ∧ owed (counted ticks clock) reading = nanos := by
  unfold wait at waits
  split at waits
  next synced => exact ⟨of_decide_eq_true synced, Option.map_eq_some_iff.mp waits⟩
  next => cases waits

theorem tick_rested (behind : Behind clock host) (brief : Brief ticks (tally clock))
    (ran : tick ticks clock host = some (clock', after)) : Rested arm ticks clock host after := by
  refine (rested_iff ran).mpr fun nanos waits => ?_
  obtain ⟨⟨on, reached⟩, reading, first, rfl⟩ := wait_synchronises waits
  have counts : Behind (counted ticks clock) host := behind.counted
  have bound : owed (counted ticks clock) reading ≤ narrow (clock.tickCount + ticks.toNat) * 500 := counts.owed_le first
  have small := brief on reached
  dsimp only [tally] at small
  omega

end Bounds

section Sequences

inductive ClockCall where
  | setTickResolution (resolution : Int)
  | reset
  | tick (ticks : BitVec 64)

variable {host after : Host} {clock clock' : CpuClock} {arm : Bool} {call : ClockCall} {calls : List ClockCall}

def ClockCall.on : ClockCall → CpuClock → ClockM CpuClock
  | .setTickResolution resolution, clock => return (clock.setTickResolution resolution).2
  | .reset, clock => clock.reset
  | .tick ticks, clock => clock.tick ticks

def step (call : ClockCall) (s : CpuClock × Host) : Option ((CpuClock × Host) × List Int) := do
  let after ← call.on s.1 s.2
  return (after, newRequests s.2 after.2)

abbrev ClockMove := Move (CpuClock × Host) ClockCall Int

def Sleeps (arm : Bool) (move : ClockMove) : Prop :=
  ∀ ticks, move.input = .tick ticks → Rested arm ticks move.before.1 move.before.2 move.after.2

def ClockCall.counts : ClockCall → Count → Count
  | .setTickResolution resolution, count =>
    { count with totalTicks := if 0 ≤ resolution then narrow (resolution.tdiv 500) else -1 }
  | .reset, count => count
  | .tick ticks, count =>
    if 0 ≤ count.totalTicks then
      let tickCount := narrow (count.tickCount + ticks.toNat)
      { count with tickCount := if count.totalTicks ≤ tickCount then 0 else tickCount }
    else count

def Short : List ClockCall → Count → Prop
  | [], _ => True
  | call :: rest, count => (∀ ticks, call = .tick ticks → Brief ticks count) ∧ Short rest (call.counts count)

theorem tick_tally {ticks : BitVec 64} (ran : tick ticks clock host = some (clock', after)) :
    tally clock' = (ClockCall.tick ticks).counts (tally clock) := by
  unfold ClockCall.counts
  rcases tick_cases ran with ⟨synced, ran⟩ | ⟨silent, on, rfl, -⟩ | ⟨-, off, ran⟩
  · obtain ⟨on, reached⟩ := of_decide_eq_true synced
    obtain ⟨error, lastTime, rfl⟩ := correlate_some ran
    dsimp only [tally]
    rw [if_pos on, if_pos reached]
  · have below : ¬ clock.totalTicks ≤ narrow (clock.tickCount + ticks.toNat) :=
      fun reached => of_decide_eq_false silent ⟨on, reached⟩
    dsimp only [tally]
    rw [if_pos on, if_neg below]
  · obtain ⟨lastTime, rfl⟩ := sample_some ran
    dsimp only [tally]
    rw [if_neg (Int.not_le.mpr off)]

theorem on_tally (period : clock.timePeriod = 500) (ran : call.on clock host = some (clock', after)) :
    tally clock' = call.counts (tally clock) := by
  cases call with
  | setTickResolution resolution =>
    obtain ⟨rfl, -⟩ := pure_some_iff.mp ran
    unfold CpuClock.setTickResolution ClockCall.counts
    rw [period]
    dsimp only
    by_cases timed : 0 ≤ resolution
    · rw [if_pos ⟨timed, by decide⟩, if_pos timed]
      rfl
    · rw [if_neg fun both => timed both.1, if_neg timed]
      rfl
  | reset =>
    obtain ⟨_, _, -, ran⟩ := bind_some_iff.mp ran
    obtain ⟨rfl, -⟩ := pure_some_iff.mp ran
    rfl
  | tick ticks => exact tick_tally ran

theorem on_behind (behind : Behind clock host) (ran : call.on clock host = some (clock', after)) : Behind clock' after := by
  cases call with
  | setTickResolution resolution =>
    obtain ⟨rfl, rfl⟩ := pure_some_iff.mp ran
    unfold CpuClock.setTickResolution
    split
    · exact ⟨behind.steady, behind.period, behind.overspin, behind.sampled⟩
    · exact ⟨behind.steady, behind.period, behind.overspin, behind.sampled⟩
  | reset =>
    obtain ⟨epoch, mid, look, ran⟩ := bind_some_iff.mp ran
    obtain ⟨rfl, rfl⟩ := pure_some_iff.mp ran
    obtain ⟨-, last, steady⟩ := now_some behind.steady look
    exact ⟨steady, behind.period, behind.overspin, Int.le_of_eq last.symm⟩
  | tick ticks => exact tick_behind behind ran

theorem run_cons {moves : List ClockMove} {last : CpuClock × Host}
    (ran : run (recorded step) (call :: calls) (clock, host) = some (last, moves)) :
    ∃ mid events rest, call.on clock host = some mid ∧ run (recorded step) calls mid = some (last, rest) ∧
      moves = ⟨(clock, host), call, events, mid⟩ :: rest := by
  obtain ⟨⟨mid, first⟩, moved, ran⟩ := Option.bind_eq_some_iff.mp ran
  obtain ⟨⟨final, rest⟩, later, ran⟩ := Option.bind_eq_some_iff.mp ran
  cases ran
  obtain ⟨events, stepped, rfl⟩ := recorded_some moved
  obtain ⟨after, called, stepped⟩ := Option.bind_eq_some_iff.mp stepped
  cases stepped
  exact ⟨mid, _, rest, called, later, rfl⟩

theorem cons_run {mid last : CpuClock × Host} {rest : List ClockMove} (called : call.on clock host = some mid)
    (later : run (recorded step) calls mid = some (last, rest)) : run (recorded step) (call :: calls) (clock, host) =
      some (last, ⟨(clock, host), call, newRequests host mid.2, mid⟩ :: rest) := by
  have moved : step call (clock, host) = some (mid, newRequests host mid.2) := by
    rw [step, called]
    rfl
  rw [run, recorded_of moved, Option.bind_eq_bind, Option.bind_some]
  dsimp only
  rw [later]
  rfl

theorem run_sleeps {moves : List ClockMove} {last : CpuClock × Host} (behind : Behind clock host)
    (short : Short calls (tally clock))
    (ran : run (recorded step) calls (clock, host) = some (last, moves)) : ∀ move ∈ moves, Sleeps arm move := by
  induction calls generalizing clock host moves with
  | nil =>
    cases ran
    exact List.forall_mem_nil _
  | cons call calls ih =>
    obtain ⟨⟨next, mid⟩, events, rest, called, later, rfl⟩ := run_cons ran
    obtain ⟨brief, short⟩ := short
    rw [← on_tally behind.period called] at short
    refine List.forall_mem_cons.mpr ⟨fun ticks same => ?_, ih (on_behind behind called) short later⟩
    dsimp only at same
    subst same
    exact tick_rested behind (brief ticks rfl) called

end Sequences

section Punctual
variable {clock : CpuClock} {last nanos : Int} {rest requests : List Int} {arm : Bool}

structure Punctual (clock : CpuClock) (last : Int) : Prop where
  period : clock.timePeriod = 500
  ended : clock.error = 0
  sampled : clock.lastTime = last

def pause (last nanos : Int) : List Int := if nanos ≥ 1000000 then [last, last] else []

def wake (last nanos : Int) : List Int := if nanos > 0 then [last + nanos] else []

theorem sleepFor_pause :
    sleepFor nanos ⟨last, pause last nanos ++ rest, requests⟩ = some (nanos, ⟨last, rest, requests ++ asked nanos⟩) := by
  unfold sleepFor pause asked
  split
  next =>
    have slept : nanos - (last - last) = nanos := by omega
    change some (nanos - (last - last), _) = _
    rw [slept]
    rfl
  next =>
    rw [List.append_nil]
    rfl

theorem spinFor_wake (positive : 0 ≤ nanos) :
    spinFor nanos ⟨last, last :: (wake last nanos ++ rest), requests⟩ = some (0, ⟨last + nanos, rest, requests⟩) := by
  unfold spinFor wake
  rw [bind_some (now_next _)]
  by_cases waits : nanos > 0
  · have spun : spin (last + nanos) last ((last + nanos) :: rest) = some (last + nanos, rest) := by
      have early : last < last + nanos := by omega
      rw [spin, if_pos early]
      cases rest with
      | nil => rw [spin, if_neg (Int.lt_irrefl _)]
      | cons => rw [spin, if_neg (Int.lt_irrefl _)]
    have spins : spinUntil (last + nanos) ⟨last, (last + nanos) :: rest, requests⟩ = some
        (last + nanos, ⟨last + nanos, rest, requests⟩) := by
      rw [spinUntil]
      dsimp only
      rw [spun]
      rfl
    rw [if_pos waits, if_pos waits, List.singleton_append, bind_some spins, Int.sub_self]
    rfl
  · obtain rfl : nanos = 0 := by omega
    rw [Int.add_zero]
    rfl

def ended (clock : CpuClock) (time : Int) : CpuClock :=
  { clock with error := 0, tickCount := 0, lastTime := time, time := time - clock.epoch }

theorem correlate_punctual (punctual : Punctual clock last) (same : clock.tickCount * 500 = nanos) (positive : 0 ≤ nanos) :
    correlate clock ⟨last, last :: (pause last nanos ++ last :: (wake last nanos ++ (last + nanos) :: rest)), requests⟩ =
      some (ended clock (last + nanos), ⟨last + nanos, rest, requests ++ asked nanos⟩) := by
  obtain ⟨period, ended, sampled⟩ := punctual
  have owes : clock.tickCount * clock.timePeriod - (last - clock.lastTime) + clock.error = nanos := by
    rw [period, ended, sampled]
    omega
  unfold correlate
  rw [bind_some (now_next _), owes, bind_some sleepFor_pause, bind_some (spinFor_wake positive)]
  rfl

/-- What is asked of the readings during a call that lasts until `next`. -/
def Between (last : Int) (readings : List Int) (next : Int) : Prop := (last :: (readings ++ [next])).Pairwise (· ≤ ·)

theorem between_correlate (positive : 0 ≤ nanos) :
    Between last (last :: (pause last nanos ++ last :: (wake last nanos ++ [last + nanos]))) (last + nanos) := by
  unfold Between pause wake
  split
  next =>
    split
    next => simp; omega
    next => simp; omega
  next =>
    split
    next => simp; omega
    next => simp; omega

theorem Between.then {readings more : List Int} {next : Int} (between : Between last readings next)
    (ordered : (next :: more).Pairwise (· ≤ ·)) : (last :: (readings ++ more)).Pairwise (· ≤ ·) := by
  unfold Between at between
  rw [← List.cons_append, List.pairwise_append] at between ⊢
  obtain ⟨first, -, before⟩ := between
  obtain ⟨later, rest⟩ := List.pairwise_cons.mp ordered
  refine ⟨first, rest, fun early inside late member => ?_⟩
  exact Int.le_trans (before early inside next (List.mem_singleton_self _)) (later late member)

theorem tick_punctual (punctual : Punctual clock last) (ticks : BitVec 64) : ∃ readings next clock',
    Between last readings next ∧
    Punctual clock' next ∧ (synchronises ticks clock = true → readings.head? = some last) ∧
    ∀ rest requests, ∃ requests', clock.tick ticks ⟨last, readings ++ rest, requests⟩ = some
      (clock', ⟨next, rest, requests'⟩) := by
  have count : Punctual (counted ticks clock) last := ⟨punctual.period, punctual.ended, punctual.sampled⟩
  by_cases synced : synchronises ticks clock = true
  · obtain ⟨on, reached⟩ := of_decide_eq_true synced
    generalize wait : (counted ticks clock).tickCount * 500 = nanos
    have positive : 0 ≤ nanos := wait ▸ Int.mul_nonneg (Int.le_trans on reached) (by decide)
    refine ⟨_, last + nanos, ended (counted ticks clock) (last + nanos), between_correlate positive,
      ⟨punctual.period, rfl, rfl⟩,
      fun _ => rfl, fun rest requests => ⟨requests ++ asked nanos, ?_⟩⟩
    rw [tick_synchronises synced, ← correlate_punctual count wait positive]
    simp
  · by_cases on : 0 ≤ clock.totalTicks
    · refine ⟨[], last,
        counted ticks clock, by simp [Between], count, fun due => absurd due synced, fun rest requests => ⟨requests, ?_⟩⟩
      exact Lockstep.tick_counts on (Bool.eq_false_iff.mpr synced) _
    · refine ⟨[last], last, { clock with lastTime := last, time := last - clock.epoch }, by simp [Between],
        ⟨punctual.period, punctual.ended, rfl⟩, fun _ => rfl, fun rest requests => ⟨requests, ?_⟩⟩
      rw [tick, if_neg on]
      rfl

theorem on_punctual (punctual : Punctual clock last) (call : ClockCall) : ∃ readings next clock',
    Between last readings next ∧
    Punctual clock' next ∧ (∀ ticks, call = .tick ticks → synchronises ticks clock = true → readings.head? = some last) ∧
    ∀ rest requests, ∃ requests', call.on clock ⟨last, readings ++ rest, requests⟩ = some
      (clock', ⟨next, rest, requests'⟩) := by
  cases call with
  | setTickResolution resolution =>
    refine ⟨[], last,
      (clock.setTickResolution resolution).2, by simp [Between], ?_, nofun, fun rest requests => ⟨requests, rfl⟩⟩
    obtain ⟨period, ended, sampled⟩ := punctual
    unfold CpuClock.setTickResolution
    split
    · exact ⟨period, ended, sampled⟩
    · exact ⟨period, ended, sampled⟩
  | reset =>
    exact ⟨[last], last, clock.resetAt last, by simp [Between], ⟨punctual.period, punctual.ended, rfl⟩, nofun,
      fun rest requests => ⟨requests, rfl⟩⟩
  | tick ticks =>
    obtain ⟨readings, next, clock', between, punctual, first, ran⟩ := tick_punctual punctual ticks
    refine ⟨readings, next, clock', between, punctual, fun _ same => ?_, ran⟩
    cases same
    exact first

theorem brief_of_rested {ticks : BitVec 64} {host after : Host} {clock' : CpuClock} (punctual : Punctual clock last)
    (first : synchronises ticks clock = true → host.upcoming.head? = some last)
    (ran : clock.tick ticks host = some (clock', after))
    (rested : Rested arm ticks clock host after) : Brief ticks (tally clock) := by
  intro on reached
  have synced : synchronises ticks clock = true := decide_eq_true ⟨on, reached⟩
  have waits : wait ticks clock host = some (owed (counted ticks clock) last) := by
    rw [wait, if_pos synced, first synced]
    rfl
  have short := (rested_iff ran).mp rested _ waits
  obtain ⟨period, ended, sampled⟩ := punctual
  dsimp only [owed, counted, tally] at short ⊢
  rw [period, ended, sampled] at short
  omega

theorem run_punctual (punctual : Punctual clock last) (calls : List ClockCall) : ∃ readings,
    (last :: readings).Pairwise (· ≤ ·) ∧
    ∀ requests, ∃ final moves, run (recorded step) calls (clock, ⟨last, readings, requests⟩) = some (final, moves) ∧
      ((∀ move ∈ moves, Sleeps arm move) → Short calls (tally clock)) := by
  induction calls generalizing clock last with
  | nil => exact ⟨[], by simp, fun requests => ⟨_, [], rfl, fun _ => trivial⟩⟩
  | cons call calls ih =>
    obtain ⟨readings, next, clock', between, onTime, first, ran⟩ := on_punctual punctual call
    obtain ⟨more, ordered, rest⟩ := ih onTime
    refine ⟨readings ++ more, between.then ordered, fun requests => ?_⟩
    obtain ⟨requests', called⟩ := ran more requests
    obtain ⟨final, moves, later, short⟩ := rest requests'
    refine ⟨final, _, cons_run called later, fun sleeps => ?_⟩
    obtain ⟨one, others⟩ := List.forall_mem_cons.mp sleeps
    refine ⟨fun ticks same => ?_, on_tally punctual.period called ▸ short others⟩
    have rested := one ticks same
    subst same
    refine brief_of_rested punctual (fun synced => ?_) called rested
    rw [List.head?_append, first ticks rfl synced]
    rfl

end Punctual

section Validity
variable {arm : Bool} {calls : List ClockCall}

/-- On every host, all sleeps that a new clock asks for after its reset are taken. -/
def Valid (arm : Bool) (calls : List ClockCall) : Prop :=
  ∀ maxResolution host last moves, host.Steady →
    run (recorded step) (.reset :: calls) (make 2000000 maxResolution, host) = some (last, moves) → ∀ move ∈ moves,
      Sleeps arm move

theorem valid_iff : Valid arm calls ↔ Short calls {} := by
  constructor
  · intro valid
    have punctual : Punctual (make 2000000 1) 0 := ⟨rfl, rfl, rfl⟩
    obtain ⟨readings, ordered, runs⟩ := @run_punctual _ _ arm punctual (.reset :: calls)
    obtain ⟨final, moves, ran, short⟩ := runs []
    exact (short (valid 1 ⟨0, readings, []⟩ final moves ordered ran)).2
  · intro short maxResolution host last moves steady ran
    obtain ⟨⟨clock, mid⟩, events, rest, called, later, rfl⟩ := run_cons ran
    obtain ⟨epoch, looked, look, reset⟩ := bind_some_iff.mp called
    obtain ⟨rfl, rfl⟩ := pure_some_iff.mp reset
    obtain ⟨-, last, steady⟩ := now_some steady look
    have behind : Behind (resetAt epoch (make 2000000 maxResolution)) looked :=
      ⟨steady, rfl, Int.le_refl _, Int.le_of_eq last.symm⟩
    refine List.forall_mem_cons.mpr ⟨fun ticks same => ?_, run_sleeps behind short later⟩
    cases same

/-- Below this resolution no byte of ticks brings a wait to too many of them. -/
theorem short_of_low {count : Count} (low : ∀ resolution, .setTickResolution resolution ∈ calls → resolution < 1428444500)
    (bytes : ∀ ticks, .tick ticks ∈ calls → ticks.toNat ≤ 255)
    (resolved : count.totalTicks ≤ 2856888) (begun : 0 ≤ count.tickCount ∧ count.tickCount ≤ 2856887) :
      Short calls count := by
  induction calls generalizing count with
  | nil => trivial
  | cons call calls ih =>
    have later := @ih (call.counts count) (fun resolution member => low resolution (List.mem_cons_of_mem _ member))
      (fun ticks member => bytes ticks (List.mem_cons_of_mem _ member))
    obtain ⟨nonneg, small⟩ := begun
    cases call with
    | setTickResolution resolution =>
      have below := low resolution List.mem_cons_self
      refine ⟨nofun, later ?_ ⟨nonneg, small⟩⟩
      dsimp only [ClockCall.counts]
      split
      next timed =>
        have quotient : 0 ≤ resolution.tdiv 500 ∧ resolution.tdiv 500 ≤ 2856888 := by
          rw [Int.tdiv_eq_ediv_of_nonneg timed]
          omega
        rw [narrow_of_range ⟨by omega, by omega⟩]
        exact quotient.2
      next => decide
    | reset => exact ⟨nofun, later resolved ⟨nonneg, small⟩⟩
    | tick ticks =>
      have few := bytes ticks List.mem_cons_self
      have same : narrow (count.tickCount + ticks.toNat) = count.tickCount + ticks.toNat :=
        narrow_of_range ⟨by omega, by omega⟩
      refine ⟨fun other equal on reached => ?_, later ?_ ?_⟩
      · cases equal
        rw [same]
        omega
      · dsimp only [ClockCall.counts]
        split
        next => exact resolved
        next => exact resolved
      · dsimp only [ClockCall.counts]
        rw [same]
        split
        next =>
          dsimp only
          split
          next => decide
          next below => exact ⟨by omega, by omega⟩
        next => exact ⟨nonneg, small⟩

theorem short_ticks {totalTicks tickCount : Int} (n : Nat) (nonneg : 0 ≤ tickCount) (below : tickCount + n < totalTicks)
    (small : totalTicks ≤ 20000000) (short : Short (List.replicate n (.tick 1) ++ calls) ⟨totalTicks, tickCount⟩) :
    Short calls ⟨totalTicks, tickCount + n⟩ := by
  induction n generalizing tickCount with
  | zero => simpa using short
  | succ n ih =>
    have one : ((1 : BitVec 64).toNat : Int) = 1 := rfl
    have next : (ClockCall.tick 1).counts ⟨totalTicks, tickCount⟩ = ⟨totalTicks, tickCount + 1⟩ := by
      dsimp only [ClockCall.counts]
      rw [one, narrow_of_range ⟨by omega, by omega⟩, if_pos (by omega), if_neg (by omega)]
    obtain ⟨-, rest⟩ := short
    change Short (List.replicate n (.tick 1) ++ calls) ((ClockCall.tick 1).counts ⟨totalTicks, tickCount⟩) at rest
    rw [next] at rest
    have short := ih (by omega) (by omega) rest
    rw [show tickCount + 1 + n = tickCount + (n + 1 : Nat) by omega] at short
    exact short

def session (resolution : Int) (ticks : List Byte) : List ClockCall :=
  .setTickResolution resolution :: ticks.map fun ticks => .tick (ticks.setWidth 64)

/-- The resolutions at which a run can ask for no sleep that is refused. -/
theorem session_valid_iff {resolution : Int} (accepted : resolution ≤ 10 ^ 10) :
    (∀ ticks, Valid arm (session resolution ticks)) ↔ resolution < 1428444500 := by
  constructor
  · intro valid
    by_contra high
    have quotient : resolution.tdiv 500 = resolution / 500 := Int.tdiv_eq_ediv_of_nonneg (by omega)
    obtain ⟨n, whole⟩ : ∃ n : Nat, resolution / 500 = n + 1 := ⟨(resolution / 500 - 1).toNat, by omega⟩
    have short := valid_iff.mp (valid (List.replicate n 1 ++ [255]))
    obtain ⟨-, short⟩ := short
    have resolved : (ClockCall.setTickResolution resolution).counts {} = ⟨n + 1, 0⟩ := by
      dsimp only [ClockCall.counts]
      rw [if_pos (by omega), quotient, whole, narrow_of_range ⟨by omega, by omega⟩]
    rw [resolved, List.map_append, List.map_replicate] at short
    obtain ⟨brief, -⟩ := short_ticks n (Int.le_refl 0) (by omega) (by omega) short
    have most : (((255 : Byte).setWidth 64).toNat : Int) = 255 := rfl
    have few := brief _ rfl
    unfold Brief at few
    dsimp only at few
    rw [most, narrow_of_range ⟨by omega, by omega⟩] at few
    omega
  · intro low ticks
    refine valid_iff.mpr (short_of_low ?_ ?_ (by decide) (by decide))
    · intro other member
      rcases List.mem_cons.mp member with same | member
      · cases same
        exact low
      · obtain ⟨_, -, impossible⟩ := List.mem_map.mp member
        cases impossible
    · intro wide member
      rcases List.mem_cons.mp member with impossible | member
      · cases impossible
      · obtain ⟨byte, -, same⟩ := List.mem_map.mp member
        cases same
        have bound := byte.isLt
        rw [BitVec.toNat_setWidth]
        omega

end Validity

section Machines
open Machine (Setup Loop Event)
open Timeline (LoopMove executes)

variable {ω : Type} {lib : Libraries} {build : Build} {setup : Setup ω} {start loop after : Loop ω}
  {events : List (Event ω)}
  {moves : List (LoopMove ω)} {arm : Bool}

theorem reachable_overspin {speed : Nat} {maxResolution : Int} {clock : CpuClock}
    (reached : Reachable speed maxResolution clock) : clock.error ≤ 0 := by
  induction reached with
  | new => exact Int.le_refl _
  | setTickResolution resolution _ ih =>
    unfold CpuClock.setTickResolution
    split
    · exact ih
    · exact ih
  | tick ticks _ ran ih =>
    rcases tick_cases ran with ⟨-, ran⟩ | ⟨-, -, rfl, -⟩ | ⟨-, -, ran⟩
    · obtain ⟨-, -, -, late⟩ := correlate_asks ran
      exact late
    · exact ih
    · obtain ⟨lastTime, rfl⟩ := sample_some ran
      exact ih
  | reset _ ran ih =>
    obtain ⟨_, _, -, ran⟩ := bind_some_iff.mp ran
    obtain ⟨rfl, -⟩ := pure_some_iff.mp ran
    exact ih

/-- A run of a machine begins with its clock on time or behind, whatever was run before. -/
theorem entered_behind (entered : Lifecycle.Entered lib build setup start) (steady : start.host.Steady) :
    Behind start.clock start.host ∧ start.host.requests = [] := by
  obtain @⟨options, maxResolution, world, new, m, prepared, launched, history, pc, epoch, readings, threads, policy,
    start, made, run,
    prepares, launches, configured, started⟩ := entered
  obtain ⟨opt, rfl⟩ := Lifecycle.make_made made
  have reached : Reachable 2000000 maxResolution m.clock := by
    apply Threshold.adjusted_reachable (Adjustments.history_adjusted run)
    exact .new
  obtain ⟨resolution, opt, -, set⟩ := Threshold.prepare_prepared prepares
  rw [Lifecycle.launch_ok launches] at started
  obtain ⟨loadAsync, -, started⟩ := ErrorState.except_bind_ok_iff.mp started
  obtain ⟨saveAsync, -, started⟩ := ErrorState.except_bind_ok_iff.mp started
  cases started
  have overspin : m.clock.error ≤ 0 := reachable_overspin reached
  have reset : Behind (m.clock.resetAt epoch) ⟨epoch, readings, []⟩ :=
    ⟨steady, reached.ranged.period, overspin, Int.le_refl _⟩
  have begins : Behind prepared.clock ⟨epoch, readings, []⟩ := by
    rw [set.clock]
    exact @on_behind _ _ _ _ (.setTickResolution resolution) reset rfl
  exact ⟨begins, rfl⟩

/-- Every sleep that a run of the machine loop asks for is taken, and no second is spun. -/
structure LoopSleeps (arm : Bool) (setup : Setup ω) (moves : List (LoopMove ω)) (loop : Loop ω) : Prop where
  requests : ∀ request ∈ loop.host.requests, Accepted arm request
  rested : ∀ move ∈ moves, ∀ ticks, executes setup move.input move.before = some ticks →
    Rested arm (ticks.setWidth 64) move.before.clock move.before.host move.after.host

def LoopShort (setup : Setup ω) (moves : List (LoopMove ω)) : Prop :=
  ∀ move ∈ moves, ∀ ticks, executes setup move.input move.before = some ticks →
    Brief (ticks.setWidth 64) (tally move.before.clock)

theorem run_loopSleeps (entered : Lifecycle.Entered lib build setup start) (steady : start.host.Steady)
    (ran : Run (recorded (Loop.step setup)) start moves loop) (short : LoopShort setup moves) :
      LoopSleeps arm setup moves loop := by
  obtain ⟨behind, none⟩ := entered_behind entered steady
  have along : LoopShort setup moves → Behind loop.clock loop.host ∧ LoopSleeps arm setup moves loop := by
    refine ran.invariant (fun moves loop => LoopShort setup moves → Behind loop.clock loop.host ∧
      LoopSleeps arm setup moves loop) ?_ ?_
    · exact fun _ => ⟨behind, by simp [none], List.forall_mem_nil _⟩
    · intro moves loop choice after added before moved short
      obtain ⟨events, stepped, rfl⟩ := recorded_some moved
      obtain ⟨first, one⟩ := List.forall_mem_append.mp short
      obtain ⟨behind, requests, rested⟩ := before first
      rcases Timeline.step_ticks stepped with ⟨silent, clock, host⟩ | ⟨ticks, executed, ticked⟩
      · rw [clock, host]
        refine ⟨behind, host ▸ requests, List.forall_mem_append.mpr ⟨rested,
          List.forall_mem_singleton.mpr fun ticks executed => ?_⟩⟩
        rw [silent] at executed
        cases executed
      · have rests : Rested arm (ticks.setWidth 64) loop.clock loop.host after.host :=
          tick_rested behind (List.forall_mem_singleton.mp one ticks executed) ticked
        refine ⟨tick_behind behind ticked, ?_,
          List.forall_mem_append.mpr ⟨rested, List.forall_mem_singleton.mpr fun other same => ?_⟩⟩
        · rw [tick_asks ticked, ← newRequests_tick ticked]
          exact List.forall_mem_append.mpr ⟨requests, rests.accepted⟩
        · cases executed.symm.trans same
          exact rests
  exact (along short).2

/-- Whether all sleeps are taken is decided by the calls on the clock: no call of `Tick`
may bring a wait to more than 2857142 ticks. At one resolution no sequence of bytes does so
if and only if it is below 1.4284445 seconds. A run of a machine that keeps to the bound
asks for no sleep that is refused. -/
theorem sleeps_iff (arm : Bool) : (∀ calls, Valid arm calls ↔ Short calls {}) ∧
    (∀ resolution, -1 ≤ resolution ∧ resolution ≤ 10 ^ 10 →
      ((∀ ticks, Valid arm (session resolution ticks)) ↔ resolution < 1428444500)) ∧
    ∀ {ω : Type} {lib : Libraries} {build : Build} {setup : Setup ω} {start loop : Loop ω} {moves : List (LoopMove ω)},
      Lifecycle.Entered lib build setup start → start.host.Steady → Run (recorded (Loop.step setup)) start moves loop →
        LoopShort setup moves → LoopSleeps arm setup moves loop := by
  refine ⟨fun calls => valid_iff, fun resolution accepted => session_valid_iff accepted.2, ?_⟩
  intro ω lib build setup start loop moves entered steady ran short
  exact run_loopSleeps entered steady ran short

end Machines

section Session
open Machine (Setup Loop Event)
open Calls (pending instruction_executed)
open Timeline (LoopMove executes)
open Lifecycle Starvation

variable (totalTicks : Int)

def longLibraries : Libraries := { sessionLibraries with
  parse := fun text =>
    if text = "\x7b\"isrFreq\":1\x7d" then some (.object [("isrFreq", .integer 1)])
    else if text = Options.resolutionText (totalTicks * 500) then some
      (.object [("clockResolution", .integer (totalTicks * 500))])
    else sessionLibraries.parse text }

def longCalls : List (Machine.Call Unit) :=
  [.setOptions (some "\x7b\"isrFreq\":1\x7d"), .setClockResolution (totalTicks * 500),
    .setMemoryController (some (quitter (return 0x00))), .setIoController (some (quitter (return 0)))]

def longSetup : Setup Unit where
  lib := longLibraries totalTicks
  build := ⟨true, false⟩
  opt := ⟨.object [("clockResolution", .integer (totalTicks * 500)), ("compressor", .string "none"),
    ("cpu", .string "i8080"),
    ("encoder", .string "base64"), ("isrFreq", .integer 1), ("loadAsync", .bool false),
    ("ram", .object [("block", .array [.object [("offset", .integer 0), ("size", .integer 0)]])]),
    ("rom", .object [("file", .array [.object [("offset", .integer 0), ("size", .integer 0)]])]),
    ("runAsync", .bool false), ("saveAsync", .bool false)]⟩
  memoryController := quitter (return 0x00)
  ioController := quitter (return 0)
  ticksPerIsr := totalTicks
  onLoad := false
  onSave := false

def longClock (tickCount : Int) : CpuClock := { make 2000000 1 with totalTicks, tickCount }

def longHost : Host := ⟨0, [0, 0, 0, 0, totalTicks * 500, totalTicks * 500], []⟩

def longLoop (cpu : Intel8080) (tickCount : Int) : Loop Unit where
  sys := ⟨cpu, {}, ()⟩
  clock := longClock totalTicks tickCount
  host := longHost totalTicks
  totalTicks := tickCount

theorem execute_idles (cpu : Intel8080) : Intel8080.execute (longSetup totalTicks).wiring ⟨cpu, {}, ()⟩ =
    .ok 4 ⟨{ cpu with pc := cpu.pc + 1, opcode := 0x00 }, {}, ()⟩ := by
  have idle : (ControlBus.receive .interrupt ({} : SystemBus)).2 = {} := by decide
  have unset : ¬ ({} : SystemBus).controlBus.getLsbD Signal.interrupt.lane = true := by decide
  rw [BusDiscipline.execute_run, if_neg unset]
  dsimp only
  rw [idle]
  refine (Interrupts.dispatch_none_run ⟨true, false⟩ (quitter (return 0x00)) (quitter (return 0)) cpu 0 0 ()).trans ?_
  rfl

theorem long_on (cpu : Intel8080) (tickCount : Int) : BusDiscipline.PoweredOn (longLoop totalTicks cpu tickCount).sys.bus :=
  (by decide : BusDiscipline.PoweredOn ({} : SystemBus))

theorem long_pending (cpu : Intel8080) (tickCount : Int) : pending (longLoop totalTicks cpu tickCount) = ⟨cpu, {}, ()⟩ :=
  congrArg (fun bus => (⟨cpu, bus, ()⟩ : System Unit)) (by decide : (ControlBus.receive .powerOff ({} : SystemBus)).2 = {})

variable {totalTicks}

theorem idles (cpu : Intel8080) {tickCount : Int} (nonneg : 0 ≤ tickCount) (below : tickCount + 4 < totalTicks)
    (small : totalTicks ≤ 20000000) : Loop.step (longSetup totalTicks) (.turn (.ok none) (.ok ()))
    (longLoop totalTicks cpu tickCount) =
      some (longLoop totalTicks { cpu with pc := cpu.pc + 1, opcode := 0x00 } (tickCount + 4), [.executed]) := by
  have ticked : (longClock totalTicks tickCount).tick (ticksTo 4) (longHost totalTicks) =
      some (longClock totalTicks (tickCount + 4), longHost totalTicks) :=
    tick_counts (by change 0 ≤ totalTicks; omega) ⟨by dsimp only [longClock]; omega, by dsimp only [longClock]; omega⟩ below
  have early : ¬ tickCount + 4 - 0 ≥ totalTicks := by omega
  change (longLoop totalTicks cpu tickCount).instruction (longSetup totalTicks) = _
  rw [instruction_executed (long_on totalTicks cpu tickCount)
    ((congrArg _ (long_pending totalTicks cpu tickCount)).trans (execute_idles totalTicks cpu))]
  change Option.bind ((longClock totalTicks tickCount).tick (ticksTo 4) (longHost totalTicks)) _ = _
  rw [ticked]
  exact if_neg early

theorem runs_idle (n : Nat) (few : 4 * (n : Int) < totalTicks) (small : totalTicks ≤ 20000000) : ∃ moves cpu,
    Run (recorded (Loop.step (longSetup totalTicks))) (longLoop totalTicks {} 0) moves (longLoop totalTicks cpu (4 * n)) ∧
      ∀ move ∈ moves, ∃ cpu tickCount, move.before = longLoop totalTicks cpu tickCount ∧ 0 ≤ tickCount ∧
      tickCount < 4 * n := by
  induction n with
  | zero => exact ⟨[], {}, .refl, List.forall_mem_nil _⟩
  | succ n ih =>
    obtain ⟨moves, cpu, run, counted⟩ := ih (by omega)
    have next := run.move (recorded_of (@idles totalTicks cpu (4 * n) (by omega) (by omega) small))
    rw [show (4 * n + 4 : Int) = 4 * (n + 1 : Nat) by omega] at next
    refine ⟨_, _, next, List.forall_mem_append.mpr ⟨fun move member => ?_, List.forall_mem_singleton.mpr ?_⟩⟩
    · obtain ⟨cpu, tickCount, before, nonneg, below⟩ := counted move member
      exact ⟨cpu, tickCount, before, nonneg, by omega⟩
    · exact ⟨cpu, 4 * n, rfl, by omega, by omega⟩

theorem asks_long (cpu : Intel8080) {request : Int}
    (ticked : (longClock totalTicks (totalTicks - 4)).tick (ticksTo 4) (longHost totalTicks) =
    some (ended (longClock totalTicks totalTicks) (totalTicks * 500), ⟨totalTicks * 500, [], [request]⟩)) :
    ∃ loop, Loop.step (longSetup totalTicks) (.turn (.ok none) (.ok ())) (longLoop totalTicks cpu (totalTicks - 4)) =
      some (loop, [.executed]) ∧ loop.host.requests = [request] := by
  have due : totalTicks - 4 + 4 - 0 ≥ totalTicks := by omega
  refine ⟨(Calls.executed 4 ⟨{ cpu with pc := cpu.pc + 1, opcode := 0x00 }, {}, ()⟩
    (ended (longClock totalTicks totalTicks) (totalTicks * 500))
    ⟨totalTicks * 500, [], [request]⟩ (longLoop totalTicks cpu (totalTicks - 4))).goto (.serviced .quit), ?_, rfl⟩
  change (longLoop totalTicks cpu (totalTicks - 4)).instruction (longSetup totalTicks) = _
  rw [instruction_executed (long_on totalTicks cpu _)
    ((congrArg _ (long_pending totalTicks cpu _)).trans (execute_idles totalTicks cpu))]
  change Option.bind ((longClock totalTicks (totalTicks - 4)).tick (ticksTo 4) (longHost totalTicks)) _ = _
  rw [ticked]
  exact if_pos due

/-- A machine accepts a resolution of two seconds. Its first sleep is refused. -/
theorem two_seconds_refused :
    enter (longLibraries 4000000) ⟨true, false⟩ () (longCalls 4000000) 0 (longHost 4000000).upcoming =
      some (longSetup 4000000, longLoop 4000000 {} 0) ∧ (longHost 4000000).Steady ∧
    ∃ moves loop, Run (recorded (Loop.step (longSetup 4000000))) (longLoop 4000000 {} 0) moves loop ∧
      loop.host.requests = [1400000000] ∧
      ∀ arm, ¬ LoopSleeps arm (longSetup 4000000) moves loop := by
  have entered : enter (longLibraries 4000000) ⟨true, false⟩ () (longCalls 4000000) 0 (longHost 4000000).upcoming =
      some (longSetup 4000000, longLoop 4000000 {} 0) := by with_unfolding_all rfl
  have steady : (longHost 4000000).Steady := by
    unfold Host.Steady
    decide
  obtain ⟨moves, cpu, run, -⟩ := @runs_idle 4000000 999999 (by decide) (by decide)
  obtain ⟨loop, moved, asks⟩ := @asks_long 4000000 cpu 1400000000 (by decide +kernel)
  refine ⟨entered, steady, _, loop, run.move (recorded_of moved), asks, fun arm sleeps => ?_⟩
  have taken : Accepted arm 1400000000 := sleeps.requests _ (by simp [asks])
  have bounds := accepted_iff.mp taken
  omega

theorem sleeps_iff_second : (∀ ticks, Valid true (session 1000000000 ticks)) ∧
    ∃ moves loop, Run (recorded (Loop.step (longSetup 2000000))) (longLoop 2000000 {} 0) moves loop ∧
      loop.host.requests = [700000000] ∧ LoopSleeps true (longSetup 2000000) moves loop := by
  refine ⟨((sleeps_iff true).2.1 1000000000 (by decide)).mpr (by decide), ?_⟩
  have steady : (longHost 2000000).Steady := by
    unfold Host.Steady
    decide
  have entered : enter (longLibraries 2000000) ⟨true, false⟩ () (longCalls 2000000) 0 (longHost 2000000).upcoming =
      some (longSetup 2000000, longLoop 2000000 {} 0) := by with_unfolding_all rfl
  obtain ⟨moves, cpu, run, counted⟩ := @runs_idle 2000000 499999 (by decide) (by decide)
  obtain ⟨loop, moved, asks⟩ := @asks_long 2000000 cpu 700000000 (by decide +kernel)
  have whole := run.move (recorded_of moved)
  refine ⟨_, loop, whole, asks, (sleeps_iff true).2.2 (enter_entered entered) steady whole ?_⟩
  have brief (cpu : Intel8080) {tickCount : Int} (ticks : Byte) (nonneg : 0 ≤ tickCount) (below : tickCount < 2000000) :
      Brief (ticks.setWidth 64) (tally (longLoop 2000000 cpu tickCount).clock) := by
    have byte := ticks.isLt
    have wide : (ticks.setWidth 64).toNat = ticks.toNat := by
      rw [BitVec.toNat_setWidth]
      omega
    intro on reached
    change narrow (tickCount + (ticks.setWidth 64).toNat) ≤ 2857142
    rw [wide, narrow_of_range ⟨by omega, by omega⟩]
    omega
  refine List.forall_mem_append.mpr ⟨fun move member ticks executed => ?_,
    List.forall_mem_singleton.mpr fun ticks executed => ?_⟩
  · obtain ⟨cpu, tickCount, before, nonneg, below⟩ := counted move member
    rw [before]
    exact brief cpu ticks nonneg (by omega)
  · exact brief cpu ticks (by decide) (by decide)

end Session
end MachEmu.Proofs.SleepRequests
