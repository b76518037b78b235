import MachEmu.Base
import MachEmu.Lib.SteadyClock

/-! The clock that slows the cpu down to its nominal speed. Times and durations
are nanoseconds. -/

namespace MachEmu
open SteadyClock

/-- The value an `int` takes. -/
def narrow (n : Int) : Int := (BitVec.ofInt 32 n).toInt

structure CpuClock where
  totalTicks : Int := -1
  tickCount : Int := 0
  timePeriod : Int := 0
  error : Int := 0
  epoch : Int := 0
  lastTime : Int := 0
  time : Int := 0
  maxResolution : Int := 0
deriving DecidableEq, Repr

namespace CpuClock

/-- The constructor; the resolution of the host clock is queried from the system. -/
def make (speed : Nat) (maxResolution : Int) : CpuClock := { timePeriod := (1000000000 / speed : Nat), maxResolution }

/-- The error code and the clock; the resolution in ticks is its `totalTicks`. -/
def setTickResolution (resolution : Int) (clock : CpuClock) : ErrorCode × CpuClock :=
  if resolution ≥ 0 ∧ clock.timePeriod ≥ 0 then
    (if resolution < clock.maxResolution then .clockResolution else .noError,
      { clock with totalTicks := narrow (resolution.tdiv clock.timePeriod) })
  else (.noError, { clock with totalTicks := -1 })

/-- `static_cast<int64_t>(spinTime.count() * spinPercantageToSleep_)`, with the factor an exact 0.7. -/
def sleepRequest (spinTime : Int) : Int := (spinTime * 7).tdiv 10

/-- The `tv_nsec` of a request, an `int32_t` on arm and an `int64_t` elsewhere. The
conversion of a value that does not fit is undefined. -/
def tvNsec (arm : Bool) (request : Int) : Option Int :=
  let limit : Int := if arm then 0x80000000 else 0x8000000000000000
  if -limit ≤ request ∧ request < limit then some request else none

/-- Don't attempt to sleep for anything less than a millisecond. -/
def sleepFor (spinTime : Int) : ClockM Int := do
  if spinTime ≥ 1000000 then
    let start ← now
    sleep (sleepRequest spinTime)
    return spinTime - ((← now) - start)
  else
    return spinTime

/-- Spin for the remainder and record any over spin. -/
def spinFor (spinTime : Int) : ClockM Int := do
  let start ← now
  if spinTime > 0 then
    let finish := start + spinTime
    return finish - (← spinUntil finish)
  else
    return spinTime

/-- `lastTime_ = steady_clock::now(); time_ = lastTime_ - epoch_;` -/
def sample (clock : CpuClock) : ClockM CpuClock := do
  let lastTime ← now
  return { clock with lastTime, time := lastTime - clock.epoch }

/-- The wait for `nanos`, what is left over going into the next period. -/
def correlate (clock : CpuClock) : ClockM CpuClock := do
  let nanos := clock.tickCount * clock.timePeriod - ((← now) - clock.lastTime) + clock.error
  let error ← spinFor (← sleepFor nanos)
  sample { clock with error, tickCount := 0 }

/-- The time that is returned is the `time` of the clock. -/
def tick (ticks : BitVec 64) (clock : CpuClock) : ClockM CpuClock :=
  if clock.totalTicks ≥ 0 then
    let clock := { clock with tickCount := narrow (clock.tickCount + ticks.toNat) }
    if clock.tickCount ≥ clock.totalTicks then correlate clock else return clock
  else
    sample clock

def resetAt (epoch : Int) (clock : CpuClock) : CpuClock := { clock with epoch, lastTime := epoch }

def reset (clock : CpuClock) : ClockM CpuClock := do return clock.resetAt (← now)

end CpuClock
end MachEmu
