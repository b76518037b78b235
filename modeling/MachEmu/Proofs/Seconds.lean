import MachEmu.Lib.Alarm
import MachEmu.Proofs.Signals
import MachEmu.Proofs.Times

/-! The interrupt that the test controller raises every second. In the first run of a
machine it comes when more than a second has passed since the last one, by the time that
the run shows, and so not more often than seconds pass on the host. -/

namespace MachEmu.Proofs.Seconds
open SteadyClock Alarm Machine Loop Traces Calls PlainRam InstructionPrograms Timeline Reference Conversations
  Signals Times Lockstep

abbrev second : BitVec 64 := 1000000000

/-- A service that no request takes is a look at the alarm. -/
def looked : Access → Option (Look 64)
  | .serviceInterrupts _ currTime _ (.ok .one) => some ⟨currTime, true⟩
  | .serviceInterrupts _ currTime _ (.ok .noInterrupt) => some ⟨currTime, false⟩
  | _ => none

def looks (log : List Access) : List (Look 64) := log.filterMap looked

section Controllers
variable {setup : Setup (Ram TestIoController)} {world last : Ram TestIoController} {io after : TestIoController}
  {log : List Access} {access : Access} {since : BitVec 64}

/-- The controller is the alarm over the services without a request. -/
structure Rings (since : BitVec 64) (log : List Access) (io : TestIoController) : Prop where
  kept : Kept second since (looks log)
  lastTime : io.lastTime = lastRing since (looks log)

theorem Rings.unseen (rings : Rings since log io) (unseen : looked access = none) (same : after.lastTime = io.lastTime) :
    Rings since (log ++ [access]) after := by
  have still : looks (log ++ [access]) = looks log := by
    rw [looks, List.filterMap_append, List.filterMap_cons_none unseen, List.filterMap_nil, List.append_nil]
    rfl
  refine ⟨?_, ?_⟩
  · rw [still]
    exact rings.kept
  · rw [still, same]
    exact rings.lastTime

theorem Rings.seen (rings : Rings since log io) {look : Look 64} (seen : looked access = some look)
    (rang : look.rang = true ↔ second < look.time - io.lastTime) (counts : after.lastTime = look.since io.lastTime) :
    Rings since (log ++ [access]) after := by
  have more : looks (log ++ [access]) = looks log ++ [look] := by
    rw [looks, List.filterMap_append, List.filterMap_cons_some seen, List.filterMap_nil]
    rfl
  refine ⟨?_, ?_⟩
  · rw [more, kept_snoc, ← rings.lastTime]
    exact ⟨rings.kept, rang⟩
  · rw [more, lastRing_snoc, ← rings.lastTime]
    exact counts

theorem base_answers (currTime cycles : BitVec 64) (base : BaseIoController) :
    (base.serviceInterrupts currTime cycles).1 = .quit ∨ (base.serviceInterrupts currTime cycles).1 = .save ∨
      (base.serviceInterrupts currTime cycles).1 = .load ∨ (base.serviceInterrupts currTime cycles).1 = .noInterrupt := by
  unfold BaseIoController.serviceInterrupts
  split
  · exact .inl rfl
  · split
    · exact .inr (.inl rfl)
    · split
      · exact .inr (.inr (.inl rfl))
      · exact .inr (.inr (.inr rfl))

theorem Rings.service (rings : Rings since log io) (currTime cycles : BitVec 64) :
    Rings since (log ++ [.serviceInterrupts .io currTime cycles (.ok (io.serviceInterrupts currTime cycles).1)])
      (io.serviceInterrupts currTime cycles).2 := by
  have answers := base_answers currTime cycles io.toBaseIoController
  unfold TestIoController.serviceInterrupts
  generalize io.toBaseIoController.serviceInterrupts currTime cycles = served at answers ⊢
  obtain ⟨isr, base⟩ := served
  dsimp only at answers ⊢
  split
  next idle =>
    subst idle
    -- Without a sign the difference is never below zero.
    rw [if_pos (show currTime - io.lastTime ≥ 0 from BitVec.le_def.mpr (Nat.zero_le _))]
    split
    next due => exact rings.seen rfl (iff_of_true rfl due) rfl
    next early => exact rings.seen rfl (iff_of_false Bool.false_ne_true early) rfl
  next busy =>
    refine rings.unseen ?_ rfl
    rcases answers with rfl | rfl | rfl | idle
    · rfl
    · rfl
    · rfl
    · exact absurd idle busy

theorem exchange_rings (rings : Rings since log io)
    (exchange : Exchange testPorts TestIoController.serviceInterrupts io access after) :
    Rings since (log ++ [access]) after := by
  cases exchange with
  | memory there =>
    refine rings.unseen ?_ rfl
    cases access with
    | read => rfl
    | write => rfl
    | serviceInterrupts => exact there.elim
  | read addr => exact rings.unseen rfl rfl
  | write addr value =>
    refine rings.unseen rfl ?_
    change (io.write addr value).lastTime = io.lastTime
    unfold TestIoController.write
    split <;> rfl
  | service currTime cycles => exact rings.service currTime cycles

theorem respond_rings (wired : Wired setup testPorts TestIoController.serviceInterrupts)
    (run : Run (respond setup) world log last) : Rings world.io.lastTime log last.io := by
  refine run.invariant (fun log last => Rings world.io.lastTime log last.io) ⟨trivial, rfl⟩ ?_
  intro log last request next events rings responded
  obtain ⟨access, rfl, exchange⟩ := respond_exchange wired responded
  exact exchange_rings rings exchange

end Controllers

section Runs
variable {ω : Type} {setup : Setup ω} {start loop : Loop ω} {moves : List (LoopMove ω)} {epoch : Int}

theorem looks_shown {log : List Access} {time : BitVec 64} (shown : ∀ call ∈ served log, call.currTime = time) :
    ∀ look ∈ looks log, look.time = time := by
  intro look member
  obtain ⟨access, there, seen⟩ := List.mem_filterMap.mp member
  unfold looked at seen
  split at seen
  next =>
    cases seen
    exact shown _ (List.mem_filterMap.mpr ⟨_, there, rfl⟩)
  next =>
    cases seen
    exact shown _ (List.mem_filterMap.mpr ⟨_, there, rfl⟩)
  next => cases seen

theorem looks_traffic : looks (traffic setup moves) = moves.flatMap fun move =>
    looks (calls setup move.input move.before) := by
  rw [looks, traffic, List.filterMap_flatMap]
  rfl

theorem toNat_ofInt {time : Int} (range : 0 ≤ time ∧ time < 2 ^ 64) : ((BitVec.ofInt 64 time).toNat : Int) = time := by
  rw [BitVec.toNat_ofInt]
  omega

theorem run_forward (sampled : Sampled epoch start) (begun : start.currTime = 0)
    (run : Run (recorded (Loop.step setup)) start moves loop) (short : loop.host.last - epoch < 2 ^ 64) :
    Forward 0 (looks (traffic setup moves)) ∧ ∀ look ∈ looks (traffic setup moves),
      (look.time.toNat : Int) ≤ loop.host.last - epoch := by
  obtain ⟨ended, -, shown, sorted⟩ := run_sampled sampled run
  have past := ended.past
  have named : ∀ move ∈ moves, (0 ≤ move.after.currTime ∧ move.after.currTime ≤ loop.currTime) ∧
      ∀ look ∈ looks (calls setup move.input move.before), (look.time.toNat : Int) = move.after.currTime := by
    intro move member
    obtain ⟨shows, since, before⟩ := shown move member
    have range : 0 ≤ move.after.currTime ∧ move.after.currTime ≤ loop.currTime := ⟨begun ▸ since, before⟩
    refine ⟨range, fun look there => ?_⟩
    rw [looks_shown (fun call served => (shows call served).1) look there]
    exact toNat_ofInt ⟨range.1, by omega⟩
  rw [looks_traffic]
  refine ⟨List.pairwise_cons.mpr ⟨fun time _ => Nat.zero_le time, ?_⟩, ?_⟩
  · refine List.pairwise_map.mpr (List.pairwise_flatMap.mpr ⟨fun move member => ?_, ?_⟩)
    · obtain ⟨-, same⟩ := named move member
      refine List.pairwise_of_forall_mem_list fun first one last other => ?_
      have times := (same first one).trans (same last other).symm
      omega
    · refine sorted.imp_of_mem fun {earlier later} one other order first there last here => ?_
      have times := (named earlier one).2 first there
      have times' := (named later other).2 last here
      omega
  · intro look member
    obtain ⟨move, there, here⟩ := List.mem_flatMap.mp member
    obtain ⟨⟨-, before⟩, same⟩ := named move there
    have time := same look here
    omega

end Runs

section Machines
open Lifecycle
variable {lib : Libraries} {build : Build} {m : Machine (Ram TestIoController)} {setup : Setup (Ram TestIoController)}
  {start loop : Loop (Ram TestIoController)} {moves : List (LoopMove (Ram TestIoController))}

/-- The interrupts of a first run on a steady host, from the time that the run starts. -/
theorem run_seconds {maxResolution : Int} (first : FirstRun lib build maxResolution m setup start)
    (wired : Wired setup testPorts TestIoController.serviceInterrupts) (steady : start.host.Steady)
    (unset : start.sys.world.io.lastTime = 0) (run : Run (recorded (Loop.step setup)) start moves loop)
    (alone : Alone moves) (short : loop.host.last - start.host.last < 2 ^ 64) :
    (0 :: rings (looks (traffic setup moves))).IsChain (fun earlier later => earlier + 1000000000 < later) ∧
      (∀ {before after : List (Look 64)} {time : BitVec 64},
        looks (traffic setup moves) = before ++ ⟨time, false⟩ :: after →
        time.toNat ≤ (lastRing 0 before).toNat + 1000000000) ∧
      (rings (looks (traffic setup moves))).length * 1000000000 ≤ loop.host.last - start.host.last := by
  obtain ⟨sampled, begun, -⟩ := first_run_sampled first steady
  obtain ⟨forward, bounded⟩ := run_forward sampled begun run short
  have kept := (respond_rings wired (run_conversed (first_run_entered first) run alone)).kept
  rw [unset] at kept
  have spaced := kept.spaced forward
  have elapsed := (run_sampled sampled run).1.past
  have begins := (run_sampled sampled run).2.1
  have bound : ∀ time ∈ 0 :: rings (looks (traffic setup moves)), time ≤ (loop.host.last - start.host.last).toNat := by
    intro time member
    rcases List.mem_cons.mp member with rfl | ringing
    · exact Nat.zero_le _
    · obtain ⟨look, there, rfl⟩ := List.mem_map.mp ringing
      have below := bounded look (List.mem_of_mem_filter there)
      omega
  have few : 0 + (rings (looks (traffic setup moves))).length * 1000000000 ≤ (loop.host.last - start.host.last).toNat :=
    spaced_length spaced bound
  exact ⟨spaced, kept.waits forward, by omega⟩

section Session

def secondsWorld : Ram TestIoController := ⟨fun _ => 0, {}⟩

def secondsStart : Loop (Ram TestIoController) where
  sys := { world := secondsWorld }
  clock := CpuClock.make 2000000 1
  host := ⟨0, [1, 2000000000, 3000000000, 3000000001], []⟩

def secondsRun : Option (Loop (Ram TestIoController) × List (LoopMove (Ram TestIoController))) :=
  Traces.run (recorded (Loop.step exitSetup)) (List.replicate 11 (.turn (.ok none) (.ok ()))) secondsStart

theorem three_seconds : ∃ (m : Machine (Ram TestIoController)) (moves : List (LoopMove (Ram TestIoController)))
    (loop : Loop (Ram TestIoController)),
    FirstRun sessionLibraries ⟨true, false⟩ 1 m exitSetup secondsStart ∧
      Run (recorded (Loop.step exitSetup)) secondsStart moves loop ∧
      looks (traffic exitSetup moves) = [⟨1, false⟩, ⟨2000000000, true⟩, ⟨3000000000, false⟩, ⟨3000000001, true⟩] ∧
      (0 :: rings (looks (traffic exitSetup moves))).IsChain (fun earlier later => earlier + 1000000000 < later) := by
  have entered : enter sessionLibraries ⟨true, false⟩ secondsWorld
      [.setMemoryController (some (ramController MemoryController.uuid)), .setIoController (some exitController)] 0
        [1, 2000000000, 3000000000, 3000000001] = some (exitSetup, secondsStart) := by
    with_unfolding_all rfl
  have outcome : secondsRun.map (fun out => (out.1.host.last, out.2.map (·.input), looks (traffic exitSetup out.2))) =
      some (3000000001, List.replicate 11 (.turn (.ok none) (.ok ())),
        [⟨1, false⟩, ⟨2000000000, true⟩, ⟨3000000000, false⟩, ⟨3000000001, true⟩]) := by
    with_unfolding_all rfl
  obtain ⟨⟨loop, moves⟩, ran, same⟩ := Option.map_eq_some_iff.mp outcome
  simp only [Prod.mk.injEq] at same
  obtain ⟨last, inputs, seen⟩ := same
  have run : Run (recorded (Loop.step exitSetup)) secondsStart moves loop := Run.of_run ran
  have alone : Alone moves := alone_of (by rw [inputs]; exact fun choice member => ⟨_, _, List.eq_of_mem_replicate member⟩)
  obtain ⟨m, -, first⟩ := enter_first entered (List.forall_mem_cons.mpr ⟨rfl, List.forall_mem_singleton.mpr rfl⟩)
  have steady : secondsStart.host.Steady := by
    unfold Host.Steady
    decide
  have short : loop.host.last - secondsStart.host.last < 2 ^ 64 := by
    rw [last]
    decide
  exact ⟨m, moves, loop, first, run, seen, (run_seconds first ⟨⟨_, rfl⟩, rfl⟩ steady rfl run alone short).1⟩

end Session
end Machines
end MachEmu.Proofs.Seconds
