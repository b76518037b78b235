import MachEmu.Proofs.Starvation

/-! How long a run can go on. Between two executions the loop takes few turns, and
between two calls of `ServiceInterrupts` there are few executions. -/

namespace MachEmu.Proofs.Termination
open Intel8080 BusTransactions BusDiscipline Boundaries Calls Starvation
open Machine Loop Traces Cadence Timeline

variable {ω : Type} {setup : Setup ω} {loop after start : Loop ω} {events : List (Event ω)} {moves : List (LoopMove ω)}

def isTurn : Choice ω → Bool
  | .turn _ _ => true
  | _ => false

def turns (moves : List (LoopMove ω)) : Nat := moves.countP fun move => isTurn move.input

/-- The turns that are left before the next execution, but for one that may end the run. -/
def rank : Point → Nat
  | .head => 1
  | .serviced _ => 4
  | .startedLoad | .startedSave => 2
  | .reapLoad => 3
  | .reapSave => 2
  | .quitLoad => 3
  | .quitSave => 2
  | .done | .failed _ => 0

theorem rank_serviced (isr : ISR) {point : Point} (below : rank point ≤ 3) : rank point < rank (.serviced isr) :=
  Nat.lt_succ_of_le below

theorem service_rank {isr : ISR} (ran : loop.service setup isr = some (after, events)) :
    rank after.point < rank (.serviced isr) := by
  refine rank_serviced isr ?_
  unfold service at ran
  split at ran
  next =>
    obtain rfl := congrArg Prod.fst (Option.some.inj ran)
    unfold Loop.load
    split
    · exact Nat.le_succ 2
    · exact Nat.le_add_left 1 2
  next =>
    unfold Loop.save at ran
    split at ran
    next =>
      split at ran
      next =>
        cases ran
        exact Nat.le_succ 2
      next => cases ran
      next =>
        cases ran
        exact Nat.le_add_left 1 2
      next =>
        cases ran
        exact Nat.zero_le 3
    next =>
      cases ran
      exact Nat.le_add_left 1 2
  next =>
    cases ran
    exact Nat.le_refl 3
  next =>
    cases ran
    exact Nat.le_refl 3
  next =>
    split at ran
    next =>
      cases ran
      exact Nat.le_add_left 1 2
    next =>
      cases ran
      exact Nat.le_add_left 1 2

/-- Away from its condition the loop comes closer to it with every turn. -/
theorem turn_rank {loaded : Except Fault (Option String)} {saved : Except Fault Unit} (away : loop.point ≠ .head)
    (ran : loop.turn setup loaded saved = some (after, events)) : rank after.point < rank loop.point := by
  have failing {fault : Fault} (failed : after.point = .failed fault) (live : 0 < rank loop.point) :
      rank after.point < rank loop.point := by
    rw [failed]
    exact live
  unfold turn at ran
  split at ran
  next here => exact absurd here away
  next isr here =>
    rw [here]
    exact service_rank ran
  next here =>
    rw [here] at failing ⊢
    rcases Requests.checkLoad_reaches (Option.some.inj ran) with ⟨fault, failed⟩ | ⟨sys, future, bus, rfl⟩
    · exact failing failed (Nat.zero_lt_succ 1)
    · exact Nat.lt_succ_self 1
  next here =>
    rw [here] at failing ⊢
    rcases Requests.checkSave_reaches (Option.some.inj ran) with ⟨fault, failed⟩ | ⟨future, rfl⟩
    · exact failing failed (Nat.zero_lt_succ 1)
    · exact Nat.lt_succ_self 1
  next here =>
    rw [here] at failing ⊢
    rcases Requests.checkLoad_reaches (Option.some.inj ran) with ⟨fault, failed⟩ | ⟨sys, future, bus, rfl⟩
    · exact failing failed (Nat.zero_lt_succ 2)
    · exact Nat.lt_succ_self 2
  next here =>
    rw [here] at failing ⊢
    rcases Requests.checkSave_reaches (Option.some.inj ran) with ⟨fault, failed⟩ | ⟨future, rfl⟩
    · exact failing failed (Nat.zero_lt_succ 1)
    · exact Nat.lt_succ_self 1
  next here =>
    rw [here] at failing ⊢
    rcases Requests.quitLoad_reaches ran with ⟨fault, failed⟩ | ⟨there, -⟩
    · exact failing failed (Nat.zero_lt_succ 2)
    · rw [there]
      exact Nat.lt_succ_self 2
  next here =>
    rw [here] at failing ⊢
    rcases Requests.quitSave_reaches ran with ⟨fault, failed⟩ | ⟨there, -⟩
    · exact failing failed (Nat.zero_lt_succ 1)
    · rw [there]
      exact Nat.lt_succ_self 1
  next => cases ran
  next => cases ran

theorem count_marks (choice : Choice ω) (loop : Loop ω) :
    workCount (marks setup choice loop) = (executes setup choice loop).toList.length ∧
      stopCount (marks setup choice loop) = (served (calls setup choice loop)).length := by
  simp [marks, workCount, stopCount, List.countP_append, List.countP_map, Function.comp_def]

/-- A pass of the loop is an execution, or ends the run. -/
theorem pass_pays {made : List Access} (here : loop.point = .head) (pass : Pass setup loop after made) {ticks : Option Byte}
    (executed : ∀ ran sys, Intel8080.execute setup.wiring (pending loop) = .ok ran sys → PoweredOn loop.sys.bus →
      ticks = some ran) :
    1 + rank after.point ≤ ticks.toList.length + 3 * (served made).length + rank loop.point := by
  rw [here]
  cases pass with
  | off => exact Nat.le_add_left 1 _
  | failed => exact Nat.le_add_left 1 _
  | @counted ran sys clock host _ on execution =>
    have stays : rank (Calls.executed ran sys clock host loop).point = 1 := congrArg rank here
    rw [executed _ _ execution on, stays]
    exact Nat.add_le_add_right (Nat.le_add_right 1 _) 1
  | serviced on execution _ _ _ only =>
    rw [executed _ _ execution on, served_last only]
    exact Nat.le_refl 5
  | threw on execution _ _ _ only =>
    rw [executed _ _ execution on, served_last only]
    exact Nat.le_add_left 1 4

theorem step_pays {choice : Choice ω} (moved : Loop.step setup choice loop = some (after, events)) :
    (isTurn choice).toNat + rank after.point ≤
      workCount (marks setup choice loop) + 3 * stopCount (marks setup choice loop) + rank loop.point := by
  obtain ⟨work, stop⟩ := @count_marks _ setup choice loop
  rw [work, stop]
  rcases step_calls moved with ⟨here, ⟨loaded, saved, rfl⟩, pass⟩ | ⟨apart, -⟩
  · refine pass_pays here pass fun ran sys execution on => ?_
    rw [executes_head here on, execution]
  · have beside {choice : Choice ω} (free : isTurn choice = false) (work stop : Nat) :
        (isTurn choice).toNat + rank loop.point ≤ work + 3 * stop + rank loop.point := by
      rw [free]
      exact Nat.add_le_add_right (Nat.zero_le _) _
    cases Requests.step_taken moved with
    | @turn loaded saved _ _ ran =>
      have away : loop.point ≠ .head := apart.resolve_right fun other => other _ _ rfl
      have closer := turn_rank away ran
      have turn : (isTurn (.turn loaded saved : Choice ω)).toNat = 1 := rfl
      omega
    | loaded => exact beside rfl _ _
    | saved => exact beside rfl _ _
    | outside => exact beside rfl _ _

/-- What the loop thread waits for: the time the ticks of an instruction take, a loop
over the memory that does not end, or a handler that still runs when the machine quits. -/
inductive Blocked (setup : Setup ω) (loop : Loop ω) : Prop
  | clock {ticks : Byte} {sys : System ω} (here : loop.point = .head)
    (execution : execute setup.wiring (pending loop) = .ok ticks sys)
      (waits : loop.clock.tick (ticks.setWidth 64) loop.host = none)
  | gathering {world : ω} (here : loop.point = .serviced .save) (accepted : loop.accepts setup.onSave = true)
      (endless : saveState setup.lib setup.build setup.opt setup.memoryController loop.sys.cpu loop.sys.world =
        .ok none world)
  | loading (here : loop.point = .quitLoad) (running : loop.onLoad = .running ())
  | saving {state : String} (here : loop.point = .quitSave) (running : loop.onSave = .running state)

theorem instruction_blocked (here : loop.point = .head) (none : loop.instruction setup = none) : Blocked setup loop := by
  unfold instruction at none
  dsimp only at none
  split at none
  next => cases none
  next =>
    split at none
    next => cases none
    next ticks sys execution =>
      rcases Option.bind_eq_none_iff.mp none with waits
      cases ticked : loop.clock.tick (ticks.setWidth 64) loop.host with
      | none => exact .clock here execution ticked
      | some out =>
        have impossible := waits out ticked
        split at impossible
        next =>
          split at impossible
          next => cases impossible
          next => cases impossible
        next => cases impossible

theorem service_blocked {isr : ISR} (here : loop.point = .serviced isr) (none : loop.service setup isr = none) :
    Blocked setup loop := by
  unfold service at none
  split at none
  next => cases none
  next =>
    unfold Loop.save at none
    split at none
    next accepted =>
      split at none
      next => cases none
      next endless => exact .gathering here accepted endless
      next => cases none
      next => cases none
    next => cases none
  next => cases none
  next => cases none
  next =>
    split at none
    next => cases none
    next => cases none

theorem get_none {τ α : Type} {future : Future τ α} {run : τ → α} (valid : future.valid = true)
    (none : future.get run = none) : ∃ task, future = .running task := by
  cases future with
  | invalid => cases valid
  | deferred task => cases none
  | running task => exact ⟨task, rfl⟩
  | ready result => cases none

theorem turn_blocked {loaded : Except Fault (Option String)} {saved : Except Fault Unit}
    (none : loop.turn setup loaded saved = none) : Point.Ended loop.point ∨ Blocked setup loop := by
  unfold turn at none
  split at none
  next here => exact .inr (instruction_blocked here none)
  next isr here => exact .inr (service_blocked here none)
  next => cases none
  next => cases none
  next => cases none
  next => cases none
  next here =>
    unfold quitLoad at none
    split at none
    next valid =>
      dsimp only at none
      cases got : loop.onLoad.get fun _ => loadTask loaded with
      | some result =>
        rw [got] at none
        cases none
      | none =>
        obtain ⟨⟨⟩, running⟩ := get_none valid got
        exact .inr (.loading here running)
    next => cases none
  next here =>
    unfold quitSave at none
    split at none
    next valid =>
      cases got : loop.onSave.get fun _ => saveTask saved with
      | some result =>
        rw [got] at none
        cases none
      | none =>
        obtain ⟨state, running⟩ := get_none valid got
        exact .inr (.saving here running)
    next => cases none
  next here => exact .inl (.inl here)
  next fault here => exact .inl (.inr ⟨fault, here⟩)

section Runs
variable {lib : Libraries} {build : Build}

/-- The loop thread takes no turns but for executions, and for calls of `ServiceInterrupts` and what they lead to. -/
theorem turns_le (here : start.point = .head) (run : Run (recorded (Loop.step setup)) start moves loop) :
    turns moves + rank loop.point ≤ workCount (timeline setup moves) + 3 * stopCount (timeline setup moves) + 1 := by
  have paid := run.amortized turns (fun moves => workCount (timeline setup moves) + 3 * stopCount (timeline setup moves))
    (fun loop => rank loop.point) (fun _ _ => List.countP_append) ?_ ?_
  · rw [here] at paid
    exact paid
  · intro moves more
    simp only [timeline_append, workCount_append, stopCount_append]
    omega
  · intro loop choice after added moved
    obtain ⟨events, stepped, rfl⟩ := recorded_some moved
    have one : timeline setup [(⟨loop, choice, events, after⟩ : LoopMove ω)] = marks setup choice loop := List.append_nil _
    have count : turns [(⟨loop, choice, events, after⟩ : LoopMove ω)] = (isTurn choice).toNat := by
      unfold turns
      cases turn : isTurn choice <;> simp [turn]
    rw [one, count]
    exact step_pays stepped

/-- When `Quit` is the answer after so many calls, and no opcode is without an instruction,
the loop thread takes no more than so many turns. When there is none that it could take
the run is over, or something is waited for. -/
theorem run_bounded (entered : Lifecycle.Entered lib build setup start)
    (run : Run (recorded (Loop.step setup)) start moves loop)
    (safe : ∀ move ∈ moves, Executes move → Safe setup (pending move.before)) {count : Nat}
    (quits : ∀ before call after, timeline setup moves = before ++ .stop call :: after → count ≤ stopCount before →
      call.result = .ok .quit) :
    turns moves ≤ (count + 2) * ((max setup.ticksPerIsr 0).toNat / 4 + 1) + 3 * (count + 1) + 1 ∧
      ∀ loaded saved, loop.turn setup loaded saved = none → Point.Ended loop.point ∨ Blocked setup loop := by
  refine ⟨?_, fun loaded saved none => turn_blocked none⟩
  have reached := entered.reachable
  obtain ⟨-, here, -, -⟩ := entered.begins
  have begun : Paces setup [] start := by
    obtain ⟨-, -, -, -, -, started⟩ := entered
    exact start_paces started
  obtain ⟨paces, ends⟩ := run_paces run begun
  have works : ∀ amount, .work amount ∈ timeline setup moves → 4 ≤ amount := by
    intro amount worked
    obtain ⟨move, member, executes, ticks, sys, ran, rfl⟩ := work_executes worked
    exact (safe move member executes).ticks (executes_lanes reached run member executes) ran
  have stops : stopCount (timeline setup moves) ≤ count + 1 := by
    refine Nat.not_lt.mp fun more => ?_
    obtain ⟨before, call, after, split, passed⟩ := nth_stop (Nat.lt_of_succ_lt more)
    obtain ⟨rfl, -⟩ := ends before call after split (quits before call after split (Nat.le_of_eq passed.symm))
    have last : stopCount (before ++ [.stop call]) = stopCount before + 1 := stopCount_append before [.stop call]
    rw [split, last] at more
    omega
  have bound := paces.paced
  rw [← List.nil_append (timeline setup moves)] at bound
  have reaches : setup.ticksPerIsr ≤ (((max setup.ticksPerIsr 0).toNat / 4 + 1 : Nat) : Int) * (4 : Nat) := by omega
  have executions := bound.workCount_le works reaches (Nat.zero_lt_succ _)
  have most : (stopCount (timeline setup moves) + 1) * ((max setup.ticksPerIsr 0).toNat / 4 + 1) ≤
      (count + 2) * ((max setup.ticksPerIsr 0).toNat / 4 + 1) := Nat.mul_le_mul_right _ (by omega)
  have taken := turns_le here run
  omega

end Runs

section Session

theorem idling_safe (s : System Unit) : Safe (slowSetup 0x00) s := by
  rintro opcode ⟨-, world, fetched⟩
  cases fetched
  exact ⟨by decide, nofun⟩

theorem idling_bounded : ∃ moves loop, Run (recorded (Loop.step (slowSetup 0x00))) (slowLoop {}) moves loop ∧
    loop.point = .done ∧
    turns moves = 9 ∧ turns moves ≤ 16 := by
  have outcome :
      (Traces.run (recorded (Loop.step (slowSetup 0x00))) (List.replicate 9 (.turn (.ok none) (.ok ()))) (slowLoop {})).map
      (fun out => (out.1.point, timeline (slowSetup 0x00) out.2, turns out.2)) =
        some (.done, List.replicate 5 (.work 4) ++ [.stop ⟨20001, 20, .ok .quit⟩], 9) := by
    with_unfolding_all rfl
  obtain ⟨⟨loop, moves⟩, ran, same⟩ := Option.map_eq_some_iff.mp outcome
  simp only [Prod.mk.injEq] at same
  obtain ⟨done, marked, taken⟩ := same
  have run : Run (recorded (Loop.step (slowSetup 0x00))) (slowLoop {}) moves loop := Run.of_run ran
  have quits : ∀ before call after, timeline (slowSetup 0x00) moves = before ++ .stop call :: after → 0 ≤ stopCount before →
      call.result = .ok .quit := by
    intro before call after split _
    have member : .stop call ∈ timeline (slowSetup 0x00) moves := split ▸ List.mem_append_right _ List.mem_cons_self
    rw [marked] at member
    have last : call = ⟨20001, 20, .ok .quit⟩ := by simpa using member
    rw [last]
  exact ⟨moves, loop, run, done, taken, (run_bounded idling_entered run (fun move _ _ => idling_safe _) quits).1⟩

end Session
end MachEmu.Proofs.Termination
