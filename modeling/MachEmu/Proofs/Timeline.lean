import MachEmu.Lib.Cadence
import MachEmu.Proofs.Counters
import MachEmu.Proofs.Ticks

/-! The executions of a run and the calls of `ServiceInterrupts` between them, in order. -/

namespace MachEmu.Proofs.Timeline
open Machine Loop Traces Cadence BusDiscipline Calls Counters

variable {ω : Type} {setup : Setup ω} {loop after start : Loop ω} {events : List (Event ω)}

abbrev LoopMove (ω : Type) := Move (Loop ω) (Choice ω) (Event ω)

def executes (setup : Setup ω) (choice : Choice ω) (loop : Loop ω) : Option Byte :=
  match choice, loop.point with
  | .turn _ _, .head =>
    if (ControlBus.receive .powerOff loop.sys.bus).1 then none
    else match Intel8080.execute setup.wiring (pending loop) with
      | .ok ticks _ => some ticks
      | .error _ _ => none
  | _, _ => none

/-- The execution in a move, and the calls of `ServiceInterrupts` after it. -/
def marks (setup : Setup ω) (choice : Choice ω) (loop : Loop ω) : List (Mark Served) :=
  (executes setup choice loop).toList.map (fun ticks => .work ticks.toNat) ++ (served (calls setup choice loop)).map .stop

def timeline (setup : Setup ω) (moves : List (LoopMove ω)) : List (Mark Served) :=
  moves.flatMap fun move => marks setup move.input move.before

/-- The result of a call decides where the loop goes. -/
def Answered (call : Served) (point : Point) : Prop :=
  (∃ isr, call.result = .ok isr ∧ point = .serviced isr) ∨ ∃ fault, call.result = .error fault ∧ point = .failed fault

def Point.Ended (point : Point) : Prop := point = .done ∨ ∃ fault, point = .failed fault

/-- What a move adds to the timeline. -/
inductive Beat (setup : Setup ω) (loop after : Loop ω) : List (Mark Served) → Prop
  | still (there : after.point = loop.point ∨ Point.Ended after.point) (total : after.totalTicks = loop.totalTicks)
      (last : after.lastTicks = loop.lastTicks) : Beat setup loop after []
  | rested (away : loop.point ≠ .head) (live : ¬ Point.Ended loop.point) (rests : Rests loop after) :
    Beat setup loop after []
  | counted {ticks : Byte} {sys : System ω} (here : loop.point = .head) (there : after.point = .head)
      (on : PoweredOn loop.sys.bus) (execution : Intel8080.execute setup.wiring (pending loop) = .ok ticks sys)
      (total : after.totalTicks = loop.totalTicks + ticks.toNat) (last : after.lastTicks = loop.lastTicks)
      (early : after.totalTicks - loop.lastTicks < setup.ticksPerIsr) : Beat setup loop after [.work ticks.toNat]
  | called {ticks : Byte} {sys : System ω} {call : Served} (here : loop.point = .head) (there : Answered call after.point)
      (on : PoweredOn loop.sys.bus) (execution : Intel8080.execute setup.wiring (pending loop) = .ok ticks sys)
      (total : after.totalTicks = loop.totalTicks + ticks.toNat)
        (due : setup.ticksPerIsr ≤ after.totalTicks - loop.lastTicks)
      (time : call.currTime = BitVec.ofInt 64 after.currTime) (cycles : call.cycles = BitVec.ofInt 64 after.totalTicks) :
      Beat setup loop after [.work ticks.toNat, .stop call]

theorem executes_head {loaded : Except Fault (Option String)} {saved : Except Fault Unit} (here : loop.point = .head)
    (on : PoweredOn loop.sys.bus) : executes setup (.turn loaded saved) loop =
      match Intel8080.execute setup.wiring (pending loop) with
      | .ok ticks _ => some ticks
      | .error _ _ => none := by
  have lane : ¬ (ControlBus.receive .powerOff loop.sys.bus).1 = true := ne_true_of_eq_false on
  unfold executes
  rw [here]
  dsimp only
  rw [if_neg lane]

theorem executes_off {loaded : Except Fault (Option String)} {saved : Except Fault Unit} (here : loop.point = .head)
    (off : ¬ PoweredOn loop.sys.bus) : executes setup (.turn loaded saved) loop = none := by
  have lane : (ControlBus.receive .powerOff loop.sys.bus).1 = true := eq_true_of_ne_false off
  unfold executes
  rw [here]
  dsimp only
  rw [if_pos lane]

theorem executes_apart {choice : Choice ω} (apart : loop.point ≠ .head ∨ ∀ loaded saved, choice ≠ .turn loaded saved) :
    executes setup choice loop = none := by
  unfold executes
  split
  next loaded saved here =>
    rcases apart with away | other
    · exact absurd here away
    · exact absurd rfl (other loaded saved)
  next => rfl

/-- The loop uses the clock for nothing but the ticks of an execution. -/
theorem step_ticks {choice : Choice ω} (moved : Loop.step setup choice loop = some (after, events)) :
    (executes setup choice loop = none ∧ after.clock = loop.clock ∧ after.host = loop.host) ∨
      ∃ ticks, executes setup choice loop = some ticks ∧
        loop.clock.tick (ticks.setWidth 64) loop.host = some (after.clock, after.host) := by
  rcases step_calls moved with ⟨here, ⟨loaded, saved, rfl⟩, pass⟩ | ⟨apart, -⟩
  · generalize calls setup (.turn loaded saved) loop = made at pass
    cases pass with
    | off off => exact .inl ⟨executes_off here off, rfl, rfl⟩
    | failed on execution => exact .inl ⟨by rw [executes_head here on, execution], rfl, rfl⟩
    | counted on execution ticked => exact .inr ⟨_, by rw [executes_head here on, execution], ticked⟩
    | serviced on execution ticked => exact .inr ⟨_, by rw [executes_head here on, execution], ticked⟩
    | threw on execution ticked => exact .inr ⟨_, by rw [executes_head here on, execution], ticked⟩
  · refine .inl ⟨executes_apart apart, ?_⟩
    cases Requests.step_taken moved with
    | turn ran =>
      have away : loop.point ≠ .head := apart.resolve_right fun other => other _ _ rfl
      obtain ⟨clock, rest⟩ := Prod.mk.inj (turn_rests away ran).counters
      exact ⟨clock, (Prod.mk.inj rest).1⟩
    | loaded => exact ⟨rfl, rfl⟩
    | saved => exact ⟨rfl, rfl⟩
    | outside => exact ⟨rfl, rfl⟩

theorem step_beat {choice : Choice ω} (moved : Loop.step setup choice loop = some (after, events)) :
    Beat setup loop after (marks setup choice loop) := by
  rcases step_calls moved with ⟨here, ⟨loaded, saved, rfl⟩, pass⟩ | ⟨apart, only⟩
  · unfold marks
    generalize calls setup (.turn loaded saved) loop = made at pass
    cases pass with
    | off off =>
      rw [executes_off here off]
      exact .still (.inr (.inl rfl)) rfl rfl
    | failed on execution only =>
      rw [executes_head here on, execution, served_transfers only]
      exact .still (.inr (.inr ⟨_, rfl⟩)) rfl rfl
    | counted on execution ticked early only =>
      rw [executes_head here on, execution, served_transfers only]
      exact .counted here here on execution rfl rfl (Int.not_le.mp early)
    | serviced on execution ticked due called only =>
      rw [executes_head here on, execution, served_last only]
      exact .called here (.inl ⟨_, rfl, rfl⟩) on execution rfl due rfl rfl
    | threw on execution ticked due called only =>
      rw [executes_head here on, execution, served_last only]
      exact .called here (.inr ⟨_, rfl, rfl⟩) on execution rfl due rfl rfl
  · unfold marks
    rw [executes_apart apart, served_transfers only]
    change Beat setup loop after []
    cases Requests.step_taken moved with
    | turn ran =>
      have away : loop.point ≠ .head := apart.resolve_right fun other => other _ _ rfl
      refine .rested away ?_ (turn_rests away ran)
      rintro (done | ⟨fault, failed⟩)
      · simp [turn, done] at ran
      · simp [turn, failed] at ran
    | loaded => exact .still (.inl rfl) rfl rfl
    | saved => exact .still (.inl rfl) rfl rfl
    | outside => exact .still (.inl rfl) rfl rfl

section Runs
variable {marked more : List (Mark Served)}

/-- The counters of the loop against what it did. -/
structure Paces (setup : Setup ω) (marked : List (Mark Served)) (loop : Loop ω) : Prop where
  total : loop.totalTicks = total marked
  elapsed : loop.point = .head → loop.totalTicks - loop.lastTicks = elapsed marked
  since : loop.point ≠ .head → ¬ Point.Ended loop.point → Cadence.elapsed marked = 0
  paced : Paced setup.ticksPerIsr marked
  cycles : ∀ before call after, marked = before ++ .stop call :: after →
    call.cycles = BitVec.ofNat 64 (Cadence.total before)
  small : ∀ mark ∈ marked, mark.amount ≤ 18

theorem Paces.beat (paces : Paces setup marked loop) (beat : Beat setup loop after more) :
    Paces setup (marked ++ more) after := by
  obtain ⟨total, elapsed, since, paced, cycles, small⟩ := paces
  cases beat with
  | still there sameTotal sameLast =>
    rw [List.append_nil]
    refine ⟨sameTotal.trans total, ?_, ?_, paced, cycles, small⟩
    · intro here
      rcases there with same | done | ⟨fault, failed⟩
      · rw [sameTotal, sameLast]
        exact elapsed (same.symm.trans here)
      · exact Point.noConfusion (done.symm.trans here)
      · exact Point.noConfusion (failed.symm.trans here)
    · intro away live
      rcases there with same | ended
      · exact since (same ▸ away) (same ▸ live)
      · exact absurd ended live
  | rested away live rests =>
    rw [List.append_nil]
    obtain ⟨counters, last⟩ := rests
    have sameTotal : after.totalTicks = loop.totalTicks := congrArg (fun counters => counters.2.2.2) counters
    have none := since away live
    refine ⟨sameTotal.trans total, ?_, fun _ _ => none, paced, cycles, small⟩
    intro here
    rcases last with ⟨-, last⟩ | ⟨other, -⟩
    · rw [last, none]
      omega
    · exact absurd here other
  | @counted ticks sys here there on execution sum sameLast early =>
    have before := elapsed here
    have most := Ticks.execute_most execution
    refine ⟨?_, ?_, fun away => absurd there away, paced.work (by omega), ?_, ?_⟩
    · rw [total_append, sum, total]
      rfl
    · intro _
      rw [elapsed_work]
      omega
    · intro before call rest same
      obtain ⟨-, impossible, -⟩ | ⟨rest, -, inner⟩ := append_eq_cons same
      · cases impossible
      · exact cycles before call rest inner
    · exact List.forall_mem_append.mpr ⟨small, List.forall_mem_singleton.mpr most⟩
  | @called ticks sys call here there on execution sum due time called =>
    have before := elapsed here
    have most := Ticks.execute_most execution
    have split : marked ++ [.work ticks.toNat, .stop call] = (marked ++ [.work ticks.toNat]) ++ [.stop call] := by simp
    have whole : Cadence.total (marked ++ [.work ticks.toNat]) = Cadence.total marked + ticks.toNat :=
      total_append marked [.work ticks.toNat]
    have away : after.point ≠ .head := by
      rcases there with ⟨isr, -, there⟩ | ⟨fault, -, there⟩
      · rw [there]
        exact Point.noConfusion
      · rw [there]
        exact Point.noConfusion
    refine ⟨?_, fun here => absurd here away, ?_, paced.stop (by omega) call, ?_, ?_⟩
    · rw [split, total_append, whole, sum, total]
      rfl
    · intro _ _
      rw [split, elapsed_stop]
    · intro before other rest same
      rw [split] at same
      obtain ⟨rfl, last, -⟩ | ⟨rest, -, inner⟩ := append_eq_cons same
      · cases last
        rw [called, whole, sum, total]
        exact BitVec.ofInt_natCast 64 (Cadence.total marked + ticks.toNat)
      · obtain ⟨-, impossible, -⟩ | ⟨rest, -, first⟩ := append_eq_cons inner
        · cases impossible
        · exact cycles before other rest first
    · rw [split]
      exact List.forall_mem_append.mpr ⟨List.forall_mem_append.mpr ⟨small, List.forall_mem_singleton.mpr most⟩,
        List.forall_mem_singleton.mpr (Nat.zero_le 18)⟩

/-- After `Quit` the loop executes nothing and calls nobody. -/
def Ending (loop : Loop ω) : Prop :=
  loop.point ∈ [.serviced .quit, .quitLoad, .quitSave] ∨ Point.Ended loop.point ∨ loop.point = .head ∧
    ¬ PoweredOn loop.sys.bus

theorem beat_silent (ending : Ending loop) (beat : Beat setup loop after more) : more = [] := by
  have awake (here : loop.point = .head) (on : PoweredOn loop.sys.bus) : False := by
    rcases ending with quitting | done | ⟨-, off⟩
    · simp [here] at quitting
    · simp [Point.Ended, here] at done
    · exact off on
  cases beat with
  | still => rfl
  | rested => rfl
  | counted here there on => exact (awake here on).elim
  | called here there on => exact (awake here on).elim

theorem sent_powerOff (bus : SystemBus) : ¬ PoweredOn (ControlBus.send .powerOff bus) := by
  have set : (1#8 <<< Signal.powerOff.lane).getLsbD Signal.powerOff.lane = true := rfl
  rw [PoweredOn, ControlBus.send, BitVec.getLsbD_or, set, Bool.or_true]
  exact Bool.noConfusion

theorem step_ending {choice : Choice ω} (ending : Ending loop)
    (moved : Loop.step setup choice loop = some (after, events)) : Ending after := by
  cases Requests.step_advances moved with
  | failed there on => exact .inr (.inl (.inr ⟨_, there⟩))
  | beside there bus load save silent =>
    unfold Ending
    rw [there, bus]
    exact ending
  | ended here off there silent bus load save => exact .inr (.inl (.inl there))
  | passed here on carried there =>
    rcases ending with quitting | done | ⟨-, off⟩
    · simp [here] at quitting
    · simp [Point.Ended, here] at done
    · exact absurd on off
  | serviced isr here bus there =>
    have quit : isr = .quit := by simpa [Ending, Point.Ended, here] using ending
    rcases there with ⟨other, -⟩ | ⟨-, there⟩
    · exact absurd quit other
    · exact .inl (by simp [there])
  | raised isr level here request there bus =>
    have quit : isr = .quit := by simpa [Ending, Point.Ended, here] using ending
    rw [quit] at request
    cases request
  | collected here there bus =>
    have other : ¬ Ending loop := by
      unfold Ending Point.Ended
      simp only [List.mem_cons, List.not_mem_nil, or_false] at here ⊢
      rcases here with here | here | here | here <;> simp [here]
    exact absurd ending other
  | quitLoad here there bus load => exact .inl (by simp [there])
  | quitSave here there bus load save =>
    refine .inr (.inr ⟨there, ?_⟩)
    rw [bus]
    exact sent_powerOff _

/-- Once a call returned `Quit`, nothing follows it, and the run is about to end. -/
def Quits (marked : List (Mark Served)) (loop : Loop ω) : Prop :=
  ∀ before call after, marked = before ++ .stop call :: after → call.result = .ok .quit → after = [] ∧ Ending loop

theorem Quits.beat (quits : Quits marked loop) (beat : Beat setup loop after more) (ending : Ending loop → Ending after) :
    Quits (marked ++ more) after := by
  have silent {before rest : List (Mark Served)} {call : Served} (same : marked = before ++ .stop call :: rest)
      (quit : call.result = .ok .quit) : more = [] ∧ rest = [] ∧ Ending after := by
    obtain ⟨rfl, ended⟩ := quits before call rest same quit
    exact ⟨beat_silent ended beat, rfl, ending ended⟩
  intro before call rest same quit
  cases beat with
  | still =>
    rw [List.append_nil] at same
    exact (silent same quit).2
  | rested =>
    rw [List.append_nil] at same
    exact (silent same quit).2
  | counted =>
    obtain ⟨-, impossible, -⟩ | ⟨rest, -, inner⟩ := append_eq_cons same
    · cases impossible
    · cases (silent inner quit).1
  | @called ticks sys other here there =>
    have split : marked ++ [.work ticks.toNat, .stop other] = (marked ++ [.work ticks.toNat]) ++ [.stop other] := by simp
    rw [split] at same
    obtain ⟨-, last, rfl⟩ | ⟨rest, -, inner⟩ := append_eq_cons same
    · cases last
      refine ⟨rfl, ?_⟩
      rcases there with ⟨isr, answered, there⟩ | ⟨fault, failed, -⟩
      · rw [quit] at answered
        cases answered
        exact .inl (by simp [there])
      · rw [quit] at failed
        cases failed
    · obtain ⟨-, impossible, -⟩ | ⟨rest, -, first⟩ := append_eq_cons inner
      · cases impossible
      · cases (silent first quit).1

theorem timeline_append (moves more : List (LoopMove ω)) :
    timeline setup (moves ++ more) = timeline setup moves ++ timeline setup more := List.flatMap_append

theorem run_paces {moves : List (LoopMove ω)} (run : Run (recorded (Loop.step setup)) start moves loop)
    (begins : Paces setup [] start) : Paces setup (timeline setup moves) loop ∧ Quits (timeline setup moves) loop := by
  refine run.invariant (fun moves loop => Paces setup (timeline setup moves) loop ∧ Quits (timeline setup moves) loop) ?_ ?_
  · refine ⟨begins, fun before call after impossible => ?_⟩
    simp [timeline] at impossible
  · intro moves loop choice after added ⟨paces, quits⟩ moved
    obtain ⟨events, stepped, rfl⟩ := recorded_some moved
    have beat := step_beat stepped
    have one : timeline setup [(⟨loop, choice, events, after⟩ : LoopMove ω)] = marks setup choice loop := List.append_nil _
    rw [timeline_append, one]
    exact ⟨paces.beat beat, quits.beat beat fun ending => step_ending ending stepped⟩

/-- A loop is entered with its counters at zero. -/
theorem start_paces {sys : System ω} {clock : CpuClock} {host : SteadyClock.Host}
    (entered : Loop.start setup sys clock host = .ok start) : Paces setup [] start := by
  unfold Loop.start at entered
  obtain ⟨loadAsync, -, entered⟩ := ErrorState.except_bind_ok_iff.mp entered
  obtain ⟨saveAsync, -, entered⟩ := ErrorState.except_bind_ok_iff.mp entered
  cases entered
  refine ⟨rfl, fun _ => rfl, fun away => absurd rfl away, Paced.nil, ?_, List.forall_mem_nil _⟩
  intro before call after impossible
  simp at impossible

end Runs
end MachEmu.Proofs.Timeline
