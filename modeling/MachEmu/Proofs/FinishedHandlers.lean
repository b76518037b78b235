import MachEmu.Proofs.Requests

/-! When a request is started. A request is in progress for the loop while its
future is valid, and a future stays valid after its handler has finished until
some case of the switch collects it. A request that comes before that is dropped. -/

namespace MachEmu.Proofs.FinishedHandlers
open Machine Loop Traces Requests

variable {ω : Type} {setup : Setup ω} {loop start : Loop ω} {trace : List (Event ω)}

def Registered (setup : Setup ω) (isr : ISR) : Prop :=
  isr = .load ∧ setup.onLoad = true ∨ isr = .save ∧ setup.onSave = true

def Finished (trace : List (Event ω)) : Prop :=
  startedLoads trace = (returned trace).length ∧ captured trace = called trace

/-- A future still holds the result of a handler that has finished. -/
def Uncollected (loop : Loop ω) : Prop := loop.onLoad.results ≠ [] ∨ loop.onSave.results ≠ []

/-- The state of the machine can be captured: the controller has a uuid, the
blocks end and the options are in order. -/
def Capturable (setup : Setup ω) (loop : Loop ω) : Prop :=
  ∃ state world, saveState setup.lib setup.build setup.opt setup.memoryController loop.sys.cpu loop.sys.world =
    .ok (some state) world

/-- The loop thread's next move launches the handler of the request. -/
def Starts (setup : Setup ω) (isr : ISR) (loop : Loop ω) (onLoad : Except Fault (Option String))
    (onSave : Except Fault Unit) : Prop :=
  ∃ after events, Loop.step setup (.turn onLoad onSave) loop = some (after, events) ∧
    (isr = .load ∧ .startedLoad ∈ events ∨ isr = .save ∧ ∃ sys state, .startedSave sys state ∈ events)

/-- With every handler finished, a future is valid just when it has not been collected. -/
theorem busy_iff (books : Books trace loop) (finished : Finished trace) :
    loop.onLoad.valid ∨ loop.onSave.valid ↔ Uncollected loop := by
  obtain ⟨loads, saves⟩ := finished
  have noLoad : loop.onLoad.tasks = [] := by
    have balance := books.loads
    rw [loads] at balance
    exact List.length_eq_zero_iff.mp (by omega)
  have noSave : loop.onSave.tasks = [] := by
    have balance := books.saves
    rw [saves] at balance
    exact List.self_eq_append_right.mp balance
  rw [Future.valid_iff, Future.valid_iff, noLoad, noSave]
  simp [Uncollected]

theorem starts_of_idle {isr : ISR} (registered : Registered setup isr) (arrives : loop.point = .serviced isr)
    (idle : ¬ (loop.onLoad.valid ∨ loop.onSave.valid)) (capturable : isr = .save → Capturable setup loop)
    (onLoad : Except Fault (Option String)) (onSave : Except Fault Unit) : Starts setup isr loop onLoad onSave := by
  obtain ⟨noLoad, noSave⟩ := not_or.mp idle
  unfold Starts
  simp only [Loop.step, turn, arrives]
  obtain ⟨rfl, handler⟩ | ⟨rfl, handler⟩ := registered
  · have accepted : loop.accepts setup.onLoad = true := accepts_iff.mpr ⟨handler, noLoad, noSave⟩
    simp [service, Loop.load, accepted]
  · have accepted : loop.accepts setup.onSave = true := accepts_iff.mpr ⟨handler, noLoad, noSave⟩
    obtain ⟨state, world, saved⟩ := capturable rfl
    simp [service, Loop.save, accepted, saved]

theorem starts_capturable {onLoad : Except Fault (Option String)} {onSave : Except Fault Unit}
    (starts : Starts setup .save loop onLoad onSave) : Capturable setup loop := by
  obtain ⟨after, events, moved, started⟩ := starts
  rcases started with ⟨impossible, -⟩ | ⟨-, sys, state, started⟩
  · cases impossible
  · obtain ⟨-, rfl, world, written⟩ := step_permits moved _ started
    exact ⟨state, world, written⟩

/-- Whenever a request arrives after all earlier handlers have finished, it is started
exactly if their results have been collected, and for a save the state can be captured. -/
theorem started_iff_collected {sys : System ω} {clock : CpuClock} {host : SteadyClock.Host}
    (entered : Loop.start setup sys clock host = .ok start) (run : Run (Loop.step setup) start trace loop) {isr : ISR}
    (registered : Registered setup isr) (arrives : loop.point = .serviced isr) (finished : Finished trace)
    (onLoad : Except Fault (Option String)) (onSave : Except Fault Unit) :
    Starts setup isr loop onLoad onSave ↔ ¬ Uncollected loop ∧ (isr = .save → Capturable setup loop) := by
  rw [← busy_iff (run_books entered run) finished]
  constructor
  · intro starts
    refine ⟨fun busy => ?_, fun save => starts_capturable (save ▸ starts)⟩
    obtain ⟨after, events, moved, started⟩ := starts
    have request : isr = .load ∨ isr = .save := registered.imp And.left And.left
    rw [busy_ignored request arrives busy] at moved
    cases moved
    obtain ⟨-, started⟩ | ⟨-, sys, state, started⟩ := started
    · simp at started
    · simp at started
  · rintro ⟨idle, capturable⟩
    exact starts_of_idle registered arrives idle capturable onLoad onSave

section Script

def asyncOpt : Opt where
  json := .object ([("clockResolution", .integer (-1)), ("compressor", .string "none"), ("encoder", .string "base64"),
    ("isrFreq", .integer 0), ("loadAsync", .bool true)] ++ Opt.layout 0 0 0 0 ++
    [("runAsync", .bool false), ("saveAsync", .bool true)])

theorem async_entered (isrs : List ISR) (readings : List Int) :
    Loop.start (scripted asyncOpt) { world := ⟨fun _ => 0, isrs⟩ } {} ⟨0, readings, []⟩ =
      .ok (scriptedLoop .async isrs readings) := by rfl

def turn : Choice (PlainRam.Ram (List ISR)) := .turn (.ok none) (.ok ())

def lateHandler : List (Choice (PlainRam.Ram (List ISR))) := [turn, turn, turn, .loaded (.ok (some "\x7b")), turn]

/-- The handler of the first load has finished, and the second load is dropped. -/
theorem finished_load_dropped :
    ∃ loop trace, Run (Loop.step (scripted asyncOpt)) (scriptedLoop .async [.load, .load] [1, 2]) trace loop ∧
      Registered (scripted asyncOpt) .load ∧ loop.point = .serviced .load ∧ Finished trace ∧
      ∀ onLoad onSave, Loop.step (scripted asyncOpt) (.turn onLoad onSave) loop = some (loop.finish, [.ignored .load]) := by
  have outcome : (Traces.run (Loop.step (scripted asyncOpt)) lateHandler (scriptedLoop .async [.load, .load] [1, 2])).map
      (fun out => (out.1.point, out.1.onLoad.valid, startedLoads out.2, returned out.2, captured out.2, called out.2)) =
        some (.serviced .load, true, 1, [.ok "\x7b"], [], []) := by rfl
  obtain ⟨⟨loop, trace⟩, ran, same⟩ := Option.map_eq_some_iff.mp outcome
  simp only [Prod.mk.injEq] at same
  obtain ⟨arrives, valid, started, returns, captures, calls⟩ := same
  refine ⟨loop, trace, Run.of_run ran, .inl ⟨rfl, rfl⟩, arrives, ⟨?_, ?_⟩, ?_⟩
  · rw [started, returns]
    rfl
  · rw [captures, calls]
  · exact busy_ignored (.inl rfl) arrives (.inl valid)

theorem started_iff_collected_first :
    ∃ loop trace, Run (Loop.step (scripted asyncOpt)) (scriptedLoop .async [.load] [1]) trace loop ∧
      (Starts (scripted asyncOpt) .load loop (.ok none) (.ok ()) ↔
        ¬ Uncollected loop ∧ (ISR.load = .save → Capturable (scripted asyncOpt) loop)) := by
  have outcome : (Traces.run (Loop.step (scripted asyncOpt)) [turn] (scriptedLoop .async [.load] [1])).map
      (fun out => (out.1.point, startedLoads out.2, returned out.2, captured out.2, called out.2)) =
        some (.serviced .load, 0, [], [], []) := by rfl
  obtain ⟨⟨loop, trace⟩, ran, same⟩ := Option.map_eq_some_iff.mp outcome
  simp only [Prod.mk.injEq] at same
  obtain ⟨arrives, started, returns, captures, calls⟩ := same
  have finished : Finished trace := ⟨by rw [started, returns]; rfl, by rw [captures, calls]⟩
  exact ⟨loop, trace, Run.of_run ran, started_iff_collected (async_entered [.load] [1]) (Run.of_run ran) (.inl ⟨rfl, rfl⟩)
    arrives finished (.ok none) (.ok ())⟩

end Script
end MachEmu.Proofs.FinishedHandlers
