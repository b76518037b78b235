import MachEmu.Machine.Holder
import MachEmu.Proofs.Configurations
import MachEmu.Proofs.Threshold

/-! A clock resolution that is set from Python comes to the same as one that is set on the
machine itself, but for the moment at which it is refused. -/

namespace MachEmu.Proofs.Holders
open ErrorState Machine Traces Options Lifecycle Threshold

variable {ω : Type} {lib : Libraries} {build : Build} {m : Machine ω} {opt : Opt} {resolution : Int}
  {members : List (String × Json)}

/-- The options with this resolution, and otherwise as they are. -/
def resolved (resolution : Int) (members : List (String × Json)) : Opt :=
  ⟨.object (Json.insert "clockResolution" (.integer resolution) members)⟩

/-- An idle machine that can be given a resolution of 64 bits. -/
structure Stored (lib : Libraries) (resolution : Int) (members : List (String × Json)) (m : Machine ω) : Prop where
  idle : m.running = false
  parses : Parses lib resolution
  fits : -2 ^ 63 ≤ resolution ∧ resolution < 2 ^ 63
  documented : m.opt.json = .object members

theorem resolved_set (build : Build) (parses : Parses lib resolution) (documented : opt.json = .object members) :
    opt.setOptions lib build (some (resolutionText resolution)) = .ok (resolved resolution members) := by
  rw [setOptions_resolution parses, documented]
  rfl

theorem Stored.read (stored : Stored lib resolution members m) :
    (resolved resolution members).clockResolution = .ok resolution := by
  have kept : (BitVec.ofInt 64 resolution).toInt = resolution := by
    obtain ⟨low, high⟩ := stored.fits
    rw [BitVec.toInt_ofInt]
    exact Int.bmod_eq_of_le (by omega) (by omega)
  unfold Opt.clockResolution Json.index resolved
  dsimp only
  rw [lookup_insert, if_pos rfl]
  exact congrArg Except.ok kept

theorem Stored.again (build : Build) (stored : Stored lib resolution members m) :
    ∃ more, (resolved resolution members).setOptions lib build (some (resolutionText resolution)) = .ok more ∧
      more.isrFreq = (resolved resolution members).isrFreq := by
  have set : (resolved resolution members).setOptions lib build (some (resolutionText resolution)) = _ :=
    resolved_set build stored.parses rfl
  exact ⟨_, set, isrFreq_resolution stored.parses set⟩

theorem Stored.held (stored : Stored lib resolution members m) :
    MachineHolder.setClockResolution lib build resolution m = .ok .noError
      { m with opt := resolved resolution members } := by
  have set := resolved_set build stored.parses stored.documented
  change Machine.setOptions lib build (some (resolutionText resolution)) m = _
  unfold Machine.setOptions
  rw [bind_ok (get_run m), if_neg (ne_true_of_eq_false stored.idle)]
  dsimp only
  rw [bind_ok (get_run m), set, bind_ok (ofExcept_ok _ m)]
  rfl

def OutOfRange (resolution : Int) : Prop := resolution < -1 ∨ resolution > 10000000000

theorem setClockResolution_refuses (idle : m.running = false) (out : OutOfRange resolution) :
    Machine.setClockResolution lib build resolution m = .error (.exception "Clock resolution out of range") m := by
  have range : resolution < -1 ∨ resolution > 10000000000 := out
  unfold Machine.setClockResolution
  rw [bind_ok (get_run m), if_neg (ne_true_of_eq_false idle)]
  dsimp only
  rw [if_pos range]
  rfl

section Runs
variable {mine : Machine ω} {err : ErrorCode} {clock : CpuClock}

theorem setClockResolution_sets (ticksPerIsr : Int) (idle : m.running = false) (range : ¬ OutOfRange resolution)
    (options : m.opt.setOptions lib build (some (resolutionText resolution)) = .ok opt)
    (set : m.clock.setTickResolution resolution = (err, clock))
    (paced : if err = .noError then ∃ freq, opt.isrFreq = .ok freq ∧ toInt64 (freq * clock.totalTicks) = .ok ticksPerIsr
      else ticksPerIsr = m.ticksPerIsr) :
    Machine.setClockResolution lib build resolution m = .ok err { m with opt, clock, ticksPerIsr } := by
  have within : ¬ (resolution < -1 ∨ resolution > 10000000000) := range
  unfold resolutionText at options
  unfold Machine.setClockResolution
  rw [bind_ok (get_run m), if_neg (ne_true_of_eq_false idle)]
  dsimp only
  rw [if_neg within, bind_ok (get_run m), options, bind_ok (ofExcept_ok opt m), bind_ok (modify_run _ m),
    bind_ok (get_run _)]
  dsimp only
  rw [set, bind_ok (modify_run _ _)]
  split at paced
  next accepted =>
    obtain ⟨freq, read, converted⟩ := paced
    rw [if_pos accepted, read, bind_ok (ofExcept_ok freq _), converted, bind_ok (ofExcept_ok ticksPerIsr _),
      bind_ok (modify_run _ _)]
    rfl
  next warned =>
    rw [if_neg warned, paced]
    rfl

def restarted (pc : Word) (epoch : Int) (m : Machine ω) : Machine ω :=
  { m with sys := { m.sys with cpu := m.sys.cpu.reset pc }, clock := m.clock.resetAt epoch }

theorem prepare_restarts (idle : m.running = false) (connected : m.memoryController.isSome ∧ m.ioController.isSome)
    (read : m.opt.clockResolution = .ok resolution) (pc : Word) (epoch : Int) :
    prepare lib build pc epoch m = (do let _ ← Machine.setClockResolution lib build resolution) (restarted pc epoch m) := by
  have memory : ¬ m.memoryController.isNone = true := by
    rw [Bool.not_eq_true, Option.isNone_eq_false_iff]
    exact connected.1
  have io : ¬ m.ioController.isNone = true := by
    rw [Bool.not_eq_true, Option.isNone_eq_false_iff]
    exact connected.2
  unfold Machine.prepare
  rw [bind_ok (get_run m), if_neg memory]
  dsimp only
  rw [bind_ok (get_run m), if_neg io, bind_ok (get_run m), if_neg (ne_true_of_eq_false idle),
    bind_ok (modify_run _ m), bind_ok (get_run _)]
  dsimp only
  rw [read]
  rfl

/-- Nothing of an earlier resolution is left when one is set. -/
theorem setTickResolution_again (clock : CpuClock) (resolution epoch : Int) :
    ((clock.setTickResolution resolution).2.resetAt epoch).setTickResolution resolution =
      ((clock.setTickResolution resolution).1, (clock.setTickResolution resolution).2.resetAt epoch) ∧
    (clock.resetAt epoch).setTickResolution resolution =
      ((clock.setTickResolution resolution).1, (clock.setTickResolution resolution).2.resetAt epoch) := by
  by_cases asked : resolution ≥ 0 ∧ clock.timePeriod ≥ 0
  · have first : clock.setTickResolution resolution = _ := if_pos asked
    rw [first]
    exact ⟨if_pos asked, if_pos asked⟩
  · have first : clock.setTickResolution resolution = _ := if_neg asked
    rw [first]
    exact ⟨if_neg asked, if_neg asked⟩

theorem Stored.prepares (stored : Stored lib resolution members m)
    (connected : m.memoryController.isSome ∧ m.ioController.isSome)
    (set : Machine.setClockResolution lib build resolution m = .ok err mine) (pc : Word) (epoch : Int) :
    ∃ prepared, prepare lib build pc epoch { m with opt := resolved resolution members } = .ok () prepared ∧
      prepare lib build pc epoch mine = .ok () prepared := by
  have read := stored.read
  obtain ⟨more, again, frequency⟩ := stored.again build
  have range : ¬ OutOfRange resolution := by
    intro out
    rw [setClockResolution_refuses stored.idle out] at set
    cases set
  obtain ⟨other, prepared⟩ := setClockResolution_prepared set
  have stores := resolved_set build stored.parses stored.documented
  obtain rfl := Except.ok.inj (stores.symm.trans prepared.options)
  let π (m : Machine ω) := (m.sys, m.memoryController, m.ioController, m.fut, m.running, m.onLoad, m.onSave)
  have framed := setClockResolution_frames (π := π) lib build (fun _ _ => rfl) (fun _ _ => rfl)
      (fun _ _ => rfl) resolution m
  rw [set] at framed
  obtain ⟨sys, clock, options, memory, io, ticksPerIsr, fut, running, onLoad, onSave⟩ := mine
  simp only [final, π, Prod.mk.injEq] at framed
  obtain ⟨rfl, rfl, rfl, rfl, rfl, rfl, rfl⟩ := framed
  obtain ⟨-, rfl, rfl, recomputed, warned⟩ := prepared
  have ticks : (m.clock.setTickResolution resolution).1 = .noError → ∃ freq, more.isrFreq = .ok freq ∧
      toInt64 (freq * (m.clock.setTickResolution resolution).2.totalTicks) = .ok ticksPerIsr := by
    rw [frequency]
    exact recomputed
  obtain ⟨second, first⟩ := setTickResolution_again m.clock resolution epoch
  let sets (m : Machine ω) := (do let _ ← Machine.setClockResolution lib build resolution) (restarted pc epoch m)
  let held : Machine ω := { m with opt := resolved resolution members }
  let own : Machine ω := { held with clock := (m.clock.setTickResolution resolution).2, ticksPerIsr }
  have heldRestarts : prepare lib build pc epoch held = sets held :=
    prepare_restarts (m := held) stored.idle connected read pc epoch
  have ownRestarts : prepare lib build pc epoch own = sets own :=
    prepare_restarts (m := own) stored.idle connected read pc epoch
  have heldSets := setClockResolution_sets (m := restarted pc epoch held) ticksPerIsr stored.idle range again first
  have ownSets := setClockResolution_sets (m := restarted pc epoch own) ticksPerIsr stored.idle range again second
  refine ⟨_, heldRestarts.trans (bind_ok (heldSets ?_)), ownRestarts.trans (bind_ok (ownSets ?_))⟩
  · split
    next accepted => exact ticks accepted
    next refused => exact warned refused
  · split
    next accepted => exact ticks accepted
    next => rfl

theorem Stored.runs (stored : Stored lib resolution members m)
    (connected : m.memoryController.isSome ∧ m.ioController.isSome)
    (set : Machine.setClockResolution lib build resolution m = .ok err mine) (pc : Word) (epoch : Int)
    (readings : List Int) (threads : Bool) (moves : List (Loop.Choice ω)) :
    Machine.run lib build pc epoch readings threads moves { m with opt := resolved resolution members } =
      Machine.run lib build pc epoch readings threads moves mine := by
  obtain ⟨prepared, held, own⟩ := stored.prepares connected set pc epoch
  unfold Machine.run
  rw [bind_ok held, bind_ok own]

end Runs

section Histories
variable {after : Machine ω} {history : List (Entry ω)}

def Reconfigures : Call ω → Prop
  | .setOptions _ => True
  | .setClockResolution _ => True
  | _ => False

/-- The call is no run, or one that throws. -/
def Unstarted (entry : Entry ω) : Prop :=
  ∀ pc epoch readings threads moves, entry.call = .run pc epoch readings threads moves → ∃ fault, entry.reply = .threw fault

/-- A machine that no run can be started on. -/
structure Barred (resolution : Int) (m : Machine ω) : Prop where
  idle : m.running = false
  unlaunched : m.fut = none
  refuses : m.opt.clockResolution = .ok resolution
  out : OutOfRange resolution

/-- What keeps a machine from being run. -/
def bars (m : Machine ω) : (Bool × Option SteadyClock.Host) × Opt := (status m, m.opt)

theorem Barred.of (barred : Barred resolution m) (same : bars after = bars m) : Barred resolution after := by
  obtain ⟨idle, unlaunched, refuses, out⟩ := barred
  simp only [bars, status, Prod.mk.injEq] at same
  obtain ⟨⟨running, fut⟩, opt⟩ := same
  exact ⟨running.trans idle, fut.trans unlaunched, opt ▸ refuses, out⟩

theorem Barred.prepare (barred : Barred resolution m) (pc : Word) (epoch : Int) :
    ∃ fault after, Machine.prepare lib build pc epoch m = .error fault after ∧ bars after = bars m := by
  obtain ⟨idle, -, refuses, out⟩ := barred
  by_cases connected : m.memoryController.isSome ∧ m.ioController.isSome
  · refine ⟨.exception "Clock resolution out of range", restarted pc epoch m,
      (prepare_restarts idle connected refuses pc epoch).trans ?_, rfl⟩
    exact bind_error (setClockResolution_refuses (m := restarted pc epoch m) idle out)
  · unfold Machine.prepare
    rw [bind_ok (get_run m)]
    split
    next => exact ⟨_, m, rfl, rfl⟩
    next memory =>
      dsimp only
      rw [bind_ok (get_run m)]
      split
      next => exact ⟨_, m, rfl, rfl⟩
      next io =>
        rw [Bool.not_eq_true, Option.isNone_eq_false_iff] at memory io
        exact absurd ⟨memory, io⟩ connected

/-- No call but one of the options changes what keeps the machine from being run. -/
theorem Barred.answer (barred : Barred resolution m) {call : Call ω} {reply : Reply} (keeps : ¬ Reconfigures call)
    (answered : answer lib build call m = some (reply, after)) :
    Barred resolution after ∧ Unstarted ⟨call, m, reply⟩ := by
  have framed {α : Type} {returns : α → Reply} {set : EStateM Fault (Machine ω) α} (frames : Frames bars set)
      (answered : some (replies returns (set m)) = some (reply, after)) : Barred resolution after := by
    have same : bars (final (set m)) = bars m := frames m
    cases ran : set m with
    | ok value last =>
      rw [ran] at answered same
      cases answered
      exact barred.of same
    | error fault last =>
      rw [ran] at answered same
      cases answered
      exact barred.of same
  cases call with
  | setOptions options => exact absurd trivial keeps
  | setClockResolution clockResolution => exact absurd trivial keeps
  | setMemoryController controller =>
    have sets : Frames bars (setMemoryController controller) :=
      Frames.guard <| Frames.get.bind fun _ => Frames.guard <| Frames.modify fun _ => by rfl
    exact ⟨framed sets answered, fun _ _ _ _ _ impossible => by cases impossible⟩
  | setIoController controller =>
    have sets : Frames bars (setIoController controller) :=
      Frames.guard <| Frames.get.bind fun _ => Frames.guard <| Frames.modify fun _ => by rfl
    exact ⟨framed sets answered, fun _ _ _ _ _ impossible => by cases impossible⟩
  | onLoad handler =>
    have sets : Frames (bars (ω := ω)) (setOnLoad handler) :=
      Frames.get.bind fun _ => Frames.guard <| Frames.modify fun _ => by rfl
    exact ⟨framed sets answered, fun _ _ _ _ _ impossible => by cases impossible⟩
  | onSave handler =>
    have sets : Frames (bars (ω := ω)) (setOnSave handler) :=
      Frames.get.bind fun _ => Frames.guard <| Frames.modify fun _ => by rfl
    exact ⟨framed sets answered, fun _ _ _ _ _ impossible => by cases impossible⟩
  | run pc epoch readings threads moves =>
    have refused : ∃ fault last, Machine.prepare lib build pc epoch m = .error fault last ∧ bars last = bars m :=
      barred.prepare pc epoch
    obtain ⟨fault, last, failed, same⟩ := refused
    simp only [Machine.answer, Machine.run] at answered
    rw [bind_error failed] at answered
    cases answered
    exact ⟨barred.of same, fun _ _ _ _ _ _ => ⟨fault, rfl⟩⟩
  | waitForCompletion moves =>
    simp only [Machine.answer, Machine.waitForCompletion, barred.unlaunched] at answered
    cases answered
    exact ⟨barred, fun _ _ _ _ _ impossible => by cases impossible⟩

/-- No run is started before the options are changed. -/
theorem Barred.unrun (barred : Barred resolution m) (run : Run (Machine.step lib build) m history after)
    (keeps : ∀ entry ∈ history, ¬ Reconfigures entry.call) : ∀ entry ∈ history, Unstarted entry := by
  have along : (∀ entry ∈ history, ¬ Reconfigures entry.call) → Barred resolution after ∧ ∀ entry ∈ history,
      Unstarted entry := by
    refine run.invariant (fun history after => (∀ entry ∈ history, ¬ Reconfigures entry.call) →
      Barred resolution after ∧ ∀ entry ∈ history, Unstarted entry) (fun _ => ⟨barred, List.forall_mem_nil _⟩) ?_
    intro history mid call after events before moved keeps
    obtain ⟨reply, rfl, answered⟩ := step_entry moved
    obtain ⟨earlier, last⟩ := List.forall_mem_append.mp keeps
    obtain ⟨still, threw⟩ := before earlier
    obtain ⟨barred, throws⟩ := still.answer (last _ (List.mem_singleton_self _)) answered
    exact ⟨barred, List.forall_mem_append.mpr ⟨threw, List.forall_mem_singleton.mpr throws⟩⟩
  exact (along keeps).2

end Histories

section Sessions
variable {new : Machine ω} {past : List (Entry ω)}

/-- A resolution set from Python always comes back with success, and is the one option that changes. If it is in range,
the runs are those after setting it on the machine; if not, the machine would have refused it, and every run does. -/
theorem held_resolution {options : Option String} {maxResolution : Int} {world : ω}
    (made : make lib build options maxResolution world = .ok new) (run : Run (Machine.step lib build) new past m)
    (idle : m.running = false) (parses : Parses lib resolution) (fits : -2 ^ 63 ≤ resolution ∧ resolution < 2 ^ 63) :
    ∃ members, m.opt.json = .object members ∧
      MachineHolder.setClockResolution lib build resolution m = .ok .noError { m with opt := resolved resolution members } ∧
      (m.memoryController.isSome ∧ m.ioController.isSome → ∀ err mine,
        Machine.setClockResolution lib build resolution m = .ok err mine →
        ∀ pc epoch readings threads moves, Machine.run lib build pc epoch readings threads moves
          { m with opt := resolved resolution members } =
          Machine.run lib build pc epoch readings threads moves mine) ∧
      (OutOfRange resolution → Machine.setClockResolution lib build resolution m = .error
        (.exception "Clock resolution out of range") m ∧
        ∀ history after, Run (Machine.step lib build) { m with opt := resolved resolution members } history after →
          (∀ entry ∈ history, ¬ Reconfigures entry.call) → ∀ entry ∈ history, Unstarted entry) := by
  obtain ⟨members, documented⟩ := Adjustments.history_documented made run
  have stored : Stored lib resolution members m := ⟨idle, parses, fits, documented⟩
  have unlaunched : m.fut = none := (history_standing made run).unused idle
  refine ⟨members, documented, stored.held, fun connected err mine set => stored.runs connected set,
    fun out => ⟨setClockResolution_refuses idle out, ?_⟩⟩
  intro history after later keeps
  have barred : Barred resolution { m with opt := resolved resolution members } := ⟨idle, unlaunched, stored.read, out⟩
  exact barred.unrun later keeps

def negativeCalls : List (Call Unit) :=
  [.setMemoryController (some (Lifecycle.quitter (return 0))), .setIoController (some (Lifecycle.quitter (return 0)))]

def laterCalls : List (Call Unit) := [.run 0 0 [] true [], .onSave true, .run 0x100 0 [] true []]

theorem negative_held : ∃ (m : Machine Unit) (members : List (String × Json)) (history : List (Entry Unit)),
    MachineHolder.setClockResolution Configurations.rangeLibraries ⟨true, true⟩ (-5) m = .ok .noError
      { m with opt := resolved (-5) members } ∧
      Machine.setClockResolution Configurations.rangeLibraries ⟨true, true⟩ (-5) m = .error
        (.exception "Clock resolution out of range") m ∧
      history.map (fun entry => entry.reply) =
        [.threw (.exception "Clock resolution out of range"), .returned,
          .threw (.exception "Clock resolution out of range")] ∧
      ∀ entry ∈ history, Unstarted entry := by
  have begun : ∃ (new m : Machine Unit) (past : List (Entry Unit)),
      make Configurations.rangeLibraries ⟨true, true⟩ none 1 () = .ok new ∧
      Traces.run (Machine.step Configurations.rangeLibraries ⟨true, true⟩) negativeCalls new = some (m, past) ∧
        m.running = false ∧
      ∃ (members : List (String × Json)) (after : Machine Unit) (history : List (Entry Unit)),
        m.opt.json = .object members ∧
        Traces.run (Machine.step Configurations.rangeLibraries ⟨true, true⟩) laterCalls
          { m with opt := resolved (-5) members } =
          some (after, history) ∧
          history.map (fun entry => entry.reply) =
            [.threw (.exception "Clock resolution out of range"), .returned,
              .threw (.exception "Clock resolution out of range")] ∧
          history.map (fun entry => entry.call) = laterCalls :=
    ⟨_, _, _, by with_unfolding_all rfl, by with_unfolding_all rfl, by with_unfolding_all rfl, _, _, _, by with_unfolding_all rfl,
      by with_unfolding_all rfl, by with_unfolding_all rfl, by with_unfolding_all rfl⟩
  obtain ⟨new, m, past, made, ran, idle, members, after, history, documented, later, replies, calls⟩ := begun
  obtain ⟨others, same, held, -, refused⟩ := held_resolution made (Run.of_run ran) idle
    (Configurations.range_parses (-5)) (by decide)
  obtain rfl := Json.object.inj (documented.symm.trans same)
  obtain ⟨own, unrun⟩ := refused (.inl (by decide))
  refine ⟨m, members, history, held, own, replies, unrun history after (Run.of_run later) fun entry member => ?_⟩
  have among : entry.call ∈ laterCalls := calls ▸ List.mem_map_of_mem member
  simp only [laterCalls, List.mem_cons, List.not_mem_nil, or_false] at among
  rcases among with same | same | same
  · rw [same]
    exact id
  · rw [same]
    exact id
  · rw [same]
    exact id

end Sessions
end MachEmu.Proofs.Holders
