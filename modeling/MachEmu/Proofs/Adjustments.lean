import MachEmu.Proofs.ClockReset
import MachEmu.Proofs.Lifecycle
import MachEmu.Proofs.OptionHistory
import MachEmu.Proofs.Timeline
import Mathlib.Logic.Relation

/-! What becomes of the options and the clock of a machine in a history of calls. -/

namespace MachEmu.Proofs.Adjustments
open ErrorState Machine Traces Calls Counters

variable {ω : Type} {lib : Libraries} {build : Build} {m after : Machine ω}

/-- What is kept from one run to the next. -/
abbrev Kept := Opt × CpuClock

def kept (m : Machine ω) : Kept := (m.opt, m.clock)

/-- One change of it. -/
inductive Adjusts (lib : Libraries) (build : Build) : Kept → Kept → Prop
  | options {opt changed : Opt} {clock : CpuClock} (text : Option String)
    (set : opt.setOptions lib build text = .ok changed) :
      Adjusts lib build (opt, clock) (changed, clock)
  | resolution {opt : Opt} {clock : CpuClock} (resolution : Int) :
    Adjusts lib build (opt, clock) (opt, (clock.setTickResolution resolution).2)
  | reset {opt : Opt} {clock : CpuClock} (epoch : Int) : Adjusts lib build (opt, clock) (opt, clock.resetAt epoch)
  | tick {opt : Opt} {clock ticked : CpuClock} {ticks : BitVec 64} {host last : SteadyClock.Host}
      (ran : clock.tick ticks host = some (ticked, last)) : Adjusts lib build (opt, clock) (opt, ticked)

abbrev Adjusted (lib : Libraries) (build : Build) : Kept → Kept → Prop := Relation.ReflTransGen (Adjusts lib build)

section Loops
variable {setup : Setup ω} {loop next : Loop ω} {events : List (Event ω)}

/-- The loop does nothing to the clock but tick. -/
theorem step_adjusted {choice : Loop.Choice ω} (opt : Opt) (moved : Loop.step setup choice loop = some (next, events)) :
    Adjusted lib build (opt, loop.clock) (opt, next.clock) := by
  rcases Timeline.step_ticks moved with ⟨-, same, -⟩ | ⟨ticks, -, ticked⟩
  · rw [same]
  · exact .single (.tick ticked)

theorem run_adjusted {trace : List (Event ω)} {start : Loop ω} (opt : Opt) (run : Run (Loop.step setup) start trace loop) :
    Adjusted lib build (opt, start.clock) (opt, loop.clock) :=
  run.invariant (fun _ loop => Adjusted lib build (opt, start.clock) (opt, loop.clock)) .refl
    fun adjusted moved => adjusted.trans (step_adjusted opt moved)

theorem machineLoop_adjusted {moves : List (Loop.Choice ω)} {host : SteadyClock.Host} {result : Except Fault Int}
    {sys : System ω} {clock : CpuClock} (looped : m.machineLoop lib build moves host = some (result, sys, clock)) :
    Adjusted lib build (kept m) (m.opt, clock) := by
  obtain ⟨setup, -, looped⟩ := Option.bind_eq_some_iff.mp looped
  split at looped
  next =>
    cases looped
    exact .refl
  next first entered =>
    obtain ⟨⟨last, trace⟩, ran, looped⟩ := Option.bind_eq_some_iff.mp looped
    have begins : first.clock = m.clock := by
      obtain ⟨loadAsync, -, entered⟩ := except_bind_ok_iff.mp entered
      obtain ⟨saveAsync, -, entered⟩ := except_bind_ok_iff.mp entered
      cases entered
      rfl
    have adjusted : Adjusted lib build (m.opt, first.clock) (m.opt, last.clock) := run_adjusted m.opt (Run.of_run ran)
    rw [begins] at adjusted
    dsimp only at looped
    split at looped
    next => cases looped; exact adjusted
    next => cases looped; exact adjusted
    next => cases looped

end Loops

section Configuration
variable (lib build)

theorem setOptions_adjusted (options : Option String) (s : Machine ω) :
    Ends (fun after => Adjusted lib build (kept s) (kept after)) (setOptions lib build options) s := by
  refine Ends.get_bind <| Ends.guard .refl <| Ends.get_bind <| Ends.ofExcept_bind .refl fun opt set => ?_
  exact Ends.modify_bind <| Ends.pure (.single (.options options set)) _

theorem setClockResolution_adjusted (clockResolution : Int) (s : Machine ω) :
    Ends (fun after => Adjusted lib build (kept s) (kept after)) (setClockResolution lib build clockResolution) s := by
  refine Ends.get_bind <| Ends.guard .refl <| Ends.guard .refl <| Ends.get_bind <|
    Ends.ofExcept_bind .refl fun opt set => ?_
  refine Ends.modify_bind <| Ends.get_bind ?_
  have adjusted : Adjusted lib build (kept s) (opt, (s.clock.setTickResolution clockResolution).2) :=
    .tail (.single (.options _ set)) (.resolution clockResolution)
  dsimp only
  refine Ends.modify_bind ?_
  split
  · refine Ends.ofExcept_bind adjusted fun freq _ => Ends.ofExcept_bind adjusted fun ticksPerIsr _ => ?_
    refine Ends.modify_bind ?_
    exact adjusted
  · exact adjusted

theorem prepare_adjusted (pc : Word) (epoch : Int) (s : Machine ω) :
    Ends (fun after => Adjusted lib build (kept s) (kept after)) (prepare lib build pc epoch) s := by
  refine Ends.get_bind <| Ends.guard .refl <| Ends.get_bind <| Ends.guard .refl <| Ends.get_bind <| Ends.guard .refl ?_
  have reset : Adjusted lib build (kept s) (s.opt, s.clock.resetAt epoch) := .single (.reset epoch)
  refine Ends.modify_bind <| Ends.get_bind <| Ends.ofExcept_bind reset fun resolution _ => ?_
  have configured := setClockResolution_adjusted lib build resolution
    { s with sys := { s.sys with cpu := s.sys.cpu.reset pc }, clock := s.clock.resetAt epoch }
  refine Ends.bind (reset.trans configured) fun _ mid ran => ?_
  unfold Ends at configured ⊢
  rw [ran] at configured
  exact reset.trans configured

end Configuration

section Histories
variable {history events : List (Entry ω)} {start : Machine ω}

theorem replies_ends {α : Type} {Q : Machine ω → Prop} {x : EStateM Fault (Machine ω) α} {returns : α → Reply}
    {reply : Reply} (ends : Ends Q x m) (answered : replies returns (x m) = (reply, after)) : Q after := by
  unfold Ends at ends
  cases ran : x m with
  | ok value final =>
    rw [ran] at answered ends
    cases answered
    exact ends
  | error fault final =>
    rw [ran] at answered ends
    cases answered
    exact ends

theorem frames_adjusted {α : Type} {x : EStateM Fault (Machine ω) α} (frames : Frames kept x) :
    Ends (fun after => Adjusted lib build (kept m) (kept after)) x m := by
  have same : kept (final (x m)) = kept m := frames m
  unfold Ends
  dsimp only
  rw [same]

theorem complete_adjusted {moves : List (Loop.Choice ω)} {result : EStateM.Result Fault (Machine ω) Int}
    (completed : m.complete lib build moves = some result) : Adjusted lib build (kept m) (kept (final result)) := by
  obtain ⟨host, -, completed⟩ := Option.bind_eq_some_iff.mp completed
  obtain ⟨⟨outcome, sys, clock⟩, looped, completed⟩ := Option.bind_eq_some_iff.mp completed
  have adjusted := machineLoop_adjusted looped
  cases outcome with
  | ok totalTime =>
    cases completed
    exact adjusted
  | error fault =>
    cases completed
    exact adjusted

theorem begin_adjusted (lib : Libraries) (build : Build) (m : Machine ω) (pc : Word) (epoch : Int) (threads : Bool)
    (host : SteadyClock.Host) : Ends (fun after => Adjusted lib build (kept m) (kept after))
    (do prepare lib build pc epoch; launch threads host) m := by
  have prepares := prepare_adjusted lib build pc epoch m
  refine Ends.bind prepares fun _ mid ran => ?_
  have launches : Frames (kept (ω := ω)) (launch threads host) := by
    refine (Frames.modify fun _ => by rfl).bind fun _ => Frames.get.bind fun _ => (Frames.ofExcept _).bind fun _ => ?_
    exact Frames.guard <| (Frames.modify fun _ => by rfl).bind fun _ => Frames.pure _
  have launched : kept (final (launch threads host mid)) = kept mid := launches mid
  unfold Ends at prepares ⊢
  rw [ran] at prepares
  dsimp only
  rw [launched]
  exact prepares

theorem run_call_adjusted {pc : Word} {epoch : Int} {readings : List Int} {threads : Bool} {moves : List (Loop.Choice ω)}
    {result : EStateM.Result Fault (Machine ω) (Launch × Int)}
    (ran : m.run lib build pc epoch readings threads moves = some result) :
      Adjusted lib build (kept m) (kept (final result)) := by
  have begins := begin_adjusted lib build m pc epoch threads ⟨epoch, readings, []⟩
  unfold Ends at begins
  unfold Machine.run at ran
  split at ran
  next begun =>
    rw [begun] at begins
    cases ran
    exact begins
  next begun =>
    rw [begun] at begins
    obtain ⟨inner, completed, ran⟩ := Option.bind_eq_some_iff.mp ran
    have ends := complete_adjusted completed
    cases inner with
    | ok totalTime last =>
      cases ran
      exact begins.trans ends
    | error fault last =>
      cases ran
      exact begins.trans ends
  next begun =>
    rw [begun] at begins
    cases ran
    exact begins

theorem answer_adjusted {call : Call ω} {reply : Reply} (answered : answer lib build call m = some (reply, after)) :
    Adjusted lib build (kept m) (kept after) := by
  have ended {α : Type} {returns : α → Reply} {result : EStateM.Result Fault (Machine ω) α}
      (replied : replies returns result = (reply, after)) : final result = after := by
    cases result with
    | ok value last => cases replied; rfl
    | error fault last => cases replied; rfl
  cases call with
  | setOptions options => exact replies_ends (setOptions_adjusted lib build options m) (Option.some.inj answered)
  | setClockResolution resolution =>
    exact replies_ends (setClockResolution_adjusted lib build resolution m) (Option.some.inj answered)
  | setMemoryController controller =>
    have frames : Frames kept (setMemoryController controller) :=
      Frames.guard <| Frames.get.bind fun _ => Frames.guard <| Frames.modify fun _ => by rfl
    exact replies_ends (frames_adjusted frames) (Option.some.inj answered)
  | setIoController controller =>
    have frames : Frames kept (setIoController controller) :=
      Frames.guard <| Frames.get.bind fun _ => Frames.guard <| Frames.modify fun _ => by rfl
    exact replies_ends (frames_adjusted frames) (Option.some.inj answered)
  | onLoad handler =>
    have frames : Frames (kept (ω := ω)) (setOnLoad handler) :=
      Frames.get.bind fun _ => Frames.guard <| Frames.modify fun _ => by rfl
    exact replies_ends (frames_adjusted frames) (Option.some.inj answered)
  | onSave handler =>
    have frames : Frames (kept (ω := ω)) (setOnSave handler) :=
      Frames.get.bind fun _ => Frames.guard <| Frames.modify fun _ => by rfl
    exact replies_ends (frames_adjusted frames) (Option.some.inj answered)
  | run pc epoch readings threads moves =>
    obtain ⟨result, ran, replied⟩ := Option.map_eq_some_iff.mp answered
    rw [← ended replied]
    exact run_call_adjusted ran
  | waitForCompletion moves =>
    obtain ⟨result, ran, replied⟩ := Option.map_eq_some_iff.mp answered
    rw [← ended replied]
    unfold Machine.waitForCompletion at ran
    split at ran
    next => exact complete_adjusted ran
    next =>
      cases ran
      exact .refl

/-- Options and clock are only changed one step at a time, whatever the calls are. -/
theorem history_adjusted (run : Run (step lib build) start history m) : Adjusted lib build (kept start) (kept m) :=
  run.invariant (fun _ m => Adjusted lib build (kept start) (kept m)) .refl fun adjusted moved => by
    obtain ⟨reply, -, answered⟩ := Lifecycle.step_entry moved
    exact adjusted.trans (answer_adjusted answered)

end Histories

section Documents
variable {history : List (Entry ω)} {opt changed : Opt} {start : Machine ω}

def Documented (opt : Opt) : Prop := ∃ members, opt.json = .object members

theorem Documented.setOptions {text : Option String} (documented : Documented opt)
    (set : opt.setOptions lib build text = .ok changed) : Documented changed := by
  obtain ⟨members, same⟩ := documented
  obtain ⟨json, updated⟩ := OptionHistory.setOptions_merges set
  rw [same] at updated
  cases json with
  | object others =>
    obtain merged := Except.ok.inj updated
    exact ⟨_, merged.symm⟩
  | _ => cases updated

theorem adjusted_documented {before after : Kept} (adjusted : Adjusted lib build before after)
    (documented : Documented before.1) : Documented after.1 := by
  induction adjusted with
  | refl => exact documented
  | tail _ last ih =>
    cases last with
    | options text set => exact ih.setOptions set
    | _ => exact ih

theorem make_documented {options : Option String} {maxResolution : Int} {world : ω}
    (made : make lib build options maxResolution world = .ok start) : Documented start.opt := by
  obtain ⟨first, opt, set, chosen, rfl⟩ := Lifecycle.make_sets made
  have initial : Documented (Opt.init build) := ⟨_, rfl⟩
  have begun : Documented first := initial.setOptions set
  rcases chosen with rfl | chosen
  · exact begun
  · exact begun.setOptions chosen

theorem history_documented {options : Option String} {maxResolution : Int} {world : ω}
    (made : make lib build options maxResolution world = .ok start) (run : Run (step lib build) start history m) :
      Documented m.opt :=
  adjusted_documented (history_adjusted run) (make_documented made)

end Documents
end MachEmu.Proofs.Adjustments
