import MachEmu.Proofs.Boundaries

/-! When a machine can be configured and run. -/

namespace MachEmu.Proofs.Lifecycle
open ErrorState Machine Traces BusTransactions Boundaries

variable {ω : Type} {lib : Libraries} {build : Build} {m after : Machine ω} {fault : Fault}

/-- What decides whether a call is accepted. -/
def status (m : Machine ω) : Bool × Option SteadyClock.Host := (m.running, m.fut)

def kept (m : Machine ω) : (Bool × Option SteadyClock.Host) × SystemBus := (status m, m.sys.bus)

/-- Whether a run that was started is still to be completed after a call. A synchronous
`Run` completes it when it returns, and any `WaitForCompletion` does. A `Run` that
throws leaves what was under way. -/
def goesOn (call : Call ω) (reply : Reply) (before : Bool) : Bool :=
  match call, reply with
  | .run .., .launched => true
  | .run .., .returned => false
  | .waitForCompletion _, _ => false
  | _, _ => before

def ongoing (history : List (Entry ω)) : Bool :=
  history.foldl (fun before entry => goesOn entry.call entry.reply before) false

def Throws (lib : Libraries) (build : Build) (moves : List (Loop.Choice ω)) (host : SteadyClock.Host)
    (m : Machine ω) : Prop :=
  ∃ fault sys clock, m.machineLoop lib build moves host = some (.error fault, sys, clock)

/-- The call cuts short a run that has been started: its launch policy cannot be read,
there is no thread for it, or its loop throws. -/
def Disturbed (lib : Libraries) (build : Build) (call : Call ω) (m : Machine ω) : Prop :=
  match call with
  | .run pc epoch readings threads moves => ∃ prepared, prepare lib build pc epoch m = .ok () prepared ∧
    match prepared.opt.runAsync with
    | .error _ => True
    | .ok true => threads = false
    | .ok false => Throws lib build moves ⟨epoch, readings, []⟩ prepared
  | .waitForCompletion moves => ∃ host, m.fut = some host ∧ Throws lib build moves host m
  | _ => False

section Configuration
variable (lib build)

theorem setOptions_frames (options : Option String) : Frames (kept (ω := ω)) (setOptions lib build options) :=
  Frames.get.bind fun _ => Frames.guard <| Frames.get.bind fun _ => (Frames.ofExcept _).bind fun _ =>
    (Frames.modify fun _ => by rfl).bind fun _ => Frames.pure _

/-- Of the machine, only the options, the clock and the service threshold are set. -/
theorem setClockResolution_frames {τ : Type} {π : Machine ω → τ} (options : ∀ m opt, π { m with opt } = π m)
    (clocked : ∀ m clock, π { m with clock } = π m) (paced : ∀ m ticksPerIsr, π { m with ticksPerIsr } = π m)
    (clockResolution : Int) : Frames π (setClockResolution lib build clockResolution) := by
  refine Frames.get.bind fun _ => Frames.guard <| Frames.guard <| Frames.get.bind fun _ => ?_
  refine (Frames.ofExcept _).bind fun opt => (Frames.modify fun _ => options _ _).bind fun _ => Frames.get.bind fun m => ?_
  obtain ⟨err, clock⟩ := m.clock.setTickResolution clockResolution
  refine (Frames.modify fun _ => clocked _ _).bind fun _ => ?_
  dsimp only
  split
  · exact (Frames.ofExcept _).bind fun _ => (Frames.ofExcept _).bind fun _ =>
      (Frames.modify fun _ => paced _ _).bind fun _ => Frames.pure _
  · exact Frames.pure _

theorem setMemoryController_frames (controller : Option (IController ω)) :
    Frames kept (setMemoryController controller) :=
  Frames.guard <| Frames.get.bind fun _ => Frames.guard <| Frames.modify fun _ => by rfl

theorem setIoController_frames (controller : Option (IController ω)) : Frames kept (setIoController controller) :=
  Frames.guard <| Frames.get.bind fun _ => Frames.guard <| Frames.modify fun _ => by rfl

theorem setOnLoad_frames (handler : Bool) : Frames (kept (ω := ω)) (setOnLoad handler) :=
  Frames.get.bind fun _ => Frames.guard <| Frames.modify fun _ => by rfl

theorem setOnSave_frames (handler : Bool) : Frames (kept (ω := ω)) (setOnSave handler) :=
  Frames.get.bind fun _ => Frames.guard <| Frames.modify fun _ => by rfl

theorem prepare_frames (pc : Word) (epoch : Int) : Frames (kept (ω := ω)) (prepare lib build pc epoch) := by
  refine Frames.get.bind fun _ => Frames.guard <| Frames.get.bind fun _ => Frames.guard <| Frames.get.bind fun _ => ?_
  refine Frames.guard <| (Frames.modify fun _ => by rfl).bind fun _ => Frames.get.bind fun _ => ?_
  refine (Frames.ofExcept _).bind fun clockResolution => Frames.bind ?_ fun _ => Frames.pure _
  exact setClockResolution_frames lib build (fun _ _ => rfl) (fun _ _ => rfl) (fun _ _ => rfl) clockResolution

end Configuration

theorem prepare_ok {pc : Word} {epoch : Int} {done : Unit} (prepared : prepare lib build pc epoch m = .ok done after) :
    m.running = false ∧ kept after = kept m := by
  have framed := prepare_frames lib build pc epoch m
  rw [prepared] at framed
  refine ⟨?_, framed⟩
  obtain ⟨_, _, ⟨⟩, prepared⟩ := bind_ok_iff.mp prepared
  obtain ⟨-, prepared⟩ := guard_ok_iff.mp prepared
  obtain ⟨_, _, ⟨⟩, prepared⟩ := bind_ok_iff.mp prepared
  obtain ⟨-, prepared⟩ := guard_ok_iff.mp prepared
  obtain ⟨_, _, ⟨⟩, prepared⟩ := bind_ok_iff.mp prepared
  obtain ⟨idle, -⟩ := guard_ok_iff.mp prepared
  exact Bool.eq_false_iff.mpr idle

/-- The registers of a prepared machine are those after a reset. -/
theorem prepare_reset {pc : Word} {epoch : Int} {done : Unit} (prepared : prepare lib build pc epoch m = .ok done after) :
    after.sys.cpu = m.sys.cpu.reset pc := by
  obtain ⟨_, _, ⟨⟩, prepared⟩ := bind_ok_iff.mp prepared
  obtain ⟨-, prepared⟩ := guard_ok_iff.mp prepared
  obtain ⟨_, _, ⟨⟩, prepared⟩ := bind_ok_iff.mp prepared
  obtain ⟨-, prepared⟩ := guard_ok_iff.mp prepared
  obtain ⟨_, _, ⟨⟩, prepared⟩ := bind_ok_iff.mp prepared
  obtain ⟨-, prepared⟩ := guard_ok_iff.mp prepared
  obtain ⟨_, _, ⟨⟩, prepared⟩ := bind_ok_iff.mp prepared
  obtain ⟨_, _, ⟨⟩, prepared⟩ := bind_ok_iff.mp prepared
  obtain ⟨clockResolution, _, converted, prepared⟩ := bind_ok_iff.mp prepared
  obtain ⟨-, rfl⟩ := ofExcept_ok_iff.mp converted
  obtain ⟨err, _, set, prepared⟩ := bind_ok_iff.mp prepared
  cases prepared
  have framed := setClockResolution_frames lib build (ω := ω) (π := fun m => m.sys.cpu) (fun _ _ => rfl) (fun _ _ => rfl)
    (fun _ _ => rfl) clockResolution
      { m with sys := { m.sys with cpu := m.sys.cpu.reset pc }, clock := m.clock.resetAt epoch }
  rw [set] at framed
  exact framed

theorem launch_run (threads : Bool) (host : SteadyClock.Host) : launch threads host m =
    match m.opt.runAsync with
    | .error fault => .error fault { m with running := true }
    | .ok async =>
      if async = true ∧ threads = false then
        .error (.exception "Resource temporarily unavailable") { m with running := true }
      else .ok (launchPolicy async) { m with running := true, fut := some host } := by
  unfold launch
  rw [bind_ok (modify_run _ m), bind_ok (get_run _)]
  dsimp only
  cases option : m.opt.runAsync with
  | error fault => rw [bind_error (ofExcept_error fault _)]
  | ok async =>
    rw [bind_ok (ofExcept_ok async _)]
    cases async with
    | false => rfl
    | true =>
      cases threads with
      | false => rfl
      | true => rfl

/-- The future is collected with what the loop returns or throws, and only a return
ends the run. -/
theorem complete_some {moves : List (Loop.Choice ω)} {result : EStateM.Result Fault (Machine ω) Int}
    (completed : m.complete lib build moves = some result) : ∃ host, m.fut = some host ∧
      ((∃ totalTime after, result = .ok totalTime after ∧ status after = (false, none) ∧
          (Quiet m.sys.bus → Quiet after.sys.bus) ∧ ¬ Throws lib build moves host m) ∨
        ∃ fault after, result = .error fault after ∧ status after = (m.running, none) ∧ Throws lib build moves host m) := by
  obtain ⟨host, valid, completed⟩ := Option.bind_eq_some_iff.mp completed
  obtain ⟨⟨outcome, sys, clock⟩, looped, completed⟩ := Option.bind_eq_some_iff.mp completed
  refine ⟨host, valid, ?_⟩
  cases outcome with
  | ok totalTime =>
    cases completed
    refine .inl ⟨totalTime, _, rfl, rfl, machineLoop_quiet looped, ?_⟩
    rintro ⟨fault, sys, clock, thrown⟩
    rw [looped] at thrown
    cases thrown
  | error fault =>
    cases completed
    exact .inr ⟨fault, _, rfl, rfl, fault, sys, clock, looped⟩

/-- What a call does to the machine, with what remains under way after it. -/
inductive Outcome (lib : Libraries) (build : Build) (call : Call ω) (reply : Reply) (m after : Machine ω) : Prop
  | kept (same : kept after = kept m) (calm : ¬ Disturbed lib build call m)
      (held : goesOn call reply m.fut.isSome = m.fut.isSome)
  | launched (host : SteadyClock.Host) (idle : m.running = false) (started : status after = (true, some host))
      (bus : after.sys.bus = m.sys.bus) (calm : ¬ Disturbed lib build call m) (on : goesOn call reply m.fut.isSome = true)
  | finished (took : m.running = false ∨ m.fut.isSome = true) (ended : status after = (false, none))
      (quiet : Quiet m.sys.bus → Quiet after.sys.bus) (calm : ¬ Disturbed lib build call m)
        (off : goesOn call reply m.fut.isSome = false)
  | cut (took : m.running = false ∨ m.fut.isSome = true) (stuck : status after = (true, none))
      (disturbed : Disturbed lib build call m) (off : goesOn call reply m.fut.isSome = false)

theorem run_outcome {pc : Word} {epoch : Int} {readings : List Int} {threads : Bool} {moves : List (Loop.Choice ω)}
    {reply : Reply} (unused : m.running = false → m.fut = none)
    (answered : answer lib build (.run pc epoch readings threads moves) m = some (reply, after)) :
    Outcome lib build (.run pc epoch readings threads moves) reply m after := by
  simp only [answer, Machine.run] at answered
  cases preparing : prepare lib build pc epoch m with
  | error fault mid =>
    rw [bind_error preparing] at answered
    cases answered
    have framed := prepare_frames lib build pc epoch m
    rw [preparing] at framed
    refine .kept framed ?_ rfl
    rintro ⟨prepared, impossible, -⟩
    rw [preparing] at impossible
    cases impossible
  | ok done prepared =>
    obtain ⟨idle, same⟩ := prepare_ok preparing
    obtain ⟨sameStatus, bus⟩ := Prod.mk.inj same
    have empty : m.fut = none := unused idle
    have free : prepared.fut = none := (congrArg Prod.snd sameStatus).trans empty
    have off : m.fut.isSome = false := by rw [empty]; rfl
    rw [bind_ok preparing, launch_run] at answered
    cases option : prepared.opt.runAsync with
    | error fault =>
      rw [option] at answered
      cases answered
      refine .cut (.inl idle) (Prod.ext rfl free) ⟨prepared, preparing, ?_⟩ off
      rw [option]
      trivial
    | ok async =>
      rw [option] at answered
      cases async with
      | true =>
        cases threads with
        | false =>
          cases answered
          refine .cut (.inl idle) (Prod.ext rfl free) ⟨prepared, preparing, ?_⟩ off
          rw [option]
        | true =>
          cases answered
          refine .launched _ idle rfl bus ?_ rfl
          rintro ⟨other, again, missing⟩
          cases preparing.symm.trans again
          rw [option] at missing
          cases missing
      | false =>
        simp only [Bool.false_eq_true, false_and, if_false] at answered
        obtain ⟨result, completed, answered⟩ := Option.map_eq_some_iff.mp answered
        obtain ⟨inner, finished, completed⟩ := Option.bind_eq_some_iff.mp completed
        obtain ⟨host, ⟨⟩, outcome⟩ := complete_some finished
        rcases outcome with ⟨totalTime, final, rfl, ended, quiet, calm⟩ | ⟨fault, final, rfl, ended, thrown⟩
        · cases completed
          cases answered
          refine .finished (.inl idle) ended (fun clear => quiet (bus.symm ▸ clear)) ?_ rfl
          rintro ⟨other, again, thrown⟩
          cases preparing.symm.trans again
          rw [option] at thrown
          exact calm thrown
        · cases completed
          cases answered
          refine .cut (.inl idle) ended ⟨prepared, preparing, ?_⟩ off
          rw [option]
          exact thrown

theorem wait_outcome {moves : List (Loop.Choice ω)} {reply : Reply} (used : m.fut.isSome = true → m.running = true)
    (answered : answer lib build (.waitForCompletion moves) m = some (reply, after)) :
    Outcome lib build (.waitForCompletion moves) reply m after := by
  simp only [answer, Machine.waitForCompletion] at answered
  cases valid : m.fut with
  | none =>
    rw [valid] at answered
    cases answered
    refine .kept rfl ?_ (by rw [valid]; rfl)
    rintro ⟨host, impossible, -⟩
    rw [valid] at impossible
    cases impossible
  | some host =>
    have held : m.fut.isSome = true := by rw [valid]; rfl
    rw [if_pos held] at answered
    obtain ⟨result, completed, answered⟩ := Option.map_eq_some_iff.mp answered
    obtain ⟨other, same, outcome⟩ := complete_some completed
    cases valid.symm.trans same
    rcases outcome with ⟨totalTime, final, rfl, ended, quiet, calm⟩ | ⟨fault, final, rfl, ended, thrown⟩
    · cases answered
      refine .finished (.inr held) ended quiet ?_ rfl
      rintro ⟨other, again, thrown⟩
      cases valid.symm.trans again
      exact calm thrown
    · cases answered
      rw [used held] at ended
      exact .cut (.inr held) ended ⟨host, valid, thrown⟩ rfl

theorem configuration_outcome {α : Type} {x : EStateM Fault (Machine ω) α} {call : Call ω} {reply : Reply}
    {returns : α → Reply} (frames : Frames kept x) (calm : ¬ Disturbed lib build call m)
    (neutral : ∀ reply held, goesOn call reply held = held) (answered : replies returns (x m) = (reply, after)) :
    Outcome lib build call reply m after := by
  have framed := frames m
  cases ran : x m with
  | ok value final =>
    rw [ran] at answered framed
    cases answered
    exact .kept framed calm (neutral _ _)
  | error fault final =>
    rw [ran] at answered framed
    cases answered
    exact .kept framed calm (neutral _ _)

theorem answer_outcome {call : Call ω} {reply : Reply} (unused : m.running = false → m.fut = none)
    (answered : answer lib build call m = some (reply, after)) : Outcome lib build call reply m after := by
  cases call with
  | setOptions options =>
    exact configuration_outcome (setOptions_frames lib build options) id (fun _ _ => rfl) (Option.some.inj answered)
  | setClockResolution clockResolution =>
    exact configuration_outcome
      (setClockResolution_frames lib build (fun _ _ => rfl) (fun _ _ => rfl) (fun _ _ => rfl) clockResolution) id
        (fun _ _ => rfl)
      (Option.some.inj answered)
  | setMemoryController controller =>
    exact configuration_outcome (setMemoryController_frames controller) id (fun _ _ => rfl) (Option.some.inj answered)
  | setIoController controller =>
    exact configuration_outcome (setIoController_frames controller) id (fun _ _ => rfl) (Option.some.inj answered)
  | onLoad handler =>
    exact configuration_outcome (setOnLoad_frames handler) id (fun _ _ => rfl) (Option.some.inj answered)
  | onSave handler =>
    exact configuration_outcome (setOnSave_frames handler) id (fun _ _ => rfl) (Option.some.inj answered)
  | run pc epoch readings threads moves => exact run_outcome unused answered
  | waitForCompletion moves =>
    refine wait_outcome (fun valid => ?_) answered
    cases running : m.running with
    | true => rfl
    | false => simp [unused running] at valid

section Refusals

/-- Nothing but the flag refuses a call as busy. -/
abbrev Free {α : Type} (e : Except Fault α) : Prop := OnlyThrows (· ≠ busy) e

theorem free_error {α : Type} (what : String) (other : what ≠ "The machine is running") :
    Free (.error (.exception what) : Except Fault α) := by
  refine OnlyThrows.error fun same => other ?_
  injection same

theorem free_typeError {α : Type} : Free (Json.typeError : Except Fault α) := free_error "type_error" (by decide)

theorem free_index (json : Json) (key : String) : Free (json.index key) := by
  cases json <;> first | exact OnlyThrows.ok _ | exact free_typeError

theorem free_getUint (json : Json) (width : Nat) : Free (json.getUint width) := by
  cases json <;> first | exact OnlyThrows.ok _ | exact free_typeError

theorem free_getDouble (json : Json) : Free json.getDouble := by
  cases json <;> first | exact OnlyThrows.ok _ | exact free_typeError

theorem free_getInt64 (json : Json) : Free json.getInt64 := by
  cases json <;> first | exact OnlyThrows.ok _ | exact free_typeError

theorem free_getString (json : Json) : Free json.getString := by
  cases json <;> first | exact OnlyThrows.ok _ | exact free_typeError

theorem free_update (json other : Json) : Free (json.update other) := by
  cases json <;> cases other <;> first | exact OnlyThrows.ok _ | exact free_typeError

theorem free_read (lib : Libraries) (opts : String) : Free (Opt.read lib opts) := by
  unfold Opt.read
  split
  · split
    · exact OnlyThrows.ok _
    · exact free_error _ (by decide)
  · unfold parse
    split
    · exact OnlyThrows.ok _
    · exact free_error _ (by decide)

theorem free_convertDeprecated (json : Json) : Free (Opt.convertDeprecated json) := by
  let uint16 (key : String) : Except Fault (Option Word) := do return some (← (← json.index key).getUint 16)
  have free (key : String) : Free (uint16 key) :=
    (free_index json key).bind fun field => (free_getUint field 16).bind fun _ => OnlyThrows.ok _
  have optional {c : Bool} (key : String) {rest : Option Word → Except Fault Json} (remaining : ∀ size, Free (rest size)) :
      Free (if c then uint16 key >>= rest else pure none >>= rest) :=
    OnlyThrows.ite ((free key).bind remaining) (remaining none)
  refine OnlyThrows.ite (OnlyThrows.ok _) ?_
  refine optional _ fun _ => optional _ fun _ => optional _ fun _ => optional _ fun _ => ?_
  exact OnlyThrows.ite (free_update _ _) (OnlyThrows.ok _)

theorem free_setOptions (options : Option String) (opt : Opt) : Free (opt.setOptions lib build options) := by
  unfold Opt.setOptions
  cases options with
  | none => exact (free_update _ _).bind fun _ => OnlyThrows.ok _
  | some opts =>
    refine (free_read lib opts).bind fun json => ?_
    have update : Free (do
        let json ← Opt.convertDeprecated json
        return (⟨← opt.json.update json⟩ : Opt)) :=
      (free_convertDeprecated json).bind fun _ => (free_update _ _).bind fun _ => OnlyThrows.ok _
    have compressor : Free (do
        if !build.zlib && json.contains "compressor" then
          if (← (← json.index "compressor").getString) == "zlib" then
            throw (.exception "mach-emu has been compiled with no zlib support")
        let json ← Opt.convertDeprecated json
        return (⟨← opt.json.update json⟩ : Opt)) :=
      OnlyThrows.ite ((free_index json _).bind fun field => (free_getString field).bind fun _ =>
        OnlyThrows.guard (by decide) update) update
    refine OnlyThrows.guard (by decide) (OnlyThrows.ite ?_ compressor)
    exact (free_index json _).bind fun field => (free_getDouble field).bind fun _ => OnlyThrows.guard (by decide) compressor

theorem free_toInt64 (value : Rat) : Free (toInt64 value) := by
  refine OnlyThrows.ite (OnlyThrows.ok _) (OnlyThrows.error ?_)
  exact fun same => nomatch same

theorem setOptions_free (options : Option String) (idle : m.running = false) :
    Raises (· ≠ busy) (setOptions lib build options) m := by
  refine Raises.get_bind <| Raises.guard (fun running => absurd idle (ne_false_of_eq_true running)) fun _ => ?_
  refine Raises.get_bind <| (Raises.ofExcept (free_setOptions options _)).bind fun _ _ _ => ?_
  exact (Raises.modify _).bind fun _ _ _ => Raises.pure _

theorem setClockResolution_free (clockResolution : Int) (idle : m.running = false) :
    Raises (· ≠ busy) (setClockResolution lib build clockResolution) m := by
  refine Raises.get_bind <| Raises.guard (fun running => absurd idle (ne_false_of_eq_true running)) fun _ => ?_
  refine Raises.guard (fun _ => by decide) fun _ => Raises.get_bind ?_
  refine (Raises.ofExcept (free_setOptions _ _)).bind fun opt _ _ => (Raises.modify _).bind fun _ m _ => Raises.get_bind ?_
  obtain ⟨err, clock⟩ := m.clock.setTickResolution clockResolution
  refine (Raises.modify _).bind fun _ _ _ => ?_
  dsimp only
  split
  · refine (Raises.ofExcept ((free_index _ _).bind fun field => free_getDouble field)).bind fun _ _ _ => ?_
    exact (Raises.ofExcept (free_toInt64 _)).bind fun _ _ _ => (Raises.modify _).bind fun _ _ _ => Raises.pure _
  · exact Raises.pure _

theorem prepare_free (pc : Word) (epoch : Int) (idle : m.running = false) :
    Raises (· ≠ busy) (prepare lib build pc epoch) m := by
  refine Raises.get_bind <| Raises.guard (fun _ => by decide) fun _ => ?_
  refine Raises.get_bind <| Raises.guard (fun _ => by decide) fun _ => ?_
  refine Raises.get_bind <| Raises.guard (fun running => absurd idle (ne_false_of_eq_true running)) fun _ => ?_
  refine (Raises.modify _).bind fun _ mid modified => Raises.get_bind ?_
  cases modified
  refine (Raises.ofExcept ((free_index _ _).bind fun field => free_getInt64 field)).bind fun _ _ read => ?_
  obtain ⟨-, rfl⟩ := ofExcept_ok_iff.mp read
  refine (setClockResolution_free _ ?_).bind fun _ _ _ => Raises.pure _
  exact idle

theorem idle_modify (f : Machine ω → Machine ω) (idle : m.running = false) :
    Raises (· ≠ busy) (do
      if (← get).running then throw busy
      modify f) m :=
  Raises.get_bind <| Raises.guard (fun running => absurd idle (ne_false_of_eq_true running)) fun _ => Raises.modify _

theorem setMemoryController_free (controller : Option (IController ω)) (idle : m.running = false) :
    Raises (· ≠ busy) (setMemoryController controller) m :=
  Raises.guard (fun _ => by decide) fun _ => idle_modify _ idle

theorem setIoController_free (controller : Option (IController ω)) (idle : m.running = false) :
    Raises (· ≠ busy) (setIoController controller) m :=
  Raises.guard (fun _ => by decide) fun _ => idle_modify _ idle

theorem setOnLoad_free (handler : Bool) (idle : m.running = false) : Raises (· ≠ busy) (setOnLoad handler) m :=
  idle_modify _ idle

theorem setOnSave_free (handler : Bool) (idle : m.running = false) : Raises (· ≠ busy) (setOnSave handler) m :=
  idle_modify _ idle

/-- The call is rejected because the machine is running. -/
def Refused (lib : Libraries) (build : Build) (call : Call ω) (m : Machine ω) : Prop :=
  match call with
  | .setOptions options => ∃ after, setOptions lib build options m = .error busy after
  | .setClockResolution clockResolution => ∃ after, setClockResolution lib build clockResolution m = .error busy after
  | .setMemoryController controller => ∃ after, setMemoryController controller m = .error busy after
  | .setIoController controller => ∃ after, setIoController controller m = .error busy after
  | .onLoad handler => ∃ after, setOnLoad handler m = .error busy after
  | .onSave handler => ∃ after, setOnSave handler m = .error busy after
  | .run pc epoch .. => ∃ after, prepare lib build pc epoch m = .error busy after
  | .waitForCompletion _ => False

/-- Every call is accepted by a machine that is not running. -/
theorem refused_running {call : Call ω} (refused : Refused lib build call m) : m.running = true := by
  cases running : m.running with
  | true => rfl
  | false =>
    have free {α : Type} {x : EStateM Fault (Machine ω) α} (raises : Raises (· ≠ busy) x m)
        (refused : ∃ after, x m = .error busy after) : False := by
      obtain ⟨after, refused⟩ := refused
      exact raises busy after refused rfl
    cases call with
    | setOptions options => exact (free (setOptions_free options running) refused).elim
    | setClockResolution clockResolution => exact (free (setClockResolution_free clockResolution running) refused).elim
    | setMemoryController controller => exact (free (setMemoryController_free controller running) refused).elim
    | setIoController controller => exact (free (setIoController_free controller running) refused).elim
    | onLoad handler => exact (free (setOnLoad_free handler running) refused).elim
    | onSave handler => exact (free (setOnSave_free handler running) refused).elim
    | run pc epoch readings threads moves => exact (free (prepare_free pc epoch running) refused).elim
    | waitForCompletion moves => exact refused.elim

end Refusals

section Histories
variable {history : List (Entry ω)} {events : List (Entry ω)} {start : Machine ω}

def Cut (lib : Libraries) (build : Build) (history : List (Entry ω)) : Prop :=
  ∃ entry ∈ history, Disturbed lib build entry.call entry.before

theorem ongoing_snoc (entry : Entry ω) : ongoing (history ++ [entry]) = goesOn entry.call entry.reply
    (ongoing history) := by
  simp [ongoing]

theorem cut_snoc (entry : Entry ω) :
    Cut lib build (history ++ [entry]) ↔ Cut lib build history ∨ Disturbed lib build entry.call entry.before := by
  simp [Cut, or_and_right, exists_or]

/-- The future is valid while a run goes on. The machine is running then, and also
once a run has been cut short: there it stays. Where a loop can start, the lanes are clear. -/
structure Standing (lib : Libraries) (build : Build) (history : List (Entry ω)) (m : Machine ω) : Prop where
  valid : m.fut.isSome = ongoing history
  running : m.running = true ↔ ongoing history = true ∨ Cut lib build history
  stuck : Cut lib build history → ongoing history = false
  quiet : m.running = false ∨ m.fut.isSome = true → Quiet m.sys.bus

theorem Standing.unused (standing : Standing lib build history m) (idle : m.running = false) : m.fut = none := by
  have off : ¬ m.running = true := by rw [idle]; exact Bool.false_ne_true
  have past : ¬ m.fut.isSome = true := fun valid => off (standing.running.mpr (.inl (standing.valid ▸ valid)))
  exact Option.not_isSome_iff_eq_none.mp past

/-- A run is started or collected only where none was cut short. -/
theorem Standing.uncut (standing : Standing lib build history m) (took : m.running = false ∨ m.fut.isSome = true) :
    ¬ Cut lib build history := by
  intro cut
  rcases took with idle | valid
  · have running := standing.running.mpr (.inr cut)
    rw [idle] at running
    exact Bool.false_ne_true running
  · rw [standing.valid, standing.stuck cut] at valid
    exact Bool.false_ne_true valid

theorem Standing.step {call : Call ω} {reply : Reply} (standing : Standing lib build history m)
    (outcome : Outcome lib build call reply m after) : Standing lib build (history ++ [⟨call, m, reply⟩]) after := by
  have now : ongoing (history ++ [⟨call, m, reply⟩]) = goesOn call reply m.fut.isSome := by
    rw [ongoing_snoc, standing.valid]
  cases outcome with
  | kept same calm held =>
    obtain ⟨sameStatus, bus⟩ := Prod.mk.inj same
    obtain ⟨running, fut⟩ := Prod.mk.inj sameStatus
    have before : ongoing (history ++ [⟨call, m, reply⟩]) = ongoing history := by rw [now, held, standing.valid]
    refine ⟨?_, ?_, ?_, ?_⟩
    · rw [fut, before, standing.valid]
    · rw [running, before, cut_snoc, or_iff_left calm, standing.running]
    · rw [before, cut_snoc, or_iff_left calm]
      exact standing.stuck
    · rw [running, fut, bus]
      exact standing.quiet
  | launched host idle started bus calm on =>
    obtain ⟨running, fut⟩ := Prod.mk.inj started
    refine ⟨?_, ?_, ?_, fun _ => bus ▸ standing.quiet (.inl idle)⟩
    · rw [fut, now, on, Option.isSome_some]
    · rw [running, now, on]
      simp
    · rw [cut_snoc, or_iff_left calm]
      intro cut
      exact absurd cut (standing.uncut (.inl idle))
  | finished took ended quiet calm off =>
    obtain ⟨running, fut⟩ := Prod.mk.inj ended
    have uncut : ¬ Cut lib build (history ++ [⟨call, m, reply⟩]) := by
      rw [cut_snoc, or_iff_left calm]
      exact standing.uncut took
    refine ⟨?_, ?_, fun cut => absurd cut uncut, fun _ => quiet (standing.quiet took)⟩
    · rw [fut, now, off, Option.isSome_none]
    · rw [running, now, off]
      simp [uncut]
  | cut took stuck disturbed off =>
    obtain ⟨running, fut⟩ := Prod.mk.inj stuck
    refine ⟨?_, ?_, fun _ => now.trans off, ?_⟩
    · rw [fut, now, off, Option.isSome_none]
    · rw [running, cut_snoc]
      simp [disturbed]
    · rw [running, fut]
      simp

theorem step_entry {call : Call ω} (moved : step lib build call m = some (after, events)) :
    ∃ reply, events = [⟨call, m, reply⟩] ∧ answer lib build call m = some (reply, after) := by
  obtain ⟨⟨reply, final⟩, answered, moved⟩ := Option.bind_eq_some_iff.mp moved
  cases reply with
  | returned => cases moved; exact ⟨_, rfl, answered⟩
  | launched => cases moved; exact ⟨_, rfl, answered⟩
  | threw fault =>
    dsimp only at moved
    split at moved
    next => cases moved; exact ⟨_, rfl, answered⟩
    next => cases moved

/-- A new machine has its clock and the options it was made with, where the cpu is the default one if none was given. -/
theorem make_sets {options : Option String} {maxResolution : Int} {world : ω}
    (made : make lib build options maxResolution world = .ok start) :
    ∃ first opt, (Opt.init build).setOptions lib build options = .ok first ∧
      (opt = first ∨ first.setOptions lib build (some "\x7b\"cpu\":\"i8080\"\x7d") = .ok opt) ∧
      start = { sys := { world }, clock := CpuClock.make 2000000 maxResolution, opt } := by
  have built {opt : Opt} (made : (do
      if (← opt.cpuType) = "i8080" then
        return { sys := { world }, clock := CpuClock.make 2000000 maxResolution, opt }
      else throw (.exception "Unsupported cpu type") : Except Fault (Machine ω)) = .ok start) :
      start = { sys := { world }, clock := CpuClock.make 2000000 maxResolution, opt } := by
    obtain ⟨cpuType, -, made⟩ := except_bind_ok_iff.mp made
    split at made
    next => cases made; rfl
    next => cases made
  obtain ⟨first, set, made⟩ := except_bind_ok_iff.mp made
  obtain ⟨cpuType, -, made⟩ := except_bind_ok_iff.mp made
  split at made
  next =>
    obtain ⟨opt, default, made⟩ := except_bind_ok_iff.mp made
    exact ⟨first, opt, set, .inr default, built made⟩
  next => exact ⟨first, first, set, .inl rfl, built made⟩

theorem make_made {options : Option String} {maxResolution : Int} {world : ω}
    (made : make lib build options maxResolution world = .ok start) :
    ∃ opt, start = { sys := { world }, clock := CpuClock.make 2000000 maxResolution, opt } := by
  obtain ⟨-, opt, -, -, same⟩ := make_sets made
  exact ⟨opt, same⟩

theorem make_new {options : Option String} {maxResolution : Int} {world : ω}
    (made : make lib build options maxResolution world = .ok start) : kept start = ((false, none), {}) := by
  obtain ⟨opt, rfl⟩ := make_made made
  rfl

theorem history_standing {options : Option String} {maxResolution : Int} {world : ω}
    (made : make lib build options maxResolution world = .ok start) (run : Run (step lib build) start history m) :
    Standing lib build history m := by
  obtain ⟨fresh, bus⟩ := Prod.mk.inj (make_new made)
  obtain ⟨running, fut⟩ := Prod.mk.inj fresh
  refine run.invariant (fun history m => Standing lib build history m) ?_ ?_
  · refine ⟨by rw [fut]; rfl, by simp [running, ongoing, Cut], ?_, fun _ => by rw [bus]⟩
    rintro ⟨entry, impossible, -⟩
    exact absurd impossible List.not_mem_nil
  · intro history m call after events standing moved
    obtain ⟨reply, rfl, answered⟩ := step_entry moved
    exact standing.step (answer_outcome standing.unused answered)

/-- Only a run that was started and not completed keeps a machine from being used. -/
structure Released (lib : Libraries) (build : Build) (history : List (Entry ω)) (m : Machine ω) : Prop where
  idle : ongoing history = false → m.running = false
  accepted : ∀ call, Refused lib build call m → ongoing history = true

/-- After any history of calls on a new machine, it is released just when no run was cut short. -/
theorem released_iff {options : Option String} {maxResolution : Int} {world : ω}
    (made : make lib build options maxResolution world = .ok start) (run : Run (step lib build) start history m) :
    Released lib build history m ↔ ∀ entry ∈ history, ¬ Disturbed lib build entry.call entry.before := by
  have standing := history_standing made run
  constructor
  · intro released entry member disturbed
    have cut : Cut lib build history := ⟨entry, member, disturbed⟩
    have idle := released.idle (standing.stuck cut)
    rw [standing.running.mpr (.inr cut)] at idle
    cases idle
  · intro calm
    have uncut : ¬ Cut lib build history := fun ⟨entry, member, disturbed⟩ => calm entry member disturbed
    have running : m.running = true → ongoing history = true := fun running =>
      (standing.running.mp running).resolve_right uncut
    refine ⟨fun past => ?_, fun call refused => running (refused_running refused)⟩
    cases taken : m.running with
    | false => rfl
    | true => exact absurd (running taken) (by rw [past]; exact Bool.false_ne_true)

end Histories

section Reach

/-- The states of the loop in the runs of a machine: any history of calls, a `Run` that
gets as far as the loop, and any moves of the loop. -/
inductive Reachable (lib : Libraries) (build : Build) (setup : Setup ω) : Loop ω → Prop
  | enter {options : Option String} {maxResolution : Int} {world : ω} {new m prepared launched : Machine ω}
      {history : List (Entry ω)} {pc : Word} {epoch : Int} {readings : List Int} {threads : Bool} {policy : Launch}
      {loop : Loop ω} (made : make lib build options maxResolution world = .ok new)
        (run : Run (step lib build) new history m)
      (prepares : prepare lib build pc epoch m = .ok () prepared)
      (launches : launch threads ⟨epoch, readings, []⟩ prepared = .ok policy launched)
      (configured : launched.setup lib build = some setup)
      (entered : Loop.start setup launched.sys launched.clock ⟨epoch, readings, []⟩ = .ok loop) :
        Reachable lib build setup loop
  | move {loop after : Loop ω} {choice : Loop.Choice ω} {events : List (Event ω)} (reached : Reachable lib build setup loop)
      (moved : Loop.step setup choice loop = some (after, events)) : Reachable lib build setup after

variable {setup : Setup ω} {loop : Loop ω}

theorem setup_some (configured : m.setup lib build = some setup) : setup.lib = lib ∧ setup.build = build := by
  obtain ⟨memoryController, -, configured⟩ := Option.bind_eq_some_iff.mp configured
  obtain ⟨ioController, -, configured⟩ := Option.bind_eq_some_iff.mp configured
  cases configured
  exact ⟨rfl, rfl⟩

theorem Reachable.same (reached : Reachable lib build setup loop) : setup.lib = lib ∧ setup.build = build := by
  induction reached with
  | enter _ _ _ _ configured _ => exact setup_some configured
  | move _ _ ih => exact ih

theorem launch_ok {threads : Bool} {host : SteadyClock.Host} {policy : Launch} {launched : Machine ω}
    (launches : launch threads host m = .ok policy launched) : launched = { m with running := true, fut := some host } := by
  rw [launch_run] at launches
  split at launches
  next => cases launches
  next =>
    split at launches
    next => cases launches
    next =>
      cases launches
      rfl

theorem Reachable.settled (reached : Reachable lib build setup loop) : Settled loop := by
  induction reached with
  | enter made run prepares launches _ entered =>
    obtain ⟨idle, same⟩ := prepare_ok prepares
    obtain ⟨-, bus⟩ := Prod.mk.inj same
    have quiet := (history_standing made run).quiet (.inl idle)
    rw [launch_ok launches] at entered
    exact start_settled entered (bus ▸ quiet)
  | move _ moved ih => exact step_settled ih moved

/-- A new machine, some calls, and a `Run` that enters its loop. -/
def enter (lib : Libraries) (build : Build) (world : ω) (calls : List (Call ω)) (pc : Word) (readings : List Int) :
    Option (Setup ω × Loop ω) :=
  match make lib build none 1 world with
  | .error _ => none
  | .ok new =>
    match Traces.run (step lib build) calls new with
    | none => none
    | some (m, _) =>
      match prepare lib build pc 0 m with
      | .error _ _ => none
      | .ok () prepared =>
        match launch true ⟨0, readings, []⟩ prepared with
        | .error _ _ => none
        | .ok _ launched =>
          match launched.setup lib build with
          | none => none
          | some setup =>
            match Loop.start setup launched.sys launched.clock ⟨0, readings, []⟩ with
            | .error _ => none
            | .ok loop => some (setup, loop)

/-- The loop that a `Run` of a machine enters. -/
inductive Entered (lib : Libraries) (build : Build) (setup : Setup ω) : Loop ω → Prop
  | enter {options : Option String} {maxResolution : Int} {world : ω} {new m prepared launched : Machine ω}
      {history : List (Entry ω)} {pc : Word} {epoch : Int} {readings : List Int} {threads : Bool} {policy : Launch}
      {loop : Loop ω} (made : make lib build options maxResolution world = .ok new)
        (run : Run (step lib build) new history m)
      (prepares : prepare lib build pc epoch m = .ok () prepared)
      (launches : launch threads ⟨epoch, readings, []⟩ prepared = .ok policy launched)
      (configured : launched.setup lib build = some setup)
      (entered : Loop.start setup launched.sys launched.clock ⟨epoch, readings, []⟩ = .ok loop) :
        Entered lib build setup loop

theorem Entered.reachable (entered : Entered lib build setup loop) : Reachable lib build setup loop := by
  obtain ⟨made, run, prepares, launches, configured, started⟩ := entered
  exact .enter made run prepares launches configured started

/-- A loop is entered at its condition, with no future and with clear lanes. -/
theorem Entered.begins (entered : Entered lib build setup loop) :
    Quiet loop.sys.bus ∧ loop.point = .head ∧ loop.onLoad = .invalid ∧ loop.onSave = .invalid := by
  obtain ⟨made, run, prepares, launches, configured, started⟩ := entered
  obtain ⟨idle, same⟩ := prepare_ok prepares
  obtain ⟨-, bus⟩ := Prod.mk.inj same
  have quiet := (history_standing made run).quiet (.inl idle)
  rw [← bus] at quiet
  rw [launch_ok launches] at started
  obtain ⟨loadAsync, -, started⟩ := except_bind_ok_iff.mp started
  obtain ⟨saveAsync, -, started⟩ := except_bind_ok_iff.mp started
  cases started
  exact ⟨quiet, rfl, rfl, rfl⟩

/-- A loop is entered with the registers cleared, but for the program counter and the scratch register. -/
theorem Entered.cleared (entered : Entered lib build setup loop) :
    loop.sys.cpu = { ({} : Intel8080) with pc := loop.sys.cpu.pc, opcode := loop.sys.cpu.opcode } := by
  obtain ⟨made, run, prepares, launches, configured, started⟩ := entered
  have reset := prepare_reset prepares
  rw [launch_ok launches] at started
  obtain ⟨loadAsync, -, started⟩ := except_bind_ok_iff.mp started
  obtain ⟨saveAsync, -, started⟩ := except_bind_ok_iff.mp started
  cases started
  dsimp only
  rw [reset]
  rfl

theorem enter_entered {world : ω} {calls : List (Call ω)} {pc : Word} {readings : List Int}
    (entered : enter lib build world calls pc readings = some (setup, loop)) : Entered lib build setup loop := by
  unfold enter at entered
  split at entered
  next => cases entered
  next new made =>
    split at entered
    next => cases entered
    next m history ran =>
      split at entered
      next => cases entered
      next prepared prepares =>
        split at entered
        next => cases entered
        next policy launched launches =>
          split at entered
          next => cases entered
          next configured =>
            split at entered
            next => cases entered
            next started =>
              cases entered
              exact .enter made (Run.of_run ran) prepares launches configured started

theorem enter_reachable {world : ω} {calls : List (Call ω)} {pc : Word} {readings : List Int}
    (entered : enter lib build world calls pc readings = some (setup, loop)) : Reachable lib build setup loop :=
  (enter_entered entered).reachable

theorem Reachable.run {inputs : List (Loop.Choice ω)} {last : Loop ω} {trace : List (Event ω)}
    (reached : Reachable lib build setup loop) (ran : Traces.run (Loop.step setup) inputs loop = some (last, trace)) :
    Reachable lib build setup last := by
  have moves := Run.of_run ran
  clear ran
  induction moves with
  | refl => exact reached
  | move _ moved ih => exact ih.move moved

end Reach

section Sessions

def sessionLibraries : Libraries where
  parse text :=
    if text = "\x7b\"cpu\":\"i8080\"\x7d" then some (.object [("cpu", .string "i8080")])
    else if text = "\x7b\"clockResolution\":-1\x7d" then some (.object [("clockResolution", .integer (-1))])
    else none
  parseFile _ := none
  dump _ := ""
  base64Encode _ := ""
  base64Decode _ := []
  compressBound := id
  compress _ _ := none
  uncompress _ _ := none
  md5 _ := Vector.replicate 16 0

def quitter (read : EStateM Fault Unit Byte) : IController Unit where
  read _ := read
  write _ _ := return ()
  serviceInterrupts _ _ := return .quit

def calls (read : EStateM Fault Unit Byte) (turns : Nat) : List (Call Unit) :=
  [.setMemoryController (some (quitter read)), .setIoController (some (quitter read)),
    .run 0 0 [5] false (List.replicate turns (.turn (.ok none) (.ok ()))), .waitForCompletion []]

def session (read : EStateM Fault Unit Byte) (turns : Nat) : Option (Machine Unit × List (Entry Unit)) :=
  match make sessionLibraries ⟨true, false⟩ none 1 () with
  | .ok start => Traces.run (step sessionLibraries ⟨true, false⟩) (calls read turns) start
  | .error _ => none

theorem session_run {read : EStateM Fault Unit Byte} {turns : Nat} {m : Machine Unit} {history : List (Entry Unit)}
    (ran : session read turns = some (m, history)) : ∃ start, make sessionLibraries ⟨true, false⟩ none 1 () = .ok start ∧
      Run (step sessionLibraries ⟨true, false⟩) start history m := by
  unfold session at ran
  cases made : make sessionLibraries ⟨true, false⟩ none 1 () with
  | ok start =>
    rw [made] at ran
    exact ⟨start, rfl, Run.of_run ran⟩
  | error fault =>
    rw [made] at ran
    cases ran

/-- A read that throws ends a synchronous run, and the machine stays running. -/
theorem thrown_run_unreleased :
    ∃ (start : Machine Unit) (history : List (Entry Unit)) (m : Machine Unit),
      make sessionLibraries ⟨true, false⟩ none 1 () = .ok start ∧
      Run (step sessionLibraries ⟨true, false⟩) start history m ∧
      history.map Entry.reply = [.returned, .returned, .threw (.exception "bus error"), .returned] ∧
      ongoing history = false ∧ m.running = true ∧ Refused sessionLibraries ⟨true, false⟩ (.setOptions none) m := by
  have outcome : (session (throw (.exception "bus error")) 1).map
      (fun out => (out.1.running, ongoing out.2, out.2.map Entry.reply)) =
        some (true, false, [.returned, .returned, .threw (.exception "bus error"), .returned]) := by decide +kernel
  obtain ⟨⟨m, history⟩, ran, same⟩ := Option.map_eq_some_iff.mp outcome
  simp only [Prod.mk.injEq] at same
  obtain ⟨running, past, replies⟩ := same
  obtain ⟨start, made, run⟩ := session_run ran
  refine ⟨start, history, m, made, run, replies, past, running, m, ?_⟩
  rw [setOptions, bind_ok (get_run m), if_pos running]
  exact bind_error (throw_run busy m)

theorem released_iff_quit :
    ∃ (start : Machine Unit) (history : List (Entry Unit)) (m : Machine Unit),
      make sessionLibraries ⟨true, false⟩ none 1 () = .ok start ∧
      history.map Entry.reply = [.returned, .returned, .returned, .returned] ∧ m.running = false ∧
      (Released sessionLibraries ⟨true, false⟩ history m ↔
        ∀ entry ∈ history, ¬ Disturbed sessionLibraries ⟨true, false⟩ entry.call entry.before) := by
  have outcome : (session (return 0) 5).map (fun out => (out.1.running, out.2.map Entry.reply)) =
      some (false, [.returned, .returned, .returned, .returned]) := by decide +kernel
  obtain ⟨⟨m, history⟩, ran, same⟩ := Option.map_eq_some_iff.mp outcome
  simp only [Prod.mk.injEq] at same
  obtain ⟨running, replies⟩ := same
  obtain ⟨start, made, run⟩ := session_run ran
  exact ⟨start, history, m, made, replies, running, released_iff made run⟩

end Sessions

end MachEmu.Proofs.Lifecycle
