import MachEmu.Proofs.Exceptions
import MachEmu.Proofs.LoadState
import MachEmu.Proofs.Deliveries

/-! What can bring a run down. In a release build, on controllers that throw nothing,
no guest program and no text that is loaded can: what is left are the handlers. -/

namespace MachEmu.Proofs.Survival
open ErrorState Intel8080 BusTransactions BusDiscipline InstructionPrograms Programs Gather Calls StateChecks
  LoadState Exceptions Timeline Deliveries
open Machine Loop Traces

variable {ω α : Type}

/-- A release build on controllers that throw nothing. The layout of the memory can be
read, and its ram is counted in an `int`. -/
structure Sound (setup : Setup ω) : Prop where
  release : setup.build.ndebug = true
  peaceful : Peaceful setup
  ram : ∃ ramMetadata, setup.opt.ram = .ok ramMetadata ∧ (ramMetadata.map fun rm => rm.2.toNat).sum < 2 ^ 31
  rom : ∃ romMetadata, setup.opt.rom = .ok romMetadata

section Executions
variable {setup : Setup ω}

theorem emulator_never (release : setup.build.ndebug = true) (peaceful : Peaceful setup) :
    (emulator setup.wiring).Raises fun _ => False where
  look _ := nofun
  change _ _ := nofun
  check s := by
    change Raises _ (assert0 setup.wiring) s
    have compiled : setup.wiring.build.ndebug = true := release
    rw [assert0_eq, if_pos compiled]
    exact Raises.pure ()
  ask question s := (readFromAddress_answers peaceful _ _ s).bind fun _ _ _ => nofun
  tell command s := writeToAddress_answers peaceful _ _ _ s

theorem execute_never (release : setup.build.ndebug = true) (peaceful : Peaceful setup) (s : System ω) :
    Raises (fun _ => False) (execute setup.wiring) s := by
  have dispatches (isr : Option Byte) (s : System ω) : Raises (fun _ => False) (dispatch isr setup.wiring) s := by
    rw [dispatch_eq]
    exact (emulator_never release peaceful).run (program isr) s
  unfold Raises
  rw [execute_run]
  split
  · split
    · exact dispatches _ _
    · exact dispatches _ _
  · exact dispatches _ _

end Executions

section States
variable {lib : Libraries} {build : Build} {opt : Opt} {memory : IController ω}

theorem never_exception {x : EStateM Fault ω α} {s : ω} (never : Raises (fun _ => False) x s) : Raises IsException x s :=
  never.mono fun _ => False.elim

theorem readable {e : Except Fault α} (ok : ∃ value, e = .ok value) : OnlyThrows IsException e := by
  obtain ⟨value, rfl⟩ := ok
  exact .ok value

theorem pushBack_never (answering : Answering memory) (mem : List Byte) (addr : Word) (world : ω) :
    Raises (fun _ => False) (pushBack memory mem addr) world :=
  (answering.read addr world).bind fun _ _ _ => Raises.pure _

theorem countedLoop_never {bound : Nat} {body : α → Word → EStateM Fault ω α}
    (never : ∀ acc addr world, Raises (fun _ => False) (body acc addr) world) (fuel : Nat) (addr : Word)
    (acc : α) (world : ω) : Raises (fun _ => False) (CountedLoop.run bound body fuel addr acc) world := by
  induction fuel generalizing addr acc world with
  | zero => exact Raises.pure none
  | succ fuel ih =>
    exact Raises.ite ((never acc addr world).bind fun acc mid _ => ih (addr + 1) acc mid) (Raises.pure (some acc))

theorem gather_never (answering : Answering memory) (fuel : Nat) (metadata : List Block) (mem : List Byte) (world : ω) :
    Raises (fun _ => False) (gather memory fuel metadata mem) world := by
  induction metadata generalizing mem world with
  | nil => exact Raises.pure _
  | cons block metadata ih =>
    refine (countedLoop_never (pushBack_never answering) fuel block.1 mem world).bind fun result mid _ => ?_
    cases result with
    | none => exact Raises.pure none
    | some mem => exact ih mem mid

theorem readRom_never (answering : Answering memory) (romMetadata : List Block) (world : ω) :
    Raises (fun _ => False) (readRom memory romMetadata) world :=
  Raises.foldlM (fun rom _ _ => Raises.foldlM
    (fun rom _ world => pushBack_never answering rom _ world) _ rom) romMetadata []

/-- A state that cannot be captured is refused with an exception. -/
theorem saveState_excepts (answering : Answering memory) (ram : ∃ ramMetadata, opt.ram = .ok ramMetadata)
    (rom : ∃ romMetadata, opt.rom = .ok romMetadata) (cpu : Intel8080) (world : ω) :
    Raises IsException (saveState lib build opt memory cpu) world := by
  refine Raises.guard (fun _ => ⟨_, rfl⟩) fun _ => ?_
  refine (Raises.ofExcept (readable ram)).bind fun ramMetadata _ _ =>
    (never_exception (gather_never answering _ ramMetadata [] _)).bind fun ram _ _ => ?_
  cases ram with
  | none => exact Raises.pure none
  | some ram =>
    refine (Raises.ofExcept (readable rom)).bind fun romMetadata _ _ =>
      (never_exception (gather_never answering _ romMetadata [] _)).bind fun rom _ _ => ?_
    cases rom with
    | none => exact Raises.pure none
    | some rom => exact (Raises.ofExcept (throws_writeState lib build memory cpu rom ram)).bind fun _ _ _ => Raises.pure _

theorem checkState_excepts (answering : Answering memory) (ram : ∃ ramMetadata, opt.ram = .ok ramMetadata)
    (rom : ∃ romMetadata, opt.rom = .ok romMetadata) (str : String) (world : ω) :
    Raises IsException (checkState lib build opt memory str) world := by
  refine Raises.guard (fun _ => ⟨_, rfl⟩) fun _ => ?_
  refine (Raises.ofExcept (throws_parse lib str)).bind fun json _ _ => ?_
  refine (Raises.ofExcept (throws_digest lib build json "uuid")).bind fun uuid _ _ =>
    Raises.guard (fun _ => ⟨_, rfl⟩) fun _ => ?_
  refine (Raises.ofExcept (readable rom)).bind fun romMetadata _ _ =>
    (never_exception (readRom_never answering romMetadata _)).bind fun rom _ _ => ?_
  refine (Raises.ofExcept (throws_digest lib build json "rom")).bind fun md5 _ _ =>
    Raises.guard (fun _ => ⟨_, rfl⟩) fun _ => ?_
  refine (Raises.ofExcept (throws_decodeRam lib build json)).bind fun decoded _ _ => ?_
  exact (Raises.ofExcept (readable ram)).bind fun ramMetadata _ _ => Raises.guard (fun _ => ⟨_, rfl⟩) fun _ => Raises.pure _

theorem checkState_fits {str : String} {world after : ω} {json : Json} {ram : List Byte} {ramMetadata : List Block}
    (bounded : ∀ ramMetadata, opt.ram = .ok ramMetadata → (ramMetadata.map fun rm => rm.2.toNat).sum < 2 ^ 31)
    (checked : checkState lib build opt memory str world = .ok (json, ram, ramMetadata) after) :
    ram.length < 2 ^ 31 ∧ ram.length = (addresses ramMetadata).length := by
  obtain ⟨-, checked⟩ := guard_ok_iff.mp checked
  obtain ⟨document, _, -, checked⟩ := bind_ok_iff.mp checked
  obtain ⟨uuid, _, -, checked⟩ := bind_ok_iff.mp checked
  obtain ⟨-, checked⟩ := guard_ok_iff.mp checked
  obtain ⟨romMetadata, _, -, checked⟩ := bind_ok_iff.mp checked
  obtain ⟨rom, _, -, checked⟩ := bind_ok_iff.mp checked
  obtain ⟨md5, _, -, checked⟩ := bind_ok_iff.mp checked
  obtain ⟨-, checked⟩ := guard_ok_iff.mp checked
  obtain ⟨decoded, _, -, checked⟩ := bind_ok_iff.mp checked
  obtain ⟨layout, _, option, checked⟩ := bind_ok_iff.mp checked
  obtain ⟨configured, -⟩ := ofExcept_ok_iff.mp option
  obtain ⟨fits, checked⟩ := guard_ok_iff.mp checked
  cases checked
  obtain ⟨small, same⟩ := sum_of_size (not_not.mp fits)
  exact ⟨small, same (bounded _ configured)⟩

/-- While there is a byte for every address that is left, no write runs off the ram. -/
theorem writeByte_never (answering : Answering memory) (ram : List Byte) (small : ram.length < 2 ^ 31) (addrs : List Word)
    (ramIndex : BitVec 32) (inside : ramIndex.toNat + addrs.length ≤ ram.length) (world : ω) :
    Raises (fun _ => False) (addrs.foldlM (writeByte memory ram) ramIndex) world := by
  induction addrs generalizing ramIndex world with
  | nil => exact Raises.pure _
  | cons addr addrs ih =>
    rw [List.length_cons] at inside
    have here : ramIndex.toNat < ram.length := by omega
    have advanced : (ramIndex + 1).toNat = ramIndex.toNat + 1 := by
      have one : (1 : BitVec 32).toNat = 1 := rfl
      rw [BitVec.toNat_add, one, Nat.mod_eq_of_lt (by omega)]
    rw [List.foldlM_cons]
    unfold writeByte
    simp only [List.getElem?_eq_getElem here]
    refine Raises.bind ((answering.write _ _ _).bind fun _ _ _ => Raises.pure _) fun index mid ran => ?_
    obtain ⟨_, _, -, stored⟩ := bind_ok_iff.mp ran
    cases stored
    exact ih _ (by omega) mid

theorem onWorld_raises {allowed : Fault → Prop} {call : EStateM Fault ω α}
    (raises : ∀ world, Raises allowed call world) (s : System ω) : Raises allowed (onWorld call) s := by
  intro fault after failed
  unfold onWorld at failed
  cases ran : call s.world with
  | ok value world =>
    rw [ran] at failed
    cases failed
  | error fault world =>
    rw [ran] at failed
    cases failed
    exact raises s.world fault world ran

/-- Whatever the text is, the load returns. -/
theorem loadMachineState_never (answering : Answering memory)
    (ram : ∃ ramMetadata, opt.ram = .ok ramMetadata ∧ (ramMetadata.map fun rm => rm.2.toNat).sum < 2 ^ 31)
    (rom : ∃ romMetadata, opt.rom = .ok romMetadata) (str : String) (s : System ω) :
    Raises (fun _ => False) (loadMachineState lib build opt memory str) s := by
  obtain ⟨layout, configured, bounded⟩ := ram
  have caught {body : EStateM Fault (System ω) Unit} (excepts : Raises IsException body s) :
      Raises (fun _ => False) (catchException body) s := by
    intro fault after failed
    unfold catchException at failed
    split at failed
    next => cases failed
    next result other =>
      obtain ⟨what, rfl⟩ := excepts fault after failed
      exact other what after failed
  unfold loadMachineState
  refine Raises.ite (Raises.pure ()) (caught ?_)
  refine (onWorld_raises (checkState_excepts answering ⟨layout, configured⟩ rom str) s).bind fun checked mid ran => ?_
  obtain ⟨json, ram, ramMetadata⟩ := checked
  refine (Raises.ofExcept (throws_index json "cpu")).bind fun cpuState _ _ => Raises.get_bind ?_
  refine (Raises.ofExcept (throws_load lib build _ _)).bind fun cpu _ _ => (Raises.modify _).bind fun _ _ _ => ?_
  refine (onWorld_raises (fun world => ?_) _).bind fun _ _ _ => Raises.pure _
  have fits : ram.length < 2 ^ 31 ∧ ram.length = (addresses ramMetadata).length := by
    unfold onWorld at ran
    cases checked : checkState lib build opt memory str s.world with
    | ok value world =>
      rw [checked] at ran
      cases ran
      refine checkState_fits (fun other same => ?_) checked
      cases configured.symm.trans same
      exact bounded
    | error fault world =>
      rw [checked] at ran
      cases ran
  obtain ⟨small, same⟩ := fits
  rw [writeRam_eq]
  exact (writeByte_never answering ram small _ 0 (by rw [← same]; simp) world).mono fun _ => False.elim

end States

section Loops
variable {setup : Setup ω} {loop after : Loop ω} {events : List (Event ω)} {fault : Fault} {next : Loop ω → Loop ω}

/-- The fault has ended the loop, or is held by a future. -/
def Held (fault : Fault) (loop : Loop ω) : Prop :=
  loop.point = .failed fault ∨ .error fault ∈ loop.onLoad.results ∨ .error fault ∈ loop.onSave.results

def saves : Choice ω → Option (Except Fault Unit)
  | .turn _ saved => some saved
  | .saved saved => some saved
  | _ => none

/-- A handler has run in the move and has thrown the fault, which is no exception. -/
structure Thrown (fault : Fault) (move : LoopMove ω) : Prop where
  ran : .returned (.error fault) ∈ move.events ∨ (∃ state, .called state ∈ move.events) ∧
    saves move.input = some (.error fault)
  escapes : ¬ IsException fault

theorem loadTask_throws {handler : Except Fault (Option String)} (failed : loadTask handler = .error fault) :
    ¬ IsException fault := by
  rintro ⟨what, rfl⟩
  unfold loadTask at failed
  split at failed
  next => cases failed
  next => cases failed
  next => cases failed
  next other =>
    cases failed
    exact other what rfl

theorem saveTask_throws {handler : Except Fault Unit} (failed : saveTask handler = .error fault) :
    handler = .error fault ∧ ¬ IsException fault := by
  unfold saveTask at failed
  split at failed
  next => cases failed
  next => cases failed
  next thrown other =>
    cases failed
    refine ⟨rfl, ?_⟩
    rintro ⟨what, rfl⟩
    exact other what rfl

/-- A step of the loop that fails on nothing by itself. -/
def Gentle (next : Loop ω → Loop ω) : Prop := ∀ {fault loop}, Held fault (next loop) → Held fault loop

theorem Held.futures {other : Loop ω} (held : Held fault loop) (going : ∀ fault, loop.point ≠ .failed fault)
    (load : other.onLoad = loop.onLoad) (save : other.onSave = loop.onSave) : Held fault other := by
  unfold Held
  rw [load, save]
  exact .inr (held.resolve_left (going fault))

theorem gentle_finish : Gentle (finish (ω := ω)) := fun held => held.futures nofun rfl rfl

theorem gentle_powerOff : Gentle (powerOff (ω := ω)) := fun held => held.futures nofun rfl rfl

theorem gentle_goto {point : Point} (going : ∀ fault, point ≠ .failed fault) : Gentle (Loop.goto (ω := ω) point) :=
  fun held => held.futures going rfl rfl

theorem loadFrom_held (loop : Loop ω) (sound : Sound setup) (gentle : Gentle next) {result : Option (Except Fault String)}
    (held : Held fault (loop.loadFrom setup result next).1) : result = some (.error fault) ∨ Held fault loop := by
  unfold loadFrom at held
  split at held
  next => exact .inr (gentle held)
  next thrown =>
    rcases held with failed | futures
    · cases failed
      exact .inl rfl
    · exact .inr (.inr futures)
  next str =>
    split at held
    next sys _ =>
      rcases gentle held with point | futures
      · exact .inr (.inl point)
      · exact .inr (.inr futures)
    next thrown sys failed =>
      exact (loadMachineState_never sound.peaceful.memory sound.ram sound.rom str loop.sys thrown sys failed).elim

theorem discard_held (loop : Loop ω) (gentle : Gentle next) {result : Option (Except Fault String)}
    (held : Held fault (loop.discard result next)) : result = some (.error fault) ∨ Held fault loop := by
  unfold Loop.discard at held
  split at held
  next thrown =>
    rcases held with failed | futures
    · cases failed
      exact .inl rfl
    · exact .inr (.inr futures)
  next => exact .inr (gentle held)

theorem collected_load (result : Option (Except Fault String)) (future : Future Unit (Except Fault String))
    {handler : Except Fault (Option String)} {applying : List (Event ω)}
    (results : result.toList ++ future.results = loop.onLoad.results ++ loop.onLoad.runs.map fun _ => loadTask handler)
    (among : result = some (.error fault) ∨ .error fault ∈ future.results) {choice : Choice ω} :
    Held fault loop ∨ Thrown fault ⟨loop, choice,
      (loop.onLoad.runs.map fun _ => loadTask handler).map .returned ++ applying, after⟩ := by
  have member : .error fault ∈ loop.onLoad.results ++ loop.onLoad.runs.map fun _ => loadTask handler := by
    rw [← results]
    rcases among with rfl | later
    · exact List.mem_append_left _ List.mem_cons_self
    · exact List.mem_append_right _ later
  rcases List.mem_append.mp member with before | now
  · exact .inl (.inr (.inl before))
  · obtain ⟨_, -, threw⟩ := List.mem_map.mp now
    exact .inr ⟨.inl (List.mem_append_left _ (List.mem_map_of_mem now)), loadTask_throws threw⟩

theorem collected_save (result : Option (Except Fault String)) (future : Future String (Except Fault String))
    {handler : Except Fault Unit} {choice : Choice ω} (handles : saves choice = some handler)
    (results : result.toList ++ future.results = loop.onSave.results ++ loop.onSave.runs.map fun _ => saveTask handler)
    (among : result = some (.error fault) ∨ .error fault ∈ future.results) :
    Held fault loop ∨ Thrown fault ⟨loop, choice, loop.onSave.runs.map .called, after⟩ := by
  have member : .error fault ∈ loop.onSave.results ++ loop.onSave.runs.map fun _ => saveTask handler := by
    rw [← results]
    rcases among with rfl | later
    · exact List.mem_append_left _ List.mem_cons_self
    · exact List.mem_append_right _ later
  rcases List.mem_append.mp member with before | now
  · exact .inl (.inr (.inr before))
  · obtain ⟨state, running, threw⟩ := List.mem_map.mp now
    obtain ⟨rfl, escapes⟩ := saveTask_throws threw
    exact .inr ⟨.inr ⟨⟨state, List.mem_map_of_mem running⟩, handles⟩, escapes⟩

theorem checkLoad_held (sound : Sound setup) (gentle : Gentle next) {handler : Except Fault (Option String)}
    {choice : Choice ω} (held : Held fault (loop.checkLoad setup handler next).1) :
    Held fault loop ∨ Thrown fault ⟨loop, choice, (loop.checkLoad setup handler next).2, after⟩ := by
  have results := Future.poll_results (fun _ => loadTask handler) loop.onLoad
  rcases loadFrom_held { loop with onLoad := (loop.onLoad.poll fun _ => loadTask handler).2 } sound gentle held with
    thrown | point | loads | saves
  · exact collected_load _ _ results (.inl thrown)
  · exact .inl (.inl point)
  · exact collected_load _ _ results (.inr loads)
  · exact .inl (.inr (.inr saves))

theorem checkSave_held (gentle : Gentle next) {handler : Except Fault Unit} {choice : Choice ω}
    (handles : saves choice = some handler) (held : Held fault (loop.checkSave handler next).1) :
    Held fault loop ∨ Thrown fault ⟨loop, choice, (loop.checkSave handler next).2, after⟩ := by
  have results := Future.poll_results (fun _ => saveTask handler) loop.onSave
  rcases discard_held { loop with onSave := (loop.onSave.poll fun _ => saveTask handler).2 } gentle held with
    thrown | point | loads | saves
  · exact collected_save _ _ handles results (.inl thrown)
  · exact .inl (.inl point)
  · exact .inl (.inr (.inl loads))
  · exact collected_save _ _ handles results (.inr saves)

theorem quitLoad_held (sound : Sound setup) {handler : Except Fault (Option String)} {choice : Choice ω}
    (ran : loop.quitLoad setup handler = some (after, events)) (held : Held fault after) :
    Held fault loop ∨ Thrown fault ⟨loop, choice, events, after⟩ := by
  have gentle : Gentle (Loop.goto (ω := ω) .quitSave) := gentle_goto fun _ => Point.noConfusion
  unfold quitLoad at ran
  split at ran
  next =>
    obtain ⟨result, got, ran⟩ := Option.bind_eq_some_iff.mp ran
    cases ran
    have results := Future.get_results (fun _ => loadTask handler) loop.onLoad got
    rcases loadFrom_held { loop with onLoad := .invalid } sound gentle held with thrown | point | loads | saves
    · exact collected_load (some result) .invalid results (.inl thrown)
    · exact .inl (.inl point)
    · cases loads
    · exact .inl (.inr (.inr saves))
  next =>
    cases ran
    exact .inl (gentle held)

theorem quitSave_held {handler : Except Fault Unit} {choice : Choice ω} (handles : saves choice = some handler)
    (ran : loop.quitSave handler = some (after, events)) (held : Held fault after) :
    Held fault loop ∨ Thrown fault ⟨loop, choice, events, after⟩ := by
  unfold quitSave at ran
  split at ran
  next =>
    obtain ⟨result, got, ran⟩ := Option.bind_eq_some_iff.mp ran
    cases ran
    have results := Future.get_results (fun _ => saveTask handler) loop.onSave got
    rcases discard_held { loop with onSave := .invalid } gentle_powerOff held with thrown | point | loads | saves
    · exact collected_save (some result) .invalid handles results (.inl thrown)
    · exact .inl (.inl point)
    · exact .inl (.inr (.inl loads))
    · cases saves
  next =>
    cases ran
    exact .inl (gentle_powerOff held)

theorem instruction_held (sound : Sound setup) (here : loop.point = .head)
    (ran : loop.instruction setup = some (after, events)) (held : Held fault after) : Held fault loop := by
  have kept (going : ∀ fault, after.point ≠ .failed fault) (load : after.onLoad = loop.onLoad)
      (save : after.onSave = loop.onSave) :
      Held fault loop := held.futures going load.symm save.symm
  unfold instruction at ran
  dsimp only at ran
  split at ran
  next =>
    cases ran
    exact kept nofun rfl rfl
  next =>
    split at ran
    next thrown sys failed => exact (execute_never sound.release sound.peaceful _ thrown sys failed).elim
    next ticks sys executed =>
      obtain ⟨⟨clock, host⟩, ticked, ran⟩ := Option.bind_eq_some_iff.mp ran
      dsimp only at ran
      split at ran
      next =>
        split at ran
        next =>
          cases ran
          exact kept nofun rfl rfl
        next thrown world failed => exact (sound.peaceful.io.serviceInterrupts _ _ _ thrown world failed).elim
      next =>
        cases ran
        exact kept (fun fault failed => Point.noConfusion (here.symm.trans failed)) rfl rfl

theorem save_held (sound : Sound setup) (ran : loop.save setup = some (after, events)) (held : Held fault after) :
    Held fault loop := by
  unfold Loop.save at ran
  split at ran
  next accepted =>
    obtain ⟨-, -, idle⟩ := Requests.accepts_iff.mp accepted
    split at ran
    next state world saved =>
      cases ran
      rcases held with failed | loads | saves
      · cases failed
      · exact .inr (.inl loads)
      · rw [Future.results_launch] at saves
        cases saves
    next => cases ran
    next =>
      cases ran
      exact held.futures nofun rfl rfl
    next thrown world other failed =>
      obtain ⟨ramMetadata, ram, -⟩ := sound.ram
      obtain ⟨what, rfl⟩ : IsException thrown :=
        saveState_excepts sound.peaceful.memory ⟨ramMetadata, ram⟩ sound.rom _ _ thrown world failed
      exact (other what rfl).elim
  next =>
    cases ran
    exact gentle_finish held

theorem load_held (held : Held fault (loop.load setup).1) : Held fault loop := by
  unfold Loop.load at held
  split at held
  next =>
    rcases held with failed | loads | saves
    · cases failed
    · rw [Future.results_launch] at loads
      cases loads
    · exact .inr (.inr saves)
  next => exact gentle_finish held

theorem service_held (sound : Sound setup) {isr : ISR} (ran : loop.service setup isr = some (after, events))
    (held : Held fault after) : Held fault loop := by
  unfold service at ran
  split at ran
  next =>
    obtain rfl := congrArg Prod.fst (Option.some.inj ran)
    exact load_held held
  next => exact save_held sound ran held
  next =>
    cases ran
    exact held.futures nofun rfl rfl
  next =>
    cases ran
    exact held.futures nofun rfl rfl
  next =>
    split at ran
    next =>
      cases ran
      exact held.futures nofun rfl rfl
    next =>
      cases ran
      exact gentle_finish held

/-- A fault comes from a handler that runs in the move. -/
theorem step_held (sound : Sound setup) {choice : Choice ω} (moved : Loop.step setup choice loop = some (after, events))
    (held : Held fault after) : Held fault loop ∨ Thrown fault ⟨loop, choice, events, after⟩ := by
  cases Requests.step_taken moved with
  | turn ran =>
    have gentle : Gentle (Loop.goto (ω := ω) .reapSave) := gentle_goto fun _ => Point.noConfusion
    unfold turn at ran
    split at ran
    next here => exact .inl (instruction_held sound here ran held)
    next => exact .inl (service_held sound ran held)
    next =>
      cases ran
      exact checkLoad_held sound gentle_finish held
    next =>
      cases ran
      exact checkSave_held gentle_finish rfl held
    next =>
      cases ran
      exact checkLoad_held sound gentle held
    next =>
      cases ran
      exact checkSave_held gentle_finish rfl held
    next => exact quitLoad_held sound ran held
    next => exact quitSave_held rfl ran held
    next => cases ran
    next => cases ran
  | @loaded handler running =>
    rcases held with failed | loads | saves
    · exact .inl (.inl failed)
    · have threw : .error fault = loadTask handler := List.mem_singleton.mp loads
      exact .inr ⟨.inl (by rw [threw]; exact List.mem_cons_self), loadTask_throws threw.symm⟩
    · exact .inl (.inr (.inr saves))
  | @saved handler state running =>
    rcases held with failed | loads | saves
    · exact .inl (.inl failed)
    · exact .inl (.inr (.inl loads))
    · have threw : .error fault = saveTask handler := List.mem_singleton.mp saves
      obtain ⟨rfl, escapes⟩ := saveTask_throws threw.symm
      exact .inr ⟨.inr ⟨⟨state, List.mem_cons_self⟩, rfl⟩, escapes⟩
  | outside => exact .inl held

end Loops

section Runs
variable {setup : Setup ω} {start loop : Loop ω} {moves : List (LoopMove ω)} {fault : Fault}

/-- Whatever is executed, saved and loaded, only what a handler throws can end the run, and
only what is no exception. -/
theorem run_survives {lib : Libraries} {build : Build} (entered : Lifecycle.Entered lib build setup start)
    (sound : Sound setup)
    (run : Run (recorded (Loop.step setup)) start moves loop) (failed : loop.point = .failed fault) :
    ∃ move ∈ moves, Thrown fault move := by
  obtain ⟨-, here, onLoad, onSave⟩ := entered.begins
  have along : Held fault loop → ∃ move ∈ moves, Thrown fault move := by
    refine run.invariant (fun moves loop => Held fault loop → ∃ move ∈ moves, Thrown fault move) ?_ ?_
    · rintro (failed | loads | saves)
      · cases here.symm.trans failed
      · rw [onLoad] at loads
        cases loads
      · rw [onSave] at saves
        cases saves
    · intro moves loop choice after added before moved held
      obtain ⟨events, stepped, rfl⟩ := recorded_some moved
      rcases step_held sound stepped held with held | thrown
      · obtain ⟨move, member, thrown⟩ := before held
        exact ⟨move, List.mem_append_left _ member, thrown⟩
      · exact ⟨_, List.mem_append_right _ List.mem_cons_self, thrown⟩
  exact along (.inl failed)

end Runs

section Session
open Lifecycle

theorem answering_pure {uuid : Uuid} {value : Byte} {isr : BitVec 64 → BitVec 64 → ISR} : Answering (ω := Unit)
    ⟨uuid, fun _ => pure value, fun _ _ => pure (), fun currTime cycles => pure (isr currTime cycles)⟩ :=
  ⟨fun _ _ => Raises.pure _, fun _ _ _ => Raises.pure _, fun _ _ _ => Raises.pure _⟩

def loadingSetup : Setup Unit := { askingSetup .load with onLoad := true }

theorem loading_sound : Sound loadingSetup where
  release := rfl
  peaceful := ⟨answering_pure, answering_pure⟩
  ram := ⟨[(0, 0)], by with_unfolding_all rfl, by decide⟩
  rom := ⟨[(0, 0)], by with_unfolding_all rfl⟩

/-- A load handler that throws what is no exception. -/
theorem throwing_survives : ∃ (moves : List (LoopMove Unit)) (loop : Loop Unit),
    Run (recorded (Loop.step loadingSetup)) askingStart moves loop ∧
    loop.point = .failed .foreign ∧ ∃ move ∈ moves, Thrown .foreign move := by
  have entered : enter sessionLibraries ⟨true, false⟩ () (askingCalls .load ++ [.onLoad true]) 0 [1, 2] =
      some (loadingSetup, askingStart) := by
    with_unfolding_all rfl
  have outcome :
      (Traces.run (recorded (Loop.step loadingSetup)) (List.replicate 3 (.turn (.error .foreign) (.ok ()))) askingStart).map
      (fun out => out.1.point) = some (.failed .foreign) := by
    decide +kernel
  obtain ⟨⟨loop, moves⟩, ran, failed⟩ := Option.map_eq_some_iff.mp outcome
  have run : Run (recorded (Loop.step loadingSetup)) askingStart moves loop := Run.of_run ran
  exact ⟨moves, loop, run, failed, run_survives (enter_entered entered) loading_sound run failed⟩

end Session
end MachEmu.Proofs.Survival
