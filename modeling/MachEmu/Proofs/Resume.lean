import MachEmu.Proofs.Interrupts
import MachEmu.Proofs.Lifecycle
import MachEmu.Proofs.SavedLayouts

/-! A machine whose saved state is loaded again, compared with the machine that was
saved. What an execution does is decided by the registers, the memory, the devices
and the interrupt flip-flop. The text of a save has no place for the last of these,
and the codec does not give back every memory. -/

namespace MachEmu.Proofs.Resume
open Intel8080 BusTransactions Boundaries Interrupts PlainRam Machine Traces

variable {γ δ : Type} {build : Build} {uuid : Uuid}

/-- A machine with other devices on its ports. -/
def attach (d : γ) (s : System (Ram δ)) : System (Ram γ) := ⟨s.cpu, s.bus, ⟨s.world.mem, d⟩⟩

/-- `t` goes on like `s`, whatever devices and interrupts the two meet. -/
def Resumes (build : Build) (uuid : Uuid) (s : System (Ram γ)) (t : System (Ram δ)) : Prop :=
  ∀ {ε : Type} (io : Ports ε) (d : ε) (inputs : List (Input (Ram ε))),
    replay (ramWiring build uuid io) inputs (attach d s) = replay (ramWiring build uuid io) inputs (attach d t)

/-- The registers are the same but for the flip-flop, and so is the memory. -/
structure Restored (s : System (Ram γ)) (t : System (Ram δ)) : Prop where
  cpu : { visible s.cpu with iff := false } = { visible t.cpu with iff := false }
  memory : s.world.mem = t.world.mem
  quiet : Quiet s.bus ∧ Quiet t.bus

/-- An interrupt that is acknowledged continues at its vector. -/
theorem replay_acknowledged {s : System (Ram γ)} (quiet : Quiet s.bus) (enabled : s.cpu.iff = true)
    (io : Ports γ) {isr : ISR} {level : Byte} (request : isr.cpuLevel = some level) :
    (replay (ramWiring build uuid io) [⟨isr, id⟩] s).map (fun seen => seen.cpu.pc) =
      [BitVec.ofNat 16 (8 * level.toNat)] := by
  obtain ⟨⟨addr, data, control⟩, clear, ran⟩ := execute_interrupted (ramWiring build uuid io) isr quiet
  obtain rfl : control = 0#8 := clear
  have begun : (⟨isr, id⟩ : Input (Ram γ)).begin s = interrupted isr s := rfl
  rw [replay_cons, begun, ran, acknowledged, if_pos enabled, request, ramWiring, dispatch_some_run]
  exact congrArg (fun pc => [pc]) (vector_eq request)

theorem replay_ignored {s : System (Ram γ)} (quiet : Quiet s.bus) (disabled : s.cpu.iff = false) (io : Ports γ)
    (isr other : ISR) :
    replay (ramWiring build uuid io) [⟨isr, id⟩] s = replay (ramWiring build uuid io) [⟨other, id⟩] s :=
  replay_masked ⟨rfl, rfl, quiet, quiet⟩ ⟨rfl, .inr disabled, fun _ _ _ => trivial⟩

theorem replay_tells {s t : System (Ram γ)} (quiet : Quiet s.bus ∧ Quiet t.bus) (enabled : s.cpu.iff = true)
    (disabled : t.cpu.iff = false) (io : Ports γ)
    (same : ∀ inputs, replay (ramWiring build uuid io) inputs s = replay (ramWiring build uuid io) inputs t) : False := by
  have first : (replay (ramWiring build uuid io) [⟨.zero, id⟩] s).map (fun seen => seen.cpu.pc) = [0] :=
    replay_acknowledged quiet.1 enabled io (by rfl : ISR.zero.cpuLevel = some 0)
  have second : (replay (ramWiring build uuid io) [⟨.one, id⟩] s).map (fun seen => seen.cpu.pc) = [8] :=
    replay_acknowledged quiet.1 enabled io (by rfl : ISR.one.cpuLevel = some 1)
  rw [same, replay_ignored quiet.2 disabled io .zero .one, ← same, second] at first
  exact absurd first (by decide)

/-- Of two machines that differ at most in the flip-flop, one goes on like the other
just when the flip-flop is the same. -/
theorem restored_resumes_iff {s : System (Ram γ)} {t : System (Ram δ)} (restored : Restored s t) :
    Resumes build uuid s t ↔ t.cpu.iff = s.cpu.iff := by
  constructor
  · intro resumes
    have quiet : Quiet (attach () s).bus ∧ Quiet (attach () t).bus := restored.quiet
    have same := resumes (ε := Unit) ⟨fun _ d => (0, d), fun _ _ d => d⟩ ()
    cases before : s.cpu.iff with
    | true =>
      cases now : t.cpu.iff with
      | true => rfl
      | false => exact (replay_tells quiet before now _ same).elim
    | false =>
      cases now : t.cpu.iff with
      | true => exact (replay_tells quiet.symm now before _ fun inputs => (same inputs).symm).elim
      | false => rfl
  · intro iff ε io d inputs
    refine replay_masked ⟨?_, ?_, restored.quiet⟩ (Masked.refl _ _ _)
    · have cpu := restored.cpu
      unfold visible at cpu ⊢
      simp only [Intel8080.mk.injEq] at cpu ⊢
      obtain ⟨a, b, c, d, e, h, l, pc, sp, status, -, opcode⟩ := cpu
      exact ⟨a, b, c, d, e, h, l, pc, sp, status, iff.symm, trivial⟩
    · exact congrArg (Ram.mk · d) restored.memory

/-- A device that copies a byte of the memory, which it leaves full of `NOP`s. -/
def probe (addr : Word) : Input (Ram Byte) := ⟨.noInterrupt, fun ram => ⟨fun _ => 0, ram.mem addr⟩⟩

theorem replay_probe {s : System (Ram γ)} (quiet : Quiet s.bus) (io : Ports Byte) (addr : Word) :
    replay (ramWiring build uuid io) [probe addr] (attach 0 s) =
      [⟨.ok 4, { visible s.cpu with pc := s.cpu.pc + 1 }, ⟨fun _ => 0, s.world.mem addr⟩⟩] := by
  obtain ⟨⟨address, data, control⟩, received, ran⟩ := execute_interrupted (ramWiring build uuid io) .noInterrupt
    (s := ⟨s.cpu, s.bus, ⟨fun _ => 0, s.world.mem addr⟩⟩) quiet
  obtain rfl : control = 0#8 := received
  have begun : (probe addr).begin (attach 0 s) =
      interrupted .noInterrupt ⟨s.cpu, s.bus, ⟨fun _ => 0, s.world.mem addr⟩⟩ := rfl
  have idle : acknowledged .noInterrupt s.cpu.iff = none := ite_self none
  have kept : (s.cpu.iff && ISR.noInterrupt.cpuLevel.isNone) = s.cpu.iff := Bool.and_true _
  rw [replay_cons, begun, ran, idle, ramWiring, dispatch_none_run, kept]
  rfl

theorem Resumes.restored {s : System (Ram γ)} {t : System (Ram δ)} (resumes : Resumes build uuid s t)
    (quiet : Quiet s.bus ∧ Quiet t.bus) : Restored s t := by
  have shown (addr : Word) : { visible s.cpu with pc := s.cpu.pc + 1 } = { visible t.cpu with pc := t.cpu.pc + 1 } ∧
      s.world.mem addr = t.world.mem addr := by
    have same := resumes ⟨fun _ d => (0, d), fun _ _ d => d⟩ 0 [probe addr]
    rw [replay_probe quiet.1, replay_probe quiet.2] at same
    obtain ⟨-, cpu, world⟩ := Observation.mk.inj (List.cons.inj same).1
    exact ⟨cpu, congrArg Ram.io world⟩
  refine ⟨?_, funext fun addr => (shown addr).2, quiet⟩
  have cpu := (shown 0).1
  unfold visible at cpu ⊢
  simp only [Intel8080.mk.injEq] at cpu ⊢
  obtain ⟨a, b, c, d, e, h, l, pc, sp, status, -, opcode⟩ := cpu
  exact ⟨a, b, c, d, e, h, l, (BitVec.add_left_inj 1).mp pc, sp, status, trivial, opcode⟩

/-- A machine goes on like another just when its registers, its memory and its flip-flop are the same. -/
theorem resumes_iff_restored {s : System (Ram γ)} {t : System (Ram δ)} (quiet : Quiet s.bus ∧ Quiet t.bus) :
    Resumes build uuid s t ↔ t.cpu.iff = s.cpu.iff ∧ Restored s t := by
  constructor
  · intro resumes
    have restored := resumes.restored quiet
    exact ⟨(restored_resumes_iff restored).mp resumes, restored⟩
  · rintro ⟨iff, restored⟩
    exact (restored_resumes_iff restored).mpr iff

section Loads
variable {ω : Type} {setup : Setup ω} {loop after : Loop ω} {events : List (Event ω)} {str : String}
  {next : Loop ω → Loop ω}

/-- The loop after a load of the text: it goes on with what the load made of the system, or has failed. -/
inductive Loads (setup : Setup ω) (str : String) (s : System ω) (after : Loop ω) : Prop where
  | returned (on : ∀ fault, after.point ≠ .failed fault)
      (ran : loadMachineState setup.lib setup.build setup.opt setup.memoryController str s = .ok () after.sys)
  | failed {fault : Fault} (there : after.point = .failed fault)
      (ran : loadMachineState setup.lib setup.build setup.opt setup.memoryController str s = .error fault after.sys)

theorem Loads.ok {s sys : System ω} (loads : Loads setup str s after)
    (ran : loadMachineState setup.lib setup.build setup.opt setup.memoryController str s = .ok () sys) :
    (∀ fault, after.point ≠ .failed fault) ∧ after.sys = sys := by
  cases loads with
  | returned on returned =>
    rw [returned] at ran
    cases ran
    exact ⟨on, rfl⟩
  | failed there failed =>
    rw [failed] at ran
    cases ran

theorem Loads.error {fault : Fault} {s sys : System ω} (loads : Loads setup str s after)
    (ran : loadMachineState setup.lib setup.build setup.opt setup.memoryController str s = .error fault sys) :
    after.point = .failed fault := by
  cases loads with
  | returned on returned =>
    rw [returned] at ran
    cases ran
  | failed there failed =>
    rw [failed] at ran
    cases ran
    exact there

def Continues (next : Loop ω → Loop ω) : Prop :=
  ∀ loop, (next loop).sys = loop.sys ∧ ∀ fault, (next loop).point ≠ .failed fault

theorem finish_continues : Continues (Loop.finish (ω := ω)) := fun _ => ⟨rfl, fun _ impossible => by cases impossible⟩

theorem goto_continues {point : Point} (on : ∀ fault, point ≠ .failed fault) : Continues (Loop.goto (ω := ω) point) :=
  fun _ => ⟨rfl, on⟩

theorem loadFrom_applied {result : Option (Except Fault String)} {results : List (Except Fault String)}
    {applying : List (Event ω)}
    (ran : loop.loadFrom setup result next = (after, applying)) (continues : Continues next)
    (applied : .applied str ∈ results.map Event.returned ++ applying) : Loads setup str loop.sys after := by
  have member : .applied str ∈ applying := by
    rcases List.mem_append.mp applied with member | member
    · obtain ⟨result, -, impossible⟩ := List.mem_map.mp member
      cases impossible
    · exact member
  unfold Loop.loadFrom at ran
  split at ran
  next => cases ran; cases member
  next => cases ran; cases member
  next =>
    split at ran
    next sys loaded =>
      cases ran
      cases List.mem_singleton.mp member
      obtain ⟨same, on⟩ := continues { loop with sys }
      exact .returned on (same.symm ▸ loaded)
    next fault sys failed =>
      cases ran
      cases List.mem_singleton.mp member
      exact .failed rfl failed

theorem checkLoad_applied {onLoad : Except Fault (Option String)} (ran : loop.checkLoad setup onLoad next = (after, events))
    (continues : Continues next) (applied : .applied str ∈ events) : Loads setup str loop.sys after := by
  unfold Loop.checkLoad at ran
  dsimp only at ran
  generalize collected : Loop.loadFrom setup _ next _ = out at ran
  obtain ⟨reached, applying⟩ := out
  cases ran
  have outcome := loadFrom_applied collected continues applied
  exact outcome

/-- A text is applied to the system as it is at that move. -/
theorem step_applied {choice : Loop.Choice ω} (moved : Loop.step setup choice loop = some (after, events))
    (applied : .applied str ∈ events) : Loads setup str loop.sys after := by
  have here : loop.point ∈ [.startedLoad, .reapLoad, .quitLoad] := Requests.step_permits moved _ applied
  cases Requests.step_taken moved with
  | @turn onLoad onSave after events ran =>
    unfold Loop.turn at ran
    simp only [List.mem_cons, List.not_mem_nil, or_false] at here
    rcases here with here | here | here
    · rw [here] at ran
      have collected : loop.checkLoad setup onLoad Loop.finish = (after, events) := Option.some.inj ran
      exact checkLoad_applied collected finish_continues applied
    · rw [here] at ran
      have collected : loop.checkLoad setup onLoad (Loop.goto .reapSave) = (after, events) := Option.some.inj ran
      exact checkLoad_applied collected (goto_continues fun _ impossible => by cases impossible) applied
    · rw [here] at ran
      dsimp only [Loop.quitLoad] at ran
      split at ran
      next =>
        obtain ⟨result, -, ran⟩ := Option.bind_eq_some_iff.mp ran
        generalize collected : Loop.loadFrom setup (some result) _ _ = out at ran
        obtain ⟨reached, applying⟩ := out
        cases ran
        have outcome := loadFrom_applied collected (goto_continues fun _ impossible => by cases impossible) applied
        exact outcome
      next =>
        cases ran
        cases applied
  | loaded => cases List.mem_singleton.mp applied
  | saved => cases List.mem_singleton.mp applied
  | outside => cases applied

theorem save_starts {state : String} {world : ω}
    (accepted : loop.accepts setup.onSave = true)
    (written : saveState setup.lib setup.build setup.opt setup.memoryController loop.sys.cpu loop.sys.world =
      .ok (some state) world) :
    loop.save setup = some
      ({ loop with
          sys := { loop.sys with world }
          onSave := .launch loop.saveLaunchPolicy state
          point := .startedSave }, [.startedSave loop.sys state]) := by
  rw [Loop.save, if_pos accepted, written]

/-- A deferred load takes its text from the handler and applies it. -/
theorem load_applies {text : String} {onSave : Except Fault Unit} {sys : System ω}
    (here : loop.point = .startedLoad) (deferred : loop.onLoad = .deferred ())
    (loaded : loadMachineState setup.lib setup.build setup.opt setup.memoryController text loop.sys = .ok () sys) :
    ∃ after, Loop.step setup (.turn (.ok (some text)) onSave) loop = some
      (after, [.returned (.ok text), .applied text]) := by
  simp only [Loop.step, Loop.turn, here, Loop.checkLoad, deferred, Future.poll, Future.runs, loadTask,
    Loop.loadFrom, loaded]
  exact ⟨_, rfl⟩

end Loads

section Machines
open Gather LoadState SaveLoad SavedLayouts Lifecycle

variable {lib : Libraries} {setup : Setup (Ram γ)} {loop saved : Loop (Ram γ)} {loadSetup : Setup (Ram δ)}
  {later loaded : Loop (Ram δ)}
  {choice : Loop.Choice (Ram γ)} {loadChoice : Loop.Choice (Ram δ)} {events : List (Event (Ram γ))}
  {loadEvents : List (Event (Ram δ))} {s : System (Ram γ)} {text : String} {ramMetadata romMetadata : List Block}

/-- A text is captured from the system as it is at that move, with clear lanes. -/
theorem step_captured (reached : Reachable lib build setup loop)
    (moved : Loop.step setup choice loop = some (saved, events))
    (captured : .startedSave s text ∈ events) : loop.sys = s ∧ Quiet s.bus ∧
      ∃ world, saveState lib build setup.opt setup.memoryController s.cpu s.world = .ok (some text) world := by
  obtain ⟨here, same, world, written⟩ := Requests.step_permits moved _ captured
  obtain ⟨rfl, rfl⟩ := reached.same
  have quiet := reached.settled.quiet here ⟨by simp, by simp⟩
  exact ⟨same, same ▸ quiet, world, written⟩

theorem applied_quiet (reachedLater : Reachable lib build loadSetup later)
    (movedLater : Loop.step loadSetup loadChoice later = some (loaded, loadEvents)) (applied : .applied text ∈ loadEvents) :
    Quiet later.sys.bus := by
  have here : later.point ∈ [.startedLoad, .reapLoad, .quitLoad] := Requests.step_permits movedLater _ applied
  refine reachedLater.settled.quiet rfl ⟨?_, ?_⟩
  · intro head
    simp [head] at here
  · intro fault failed
    simp [failed] at here

/-- The bytes that the text spells, written to the memory that was saved, leave it as it is. -/
def Regains (lib : Libraries) (build : Build) (opt : Opt) (ramMetadata : List Block) (mem : Word → Byte)
    (text : String) : Prop :=
  ∃ bytes, Spells lib build opt ((addresses ramMetadata).map mem) ramMetadata text bytes ∧
    (ramMetadata.map fun rm => rm.2.toNat).sum < 2 ^ 31 ∧ Memory.writeAll mem ((addresses ramMetadata).zip bytes) = mem

theorem regains_iff {opt : Opt} {mem : Word → Byte} {bytes : List Byte}
    (spells : Spells lib build opt ((addresses ramMetadata).map mem) ramMetadata text bytes) :
    Regains lib build opt ramMetadata mem text ↔
      (ramMetadata.map fun rm => rm.2.toNat).sum < 2 ^ 31 ∧
      Memory.writeAll mem ((addresses ramMetadata).zip bytes) = mem := by
  constructor
  · rintro ⟨other, spells', bounded, regained⟩
    obtain rfl := spells.decodes.unique spells'.decodes
    exact ⟨bounded, regained⟩
  · rintro ⟨bounded, regained⟩
    exact ⟨bytes, spells, bounded, regained⟩

theorem regains_of_decodes {opt : Opt} {mem : Word → Byte} (nonempty : text ≠ "")
    (decodes : Decodes lib build opt ((addresses ramMetadata).map mem) ((addresses ramMetadata).map mem))
    (bounded : (ramMetadata.map fun rm => rm.2.toNat).sum < 2 ^ 31) : Regains lib build opt ramMetadata mem text := by
  refine ⟨_, ⟨nonempty, decodes, ?_⟩, bounded, funext fun addr => ?_⟩
  · rw [BitVec.toInt_eq_toNat_cond, toNat_ramSize, List.length_map, length_addresses,
      Nat.mod_eq_of_lt (by omega), if_pos (by omega)]
  · rw [Memory.zip_content, Memory.writeAll_restore, ite_self]

theorem restored_iff {bytes : List Byte} (iff : Bool) (opcode : Byte) {t : System (Ram δ)} {world : Ram δ}
    (quiet : Quiet s.bus ∧ Quiet t.bus) (length : bytes.length = (addresses ramMetadata).length)
    (unchanged : ∀ addr, addr ∉ addresses ramMetadata → t.world.mem addr = s.world.mem addr)
    (written : world.mem = Memory.writeAll t.world.mem ((addresses ramMetadata).zip bytes)) :
    Restored s ⟨{ s.cpu with iff, opcode }, t.bus, world⟩ ↔
      Memory.writeAll s.world.mem ((addresses ramMetadata).zip bytes) = s.world.mem := by
  have same : world.mem = Memory.writeAll s.world.mem ((addresses ramMetadata).zip bytes) := by
    rw [written]
    funext addr
    refine Memory.writeAll_congr fun outside => unchanged addr ?_
    rwa [List.map_fst_zip (Nat.le_of_eq length.symm)] at outside
  rw [← same]
  constructor
  · intro restored
    exact restored.memory.symm
  · intro regained
    exact ⟨rfl, regained.symm, quiet⟩

theorem loads_spells {opt : Opt} {cpu : Intel8080} {rom ram bytes : List Byte}
    (sameMemory : loadSetup.memoryController = ramController uuid)
    (printed : Printed loadSetup.lib loadSetup.build opt loadSetup.opt
      (ramController uuid) Ram.mem cpu rom ram romMetadata ramMetadata text
      later.sys) (spells : Spells loadSetup.lib loadSetup.build opt ram ramMetadata text bytes)
    (bounded : (ramMetadata.map fun rm => rm.2.toNat).sum < 2 ^ 31) (loads : Loads loadSetup text later.sys loaded) :
    (∀ fault, loaded.point ≠ .failed fault) ∧ loaded.sys = { later.sys with
      cpu := { cpu with iff := later.sys.cpu.iff, opcode := later.sys.cpu.opcode }
      world := writeBack (fun addr value ram => { ram with mem := Function.update ram.mem addr value })
        ((addresses ramMetadata).zip bytes) later.sys.world } := by
  apply loads.ok
  rw [sameMemory, printed.load_spells (ram_steady uuid) spells bounded]

/-- A machine that was handed the saved text goes on like the machine that was saved just when the flip-flop happens
to be the same as at the save, and the text brings the memory back or is refused where there is nothing to bring back. -/
theorem resumes_iff (reached : Reachable lib build setup loop) (moved : Loop.step setup choice loop = some (saved, events))
    (captured : .startedSave s text ∈ events) (reachedLater : Reachable lib build loadSetup later)
    (movedLater : Loop.step loadSetup loadChoice later = some (loaded, loadEvents)) (applied : .applied text ∈ loadEvents)
    (memory : setup.memoryController = ramController uuid) (sameMemory : loadSetup.memoryController = ramController uuid)
    (romLayout : setup.opt.rom = .ok romMetadata) (ramLayout : setup.opt.ram = .ok ramMetadata)
    (sameRomLayout : loadSetup.opt.rom = .ok romMetadata) (sameRamLayout : loadSetup.opt.ram = .ok ramMetadata)
    (rereads : Rereads lib build setup.opt uuid s.cpu ((addresses romMetadata).map s.world.mem)
      ((addresses ramMetadata).map s.world.mem))
    (unchanged : ∀ addr, addr ∉ addresses ramMetadata ∨ addr ∈ addresses romMetadata →
      later.sys.world.mem addr = s.world.mem addr) :
    ((∀ fault, loaded.point ≠ .failed fault) ∧ Resumes build uuid s loaded.sys) ↔
      later.sys.cpu.iff = s.cpu.iff ∧
        (Regains lib build setup.opt ramMetadata s.world.mem text ∨
          (¬ ∃ bytes, Spells lib build setup.opt ((addresses ramMetadata).map s.world.mem) ramMetadata text bytes) ∧
            Restored s later.sys) := by
  obtain ⟨rfl, quiet, world, written⟩ := step_captured reached moved captured
  have laterQuiet : Quiet later.sys.bus := applied_quiet reachedLater movedLater applied
  have loads := step_applied movedLater applied
  obtain ⟨rfl, rfl⟩ := reachedLater.same
  rw [memory] at written
  obtain ⟨identified, -, written⟩ := saveState_ok ((ram_steady uuid).reads _) romLayout ramLayout written
  have sameRom : (addresses romMetadata).map later.sys.world.mem = (addresses romMetadata).map loop.sys.world.mem :=
    List.map_congr_left fun addr member => unchanged addr (.inr member)
  have printed : Printed loadSetup.lib loadSetup.build setup.opt loadSetup.opt (ramController uuid) Ram.mem loop.sys.cpu
      ((addresses romMetadata).map loop.sys.world.mem)
        ((addresses ramMetadata).map loop.sys.world.mem) romMetadata ramMetadata text later.sys :=
    ⟨rereads, identified, written, sameRomLayout, sameRamLayout, sameRom⟩
  by_cases spelled : ∃ bytes, Spells loadSetup.lib loadSetup.build setup.opt
      ((addresses ramMetadata).map loop.sys.world.mem) ramMetadata text bytes
  · obtain ⟨bytes, spells⟩ := spelled
    obtain ⟨-, exactly⟩ := sum_of_size spells.size
    have regains := regains_iff spells
    by_cases bounded : (ramMetadata.map fun rm => rm.2.toNat).sum < 2 ^ 31
    · obtain ⟨on, same⟩ := loads_spells sameMemory printed spells bounded loads
      have loadedQuiet : Quiet loaded.sys.bus := by
        rw [same]
        exact laterQuiet
      have restored := restored_iff later.sys.cpu.iff later.sys.cpu.opcode ⟨quiet, laterQuiet⟩
        (exactly bounded) (fun addr outside => unchanged addr (.inl outside)) (writeBack_reads ram_stores _ later.sys.world)
      rw [resumes_iff_restored ⟨quiet, loadedQuiet⟩, same, regains]
      constructor
      · rintro ⟨-, iff, loaded⟩
        exact ⟨iff, .inl ⟨bounded, restored.mp loaded⟩⟩
      · rintro ⟨iff, ⟨-, regained⟩ | ⟨refused, -⟩⟩
        · exact ⟨on, iff, restored.mpr regained⟩
        · exact absurd ⟨bytes, spells⟩ refused
    · obtain ⟨stopped, overrun⟩ := printed.load_overruns (ram_steady uuid) spells (Nat.le_of_not_lt bounded)
      rw [← sameMemory] at overrun
      constructor
      · rintro ⟨on, -⟩
        exact absurd (loads.error overrun) (on .undefined)
      · rintro ⟨-, whole | ⟨refused, -⟩⟩
        · exact absurd (regains.mp whole).1 bounded
        · exact absurd ⟨bytes, spells⟩ refused
  · have refused := printed.load_refused (ram_steady uuid) spelled
    rw [← sameMemory] at refused
    obtain ⟨on, same⟩ := loads.ok refused
    rw [same, resumes_iff_restored ⟨quiet, laterQuiet⟩]
    constructor
    · rintro ⟨-, iff, restored⟩
      exact ⟨iff, .inr ⟨spelled, restored⟩⟩
    · rintro ⟨iff, regains | ⟨-, restored⟩⟩
      · obtain ⟨bytes, spells, -⟩ := regains
        exact absurd ⟨bytes, spells⟩ spelled
      · exact ⟨on, iff, restored⟩

end Machines

section Gate
open Gather LoadState SaveLoad SavedLayouts Lifecycle

def resumeLibraries : Libraries := { zeroLibraries 256 with
  parse := fun text =>
    if text = "\x7b\"cpu\":\"i8080\"\x7d" then some (.object [("cpu", .string "i8080")])
    else if text = "\x7b\"clockResolution\":-1\x7d" then some (.object [("clockResolution", .integer (-1))])
    else if text = "\x7b\"ram\":\x7b\"block\":[\x7b\"offset\":8192,\"size\":768\x7d]\x7d\x7d" then
      some (.object [("ram", .object [("block", .array [zeroBlock])])])
    else (zeroLibraries 256).parse text }

/-- `EI` at the top of the address space, and `DI` at its bottom. -/
def gated (addr : Word) : Byte := if addr = 0xFFFF then 0xFB else if addr = 0 then 0xF3 else 0

def resumeCalls : List (Call (Ram (List ISR))) :=
  [.setOptions (some "\x7b\"ram\":\x7b\"block\":[\x7b\"offset\":8192,\"size\":768\x7d]\x7d\x7d"),
    .setMemoryController (some (ramController sampleUuid)), .setIoController (some Requests.script),
      .onLoad true, .onSave true]

def resumeSetup : Setup (Ram (List ISR)) where
  lib := resumeLibraries
  build := ⟨true, false⟩
  opt := ⟨.object [("clockResolution", .integer (-1)), ("compressor", .string "none"), ("cpu", .string "i8080"),
    ("encoder", .string "base64"), ("isrFreq", .integer 0), ("loadAsync", .bool false),
    ("ram", .object [("block", .array [zeroBlock])]),
    ("rom", .object [("file", .array [.object [("offset", .integer 0), ("size", .integer 0)]])]),
    ("runAsync", .bool false), ("saveAsync", .bool false)]⟩
  memoryController := ramController sampleUuid
  ioController := Requests.script
  ticksPerIsr := 0
  onLoad := true
  onSave := true

def resumeLoop (cpu : Intel8080) (isrs : List ISR) (readings : List Int) (point : Point) : Loop (Ram (List ISR)) where
  sys := ⟨cpu, {}, ⟨gated, isrs⟩⟩
  clock := CpuClock.make 2000000 1
  host := ⟨0, readings, []⟩
  point

theorem entered : enter resumeLibraries ⟨true, false⟩ ⟨gated, [.save, .load]⟩ resumeCalls 0xFFFF [1, 2] =
    some (resumeSetup, resumeLoop { pc := 0xFFFF } [.save, .load] [1, 2] .head) := by with_unfolding_all rfl

theorem zeroState_apart {text : String} (short : text.length < 1024) : zeroState 256 ≠ text := by
  rintro rfl
  exact absurd (length_zeroState 256) (Nat.not_le_of_lt short)

theorem resume_contract :
    Contract resumeLibraries ⟨true, false⟩ resumeSetup.opt sampleUuid { iff := true, opcode := 0xFB } [] (zeroRam 256) := by
  have zeros : Contract (zeroLibraries 256) ⟨true, false⟩ (optWith [zeroBlock]) sampleUuid
      { iff := true, opcode := 0xFB } []
      (zeroRam 256) := by
    have contract := (zero_contract (by decide) (by decide) :
      Contract (zeroLibraries 256) ⟨true, false⟩ (optWith [zeroBlock]) sampleUuid {} [] (zeroRam 256))
    exact ⟨contract.sizes, contract.state, contract.cpu, contract.cpuUuid, contract.memUuid, contract.romMd5, contract.ram⟩
  refine zeros.change (by rfl) (by rfl) ?_ ?_
  · intro pieces of
    have printed : pieces.printed { iff := true, opcode := 0xFB } (zeroRam 256) = zeroState 256 := by
      rw [zeroPieces_unique (by decide) (by decide) of]
      exact zeroPieces_printed (by decide)
    rw [printed, if_neg (zeroState_apart (by decide)), if_neg (zeroState_apart (by decide)),
      if_neg (zeroState_apart (by decide))]
  · intro pieces _
    rfl

theorem read_gated : (addresses [(0x2000, 768)]).map gated = zeroRam 256 := by decide +kernel

def savingLoop : Loop (Ram (List ISR)) :=
  { resumeLoop { iff := true, opcode := 0xFB } [.load] [2] (.serviced .save) with
    clock := { CpuClock.make 2000000 1 with lastTime := 1, time := 1 }
    host := ⟨1, [2], []⟩
    currTime := 1
    totalTicks := 4 }

def loadingLoop : Loop (Ram (List ISR)) :=
  { resumeLoop { pc := 1, opcode := 0xF3 } [] [] .startedLoad with
    clock := { CpuClock.make 2000000 1 with lastTime := 2, time := 2 }
    host := ⟨2, [], []⟩
    currTime := 2
    totalTicks := 8
    lastTicks := 4
    onLoad := .deferred () }

def turn (text : String) : Loop.Choice (Ram (List ISR)) := .turn (.ok (some text)) (.ok ())

theorem saving_runs : Traces.run (Loop.step resumeSetup) [turn ""]
    (resumeLoop { pc := 0xFFFF } [.save, .load] [1, 2] .head) =
    some (savingLoop, [.executed]) := by with_unfolding_all rfl

theorem saved_called (text : String) : Loop.step resumeSetup (turn "")
    { savingLoop with onSave := .deferred text, point := .startedSave } =
      some ({ savingLoop with lastTicks := 4, point := .head }, [.called text]) := by with_unfolding_all rfl

theorem disabled_executed : Loop.step resumeSetup (turn "") { savingLoop with lastTicks := 4, point := .head } =
    some ({ loadingLoop with onLoad := .invalid, point := .serviced .load }, [.executed]) := by with_unfolding_all rfl

theorem loading_started : Loop.step resumeSetup (turn "")
    { loadingLoop with onLoad := .invalid, point := .serviced .load } =
    some (loadingLoop, [.startedLoad]) := by with_unfolding_all rfl

theorem saving_reachable : Reachable resumeLibraries ⟨true, false⟩ resumeSetup savingLoop :=
  (enter_reachable entered).run saving_runs

theorem gated_of : (zeroPieces 256).Of resumeLibraries ⟨true, false⟩ resumeSetup.opt sampleUuid [] (zeroRam 256) := by
  have zeros : (zeroPieces 256).Of (zeroLibraries 256) ⟨true, false⟩ (optWith [zeroBlock]) sampleUuid [] (zeroRam 256) :=
    zeroPieces_of (by decide) (by decide)
  exact zeros.change (by rfl) (by rfl) _

theorem gated_saved : saveState resumeLibraries ⟨true, false⟩ resumeSetup.opt (ramController sampleUuid) savingLoop.sys.cpu
    savingLoop.sys.world = .ok (some (zeroState 256)) savingLoop.sys.world := by
  have romLayout : resumeSetup.opt.rom = .ok [(0, 0)] := by rfl
  have ramLayout : resumeSetup.opt.ram = .ok [(0x2000, 768)] := by rfl
  have of := gated_of
  rw [← read_gated] at of
  have reads : Reads (ramController sampleUuid) savingLoop.sys.world gated := (ram_steady sampleUuid).reads _
  have saved : saveState resumeLibraries ⟨true, false⟩ resumeSetup.opt (ramController sampleUuid) savingLoop.sys.cpu
      savingLoop.sys.world = .ok (some ((zeroPieces 256).printed {} ((addresses [(0x2000, 768)]).map gated)))
        savingLoop.sys.world :=
    saveState_printed reads (by decide) romLayout ramLayout zeroBlock_fits resume_contract.sizes (by decide) of
  rwa [read_gated, zeroPieces_printed (by decide)] at saved

theorem saving_captures : Loop.step resumeSetup (turn "") savingLoop =
    some ({ savingLoop with onSave := .deferred (zeroState 256), point := .startedSave },
      [.startedSave savingLoop.sys (zeroState 256)]) := by
  have saved := gated_saved
  generalize zeroState 256 = text at saved ⊢
  have accepted : savingLoop.accepts resumeSetup.onSave = true := by rfl
  have started : savingLoop.save resumeSetup = some
      ({ savingLoop with onSave := .deferred text, point := .startedSave }, [.startedSave savingLoop.sys text]) :=
    save_starts accepted saved
  exact started

theorem loading_reachable : Reachable resumeLibraries ⟨true, false⟩ resumeSetup loadingLoop :=
  (((saving_reachable.move saving_captures).move (saved_called _)).move disabled_executed).move loading_started

theorem gated_spells : Spells resumeLibraries ⟨true, false⟩ resumeSetup.opt ((addresses [(0x2000, 768)]).map gated)
    [(0x2000, 768)] (zeroState 256) (zeroRam 256) := by
  rw [read_gated]
  refine ⟨zeroState_apart (by decide), ?_, by decide +kernel⟩
  have of := gated_of
  exact ⟨_, _, _, of.encoder, of.compressor, of.bytes, resume_contract.ram _ _ of.encoder of.compressor _ of.bytes⟩

theorem gated_rereads : Rereads resumeLibraries ⟨true, false⟩ resumeSetup.opt sampleUuid savingLoop.sys.cpu
    ((addresses [(0, 0)]).map gated) ((addresses [(0x2000, 768)]).map gated) := by
  have contract := resume_contract
  obtain ⟨cpuUuid, memUuid, romMd5⟩ := zero_base64
  rw [read_gated]
  exact ⟨contract.state, contract.cpu, ⟨cpuUuid.length, cpuUuid.alphabet, cpuUuid.inverse⟩,
    ⟨memUuid.length, memUuid.alphabet, memUuid.inverse⟩, ⟨romMd5.length, romMd5.alphabet, romMd5.inverse⟩⟩

theorem gated_printed : Printed resumeLibraries ⟨true, false⟩ resumeSetup.opt resumeSetup.opt
    (ramController sampleUuid) Ram.mem
    savingLoop.sys.cpu ((addresses [(0, 0)]).map gated) ((addresses [(0x2000, 768)]).map gated) [(0, 0)]
    [(0x2000, 768)] (zeroState 256) loadingLoop.sys := by
  have romLayout : resumeSetup.opt.rom = .ok [(0, 0)] := by rfl
  have ramLayout : resumeSetup.opt.ram = .ok [(0x2000, 768)] := by rfl
  obtain ⟨identified, -, written⟩ := saveState_ok ((ram_steady sampleUuid).reads savingLoop.sys.world) romLayout ramLayout
    gated_saved
  exact ⟨gated_rereads, identified, written, romLayout, ramLayout, rfl⟩

theorem loading_applies : ∃ loaded, Loop.step resumeSetup (turn (zeroState 256)) loadingLoop =
    some (loaded, [.returned (.ok (zeroState 256)), .applied (zeroState 256)]) :=
  load_applies rfl rfl (gated_printed.load_spells (ram_steady sampleUuid) gated_spells (by decide))

/-- A save between `EI` and `DI`, loaded after the `DI`: the next interrupt is lost. -/
theorem disabled_after_load : ∃ saved trace loaded,
    Reachable resumeLibraries ⟨true, false⟩ resumeSetup savingLoop ∧
    Loop.step resumeSetup (turn "") savingLoop = some (saved, [.startedSave savingLoop.sys (zeroState 256)]) ∧
    Run (Loop.step resumeSetup) saved trace loadingLoop ∧
    Loop.step resumeSetup (turn (zeroState 256)) loadingLoop =
      some (loaded, [.returned (.ok (zeroState 256)), .applied (zeroState 256)]) ∧
    loadingLoop.sys.world.mem = savingLoop.sys.world.mem ∧
    ¬ Resumes ⟨true, false⟩ sampleUuid savingLoop.sys loaded.sys := by
  obtain ⟨loaded, loads⟩ := loading_applies
  have outcome : Loads resumeSetup (zeroState 256) loadingLoop.sys loaded :=
    step_applied loads (List.mem_cons_of_mem _ (List.mem_singleton_self _))
  obtain ⟨-, same⟩ := loads_spells rfl gated_printed gated_spells (by decide) outcome
  have masked : loaded.sys.cpu.iff = false := congrArg (fun sys => sys.cpu.iff) same
  have quiet : Quiet loaded.sys.bus := congrArg (fun sys => sys.bus.controlBus) same
  refine ⟨_, _, loaded, saving_reachable, saving_captures,
    ((Run.refl.move (saved_called _)).move disabled_executed).move loading_started, loads, rfl, fun resumes => ?_⟩
  have enabled := ((resumes_iff_restored ⟨rfl, quiet⟩).mp resumes).1
  rw [masked] at enabled
  exact Bool.false_ne_true enabled

theorem resumes_iff_gated : ∃ loaded,
    Loop.step resumeSetup (turn (zeroState 256)) loadingLoop =
      some (loaded, [.returned (.ok (zeroState 256)), .applied (zeroState 256)]) ∧
    Regains resumeLibraries ⟨true, false⟩ resumeSetup.opt [(0x2000, 768)] gated (zeroState 256) ∧
    (((∀ fault, loaded.point ≠ .failed fault) ∧ Resumes ⟨true, false⟩ sampleUuid savingLoop.sys loaded.sys) ↔
      loadingLoop.sys.cpu.iff = savingLoop.sys.cpu.iff ∧
        (Regains resumeLibraries ⟨true, false⟩ resumeSetup.opt [(0x2000, 768)] gated (zeroState 256) ∨
          (¬ ∃ bytes, Spells resumeLibraries ⟨true, false⟩ resumeSetup.opt ((addresses [(0x2000, 768)]).map gated)
            [(0x2000, 768)]
            (zeroState 256) bytes) ∧ Restored savingLoop.sys loadingLoop.sys)) := by
  obtain ⟨loaded, loads⟩ := loading_applies
  have romLayout : resumeSetup.opt.rom = .ok [(0, 0)] := by rfl
  have ramLayout : resumeSetup.opt.ram = .ok [(0x2000, 768)] := by rfl
  have spells := gated_spells
  rw [← read_gated] at spells
  exact ⟨loaded, loads, regains_of_decodes spells.nonempty spells.decodes (by decide),
    resumes_iff saving_reachable saving_captures (List.mem_singleton_self _) loading_reachable loads
      (List.mem_cons_of_mem _ (List.mem_singleton_self _)) rfl rfl romLayout ramLayout romLayout ramLayout
        gated_rereads fun _ _ => rfl⟩

end Gate
end MachEmu.Proofs.Resume
