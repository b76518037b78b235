import MachEmu.Lib.Memory
import MachEmu.Proofs.Signals

/-! The message of a CP/M program is what the writes to one port print, one after the
other. Two other ports decide how, and where in the memory the text is. -/

namespace MachEmu.Proofs.Consoles
open Machine Loop Traces PlainRam Calls InstructionPrograms Timeline Conversations DirectCalls Cadence
open CpmIoController

section Texts
variable {memory : Word → Byte} {fuel : Nat} {addr : Word} {text : List Byte}

/-- The text at an address, up to the first `$`. -/
structure Text (memory : Word → Byte) (addr : Word) (text : List Byte) : Prop where
  characters : ∀ offset byte, text[offset]? = some byte → memory (addr + BitVec.ofNat 16 offset) = byte
  unbroken : 0x24 ∉ text
  terminated : memory (addr + BitVec.ofNat 16 text.length) = 0x24

theorem address_succ (addr : Word) (offset : Nat) :
    addr + BitVec.ofNat 16 (offset + 1) = addr + 1 + BitVec.ofNat 16 offset := by
  bv_omega

theorem characters_succ : characters memory (fuel + 1) addr =
    if memory addr = 0x24 then some [] else (characters memory fuel (addr + 1)).map (memory addr :: ·) := rfl

theorem characters_text (found : characters memory fuel addr = some text) : Text memory addr text := by
  induction fuel generalizing addr text with
  | zero => cases found
  | succ fuel ih =>
    rw [characters_succ] at found
    split at found
    next ends =>
      cases found
      exact ⟨nofun, List.not_mem_nil, by simpa using ends⟩
    next goes =>
      obtain ⟨rest, further, rfl⟩ := Option.map_eq_some_iff.mp found
      obtain ⟨inside, unbroken, terminated⟩ := ih further
      refine ⟨?_, ?_, ?_⟩
      · intro offset byte here
        cases offset with
        | zero => simpa using here
        | succ offset =>
          rw [address_succ]
          exact inside offset byte here
      · rw [List.mem_cons, not_or]
        exact ⟨Ne.symm goes, unbroken⟩
      · rw [List.length_cons, address_succ]
        exact terminated

theorem characters_none : characters memory fuel addr = none ↔ ∀ offset < fuel,
    memory (addr + BitVec.ofNat 16 offset) ≠ 0x24 := by
  induction fuel generalizing addr with
  | zero => exact iff_of_true rfl nofun
  | succ fuel ih =>
    rw [Nat.forall_lt_succ_left, characters_succ]
    simp only [address_succ, ← ih]
    split
    next ends => exact iff_of_false nofun fun goes => goes.1 (by simpa using ends)
    next goes => simpa using fun _ => goes

/-- The walk through the memory goes on for ever only where there is no `$` at all. -/
theorem characters_endless : characters memory 0x10000 addr = none ↔ ∀ addr, memory addr ≠ 0x24 := by
  rw [characters_none]
  constructor
  · intro none other
    have here : addr + BitVec.ofNat 16 (other - addr).toNat = other := by bv_omega
    have goes := none (other - addr).toNat (other - addr).isLt
    rwa [here] at goes
  · exact fun none offset _ => none _

end Texts

section Histories
variable {before : List Access} {access : Access} {port : Word} {begun : Ram CpmIoController}

def sent (port : Word) : Access → Option Byte
  | .write .io other value (.ok ()) => if other = port then some value else none
  | _ => none

def stored : Access → Option (Word × Byte)
  | .write .memory addr value (.ok ()) => some (addr, value)
  | _ => none

def latest (initial : Byte) (port : Word) (before : List Access) : Byte :=
  ((before.filterMap (sent port)).getLast?).getD initial

def remembered (mem : Word → Byte) (before : List Access) : Word → Byte := Memory.writeAll mem (before.filterMap stored)

/-- The writes that print, each with the calls before it. -/
def printing (log : List Access) : List (List Access × Byte) :=
  (List.range log.length).filterMap fun i => (log[i]?.bind (sent 2)).map (log.take i, ·)

def mode (begun : Ram CpmIoController) (before : List Access) : Byte := latest begun.io.printMode 0 before

/-- What a write prints: a text from the memory as it is then, a single character, or nothing. -/
def Prints (begun : Ram CpmIoController) (write : List Access × Byte) (text : List Byte) : Prop :=
  mode begun write.1 = 9 ∧ Text (remembered begun.mem write.1) (latest begun.io.addrHi 1 write.1 ++ write.2) text ∨
    mode begun write.1 = 2 ∧ text = [write.2] ∨ mode begun write.1 ≠ 9 ∧ mode begun write.1 ≠ 2 ∧ text = []

theorem sent_write {other : Word} {value : Byte} :
    sent port (.write .io other value (.ok ())) = if other = port then some value else none := rfl

theorem filterMap_snoc {α β : Type} (f : α → Option β) (items : List α) (item : α) :
    (items ++ [item]).filterMap f = items.filterMap f ++ (f item).toList := by
  rw [List.filterMap_append]
  cases known : f item <;> simp [known]

theorem latest_snoc (initial : Byte) : latest initial port (before ++ [access]) = (sent port access).getD
    (latest initial port before) := by
  unfold latest
  rw [filterMap_snoc, List.getLast?_append]
  cases sent port access <;> rfl

theorem remembered_snoc (mem : Word → Byte) : remembered mem (before ++ [access]) =
    Memory.writeAll (remembered mem before) (stored access).toList := by
  rw [remembered, filterMap_snoc, Memory.writeAll, List.foldl_append]
  rfl

theorem printing_snoc : printing (before ++ [access]) = printing before ++ ((sent 2 access).map (before, ·)).toList := by
  have earlier : ∀ i ∈ List.range before.length,
      (((before ++ [access])[i]?.bind (sent 2)).map ((before ++ [access]).take i, ·)) =
      (before[i]?.bind (sent 2)).map (before.take i, ·) := by
    intro i member
    have inside := List.mem_range.mp member
    rw [List.getElem?_append_left inside, List.take_append_of_le_length inside.le]
  unfold printing
  rw [List.length_append, List.length_singleton, List.range_succ, filterMap_snoc, List.filterMap_congr earlier,
    List.getElem?_concat_length, List.take_left]
  rfl

end Histories

section Consoles
variable {setup : Setup (Ram CpmIoController)} {begun world after : Ram CpmIoController} {log events : List Access}

def cpmController : IController (Ram CpmIoController) where
  uuid := CpmIoController.uuid
  read addr ram := .ok (ram.io.read addr) ram
  write addr value ram :=
    match ram.io.write ram.mem addr value with
    | .ok io => .ok () { ram with io }
    | .error fault => .error fault ram
  serviceInterrupts currTime cycles ram :=
    .ok (ram.io.serviceInterrupts currTime cycles).1 { ram with io := (ram.io.serviceInterrupts currTime cycles).2 }

structure Connected (setup : Setup (Ram CpmIoController)) : Prop where
  memory : ∃ uuid, setup.memoryController = ramController uuid
  io : setup.ioController = cpmController

def Endless (begun : Ram CpmIoController) (before : List Access) (port : Word) : Prop :=
  port = 2 ∧ mode begun before = 9 ∧ ∀ addr, remembered begun.mem before addr ≠ 0x24

def finished : Access → Bool
  | .write _ _ _ (.error _) => false
  | _ => true

/-- The console, told from the calls before. -/
structure Shows (begun : Ram CpmIoController) (log : List Access) (world : Ram CpmIoController) : Prop where
  mem : world.mem = remembered begun.mem log
  printMode : world.io.printMode = mode begun log
  addrHi : world.io.addrHi = latest begun.io.addrHi 1 log
  message : log.all finished → ∃ texts, List.Forall₂ (Prints begun) (printing log) texts ∧
    world.io.message = begun.io.message ++ texts.flatten
  endless : ∀ {before port value answer later}, log = before ++ .write .io port value answer :: later →
    ((∃ fault, answer = .error fault) ↔ Endless begun before port)

theorem Shows.nil (begun : Ram CpmIoController) : Shows begun [] begun :=
  ⟨rfl, rfl, rfl, fun _ => ⟨[], .nil, by simp⟩, by simp⟩

variable {access : Access}

theorem Shows.snoc (shows : Shows begun log world) (mem : after.mem = Memory.writeAll world.mem (stored access).toList)
    (printMode : after.io.printMode = (sent 0 access).getD world.io.printMode)
    (addrHi : after.io.addrHi = (sent 1 access).getD world.io.addrHi)
    (message : finished access → ∃ texts, List.Forall₂ (Prints begun) ((sent 2 access).map (log, ·)).toList texts ∧
      after.io.message = world.io.message ++ texts.flatten)
    (endless : ∀ {port value answer}, access = .write .io port value answer →
      ((∃ fault, answer = .error fault) ↔ Endless begun log port)) :
    Shows begun (log ++ [access]) after := by
  refine ⟨?_, ?_, ?_, ?_, ?_⟩
  · rw [mem, shows.mem, remembered_snoc]
  · rw [printMode, shows.printMode, mode, mode, latest_snoc]
  · rw [addrHi, shows.addrHi, latest_snoc]
  · intro ended
    rw [List.all_append, Bool.and_eq_true, List.all_cons, List.all_nil, Bool.and_true] at ended
    obtain ⟨texts, printed, before⟩ := shows.message ended.1
    obtain ⟨more, prints, now⟩ := message ended.2
    refine ⟨texts ++ more, ?_, ?_⟩
    · rw [printing_snoc]
      exact List.rel_append printed prints
    · rw [now, before, List.flatten_append, List.append_assoc]
  · intro before port value answer later split
    obtain ⟨rfl, same, -⟩ | ⟨rest, -, inner⟩ := append_eq_cons split
    · exact endless same
    · exact shows.endless inner

theorem Shows.silent (shows : Shows begun log world) (mem : after.mem = Memory.writeAll world.mem (stored access).toList)
    (same : (after.io.printMode, after.io.addrHi, after.io.message) =
      (world.io.printMode, world.io.addrHi, world.io.message))
    (silent : ∀ port value answer, access ≠ .write .io port value answer) : Shows begun (log ++ [access]) after := by
  simp only [Prod.mk.injEq] at same
  obtain ⟨printMode, addrHi, message⟩ := same
  have unsent (port : Word) : sent port access = none := by
    unfold sent
    split
    next other value => exact absurd rfl (silent other value (.ok ()))
    next => rfl
  refine shows.snoc mem ?_ ?_ ?_ ?_
  · rw [unsent]
    exact printMode
  · rw [unsent]
    exact addrHi
  · intro _
    rw [unsent]
    exact ⟨[], .nil, by simpa using message⟩
  · intro port value answer written
    exact absurd written (silent port value answer)

variable {port : Word} {value : Byte} {io : CpmIoController} {fault : Fault}

theorem Shows.write (shows : Shows begun log world)
    (printMode : io.printMode = if port = 0 then value else world.io.printMode)
    (addrHi : io.addrHi = if port = 1 then value else world.io.addrHi)
    (message : if port = 2 then ∃ text, Prints begun (log, value) text ∧ io.message = world.io.message ++ text
      else io.message = world.io.message) (ends : ¬ Endless begun log port) :
    Shows begun (log ++ [.write .io port value (.ok ())]) { world with io } := by
  have got (other : Word) (old : Byte) : (sent other (.write .io port value (.ok ()))).getD old = if port =
      other then value else old := by
    rw [sent_write]
    split <;> rfl
  refine shows.snoc rfl ?_ ?_ ?_ ?_
  · rw [got]
    exact printMode
  · rw [got]
    exact addrHi
  · intro _
    rw [sent_write]
    split at message
    next prints =>
      obtain ⟨text, printed, appended⟩ := message
      rw [if_pos prints]
      exact ⟨[text], .cons printed .nil, by simpa using appended⟩
    next other =>
      rw [if_neg other]
      exact ⟨[], .nil, by simpa using message⟩
  · intro port value answer same
    cases same
    exact iff_of_false nofun ends

theorem Shows.written (shows : Shows begun log world) (written : world.io.write world.mem port value = .ok io) :
    Shows begun (log ++ [.write .io port value (.ok ())]) { world with io } := by
  unfold CpmIoController.write at written
  split at written
  next zero =>
    cases written
    subst zero
    exact shows.write rfl rfl rfl nofun
  next named =>
  split at written
  next one =>
    cases written
    subst one
    exact shows.write rfl rfl rfl nofun
  next other =>
  split at written
  next two =>
    subst two
    split at written
    next nine =>
      split at written
      next text found =>
        cases written
        have here := characters_text found
        rw [shows.mem, shows.addrHi] at here
        refine shows.write rfl rfl ⟨text, .inl ⟨shows.printMode.symm.trans nine, here⟩, rfl⟩ ?_
        rintro ⟨-, -, endless⟩
        exact endless _ here.terminated
      next => cases written
    next other =>
      split at written
      next single =>
        cases written
        refine shows.write rfl rfl ⟨[value], .inr (.inl ⟨shows.printMode.symm.trans single, rfl⟩), rfl⟩ ?_
        rintro ⟨-, nine, -⟩
        exact other (shows.printMode.trans nine)
      next neither =>
        cases written
        refine shows.write rfl rfl ⟨[], .inr (.inr ⟨?_, ?_, rfl⟩), (List.append_nil _).symm⟩ ?_
        · exact fun nine => other (shows.printMode.trans nine)
        · exact fun two => neither (shows.printMode.trans two)
        · rintro ⟨-, nine, -⟩
          exact other (shows.printMode.trans nine)
  next two =>
    cases written
    refine shows.write (if_neg named).symm (if_neg other).symm ?_ fun endless => two endless.1
    rw [if_neg two]

theorem Shows.stuck (shows : Shows begun log world) (stuck : world.io.write world.mem port value = .error fault) :
    Shows begun (log ++ [.write .io port value (.error fault)]) world := by
  have endless : Endless begun log port := by
    unfold CpmIoController.write at stuck
    split at stuck
    next => cases stuck
    next =>
    split at stuck
    next => cases stuck
    next =>
    split at stuck
    next two =>
      split at stuck
      next nine =>
        split at stuck
        next => cases stuck
        next none =>
          rw [shows.mem] at none
          exact ⟨two, shows.printMode.symm.trans nine, characters_endless.mp none⟩
      next =>
        split at stuck
        next => cases stuck
        next => cases stuck
    next => cases stuck
  refine shows.snoc rfl rfl rfl ?_ ?_
  · intro ended
    cases ended
  · intro port value answer same
    cases same
    exact iff_of_true ⟨fault, rfl⟩ endless

theorem respond_shows (connected : Connected setup) {request : Request} (shows : Shows begun log world)
    (responded : respond setup request world = some (after, events)) : Shows begun (log ++ events) after := by
  obtain ⟨⟨uuid, memory⟩, cpm⟩ := connected
  cases request with
  | read device addr =>
    cases device with
    | memory =>
      simp only [respond, controller, memory] at responded
      cases responded
      exact shows.silent rfl rfl fun _ _ _ impossible => by cases impossible
    | io =>
      simp only [respond, controller, cpm] at responded
      cases responded
      exact shows.silent rfl rfl fun _ _ _ impossible => by cases impossible
  | write device addr value =>
    cases device with
    | memory =>
      simp only [respond, controller, memory] at responded
      cases responded
      exact shows.silent rfl rfl fun _ _ _ impossible => by cases impossible
    | io =>
      simp only [respond, controller, cpm, cpmController] at responded
      cases result : world.io.write world.mem addr value with
      | ok io =>
        rw [result] at responded
        cases responded
        exact shows.written result
      | error fault =>
        rw [result] at responded
        cases responded
        exact shows.stuck result
  | serviceInterrupts currTime cycles =>
    simp only [respond, cpm] at responded
    cases responded
    exact shows.silent rfl rfl fun _ _ _ impossible => by cases impossible

end Consoles

section Runs
variable {lib : Libraries} {build : Build} {setup : Setup (Ram CpmIoController)} {start loop : Loop (Ram CpmIoController)}
  {moves : List (LoopMove (Ram CpmIoController))}

/-- The message of a run, and the writes it never comes back from. -/
theorem run_prints (entered : Lifecycle.Entered lib build setup start) (connected : Connected setup)
    (run : Run (recorded (Loop.step setup)) start moves loop) (alone : Alone moves) :
    ((traffic setup moves).all finished → ∃ texts,
      List.Forall₂ (Prints start.sys.world) (printing (traffic setup moves)) texts ∧
      loop.sys.world.io.message = start.sys.world.io.message ++ texts.flatten) ∧
      ∀ {before port value answer later}, traffic setup moves = before ++ .write .io port value answer :: later →
        ((∃ fault, answer = .error fault) ↔ Endless start.sys.world before port) := by
  have shows : Shows start.sys.world (traffic setup moves) loop.sys.world :=
    (run_conversed entered run alone).invariant (Shows start.sys.world) (Shows.nil _) (respond_shows connected)
  exact ⟨shows.message, shows.endless⟩

/-- The programs the tests have at the addresses of the warm boot and of the system calls. -/
def exitTest : List Byte := [0xD3, 0xFE, 0xD3, 0xFF]

def bdosMsg : List Byte :=
  [0xF5, 0x79, 0xD3, 0x00, 0xFE, 0x02, 0xCA, 0x11, 0x00, 0x7A, 0xD3, 0x01, 0x7B, 0xD3, 0x02, 0xF1, 0xC9]

/-- `LXI D,010BH`, `MVI C,9`, `CALL 5`, `JMP 0`, and a text. -/
def greeting : List Byte := [0x11, 0x0B, 0x01, 0x0E, 0x09, 0xCD, 0x05, 0x00, 0xC3, 0x00, 0x00, 0x4F, 0x4B, 0x24]

def loaded (content : List Byte) (offset : Word) (memory : MemoryController) : MemoryController :=
  match MemoryController.load (some ⟨content.length, content⟩) offset memory with
  | .ok _ after => after
  | .error _ after => after

def cpmWorld : Ram CpmIoController where
  mem := (loaded greeting 0x100 (loaded bdosMsg 5 (loaded exitTest 0 {}))).memory
  io := {}

def cpmSetup : Setup (Ram CpmIoController) := { Deliveries.askingSetup .noInterrupt with
  memoryController := ramController MemoryController.uuid
  ioController := cpmController }

def cpmReadings : List Int := (List.range 40).map fun n => (n : Int)

def cpmStart : Loop (Ram CpmIoController) where
  sys := { cpu := Intel8080.reset 0x100 {}, world := cpmWorld }
  clock := CpuClock.make 2000000 1
  host := ⟨0, cpmReadings, []⟩

def cpmRun : Option (Loop (Ram CpmIoController) × List (LoopMove (Ram CpmIoController))) :=
  Traces.run (recorded (Loop.step cpmSetup)) (List.replicate 67 (.turn (.ok none) (.ok ()))) cpmStart

/-- The system call for a text, and the end of the program. -/
theorem greeting_prints : ∃ (moves : List (LoopMove (Ram CpmIoController))) (loop : Loop (Ram CpmIoController))
    (text : List Byte),
    Run (recorded (Loop.step cpmSetup)) cpmStart moves loop ∧ loop.point = .done ∧
      loop.sys.world.io.message = [0x4F, 0x4B] ∧
      List.Forall₂ (Prints cpmWorld) (printing (traffic cpmSetup moves)) [text] ∧ loop.sys.world.io.message = text := by
  have entered : Lifecycle.enter Lifecycle.sessionLibraries ⟨true, false⟩ cpmWorld
      [.setMemoryController (some (ramController MemoryController.uuid)), .setIoController (some cpmController)]
        0x100 cpmReadings =
        some (cpmSetup, cpmStart) := by
    with_unfolding_all rfl
  have outcome : cpmRun.map (fun out => (out.1.point, out.1.sys.world.io.message, (traffic cpmSetup out.2).all finished,
      (printing (traffic cpmSetup out.2)).length)) = some (.done, [0x4F, 0x4B], true, 1) := by
    decide +kernel
  obtain ⟨⟨loop, moves⟩, ran, same⟩ := Option.map_eq_some_iff.mp outcome
  simp only [Prod.mk.injEq] at same
  obtain ⟨done, message, ended, once⟩ := same
  have alone : Alone moves :=
    alone_of (by rw [recorded_inputs ran]; exact fun choice member => ⟨_, _, List.eq_of_mem_replicate member⟩)
  have run : Run (recorded (Loop.step cpmSetup)) cpmStart moves loop := Run.of_run ran
  obtain ⟨texts, printed, said⟩ := (run_prints (Lifecycle.enter_entered entered) ⟨⟨_, rfl⟩, rfl⟩ run alone).1 ended
  obtain ⟨text, rfl⟩ := List.length_eq_one_iff.mp (printed.length_eq.symm.trans once)
  refine ⟨moves, loop, text, run, done, message, printed, said.trans ?_⟩
  rw [List.flatten_singleton]
  rfl

end Runs
end MachEmu.Proofs.Consoles
