import MachEmu.Lib.RingStack
import MachEmu.Proofs.Halt
import MachEmu.Proofs.StatusInvariant

/-! What pushes, calls, restarts and interrupts store on the stack, against what
the pops and the returns take from it, on plain RAM. -/

namespace MachEmu.Proofs.StackDiscipline
open Intel8080 Isa8080 StatusByte BusTransactions PlainRam Instructions Interrupts Starvation Halt StatusInvariant RingStack

variable {δ : Type}

/-- A cpu with plain RAM, beside any io controller. -/
abbrev stackWiring (build : Build) (uuid : Uuid) (io : IController (Ram δ)) : Wiring (Ram δ) :=
  wiring build (ramController uuid) io

def registers : Pair → Register × Register
  | .bc => (.b, .c)
  | .de => (.d, .e)
  | .hl => (.h, .l)
  | .fourth => (.a, .status)

/-- What is stored: the contents of a pair, or an address to continue at. -/
inductive Frame where
  | pair (hi low : Byte)
  | address (pc : Word)

def Frame.bytes : Frame → Byte × Byte
  | .pair hi low => (hi, low)
  | .address pc => ((pc >>> 8).setWidth 8, pc.setWidth 8)

/-- What takes a frame. -/
inductive Taking where
  | pop (rp : Pair)
  | ret

section Executions

def instruction (s : System (Ram δ)) : Option Instr := if acknowledges s = none then decode (s.world.mem s.cpu.pc) else none

/-- The frame an instruction stores: calls continue behind their operand, restarts behind their opcode. -/
def pushes (cpu : Intel8080) : Instr → Option Frame
  | .push rp => some (.pair (cpu.get (registers rp).1) (cpu.get (registers rp).2))
  | .call => some (.address (cpu.pc + 3))
  | .callIf cond => if cond.holds (Flags.ofByte cpu.status) then some (.address (cpu.pc + 3)) else none
  | .rst _ => some (.address (cpu.pc + 1))
  | _ => none

def stored (s : System (Ram δ)) : Option Frame :=
  if acknowledges s = none then (instruction s).bind (pushes s.cpu) else some (.address s.cpu.pc)

def takes (cpu : Intel8080) : Instr → Option Taking
  | .pop rp => some (.pop rp)
  | .ret => some .ret
  | .retIf cond => if cond.holds (Flags.ofByte cpu.status) then some .ret else none
  | _ => none

def taken (s : System (Ram δ)) : Option Taking := (instruction s).bind (takes s.cpu)

/-- What a pop leaves in its second register. The fixed bits of the status byte are forced. -/
def delivered (rp : Pair) (low : Byte) : Byte := if rp = .fourth then low &&& 0xD7 ||| 0x02 else low

/-- A frame arrives where it is taken to. -/
def Arrives (cpu : Intel8080) (hi low : Byte) : Taking → Prop
  | .pop rp => cpu.get (registers rp).1 = hi ∧ cpu.get (registers rp).2 = delivered rp low
  | .ret => cpu.pc = uint16 hi low

end Executions

section Instructions
variable (build : Build) (uuid : Uuid) (io : IController (Ram δ)) (self : Intel8080) (addr : Word)
  (data : Byte) (ram : Ram δ)

def stacked (mem : Word → Byte) (sp : Word) (bytes : Byte × Byte) : Word → Byte :=
  Function.update (Function.update mem (sp - 1) bytes.1) (sp - 2) bytes.2

theorem get_sp (r : Register) (sp : Word) : { self with sp }.get r = self.get r := by
  cases r <;> rfl

theorem below (sp : Word) : sp - 1 - 1 = sp - 2 := pred_pred sp

theorem push_run (hi low : Register) :
    push hi low (stackWiring build uuid io) ⟨self, ⟨addr, data, 0#8⟩, ram⟩ =
      .ok 11 ⟨{ self with sp := self.sp - 2, pc := self.pc + 1 }, {},
        { ram with mem := stacked ram.mem self.sp (self.get hi, self.get low) }⟩ := by
  simp only [push, bind_run, decSp_eq, cpu_run, writeToAddress_memory, ramController, nextPc_run, pure_run, stacked]
  rw [get_sp, get_sp, below]
  rfl

theorem pushPcAndJump_stacks (location : Word) :
    pushPcAndJump location (stackWiring build uuid io) ⟨self, ⟨addr, data, 0#8⟩, ram⟩ =
      .ok () ⟨{ self with sp := self.sp - 2, pc := location }, {},
        { ram with mem := stacked ram.mem self.sp (Frame.address self.pc).bytes }⟩ := by
  rw [pushPcAndJump_run]
  simp only [ramController, below, stacked, Frame.bytes]

theorem operandAddress_run :
    operandAddress (stackWiring build uuid io) ⟨self, ⟨addr, data, 0#8⟩, ram⟩ =
      .ok (uint16 (ram.mem (self.pc + 2)) (ram.mem (self.pc + 1))) ⟨{ self with pc := self.pc + 2 },
        ⟨0#16, 0#8, 0#8⟩, ram⟩ := by
  have next : self.pc + 1 + 1 = self.pc + 2 := by rw [BitVec.add_assoc]; rfl
  simp only [operandAddress, bind_run, incPc_run, readFromAddress_memory, ramController, receive_run, next, pure_run]
  rfl

theorem callOnFlag_run :
    callOnFlag true (stackWiring build uuid io) ⟨self, ⟨addr, data, 0#8⟩, ram⟩ =
      .ok 17 ⟨{ self with sp := self.sp - 2, pc := uint16 (ram.mem (self.pc + 2)) (ram.mem (self.pc + 1)) }, {},
        { ram with mem := stacked ram.mem self.sp (Frame.address (self.pc + 3)).bytes }⟩ := by
  have behind : self.pc + 2 + 1 = self.pc + 3 := by rw [BitVec.add_assoc]; rfl
  unfold callOnFlag
  rw [bind_run, operandAddress_run]
  dsimp only
  rw [bind_run, nextPc_run]
  dsimp only
  rw [if_pos rfl, bind_run, behind, pushPcAndJump_stacks]
  rfl

theorem rst_run :
    rst (stackWiring build uuid io) ⟨self, ⟨addr, data, 0#8⟩, ram⟩ =
      .ok 11 ⟨{ self with sp := self.sp - 2, pc := (self.opcode &&& 0x38).setWidth 16 }, {},
        { ram with mem := stacked ram.mem self.sp (Frame.address (self.pc + 1)).bytes }⟩ := by
  unfold rst
  rw [bind_run, cpu_run]
  dsimp only
  rw [bind_run, nextPc_run]
  dsimp only
  rw [bind_run, pushPcAndJump_stacks]
  rfl

theorem pop_run (rp : Pair) :
    ∃ after, pop (registers rp).1 (registers rp).2
      (stackWiring build uuid io) ⟨self, ⟨addr, data, 0#8⟩, ram⟩ = .ok 10 after ∧
      after.cpu.sp = self.sp + 2 ∧ after.world = ram ∧
      after.cpu.get (registers rp).1 = ram.mem (self.sp + 1) ∧ after.cpu.get (registers rp).2 = ram.mem self.sp := by
  have next : self.sp + 1 + 1 = self.sp + 2 := by rw [BitVec.add_assoc]; rfl
  simp only [pop, bind_run, postIncSp_run, readFromAddress_memory, ramController, receive_run, setReg_run,
    nextPc_run, pure_run]
  cases rp <;> exact ⟨_, rfl, next, rfl, rfl, rfl⟩

theorem retOnFlag_run (name : String) :
    ∃ ticks, retOnFlag true name (stackWiring build uuid io) ⟨self, ⟨addr, data, 0#8⟩, ram⟩ =
      .ok ticks ⟨{ self with sp := self.sp + 2, pc := uint16 (ram.mem (self.sp + 1)) (ram.mem self.sp) }, {}, ram⟩ := by
  have next : self.sp + 1 + 1 = self.sp + 2 := by rw [BitVec.add_assoc]; rfl
  refine ⟨if name == "RET" then 10 else 11, ?_⟩
  unfold retOnFlag
  simp only [bind_run, nextPc_run, if_true, postIncSp_run, readFromAddress_memory, ramController, receive_run,
    modifyCpu_run, pure_run, next]
  rfl

end Instructions

section Executions
variable (build : Build) (uuid : Uuid) (io : IController (Ram δ)) {self : Intel8080} {ram : Ram δ}
  {s : System (Ram δ)} {instr : Instr}
  {frame : Frame} {taking : Taking}

theorem pushes_opcode (opcode : Byte) : pushes { self with opcode } instr = pushes self instr := by
  cases instr with
  | push rp => cases rp <;> rfl
  | _ => rfl

theorem perform_stores (stores : pushes self instr = some frame) :
    ∃ ticks after, perform self instr (stackWiring build uuid io) ⟨self, ⟨0#16, 0#8, 0#8⟩, ram⟩ = .ok ticks after ∧
      after.cpu.sp = self.sp - 2 ∧ after.world.mem = stacked ram.mem self.sp frame.bytes := by
  cases instr with
  | push rp =>
    cases stores
    have same : (perform self (.push rp) : CpuM (Ram δ) Byte) = push (registers rp).1
        (registers rp).2 := by cases rp <;> rfl
    rw [same, push_run]
    exact ⟨_, _, rfl, rfl, rfl⟩
  | call =>
    cases stores
    exact ⟨_, _, callOnFlag_run .., rfl, rfl⟩
  | callIf cond =>
    dsimp only [pushes] at stores
    split at stores
    next holds =>
      cases stores
      rw [perform, flagIs_holds, holds, callOnFlag_run]
      exact ⟨_, _, rfl, rfl, rfl⟩
    next => cases stores
  | rst n =>
    cases stores
    exact ⟨_, _, rst_run .., rfl, rfl⟩
  | _ => cases stores

theorem takes_opcode (opcode : Byte) : takes { self with opcode } instr = takes self instr := rfl

theorem perform_takes (found : takes self instr = some taking) :
    ∃ ticks after, perform self instr (stackWiring build uuid io) ⟨self, ⟨0#16, 0#8, 0#8⟩, ram⟩ = .ok ticks after ∧
      after.cpu.sp = self.sp + 2 ∧ after.world.mem = ram.mem ∧
      Arrives after.cpu (ram.mem (self.sp + 1)) (ram.mem self.sp) taking := by
  cases instr with
  | pop rp =>
    cases found
    obtain ⟨after, popped, sp, world, hi, low⟩ := pop_run build uuid io self 0#16 0#8 ram rp
    have mem : after.world.mem = ram.mem := congrArg Ram.mem world
    cases rp with
    | fourth =>
      refine ⟨10, { after with cpu := { after.cpu with status := after.cpu.status &&& 0xD7 ||| 0x02 } }, ?_,
        sp, mem, hi, ?_⟩
      · rw [perform, bind_run]
        rw [registers] at popped
        rw [popped]
        rfl
      · exact congrArg (· &&& 0xD7 ||| 0x02) low
    | _ => exact ⟨10, after, popped, sp, mem, hi, low⟩
  | ret =>
    cases found
    obtain ⟨ticks, ran⟩ := retOnFlag_run build uuid io self 0#16 0#8 ram "RET"
    exact ⟨ticks, _, ran, rfl, rfl, rfl⟩
  | retIf cond =>
    dsimp only [takes] at found
    split at found
    next holds =>
      cases found
      obtain ⟨name, -, source⟩ := @retIf_source (Ram δ) self cond
      obtain ⟨ticks, ran⟩ := retOnFlag_run build uuid io self 0#16 0#8 ram name
      rw [source, holds, ran]
      exact ⟨ticks, _, rfl, rfl, rfl, rfl⟩
    next => cases found
  | _ => cases found

theorem execute_instruction (begins : Begins s.bus) (found : instruction s = some instr) :
    execute (stackWiring build uuid io) s = perform { s.cpu with opcode := s.world.mem s.cpu.pc } instr
      (stackWiring build uuid io)
      ⟨{ s.cpu with opcode := s.world.mem s.cpu.pc }, ⟨0#16, 0#8, 0#8⟩, s.world⟩ := by
  unfold instruction at found
  split at found
  next unacknowledged =>
    obtain ⟨bus, ran⟩ := Starvation.execute_fetched build (ramController uuid) io begins unacknowledged
    have decoded : decode { s.cpu with opcode := s.world.mem s.cpu.pc }.opcode = some instr := found
    simp only [ramController] at ran
    rw [stackWiring, ramController, ran, switch_performs decoded]
    rfl
  next => cases found

def Stores (s : System (Ram δ)) (frame : Frame) : Prop :=
  ∃ ticks after, execute (stackWiring build uuid io) s = .ok ticks after ∧ after.cpu.sp = s.cpu.sp - 2 ∧
    after.world.mem = stacked s.world.mem s.cpu.sp frame.bytes

theorem execute_stores (begins : Begins s.bus) (stores : stored s = some frame) : Stores build uuid io s frame := by
  unfold stored at stores
  split at stores
  next =>
    obtain ⟨instr, found, stores⟩ := Option.bind_eq_some_iff.mp stores
    unfold Stores
    rw [execute_instruction build uuid io begins found]
    exact perform_stores build uuid io ((pushes_opcode _).trans stores)
  next acknowledged =>
    cases stores
    obtain ⟨level, acknowledged⟩ := Option.ne_none_iff_exists'.mp acknowledged
    obtain ⟨⟨addr, data, control⟩, quiet, ran⟩ := execute_dispatch (stackWiring build uuid io) begins
    obtain rfl : control = 0#8 := quiet
    rw [acknowledged, dispatch_some_run] at ran
    exact ⟨_, _, ran, below s.cpu.sp, by rw [stacked, ← below]; rfl⟩

def Takes (s : System (Ram δ)) (taking : Taking) (hi low : Byte) : Prop :=
  ∃ ticks after, execute (stackWiring build uuid io) s = .ok ticks after ∧ after.cpu.sp = s.cpu.sp + 2 ∧
    after.world.mem = s.world.mem ∧ Arrives after.cpu hi low taking

theorem execute_takes (begins : Begins s.bus) (found : taken s = some taking) :
    Takes build uuid io s taking (s.world.mem (s.cpu.sp + 1)) (s.world.mem s.cpu.sp) := by
  obtain ⟨instr, fetched, found⟩ := Option.bind_eq_some_iff.mp found
  unfold Takes
  rw [execute_instruction build uuid io begins fetched]
  exact perform_takes build uuid io ((takes_opcode _).trans found)

end Executions

section Runs
variable (build : Build) (uuid : Uuid) (io : IController (Ram δ))

/-- A pop takes a pair, a return takes an address. -/
def Matches : Frame → Taking → Prop
  | .pair _ _, .pop _ => True
  | .address _, .ret => True
  | _, _ => False

/-- One move of a nested sequence. The frames that are not taken yet are listed, the last one first.
Between the stack operations anything may change but the stack pointer and the live bytes. -/
inductive Step : System (Ram δ) × List Frame → System (Ram δ) × List Frame → Prop
  | store {s after : System (Ram δ)} {frames : List Frame} {frame : Frame} {ticks : Byte} (begins : Begins s.bus)
      (stores : stored s = some frame) (room : frames.length < 32768)
      (ran : execute (stackWiring build uuid io) s = .ok ticks after) : Step (s, frames) (after, frame :: frames)
  | take {s after : System (Ram δ)} {frames : List Frame} {frame : Frame} {taking : Taking} {ticks : Byte}
    (begins : Begins s.bus)
      (takes : taken s = some taking) (matching : Matches frame taking)
      (ran : execute (stackWiring build uuid io) s = .ok ticks after) : Step (s, frame :: frames) (after, frames)
  | change {s after : System (Ram δ)} {frames : List Frame} (pointer : after.cpu.sp = s.cpu.sp)
      (live : ∀ address, Live s.cpu.sp frames.length address → after.world.mem address = s.world.mem address) :
      Step (s, frames) (after, frames)

/-- The memory holds the frames, and below them the stack pointer is where it started. -/
structure Balanced (start : Word) (state : System (Ram δ) × List Frame) : Prop where
  stacked : Stacked state.1.world.mem state.1.cpu.sp (state.2.map Frame.bytes)
  pointer : state.1.cpu.sp + 2 * BitVec.ofNat 16 state.2.length = start

variable {build uuid io} {start : Word} {state next : System (Ram δ) × List Frame} {s first : System (Ram δ)}
  {frames : List Frame}

theorem depth_succ (depth : Nat) : BitVec.ofNat 16 (depth + 1) = BitVec.ofNat 16 depth + 1 := by
  rw [BitVec.ofNat_add]
  rfl

theorem Balanced.step (balanced : Balanced start state) (step : Step build uuid io state next) : Balanced start next := by
  obtain ⟨held, pointer⟩ := balanced
  cases step with
  | @store s after frames frame ticks begins stores room ran =>
    obtain ⟨ticks', after', ran', sp, mem⟩ := execute_stores build uuid io begins stores
    obtain ⟨rfl, rfl⟩ := EStateM.Result.ok.inj (ran.symm.trans ran')
    have capacity : 2 * ((frames.map Frame.bytes).length + 1) ≤ 2 ^ 16 := by
      rw [List.length_map]
      omega
    refine ⟨?_, ?_⟩
    · dsimp only
      rw [mem, sp]
      exact held.push (by decide) capacity frame.bytes.1 frame.bytes.2
    · dsimp only at pointer ⊢
      rw [sp, ← pointer, List.length_cons, depth_succ]
      ring
  | @take s after frames frame taking ticks begins found matching ran =>
    obtain ⟨ticks', after', ran', sp, mem, -⟩ := execute_takes build uuid io begins found
    obtain ⟨rfl, rfl⟩ := EStateM.Result.ok.inj (ran.symm.trans ran')
    refine ⟨?_, ?_⟩
    · dsimp only
      rw [mem, sp]
      exact held.2.2
    · dsimp only at pointer ⊢
      rw [sp, ← pointer, List.length_cons, depth_succ]
      ring
  | @change s after frames same live =>
    refine ⟨?_, ?_⟩
    · dsimp only
      rw [same]
      refine held.congr fun address present => live address ?_
      rwa [List.length_map] at present
    · dsimp only at pointer ⊢
      rw [same, pointer]

theorem run_balanced (run : Relation.ReflTransGen (Step build uuid io) (first, []) state) :
    Balanced first.cpu.sp state := by
  induction run with
  | refl => exact ⟨trivial, by simp⟩
  | tail _ step ih => exact ih.step step

theorem address_bytes (pc : Word) : uint16 ((pc >>> 8).setWidth 8) (pc.setWidth 8) = pc := by
  rw [uint16_eq]
  simp

theorem masked_iff : ∀ byte : Byte, byte &&& 0xD7 ||| 0x02 = byte ↔ StatusForm byte := by
  decide

theorem delivered_iff (rp : Pair) (low : Byte) : delivered rp low = low ↔ (rp = .fourth → StatusForm low) := by
  unfold delivered
  split
  next status =>
    rw [masked_iff low]
    exact (imp_iff_right status).symm
  next other => exact iff_of_true rfl fun status => absurd status other

/-- Frames are taken as they were stored, in any run of nested operations. -/
theorem stack_discipline (run : Relation.ReflTransGen (Step build uuid io) (first, []) (s, frames)) :
    (frames = [] → s.cpu.sp = first.cpu.sp) ∧
    (∀ frame, Begins s.bus → stored s = some frame → ∃ ticks after,
      execute (stackWiring build uuid io) s = .ok ticks after) ∧
    (∀ rp hi low rest, Begins s.bus → taken s = some (.pop rp) → frames = .pair hi low :: rest →
      ∃ ticks after, execute (stackWiring build uuid io) s = .ok ticks after ∧
        after.cpu.get (registers rp).1 = hi ∧ after.cpu.get (registers rp).2 = delivered rp low ∧
        (delivered rp low = low ↔ (rp = .fourth → StatusForm low))) ∧
    ∀ pc rest, Begins s.bus → taken s = some .ret → frames = .address pc :: rest →
      ∃ ticks after, execute (stackWiring build uuid io) s = .ok ticks after ∧ after.cpu.pc = pc := by
  obtain ⟨held, pointer⟩ := run_balanced run
  dsimp only at held pointer
  refine ⟨?_, ?_, ?_, ?_⟩
  · intro none
    rw [← pointer, none, List.length_nil]
    simp
  · intro frame begins stores
    obtain ⟨ticks, after, ran, -⟩ := execute_stores build uuid io begins stores
    exact ⟨ticks, after, ran⟩
  · intro rp hi low rest begins found top
    obtain ⟨ticks, after, ran, -, -, high, lower⟩ := execute_takes build uuid io begins found
    rw [top] at held
    obtain ⟨sameLow, sameHigh, -⟩ := held
    exact ⟨ticks, after, ran, high.trans sameHigh, lower.trans (congrArg (delivered rp) sameLow), delivered_iff rp low⟩
  · intro pc rest begins found top
    obtain ⟨ticks, after, ran, -, -, continues⟩ := execute_takes build uuid io begins found
    rw [top] at held
    obtain ⟨sameLow, sameHigh, -⟩ := held
    refine ⟨ticks, after, ran, continues.trans ?_⟩
    rw [sameLow, sameHigh, address_bytes]

def transfer (push pop : Byte) : Word → Byte := fun address => if address = 0x100 then push else pop

def silent : IController (Ram Unit) := portController ⟨fun _ device => (0, device), fun _ _ device => device⟩

/-- A status byte with all bits set is not the one that comes back. -/
theorem psw_not_exact :
    ∃ first s : System (Ram Unit), Relation.ReflTransGen (Step ⟨true, true⟩ default silent) (first, [])
    (s, [.pair 0 0xFF]) ∧
      Begins s.bus ∧ taken s = some (.pop .fourth) ∧
      ∀ ticks after, execute (stackWiring ⟨true, true⟩ default silent) s = .ok ticks after → after.cpu.status = 0xD7 := by
  have changes : Step ⟨true, true⟩ default silent (⟨{ pc := 0x100 }, {}, ⟨transfer 0xF5 0xF1, ()⟩⟩, [])
      (⟨{ pc := 0x100, status := 0xFF }, {}, ⟨transfer 0xF5 0xF1, ()⟩⟩, []) := .change rfl fun _ _ => rfl
  have stores : Step ⟨true, true⟩ default silent (⟨{ pc := 0x100, status := 0xFF }, {}, ⟨transfer 0xF5 0xF1, ()⟩⟩, [])
      (⟨{ pc := 0x101, sp := 0xFFFE, status := 0xFF, opcode := 0xF5 }, {},
        ⟨stacked (transfer 0xF5 0xF1) 0 (0, 0xFF), ()⟩⟩, [.pair 0 0xFF]) :=
    .store begins_clear (by with_unfolding_all rfl) (by decide) (by with_unfolding_all rfl)
  have pops : taken (⟨{ pc := 0x101, sp := 0xFFFE, status := 0xFF, opcode := 0xF5 }, {},
      ⟨stacked (transfer 0xF5 0xF1) 0 (0, 0xFF), ()⟩⟩ : System (Ram Unit)) = some
        (.pop .fourth) := by with_unfolding_all rfl
  refine ⟨_, _, .tail (.single changes) stores, begins_clear, pops, ?_⟩
  intro ticks after ran
  obtain ⟨ticks', after', ran', -, -, -, status⟩ := execute_takes ⟨true, true⟩ default silent begins_clear pops
  obtain ⟨rfl, rfl⟩ := EStateM.Result.ok.inj (ran.symm.trans ran')
  exact status

/-- What `PUSH B` stores around the end of the memory is what `POP D` delivers. -/
theorem stack_discipline_wraps :
    ∃ (s : System (Ram Unit)) (ticks : Byte) (after : System (Ram Unit)),
      execute (stackWiring ⟨true, true⟩ default silent) s = .ok ticks after ∧
      after.cpu.d = 0x12 ∧ after.cpu.e = 0x34 := by
  have stores : Step ⟨true, true⟩ default silent
      (⟨{ pc := 0x100, sp := 1, b := 0x12, c := 0x34 }, {}, ⟨transfer 0xC5 0xD1, ()⟩⟩, [])
      (⟨{ pc := 0x101, sp := 0xFFFF, b := 0x12, c := 0x34, opcode := 0xC5 }, {},
        ⟨stacked (transfer 0xC5 0xD1) 1 (0x12, 0x34), ()⟩⟩,
        [.pair 0x12 0x34]) :=
    .store begins_clear (by with_unfolding_all rfl) (by decide) (by with_unfolding_all rfl)
  obtain ⟨-, -, pops, -⟩ := stack_discipline (.single stores)
  obtain ⟨ticks, after, ran, high, low, -⟩ := pops .de 0x12 0x34 [] begins_clear (by with_unfolding_all rfl) rfl
  exact ⟨_, ticks, after, ran, high, low⟩

end Runs
end MachEmu.Proofs.StackDiscipline
