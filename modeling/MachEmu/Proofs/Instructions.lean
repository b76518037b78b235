import MachEmu.Proofs.Arithmetic
import MachEmu.Proofs.PlainRam
import Mathlib.Algebra.Group.Nat.Defs

/-! Each instruction helper on plain RAM has the effect of the instruction it
stands for. One lemma covers a helper for all its operands. -/

namespace MachEmu.Proofs.Instructions
open Intel8080 Isa8080 StatusByte Arithmetic BusTransactions PlainRam

variable {δ : Type}

/-- The programmer's view of a machine with plain RAM. -/
def view (s : System (Ram δ)) : Isa8080.State δ where
  b := s.cpu.b
  c := s.cpu.c
  d := s.cpu.d
  e := s.cpu.e
  h := s.cpu.h
  l := s.cpu.l
  a := s.cpu.a
  flags := Flags.ofByte s.cpu.status
  pc := s.cpu.pc
  sp := s.cpu.sp
  inte := s.cpu.iff
  mem := s.world.mem
  device := s.world.io

def idle : SystemBus := ⟨0#16, 0#8, 0#8⟩

/-- Running `x` takes `ticks`, reaches the `expected` view, and hands the buses
and the format of the status byte on to the next instruction. -/
def Simulates (w : Wiring (Ram δ)) (x : CpuM (Ram δ) Byte) (s : System (Ram δ)) (ticks : Byte)
    (expected : Isa8080.State δ) : Prop :=
  match x w s with
  | .ok taken after => taken = ticks ∧ view after = expected ∧ StatusForm after.cpu.status ∧ after.bus = idle
  | .error _ _ => False

def register : Operand → Register
  | .b => .b
  | .c => .c
  | .d => .d
  | .e => .e
  | .h => .h
  | .l => .l
  | .m => .a
  | .a => .a

/-- The helper the source runs for an instruction, given the registers at the dispatch. -/
def perform {ω : Type} (self : Intel8080) : Instr → CpuM ω Byte
  | .nop => nop
  | .lxi .bc => lxi .b .c
  | .lxi .de => lxi .d .e
  | .lxi .hl => lxi .h .l
  | .lxi .fourth => lxiSp
  | .dad .bc => dad self.b self.c
  | .dad .de => dad self.d self.e
  | .dad .hl => dad self.h self.l
  | .dad .fourth => dadSp
  | .stax .bc => stax self.b self.c
  | .stax _ => stax self.d self.e
  | .ldax .bc => ldax self.b self.c
  | .ldax _ => ldax self.d self.e
  | .shld => shld
  | .lhld => lhld
  | .sta => sta
  | .lda => lda
  | .inx .bc => inx .b .c
  | .inx .de => inx .d .e
  | .inx .hl => inx .h .l
  | .inx .fourth => inxSp
  | .dcx .bc => dcx .b .c
  | .dcx .de => dcx .d .e
  | .dcx .hl => dcx .h .l
  | .dcx .fourth => dcxSp
  | .inr r => if r = .m then inrM else inr (register r)
  | .dcr r => if r = .m then dcrM self.hl else dcr (register r)
  | .mvi r => if r = .m then mviM else mvi (register r)
  | .rlc => rlc
  | .rrc => rrc
  | .ral => ral
  | .rar => rar
  | .daa => daa
  | .cma => cma
  | .stc => stc
  | .cmc => cmc
  | .mov dst src =>
    if dst = src then nop
    else if dst = .m then movToM (self.get (register src))
    else if src = .m then movFromM (register dst)
    else mov (register dst) (register src)
  | .hlt => hlt
  | .alu .add r => if r = .m then addM self.hl else addR (register r)
  | .alu .adc r => if r = .m then adcM self.hl else adcR (register r)
  | .alu .sub r => if r = .m then subM self.hl else subR (register r)
  | .alu .sbb r => if r = .m then sbbM self.hl else sbbR (register r)
  | .alu .ana r => if r = .m then anaM self.hl else anaR (register r)
  | .alu .xra r => if r = .m then xraM self.hl else xraR (register r)
  | .alu .ora r => if r = .m then oraM self.hl else oraR (register r)
  | .alu .cmp r => if r = .m then cmpM self.hl else cmpR (register r)
  | .aluImm .add => do addM (← incPc)
  | .aluImm .adc => do adcM (← incPc)
  | .aluImm .sub => do subM (← incPc)
  | .aluImm .sbb => do sbbM (← incPc)
  | .aluImm .ana => do anaM (← incPc)
  | .aluImm .xra => do xraM (← incPc)
  | .aluImm .ora => do oraM (← incPc)
  | .aluImm .cmp => do cmpM (← incPc)
  | .ret => retOnFlag true "RET"
  | .retIf .nz => retOnFlag (self.test .zeroFlag == false) "RNZ"
  | .retIf .z => retOnFlag (self.test .zeroFlag == true) "RZ"
  | .retIf .nc => retOnFlag (self.test .carryFlag == false) "RNC"
  | .retIf .c => retOnFlag (self.test .carryFlag == true) "RC"
  | .retIf .po => retOnFlag (self.test .parityFlag == false) "RPO"
  | .retIf .pe => retOnFlag (self.test .parityFlag == true) "RPE"
  | .retIf .p => retOnFlag (self.test .signFlag == false) "RP"
  | .retIf .m => retOnFlag (self.test .signFlag == true) "RM"
  | .jmp => jmpOnFlag true
  | .jmpIf cond => jmpOnFlag (flagIs cond)
  | .call => callOnFlag true
  | .callIf cond => callOnFlag (flagIs cond)
  | .push .bc => push .b .c
  | .push .de => push .d .e
  | .push .hl => push .h .l
  | .push .fourth => push .a .status
  | .pop .bc => pop .b .c
  | .pop .de => pop .d .e
  | .pop .hl => pop .h .l
  | .pop .fourth => do
    let timePeriods ← pop .a .status
    modifyCpu fun cpu => { cpu with status := cpu.status &&& 0xD7 ||| 0x02 }
    return timePeriods
  | .rst _ => rst
  | .out => out
  | .in => in_
  | .xthl => xthl
  | .pchl => pchl
  | .sphl => sphl
  | .xchg => xchg
  | .di => di
  | .ei => ei
where
  flagIs : Cond → Bool
    | .nz => self.test .zeroFlag == false
    | .z => self.test .zeroFlag == true
    | .nc => self.test .carryFlag == false
    | .c => self.test .carryFlag == true
    | .po => self.test .parityFlag == false
    | .pe => self.test .parityFlag == true
    | .p => self.test .signFlag == false
    | .m => self.test .signFlag == true

/-- The clock periods those helpers return. -/
def charge (flags : Flags) : Instr → Byte
  | .nop | .rlc | .rrc | .ral | .rar | .daa | .cma | .stc | .cmc | .xchg | .di | .ei => 4
  | .lxi _ | .dad _ | .jmp | .jmpIf _ | .ret | .pop _ | .out | .in => 10
  | .stax _ | .ldax _ | .hlt | .aluImm _ => 7
  | .shld | .lhld => 16
  | .sta | .lda => 13
  | .inx _ | .dcx _ | .pchl | .sphl => 5
  | .inr r | .dcr r => if r = .m then 10 else 5
  | .mvi r => if r = .m then 10 else 7
  | .mov dst src => if dst = src then 4 else if dst = .m ∨ src = .m then 7 else 5
  | .alu _ r => if r = .m then 7 else 4
  | .retIf cond => if cond.holds flags then 11 else 5
  | .call => 17
  | .callIf cond => if cond.holds flags then 17 else 11
  | .push _ | .rst _ => 11
  | .xthl => 18

/-- On every state the helpers for `instr` have the effect of `instr`. -/
def Performs (build : Build) (uuid : Uuid) (io : Ports δ) (instr : Instr) : Prop :=
  ∀ (self : Intel8080) (mem : Word → Byte) (state : δ), StatusForm self.status → decode self.opcode = some instr →
    Simulates (ramWiring build uuid io) (perform self instr) ⟨self, idle, mem, state⟩
      (charge (Flags.ofByte self.status) instr) (exec io.device instr (view ⟨self, idle, mem, state⟩))

section Transfers
variable (build : Build) (uuid : Uuid) (io : Ports δ)

attribute [local simp] Simulates perform charge view idle register Intel8080.get Intel8080.set Intel8080.hl
  Intel8080.test Intel8080.assign exec State.get State.set State.getPair State.setPair State.next State.hl State.imm8
  State.imm16 State.store State.pushWord State.poppedWord State.getPushed State.setPopped operandAddress
    pushPcAndJump BitVec.add_assoc pred_eq pred_pred

theorem nop_performs : Performs build uuid io .nop := by
  intro self mem state form _
  simp [nop, form]

theorem lxi_performs (rp : Pair) : Performs build uuid io (.lxi rp) := by
  intro self mem state form _
  cases rp <;> simp [lxi, lxiSp, form]

theorem mvi_performs (r : Operand) : Performs build uuid io (.mvi r) := by
  intro self mem state form _
  cases r <;> simp [mvi, mviM, form]

theorem mov_performs (dst src : Operand) (transfers : (dst, src) ≠ (.m, .m)) :
    Performs build uuid io (.mov dst src) := by
  intro self mem state form _
  cases dst <;> cases src <;> first | contradiction | simp [mov, movToM, movFromM, nop, form]

theorem stax_performs (rp : Pair) (indirect : rp = .bc ∨ rp = .de) : Performs build uuid io (.stax rp) := by
  intro self mem state form _
  rcases indirect with rfl | rfl <;> simp [stax, form]

theorem ldax_performs (rp : Pair) (indirect : rp = .bc ∨ rp = .de) : Performs build uuid io (.ldax rp) := by
  intro self mem state form _
  rcases indirect with rfl | rfl <;> simp [ldax, form]

theorem shld_performs : Performs build uuid io .shld := by
  intro self mem state form _
  simp [shld, form]

theorem lhld_performs : Performs build uuid io .lhld := by
  intro self mem state form _
  simp [lhld, form]

theorem sta_performs : Performs build uuid io .sta := by
  intro self mem state form _
  simp [sta, form]

theorem lda_performs : Performs build uuid io .lda := by
  intro self mem state form _
  simp [lda, form]

theorem xchg_performs : Performs build uuid io .xchg := by
  intro self mem state form _
  simp [xchg, form]

theorem xthl_performs : Performs build uuid io .xthl := by
  intro self mem state form _
  simp [xthl, form]

theorem sphl_performs : Performs build uuid io .sphl := by
  intro self mem state form _
  simp [sphl, form]

theorem pchl_performs : Performs build uuid io .pchl := by
  intro self mem state form _
  simp [pchl, form]

theorem push_performs (rp : Pair) : Performs build uuid io (.push rp) := by
  intro self mem state form _
  cases rp <;> simp [push, form, toByte_ofByte]

theorem pop_performs (rp : Pair) : Performs build uuid io (.pop rp) := by
  intro self mem state form _
  cases rp <;> simp [pop, form, masked_form, ofByte_masked]

theorem out_performs : Performs build uuid io .out := by
  intro self mem state form _
  simp [out, form, Ports.device]

theorem in_performs : Performs build uuid io .in := by
  intro self mem state form _
  simp [in_, form, Ports.device]

theorem di_performs : Performs build uuid io .di := by
  intro self mem state form _
  simp [di, form]

theorem ei_performs : Performs build uuid io .ei := by
  intro self mem state form _
  simp [ei, form]

end Transfers

section Arithmetic
variable (build : Build) (uuid : Uuid) (io : Ports δ)

attribute [local simp] Simulates perform charge view idle register Intel8080.get Intel8080.set Intel8080.hl
  Intel8080.test Intel8080.assign exec State.get State.set State.getPair State.setPair State.next State.hl State.imm8
  State.store State.alu BitVec.add_assoc pred_eq test_ofByte and_half_carry decrement
  decrement_half_carry dad_high dad_low dad_carry logicFlags

theorem inr_performs (r : Operand) : Performs build uuid io (.inr r) := by
  intro self mem state form _
  cases r <;> simp [inr, inrM, form]

theorem dcr_performs (r : Operand) : Performs build uuid io (.dcr r) := by
  intro self mem state form _
  cases r <;> simp [dcr, dcrM, form]

theorem inx_performs (rp : Pair) : Performs build uuid io (.inx rp) := by
  intro self mem state form _
  cases rp <;> simp [inx, inxSp, form]

theorem dcx_performs (rp : Pair) : Performs build uuid io (.dcx rp) := by
  intro self mem state form _
  cases rp <;> simp [dcx, dcxSp, form]

theorem dad_performs (rp : Pair) : Performs build uuid io (.dad rp) := by
  intro self mem state form _
  cases rp <;> simp [dad, dadSp, form]

theorem add_performs (r : Operand) : Performs build uuid io (.alu .add r) := by
  intro self mem state form _
  cases r <;> simp [addR, addM, form]

theorem adc_performs (r : Operand) : Performs build uuid io (.alu .adc r) := by
  intro self mem state form _
  cases r <;> simp [adcR, adcM, form]

theorem sub_performs (r : Operand) : Performs build uuid io (.alu .sub r) := by
  intro self mem state form _
  cases r <;> simp [subR, subM, form]

theorem sbb_performs (r : Operand) : Performs build uuid io (.alu .sbb r) := by
  intro self mem state form _
  cases r <;> simp [sbbR, sbbM, form] <;> rfl

theorem ana_performs (r : Operand) : Performs build uuid io (.alu .ana r) := by
  intro self mem state form _
  cases r <;> simp [anaR, anaM, ana, form, Flags.ofResult]

theorem xra_performs (r : Operand) : Performs build uuid io (.alu .xra r) := by
  intro self mem state form _
  cases r <;> simp [xraR, xraM, xra, form, Flags.ofResult]

theorem ora_performs (r : Operand) : Performs build uuid io (.alu .ora r) := by
  intro self mem state form _
  cases r <;> simp [oraR, oraM, ora, form, Flags.ofResult]

theorem cmp_performs (r : Operand) : Performs build uuid io (.alu .cmp r) := by
  intro self mem state form _
  cases r <;> simp [cmpR, cmpM, form]

theorem aluImm_performs (op : Alu) : Performs build uuid io (.aluImm op) := by
  intro self mem state form _
  cases op <;> simp [addM, adcM, subM, sbbM, anaM, ana, xraM, xra, oraM, ora, cmpM, form, Flags.ofResult]
  case sbb => rfl

theorem rlc_performs : Performs build uuid io .rlc := by
  intro self mem state form _
  simp [rlc, form, rotate_left, test_seven]

theorem rrc_performs : Performs build uuid io .rrc := by
  intro self mem state form _
  simp [rrc, form, rotate_right, test_zero]

theorem ral_performs : Performs build uuid io .ral := by
  intro self mem state form _
  simp [ral, form, rotate_left_carry, test_seven]

theorem rar_performs : Performs build uuid io .rar := by
  intro self mem state form _
  simp [rar, form, rotate_right_carry, test_zero]

private theorem daa_adjusts (s : State δ) (low high : Bool)
    (adjustLow : (decide (9 < (s.a.extractLsb' 0 4).toNat) || s.flags.ac) = low)
    (adjustHigh : (decide (9 < (if low then s.a.toNat + 6 else s.a.toNat) / 16) || s.flags.cy) = high) :
    s.daa =
      let adjustment : Byte := (if low then 6 else 0) + (if high then 0x60 else 0)
      { s with
        a := s.a + adjustment
        flags := .ofResult (s.a + adjustment) (BitVec.carry 4 s.a adjustment false) high } := by
  subst adjustLow adjustHigh
  rfl

theorem daa_performs : Performs build uuid io .daa := by
  intro self mem state form _
  obtain ⟨low, adjustLow⟩ : ∃ low, (decide (9 < (self.a.extractLsb' 0 4).toNat) ||
    (Flags.ofByte self.status).ac) = low := ⟨_, rfl⟩
  obtain ⟨high, adjustHigh⟩ : ∃ high, (decide (9 < (if low then self.a.toNat + 6 else self.a.toNat) / 16) ||
    (Flags.ofByte self.status).cy) = high := ⟨_, rfl⟩
  have sourceHigh := daa_high self.a (Flags.ofByte self.status).ac (Flags.ofByte self.status).cy
  rw [adjustLow, adjustHigh] at sourceHigh
  have adjusts := daa_adjusts (view ⟨self, idle, mem, state⟩) low high adjustLow adjustHigh
  simp only [Simulates, perform, daa, bind_run, cpu_run, Intel8080.test, test_ofByte, sourceHigh, exec, adjusts]
  simp only [daa_low, adjustLow]
  cases high with
  | false =>
    have carry := (Bool.or_eq_false_iff.mp adjustHigh).2
    cases low <;> simp [form, carry]
  | true => cases low <;> simp [form]

theorem cma_performs : Performs build uuid io .cma := by
  intro self mem state form _
  simp [cma, form]

theorem stc_performs : Performs build uuid io .stc := by
  intro self mem state form _
  simp [stc, form]

theorem cmc_performs : Performs build uuid io .cmc := by
  intro self mem state form _
  simp [cmc, form]

end Arithmetic

section Control
variable (build : Build) (uuid : Uuid) (io : Ports δ)

attribute [local simp] Simulates perform charge view idle Intel8080.test exec State.next State.store State.imm16
  State.pushWord State.poppedWord operandAddress pushPcAndJump BitVec.add_assoc pred_eq pred_pred test_ofByte

theorem ret_performs : Performs build uuid io .ret := by
  intro self mem state form _
  simp [retOnFlag, form]

theorem flagIs_holds (self : Intel8080) (cond : Cond) :
    perform.flagIs self cond = cond.holds (Flags.ofByte self.status) := by
  cases cond <;> simp [perform.flagIs, Cond.holds]

theorem jmp_performs : Performs build uuid io .jmp := by
  intro self mem state form _
  simp [jmpOnFlag, form]

theorem jmpIf_performs (cond : Cond) : Performs build uuid io (.jmpIf cond) := by
  intro self mem state form _
  cases taken : cond.holds (Flags.ofByte self.status) <;> simp [jmpOnFlag, flagIs_holds, taken, form]

theorem call_performs : Performs build uuid io .call := by
  intro self mem state form _
  simp [callOnFlag, form]

theorem callIf_performs (cond : Cond) : Performs build uuid io (.callIf cond) := by
  intro self mem state form _
  cases taken : cond.holds (Flags.ofByte self.status) <;> simp [callOnFlag, flagIs_holds, taken, form]

/-- The name a conditional return passes is never that of the unconditional one. -/
theorem retIf_source {ω : Type} (self : Intel8080) (cond : Cond) : ∃ name, (name == "RET") = false ∧
    perform (ω := ω) self (.retIf cond) = retOnFlag (cond.holds (Flags.ofByte self.status)) name := by
  cases cond <;> simp [Cond.holds] <;> exact ⟨_, by decide, rfl⟩

theorem retIf_performs (cond : Cond) : Performs build uuid io (.retIf cond) := by
  intro self mem state form _
  obtain ⟨name, conditional, source⟩ := retIf_source (ω := Ram δ) self cond
  rw [source]
  cases taken : cond.holds (Flags.ofByte self.status) <;> simp [retOnFlag, conditional, taken, form]

theorem restart_address : ∀ (opcode : Byte) (n : BitVec 3), decode opcode = some (.rst n) →
    opcode.setWidth 16 &&& 0x38#16 = (0#10 ++ n ++ 0#3 : BitVec 16) := by
  decide

theorem rst_performs (n : BitVec 3) : Performs build uuid io (.rst n) := by
  intro self mem state form decoded
  simp [rst, form, restart_address self.opcode n decoded]

end Control

/-- Operands some encodings leave room for, but that decode to another instruction. -/
def wellFormed : Instr → Bool
  | .stax rp | .ldax rp => rp == .bc || rp == .de
  | .mov dst src => (dst, src) != (.m, .m)
  | _ => true

theorem decode_wellFormed : ∀ opcode : Byte, (decode opcode).all wellFormed = true := by
  decide

theorem performs (build : Build) (uuid : Uuid) (io : Ports δ) (instr : Instr) (form : wellFormed instr = true)
    (runs : instr ≠ .hlt) : Performs build uuid io instr := by
  cases instr with
  | nop => exact nop_performs build uuid io
  | lxi rp => exact lxi_performs build uuid io rp
  | dad rp => exact dad_performs build uuid io rp
  | stax rp => exact stax_performs build uuid io rp (by simpa [wellFormed] using form)
  | ldax rp => exact ldax_performs build uuid io rp (by simpa [wellFormed] using form)
  | shld => exact shld_performs build uuid io
  | lhld => exact lhld_performs build uuid io
  | sta => exact sta_performs build uuid io
  | lda => exact lda_performs build uuid io
  | inx rp => exact inx_performs build uuid io rp
  | dcx rp => exact dcx_performs build uuid io rp
  | inr r => exact inr_performs build uuid io r
  | dcr r => exact dcr_performs build uuid io r
  | mvi r => exact mvi_performs build uuid io r
  | rlc => exact rlc_performs build uuid io
  | rrc => exact rrc_performs build uuid io
  | ral => exact ral_performs build uuid io
  | rar => exact rar_performs build uuid io
  | daa => exact daa_performs build uuid io
  | cma => exact cma_performs build uuid io
  | stc => exact stc_performs build uuid io
  | cmc => exact cmc_performs build uuid io
  | mov dst src => exact mov_performs build uuid io dst src (by simpa [wellFormed] using form)
  | hlt => exact absurd rfl runs
  | alu op r =>
    cases op with
    | add => exact add_performs build uuid io r
    | adc => exact adc_performs build uuid io r
    | sub => exact sub_performs build uuid io r
    | sbb => exact sbb_performs build uuid io r
    | ana => exact ana_performs build uuid io r
    | xra => exact xra_performs build uuid io r
    | ora => exact ora_performs build uuid io r
    | cmp => exact cmp_performs build uuid io r
  | aluImm op => exact aluImm_performs build uuid io op
  | ret => exact ret_performs build uuid io
  | retIf cond => exact retIf_performs build uuid io cond
  | jmp => exact jmp_performs build uuid io
  | jmpIf cond => exact jmpIf_performs build uuid io cond
  | call => exact call_performs build uuid io
  | callIf cond => exact callIf_performs build uuid io cond
  | push rp => exact push_performs build uuid io rp
  | pop rp => exact pop_performs build uuid io rp
  | rst n => exact rst_performs build uuid io n
  | out => exact out_performs build uuid io
  | «in» => exact in_performs build uuid io
  | xthl => exact xthl_performs build uuid io
  | pchl => exact pchl_performs build uuid io
  | sphl => exact sphl_performs build uuid io
  | xchg => exact xchg_performs build uuid io
  | di => exact di_performs build uuid io
  | ei => exact ei_performs build uuid io

end MachEmu.Proofs.Instructions
