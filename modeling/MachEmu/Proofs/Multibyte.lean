import MachEmu.Lib.Ripple
import MachEmu.Proofs.BusDiscipline

/-! Numbers of many bytes, added and subtracted a byte at a time. The carry flag
goes from one byte to the next, past the operations that move the operands and
control the loop. The controllers are arbitrary. -/

namespace MachEmu.Proofs.Multibyte
open Intel8080 Isa8080 StatusByte Arithmetic BusTransactions BusDiscipline Instructions

variable {ω : Type}

def carry (s : System ω) : Bool := s.cpu.test .carryFlag

/-- What is left between two steps: the carry flag, and clear lanes for the next transfer. -/
structure Carried (s after : System ω) : Prop where
  flag : carry after = carry s
  quiet : Quiet after.bus

variable (build : Build) (memory io : IController ω)

/-- An operation on the accumulator and the operand `y`, in any of its three forms. -/
inductive Operates (op : Alu) (s : System ω) : Byte → System ω → Prop
  | register {ticks : Byte} {after : System ω} (r : Operand) (plain : r ≠ .m)
      (ran : perform s.cpu (.alu op r) (wiring build memory io) s = .ok ticks after) :
      Operates op s (s.cpu.get (register r)) after
  | memory {y ticks : Byte} {world : ω} {after : System ω} (operand : memory.read s.cpu.hl s.world = .ok y world)
      (ran : perform s.cpu (.alu op .m) (wiring build memory io) s = .ok ticks after) : Operates op s y after
  | immediate {y ticks : Byte} {world : ω} {after : System ω}
      (operand : memory.read (s.cpu.pc + 1) s.world = .ok y world)
      (ran : perform s.cpu (.aluImm op) (wiring build memory io) s = .ok ticks after) : Operates op s y after

/-- The steps for the digits of two numbers, the least significant first, with the
accumulator before each step and after it. -/
inductive Steps (digit : System ω → Byte → System ω → Prop) :
    System ω → List (Byte × Byte) → List Byte → System ω → Prop
  | nil (s : System ω) : Steps digit s [] [] s
  | cons {s mid next last : System ω} {y : Byte} {pairs : List (Byte × Byte)} {results : List Byte}
      (carried : Carried s mid) (step : digit mid y next) (rest : Steps digit next pairs results last) :
      Steps digit s ((mid.cpu.a, y) :: pairs) (next.cpu.a :: results) last

variable {build memory io} {s after last : System ω} {y : Byte} {pairs : List (Byte × Byte)} {results : List Byte}

/-- The three forms share the adder and differ in where the operand comes from. -/
theorem Operates.adc (operates : Operates build memory io .adc s y after) (quiet : Quiet s.bus) :
    after.cpu.a = s.cpu.a + y + addend (carry s) ∧
      after.cpu.status = addStatus s.cpu.a y s.cpu.status (carry s) true ∧ Quiet after.bus := by
  obtain ⟨self, ⟨addr, data, control⟩, world⟩ := s
  obtain rfl : control = 0#8 := quiet
  cases operates with
  | register r plain ran =>
    simp only [perform, plain, ite_false, adcR, bind_run, cpu_run, add_carry_run, setReg_run, pure_run] at ran
    cases ran
    exact ⟨rfl, rfl, rfl⟩
  | memory operand ran =>
    simp only [perform, ite_true, adcM, bind_run, readFromAddress_memory, operand, cpu_run, receive_run, add_carry_run,
      setReg_run, pure_run] at ran
    cases ran
    exact ⟨rfl, rfl, rfl⟩
  | immediate operand ran =>
    simp only [perform, adcM, bind_run, incPc_run, readFromAddress_memory, operand, cpu_run, receive_run, add_carry_run,
      setReg_run, pure_run] at ran
    cases ran
    exact ⟨rfl, rfl, rfl⟩

theorem Operates.sbb (operates : Operates build memory io .sbb s y after) (quiet : Quiet s.bus) :
    after.cpu.a = s.cpu.a - y - addend (carry s) ∧
      after.cpu.status = subStatus s.cpu.a y s.cpu.status (carry s) ∧ Quiet after.bus := by
  obtain ⟨self, ⟨addr, data, control⟩, world⟩ := s
  obtain rfl : control = 0#8 := quiet
  cases operates with
  | register r plain ran =>
    simp only [perform, plain, ite_false, sbbR, bind_run, cpu_run, sub_carry_run, setReg_run, pure_run] at ran
    cases ran
    exact ⟨rfl, rfl, rfl⟩
  | memory operand ran =>
    simp only [perform, ite_true, sbbM, bind_run, readFromAddress_memory, operand, cpu_run, receive_run, sub_carry_run,
      setReg_run, pure_run] at ran
    cases ran
    exact ⟨rfl, rfl, rfl⟩
  | immediate operand ran =>
    simp only [perform, sbbM, bind_run, incPc_run, readFromAddress_memory, operand, cpu_run, receive_run, sub_carry_run,
      setReg_run, pure_run] at ran
    cases ran
    exact ⟨rfl, rfl, rfl⟩

section Digits

theorem carry_eq (s : System ω) : carry s = (Flags.ofByte s.cpu.status).cy := test_ofByte s.cpu.status .carryFlag

theorem Operates.adds (operates : Operates build memory io .adc s y after) (quiet : Quiet s.bus) :
    Ripple.Adds 256 s.cpu.a.toNat y.toNat (carry s) after.cpu.a.toNat (carry after) := by
  obtain ⟨sum, flags, -⟩ := operates.adc quiet
  have first := s.cpu.a.isLt
  have second := y.isLt
  have out : carry after = decide (256 ≤ s.cpu.a.toNat + y.toNat + (carry s).toNat) := by
    rw [carry_eq after, flags, ofByte_addStatus]
    simp [Flags.ofResult, BitVec.carry, Nat.mod_eq_of_lt first, Nat.mod_eq_of_lt second]
  have result : after.cpu.a.toNat = (s.cpu.a.toNat + y.toNat + (carry s).toNat) % 256 := by
    rw [sum]
    cases carry s <;> simp
  rw [out, result]
  exact Ripple.adds_digit _ first second

theorem Operates.subtracts (operates : Operates build memory io .sbb s y after) (quiet : Quiet s.bus) :
    Ripple.Subtracts 256 s.cpu.a.toNat y.toNat (carry s) after.cpu.a.toNat (carry after) := by
  obtain ⟨difference, flags, -⟩ := operates.sbb quiet
  have first := s.cpu.a.isLt
  have second := y.isLt
  have out : carry after = decide (s.cpu.a.toNat < y.toNat + (carry s).toNat) := by
    rw [carry_eq after, flags, ofByte_subStatus]
    rfl
  have result : after.cpu.a.toNat = (s.cpu.a.toNat + (256 - (y.toNat + (carry s).toNat))) % 256 := by
    rw [difference]
    cases carry s <;> simp [BitVec.toNat_sub] <;> omega
  rw [out, result]
  exact Ripple.subtracts_digit _ first second

variable {digit : System ω → Byte → System ω → Prop} {D : Nat → Nat → Bool → Nat → Bool → Prop} {value : Byte → Nat}
  {good : Byte → Prop}

/-- Steps that are right for each digit are right for the numbers. -/
theorem Steps.ripple (steps : Steps digit s pairs results last) (operands : ∀ pair ∈ pairs, good pair.1 ∧ good pair.2)
    (digits : ∀ {s y after}, Quiet s.bus → good s.cpu.a → good y → digit s y after →
      D (value s.cpu.a) (value y) (carry s) (value after.cpu.a) (carry after)) :
    Ripple.Chain D (pairs.map fun pair => (value pair.1, value pair.2)) (carry s) (results.map value) (carry last) := by
  induction steps with
  | nil s => exact .nil _
  | cons carried step rest ih =>
    obtain ⟨first, others⟩ := List.forall_mem_cons.mp operands
    have right := digits carried.quiet first.1 first.2 step
    rw [carried.flag] at right
    exact .cons right (ih others)

/-- Any operands can be loaded, as long as each step accepts every state. -/
theorem Steps.exists (total : ∀ (s : System ω) (x y : Byte), ∃ mid next, Carried s mid ∧ mid.cpu.a = x ∧ digit mid y next)
    (s : System ω) (pairs : List (Byte × Byte)) : ∃ results last, Steps digit s pairs results last := by
  induction pairs generalizing s with
  | nil => exact ⟨[], s, .nil s⟩
  | cons pair pairs ih =>
    obtain ⟨x, y⟩ := pair
    obtain ⟨mid, next, carried, rfl, step⟩ := total s x y
    obtain ⟨results, last, rest⟩ := ih next
    exact ⟨_, _, .cons carried step rest⟩

end Digits

section Operands
variable {α β : Type} (w : Wiring ω)

/-- A computation that returns leaves the carry flag alone. -/
class Retains (x : CpuM ω α) : Prop where
  retained : ∀ {s value after}, x w s = .ok value after → carry after = carry s

instance retains_bind (x : CpuM ω α) (f : α → CpuM ω β) [first : Retains w x] [rest : ∀ value, Retains w (f value)] :
    Retains w (x >>= f) := by
  constructor
  intro s result after ran
  rw [bind_run] at ran
  cases begun : x w s with
  | error fault mid => simp [begun] at ran
  | ok value mid =>
    simp only [begun] at ran
    exact ((rest value).retained ran).trans (first.retained begun)

instance retains_ite (c : Prop) [Decidable c] (x y : CpuM ω α) [first : Retains w x] [second : Retains w y] :
    Retains w (if c then x else y) := by
  split
  · exact first
  · exact second

instance retains_pure (value : α) : Retains w (pure value) := by
  constructor
  intro s result after ran
  cases ran
  rfl

instance retains_cpu : Retains w cpu := by
  constructor
  intro s result after ran
  cases ran
  rfl

instance retains_onBus (f : SystemBus → α × SystemBus) : Retains w (onBus f) := by
  constructor
  intro s result after ran
  cases ran
  rfl

instance retains_process : Retains w process := by
  constructor
  intro s result after ran
  unfold process at ran
  split at ran
  next => cases ran; rfl
  next => cases ran

theorem retains_modifyCpu {f : Intel8080 → Intel8080} (kept : ∀ self, (f self).test .carryFlag = self.test .carryFlag) :
    Retains w (modifyCpu f) := by
  constructor
  intro s result after ran
  cases ran
  exact kept s.cpu

instance retains_pc (pc : Intel8080 → Word) : Retains w (modifyCpu fun self => { self with pc := pc self }) :=
  retains_modifyCpu w fun _ => rfl

instance retains_sp (sp : Intel8080 → Word) : Retains w (modifyCpu fun self => { self with sp := sp self }) :=
  retains_modifyCpu w fun _ => rfl

instance retains_opcode (opcode : Byte) : Retains w (modifyCpu fun self => { self with opcode }) :=
  retains_modifyCpu w fun _ => rfl

theorem retains_setReg {r : Register} (value : Byte) (other : r ≠ .status) : Retains w (setReg r value) := by
  apply retains_modifyCpu
  intro self
  cases r <;> first | rfl | exact absurd rfl other

instance retains_register (r : Operand) (value : Byte) : Retains w (setReg (register r) value) := by
  apply retains_setReg
  cases r <;> exact nofun

instance retains_accumulator (value : Byte) : Retains w (setReg .a value) := retains_register w .a value

instance retains_incPc : Retains w incPc := by simp only [incPc]; infer_instance
instance retains_nextPc : Retains w nextPc := by simp only [nextPc]; infer_instance
instance retains_receive : Retains w receive := by simp only [receive]; infer_instance
instance retains_read (lane addr) : Retains w (readFromAddress lane addr) := by simp only [readFromAddress]; infer_instance
instance retains_write (lane addr value) : Retains w (writeToAddress lane addr value) := by
  simp only [writeToAddress]; infer_instance
instance retains_operandAddress : Retains w operandAddress := by simp only [operandAddress]; infer_instance
instance retains_fetch : Retains w fetch := by simp only [fetch]; infer_instance
instance retains_jmpOnFlag (status) : Retains w (jmpOnFlag status) := by simp only [jmpOnFlag]; infer_instance

/-- Increments and decrements go through the adder, which is told to leave the flag alone. -/
instance retains_add (lhs rhs : Byte) : Retains w (add lhs rhs 0 false) := by
  constructor
  intro s value after ran
  change add lhs rhs 0#8 false w s = _ at ran
  rw [add_zero_run] at ran
  cases ran
  rw [carry_eq, carry_eq, ofByte_addStatus]
  rfl

def moves : Instr → Bool
  | .mov _ _ | .mvi _ | .ldax _ | .stax _ | .inx _ | .dcx _ | .inr _ | .dcr _ | .jmp | .jmpIf _ => true
  | _ => false

instance retains_pair (hi low : Operand) : Retains w
    (inx (register hi) (register low)) := by simp only [inx]; infer_instance

instance retains_pairDown (hi low : Operand) : Retains w (dcx (register hi) (register low)) := by
  simp only [dcx]; infer_instance

theorem inx_retains (self : Intel8080) (rp : Pair) : Retains w (perform self (.inx rp)) := by
  cases rp with
  | bc => exact retains_pair w .b .c
  | de => exact retains_pair w .d .e
  | hl => exact retains_pair w .h .l
  | fourth => simp only [perform, inxSp]; infer_instance

theorem dcx_retains (self : Intel8080) (rp : Pair) : Retains w (perform self (.dcx rp)) := by
  cases rp with
  | bc => exact retains_pairDown w .b .c
  | de => exact retains_pairDown w .d .e
  | hl => exact retains_pairDown w .h .l
  | fourth => simp only [perform, dcxSp]; infer_instance

theorem perform_retains (self : Intel8080) (instr : Instr) (chosen : moves instr = true) :
    Retains w (perform self instr) := by
  cases instr with
  | mov dst src => simp only [perform, nop, movToM, movFromM, mov]; infer_instance
  | mvi r => simp only [perform, mviM, mvi]; infer_instance
  | ldax rp => cases rp <;> simp only [perform, ldax] <;> infer_instance
  | stax rp => cases rp <;> simp only [perform, stax] <;> infer_instance
  | inx rp => exact inx_retains w self rp
  | dcx rp => exact dcx_retains w self rp
  | inr r => simp only [perform, inrM, inr]; infer_instance
  | dcr r => simp only [perform, dcrM, dcr]; infer_instance
  | jmp => exact retains_jmpOnFlag w true
  | jmpIf cond => exact retains_jmpOnFlag w _
  | _ => cases chosen

end Operands

section Programs

/-- Operations between two steps: fetches, and operations that move operands or control a loop. -/
inductive Moves (w : Wiring ω) : System ω → System ω → Prop
  | none (s : System ω) : Moves w s s
  | fetch {s mid after : System ω} (ran : fetch w s = .ok () mid) (rest : Moves w mid after) : Moves w s after
  | operation {s mid after : System ω} {ticks : Byte} (instr : Instr) (chosen : moves instr = true)
      (ran : perform s.cpu instr w s = .ok ticks mid) (rest : Moves w mid after) : Moves w s after

theorem moves_carried (quiet : Quiet s.bus) (between : Moves (wiring build memory io) s after) : Carried s after := by
  induction between with
  | none s => exact ⟨rfl, quiet⟩
  | fetch ran rest ih =>
    have kept : Keeps Quiet (wiring build memory io) Intel8080.fetch := inferInstance
    obtain ⟨flag, clear⟩ := ih (kept.kept quiet ran)
    exact ⟨flag.trans ((retains_fetch _).retained ran), clear⟩
  | operation instr chosen ran rest ih =>
    obtain ⟨flag, clear⟩ := ih ((perform_keeps Quiet (wiring build memory io) _ instr).kept quiet ran)
    exact ⟨flag.trans ((perform_retains _ _ instr chosen).retained ran), clear⟩

def number (bytes : List Byte) : Nat := Nat.ofDigits 256 (bytes.map BitVec.toNat)

theorem Steps.length {digit : System ω → Byte → System ω → Prop} (steps : Steps digit s pairs results last) :
    results.length = pairs.length := by
  induction steps with
  | nil s => rfl
  | cons _ _ _ ih => rw [List.length_cons, List.length_cons, ih]

theorem adc_number (steps : Steps (Operates build memory io .adc) s pairs results last) :
    number results = (number (pairs.map Prod.fst) + number (pairs.map Prod.snd) + (carry s).toNat) % 256 ^ pairs.length ∧
      (carry last = true ↔
        256 ^ pairs.length ≤ number (pairs.map Prod.fst) + number (pairs.map Prod.snd) + (carry s).toNat) := by
  have chain : Ripple.Chain (Ripple.Adds 256) (pairs.map fun pair => (pair.1.toNat, pair.2.toNat)) (carry s)
      (results.map BitVec.toNat) (carry last) :=
    steps.ripple (fun _ _ => ⟨trivial, trivial⟩) fun quiet (_ : True) (_ : True) operates => operates.adds quiet
  simpa [number, Function.comp_def] using Ripple.adds chain (by decide)

theorem sbb_number (steps : Steps (Operates build memory io .sbb) s pairs results last) :
    (number results : Int) =
        ((number (pairs.map Prod.fst) : Int) - number (pairs.map Prod.snd) - (carry s).toNat) % 256 ^ pairs.length ∧
      (carry last = true ↔ number (pairs.map Prod.fst) < number (pairs.map Prod.snd) + (carry s).toNat) := by
  have chain : Ripple.Chain (Ripple.Subtracts 256) (pairs.map fun pair => (pair.1.toNat, pair.2.toNat)) (carry s)
      (results.map BitVec.toNat) (carry last) :=
    steps.ripple (fun _ _ => ⟨trivial, trivial⟩) fun quiet (_ : True) (_ : True) operates => operates.subtracts quiet
  simpa [number, Function.comp_def] using Ripple.subtracts chain (by decide)

theorem register_accepted (w : Wiring ω) (op : Alu) (chosen : op = .adc ∨ op = .sbb) (r : Operand) (plain : r ≠ .m)
    (s : System ω) : ∃ after, perform s.cpu (.alu op r) w s = .ok 4 after := by
  rcases chosen with rfl | rfl
  · simp only [perform, plain, ite_false, adcR, bind_run, cpu_run, add_carry_run, setReg_run, pure_run]
    exact ⟨_, rfl⟩
  · simp only [perform, plain, ite_false, sbbR, bind_run, cpu_run, sub_carry_run, setReg_run, pure_run]
    exact ⟨_, rfl⟩

theorem steps_exist (op : Alu) (chosen : op = .adc ∨ op = .sbb) (s : System ω) (pairs : List (Byte × Byte)) :
    ∃ results last, Steps (Operates build memory io op) s pairs results last := by
  apply Steps.exists
  intro s x y
  let loaded : System ω := ⟨{ s.cpu with a := x, b := y }, {}, s.world⟩
  obtain ⟨next, ran⟩ := register_accepted (wiring build memory io) op chosen .b (by decide) loaded
  exact ⟨loaded, next, ⟨rfl, rfl⟩, rfl, .register .b (by decide) ran⟩

/-- Sums and differences of numbers of any length, with the carry and the borrow that
come in and go out. -/
theorem multibyte_arithmetic (build : Build) (memory io : IController ω) :
    (∀ {s last : System ω} {pairs results}, Steps (Operates build memory io .adc) s pairs results last →
      results.length = pairs.length ∧
      number results =
        (number (pairs.map Prod.fst) + number (pairs.map Prod.snd) + (carry s).toNat) % 256 ^ pairs.length ∧
      (carry last = true ↔
        256 ^ pairs.length ≤ number (pairs.map Prod.fst) + number (pairs.map Prod.snd) + (carry s).toNat)) ∧
    (∀ {s last : System ω} {pairs results}, Steps (Operates build memory io .sbb) s pairs results last →
      results.length = pairs.length ∧
      (number results : Int) =
        ((number (pairs.map Prod.fst) : Int) - number (pairs.map Prod.snd) - (carry s).toNat) % 256 ^ pairs.length ∧
      (carry last = true ↔ number (pairs.map Prod.fst) < number (pairs.map Prod.snd) + (carry s).toNat)) ∧
    (∀ op, op = .adc ∨ op = .sbb → ∀ (s : System ω) pairs, ∃ results last,
      Steps (Operates build memory io op) s pairs results last) ∧
    ∀ {s after : System ω}, Quiet s.bus → Moves (wiring build memory io) s after → Carried s after := by
  refine ⟨?_, ?_, ?_, ?_⟩
  · intro s last pairs results steps
    exact ⟨steps.length, adc_number steps⟩
  · intro s last pairs results steps
    exact ⟨steps.length, sbb_number steps⟩
  · intro op chosen s pairs
    exact steps_exist op chosen s pairs
  · intro s after quiet between
    exact moves_carried quiet between

/-- The carry that comes in ripples through the low byte. -/
theorem multibyte_arithmetic_two_bytes :
    ∃ results last,
      Steps (Operates ⟨true, true⟩ (PlainRam.ramController default)
        (PlainRam.portController ⟨fun _ n => (0, n), fun _ _ n => n⟩) .adc)
        ⟨{ status := 0x03 }, {}, ⟨fun _ => 0, 0⟩⟩ [(0xFE, 0x01), (0x01, 0x00)] results last ∧
      number results = 0x200 ∧ carry last = false := by
  obtain ⟨sums, -, exist, -⟩ := multibyte_arithmetic ⟨true, true⟩ (PlainRam.ramController default)
    (PlainRam.portController ⟨fun _ (n : Nat) => (0, n), fun _ _ n => n⟩)
  obtain ⟨results, last, steps⟩ := exist .adc (.inl rfl) ⟨{ status := 0x03 }, {}, ⟨fun _ => 0, 0⟩⟩
    [(0xFE, 0x01), (0x01, 0x00)]
  obtain ⟨-, sum, out⟩ := sums steps
  exact ⟨results, last, steps, sum.trans (by decide), Bool.eq_false_iff.mpr (mt out.mp (by decide))⟩

end Programs

end MachEmu.Proofs.Multibyte
