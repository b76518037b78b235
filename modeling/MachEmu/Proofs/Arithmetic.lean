import MachEmu.Proofs.StatusByte
import MachEmu.Proofs.BusTransactions

/-! The adder every arithmetic instruction goes through, against the carries and
borrows of the instruction set. -/

namespace MachEmu.Proofs.Arithmetic
open Intel8080 Isa8080 StatusByte BusTransactions

variable {ω : Type} (w : Wiring ω) (s : System ω) (lhs rhs : Byte)

/-- A carry as the addend it contributes. -/
abbrev addend (c : Bool) : Byte := (BitVec.ofBool c).setWidth 8

theorem carryValue_eq (c : Bool) : carryValue c = addend c := by
  cases c <;> rfl

/-- The status byte `Add` leaves behind. -/
def addStatus (status : Byte) (c setCarryFlag : Bool) : Byte :=
  let result := lhs + rhs + addend c
  let status := if setCarryFlag then Bits.assign status Condition.carryFlag.bit (BitVec.carry 8 lhs rhs c) else status
  let status := Bits.assign status Condition.auxCarryFlag.bit (BitVec.carry 4 lhs rhs c)
  let status := Bits.assign status Condition.zeroFlag.bit (result == 0)
  let status := Bits.assign status Condition.signFlag.bit result.msb
  Bits.assign status Condition.parityFlag.bit (Isa8080.parity result)

@[simp] theorem form_addStatus (status : Byte) (c setCarryFlag : Bool) :
    StatusForm (addStatus lhs rhs status c setCarryFlag) ↔ StatusForm status := by
  cases setCarryFlag <;> simp [addStatus]

@[simp] theorem ofByte_addStatus (status : Byte) (c setCarryFlag : Bool) :
    Flags.ofByte (addStatus lhs rhs status c setCarryFlag) =
      .ofResult (lhs + rhs + addend c) (BitVec.carry 4 lhs rhs c)
        (if setCarryFlag then BitVec.carry 8 lhs rhs c else (Flags.ofByte status).cy) := by
  cases setCarryFlag <;> simp [addStatus, Flags.ofResult]

private theorem carry_out (c : Bool) :
    decide (lhs.toNat + rhs.toNat + (addend c).toNat > 0xFF) = BitVec.carry 8 lhs rhs c := by
  have first := lhs.isLt
  have second := rhs.isLt
  cases c <;> simp [BitVec.carry] <;> omega

private theorem half_carry (c : Bool) :
    decide ((lhs &&& 0x0F).toNat + (rhs &&& 0x0F).toNat + (addend c).toNat > 0x0F) = BitVec.carry 4 lhs rhs c := by
  have nibble (x : Byte) : (x &&& 0x0F).toNat = x.toNat % 2 ^ 4 := Nat.and_two_pow_sub_one_eq_mod x.toNat 4
  have carried : (addend c).toNat = c.toNat := by cases c <;> rfl
  rw [nibble, nibble, carried, BitVec.carry, decide_eq_decide]
  omega

private theorem sum_result (c : Bool) :
    BitVec.ofNat 8 (lhs.toNat + rhs.toNat + (addend c).toNat) = lhs + rhs + addend c := by
  apply BitVec.eq_of_toNat_eq
  simp

theorem add_run (c setCarryFlag : Bool) :
    (add lhs rhs (addend c) setCarryFlag : CpuM ω Byte) w s = .ok (lhs + rhs + addend c)
      { s with cpu := { s.cpu with
        status := addStatus lhs rhs s.cpu.status c setCarryFlag
        pc := s.cpu.pc + 1 } } := by
  obtain ⟨⟨a, b, c, d, e, h, l, pc, sp, status, iff, opcode⟩, bus, world⟩ := s
  cases setCarryFlag <;>
    simp only [add, sum_result, half_carry, carry_out, Bool.false_eq_true, ite_false, ite_true, bind_run, pure_run,
      modifyCpu_run, nextPc_run, Intel8080.assign, addStatus, parity_eq, sign_eq, zero_eq]

@[simp] theorem add_carry_run (c setCarryFlag : Bool) :
    (add lhs rhs (carryValue c) setCarryFlag : CpuM ω Byte) w s = .ok (lhs + rhs + addend c)
      { s with cpu := { s.cpu with
        status := addStatus lhs rhs s.cpu.status c setCarryFlag
        pc := s.cpu.pc + 1 } } := by
  rw [carryValue_eq, add_run]

@[simp] theorem add_zero_run (setCarryFlag : Bool) :
    (add lhs rhs 0#8 setCarryFlag : CpuM ω Byte) w s = .ok (lhs + rhs)
      { s with cpu := { s.cpu with
        status := addStatus lhs rhs s.cpu.status false setCarryFlag
        pc := s.cpu.pc + 1 } } := by
  simpa using add_run w s lhs rhs false setCarryFlag

private theorem complement_sum (b : Bool) : lhs + ~~~rhs + addend (!b) = lhs - rhs - addend b := by
  have first := lhs.isLt
  have second := rhs.isLt
  apply BitVec.eq_of_toNat_eq
  cases b <;> simp [BitVec.toNat_add, BitVec.toNat_sub, BitVec.toNat_not] <;> omega

private theorem borrow_out (b : Bool) :
    (!BitVec.carry 8 lhs (~~~rhs) (!b)) = decide (lhs.toNat < rhs.toNat + b.toNat) := by
  have first := lhs.isLt
  have second := rhs.isLt
  rw [Bool.eq_iff_iff]
  cases b <;> simp [BitVec.carry, BitVec.toNat_not] <;> omega

def subStatus (status : Byte) (b : Bool) : Byte :=
  Bits.assign (addStatus lhs (~~~rhs) status (!b) true) Condition.carryFlag.bit
    (decide (lhs.toNat < rhs.toNat + b.toNat))

@[simp] theorem form_subStatus (status : Byte) (b : Bool) :
    StatusForm (subStatus lhs rhs status b) ↔ StatusForm status := by
  simp [subStatus]

@[simp] theorem ofByte_subStatus (status : Byte) (b : Bool) :
    Flags.ofByte (subStatus lhs rhs status b) =
      .ofResult (lhs - rhs - addend b) (BitVec.carry 4 lhs (~~~rhs) (!b))
        (decide (lhs.toNat < rhs.toNat + b.toNat)) := by
  simp only [subStatus, ofByte_assign, ofByte_addStatus, complement_sum, Flags.ofResult]

theorem sub_run (r : Byte) (b : Bool) :
    (sub r (addend b) : CpuM ω Byte) w s = .ok (s.cpu.a - r - addend b)
      { s with cpu := { s.cpu with status := subStatus s.cpu.a r s.cpu.status b, pc := s.cpu.pc + 1 } } := by
  have inverted : (addend b == 0) = !b := by cases b <;> rfl
  have flag : Bits.test (addStatus s.cpu.a (~~~r) s.cpu.status (!b) true) Condition.carryFlag.bit =
      BitVec.carry 8 s.cpu.a (~~~r) (!b) := by
    rw [test_ofByte, ofByte_addStatus]
    rfl
  simp only [sub, inverted, bind_run, pure_run, cpu_run, modifyCpu_run, add_carry_run, Intel8080.assign,
    Intel8080.test, flag,
    borrow_out, complement_sum, subStatus]

@[simp] theorem sub_carry_run (r : Byte) (b : Bool) :
    (sub r (carryValue b) : CpuM ω Byte) w s = .ok (s.cpu.a - r - addend b)
      { s with cpu := { s.cpu with status := subStatus s.cpu.a r s.cpu.status b, pc := s.cpu.pc + 1 } } := by
  rw [carryValue_eq, sub_run]

@[simp] theorem sub_zero_run (r : Byte) :
    (sub r 0#8 : CpuM ω Byte) w s = .ok (s.cpu.a - r)
      { s with cpu := { s.cpu with status := subStatus s.cpu.a r s.cpu.status false, pc := s.cpu.pc + 1 } } := by
  simpa using sub_run w s r false

/-- Decrementing adds `0xFF`, which is also how the half carry is formed. -/
theorem decrement : lhs + 255#8 = lhs - 1#8 := by
  rw [BitVec.sub_eq_add_neg]
  rfl

theorem decrement_half_carry : BitVec.carry 4 lhs 255#8 false = BitVec.carry 4 lhs 254#8 true := by
  revert lhs
  decide

section DoubleAdd
variable (x y : Word)

theorem dad_high : ((x.setWidth 32 + y.setWidth 32) >>> 8).setWidth 8 = (y + x).extractLsb' 8 8 := by
  apply BitVec.eq_of_toNat_eq
  simp only [BitVec.toNat_setWidth, BitVec.toNat_ushiftRight, BitVec.toNat_add, BitVec.extractLsb'_toNat,
    Nat.shiftRight_eq_div_pow]
  omega

theorem dad_low : (x.setWidth 32 + y.setWidth 32).setWidth 8 = (y + x).extractLsb' 0 8 := by
  apply BitVec.eq_of_toNat_eq
  simp only [BitVec.toNat_setWidth, BitVec.toNat_add, BitVec.extractLsb'_toNat, Nat.shiftRight_zero]
  omega

theorem dad_carry : decide (65535#32 < x.setWidth 32 + y.setWidth 32) = BitVec.carry 16 y x false := by
  rw [Bool.eq_iff_iff]
  simp only [BitVec.carry, decide_eq_true_eq, BitVec.lt_def, BitVec.toNat_add, BitVec.toNat_setWidth,
    BitVec.toNat_ofNat, Bool.toNat_false]
  omega

end DoubleAdd

theorem test_seven (r : Byte) : Bits.test r 7 = r.msb := by
  simp [Bits.test, BitVec.msb_eq_getLsbD_last]

theorem test_zero (r : Byte) : Bits.test r 0 = r[0] := by
  simp [Bits.test]

/-- The half carry of a conjunction is the disjunction of the third bits. -/
theorem and_half_carry (x y : Byte) : ((x ||| y) &&& 8#8 != 0#8) = (x[3] || y[3]) := by
  have third : ∀ r : Byte, (r &&& 8#8 != 0#8) = r[3] := by decide
  rw [third, BitVec.getElem_or]

theorem rotate_left : ∀ r : Byte, Bits.assign (r <<< 1) 0 r.msb = r.rotateLeft 1 := by
  decide

theorem rotate_right : ∀ r : Byte, Bits.assign (r >>> 1) 7 r[0] = r.rotateRight 1 := by
  decide

theorem rotate_left_carry : ∀ (r : Byte) (carry : Bool),
    Bits.assign (r <<< 1) 0 carry = r.extractLsb' 0 7 ++ BitVec.ofBool carry := by
  decide

theorem rotate_right_carry : ∀ (r : Byte) (carry : Bool),
    Bits.assign (r >>> 1) 7 carry = BitVec.ofBool carry ++ r.extractLsb' 1 7 := by
  decide

/-- The conditions under which `Daa` adjusts each digit, read off the unadjusted accumulator. -/
theorem daa_low : ∀ r : Byte, decide (r &&& 0x0F > 0x09) = decide (9 < (r.extractLsb' 0 4).toNat) := by
  decide

theorem daa_high : ∀ (r : Byte) (ac cy : Bool),
    (decide (r >>> 4 > 0x09) || cy || (decide (r >>> 4 ≥ 9) && decide (r &&& 0x0F > 9))) =
      (decide (9 < (if decide (9 < (r.extractLsb' 0 4).toNat) || ac then r.toNat + 6 else r.toNat) / 16) || cy) := by
  decide

end MachEmu.Proofs.Arithmetic
