import MachEmu.Cpu
import MachEmu.Lib.Isa8080

/-! The status byte against the flags of the instruction set, and the byte and
word arithmetic in which the two descriptions differ. -/

namespace MachEmu.Proofs.StatusByte
open Intel8080 Isa8080

/-- `S Z 0 AC 0 P 1 C`: bit 1 is set, bits 3 and 5 are clear. -/
def StatusForm (status : Byte) : Prop := status &&& 0x2A = 0x02

instance (status : Byte) : Decidable (StatusForm status) := inferInstanceAs (Decidable (_ = _))

theorem toByte_ofByte : ∀ status : Byte, StatusForm status → (Flags.ofByte status).toByte = status := by
  decide

/-- Assigning a flag keeps the form and replaces exactly that flag. -/
@[simp] theorem form_assign (status : Byte) (flag : Condition) (value : Bool) :
    StatusForm (Bits.assign status flag.bit value) ↔ StatusForm status := by
  have kept : ∀ (status : Byte) (value : Bool), ∀ bit ∈ [0, 2, 4, 6, 7],
      Bits.assign status bit value &&& 0x2A = status &&& 0x2A := by decide
  have inside : flag.bit ∈ [0, 2, 4, 6, 7] := by cases flag <;> decide
  simp only [StatusForm, kept status value flag.bit inside]

private theorem test_assign (status : Byte) (value : Bool) (bit other : Nat) (inside : other < 8) :
    (Bits.assign status bit value).getLsbD other = if other = bit then value else status.getLsbD other := by
  cases value <;> by_cases same : other = bit <;> simp [Bits.assign, same]
  all_goals omega

@[simp] theorem ofByte_assign (status : Byte) (flag : Condition) (value : Bool) :
    Flags.ofByte (Bits.assign status flag.bit value) =
      match flag with
      | .carryFlag => { Flags.ofByte status with cy := value }
      | .parityFlag => { Flags.ofByte status with p := value }
      | .auxCarryFlag => { Flags.ofByte status with ac := value }
      | .zeroFlag => { Flags.ofByte status with z := value }
      | .signFlag => { Flags.ofByte status with s := value } := by
  cases flag <;> simp (disch := decide) only [Flags.ofByte, Condition.bit, test_assign] <;> simp

/-- Every flag the source tests is the flag of that name. -/
theorem test_ofByte (status : Byte) (flag : Condition) :
    Bits.test status flag.bit =
      match flag with
      | .carryFlag => (Flags.ofByte status).cy
      | .parityFlag => (Flags.ofByte status).p
      | .auxCarryFlag => (Flags.ofByte status).ac
      | .zeroFlag => (Flags.ofByte status).z
      | .signFlag => (Flags.ofByte status).s := by
  cases flag <;> rfl

/-- The mask that follows `POP PSW`. -/
theorem masked_form : ∀ byte : Byte, StatusForm (byte &&& 0xD7#8 ||| 0x02#8) := by
  decide

theorem ofByte_masked : ∀ byte : Byte, Flags.ofByte (byte &&& 0xD7#8 ||| 0x02#8) = Flags.ofByte byte := by
  decide

@[simp] theorem parity_eq : ∀ r : Byte, Intel8080.parity r = Isa8080.parity r := by
  decide

@[simp] theorem sign_eq (r : Byte) : sign r = r.msb := by
  simp [sign, Bits.test, BitVec.msb_eq_getLsbD_last]

@[simp] theorem zero_eq (r : Byte) : zero r = (r == 0) := rfl

section Words
variable (hi low : Byte) (value : Word)

@[simp] theorem uint16_eq : uint16 hi low = hi ++ low := by
  apply BitVec.eq_of_getLsbD_eq
  intro i inside
  simp only [uint16, BitVec.getLsbD_or, BitVec.getLsbD_shiftLeft, BitVec.getLsbD_setWidth, BitVec.getLsbD_append]
  by_cases below : i < 8
  · simp [below, inside]
  · have clear : low.getLsbD i = false := BitVec.getLsbD_of_ge low i (by omega)
    simp [below, clear, inside, show i - 8 < 16 by omega]

@[simp] theorem high_append : (hi ++ low).extractLsb' 8 8 = hi :=
  BitVec.extractLsb'_append_eq_left

@[simp] theorem low_append : (hi ++ low).extractLsb' 0 8 = low :=
  BitVec.extractLsb'_append_eq_right

@[simp] theorem high_byte : (value >>> 8).extractLsb' 0 8 = value.extractLsb' 8 8 := by
  apply BitVec.eq_of_getLsbD_eq
  intro i inside
  simp [inside]

@[simp] theorem low_byte : value.setWidth 8 = value.extractLsb' 0 8 := by
  apply BitVec.eq_of_getLsbD_eq
  intro i inside
  simp [inside]

@[simp] theorem append_bytes : (value.extractLsb' 8 8 : Byte) ++ value.extractLsb' 0 8 = value := by
  apply BitVec.eq_of_getLsbD_eq
  intro i inside
  simp only [BitVec.getLsbD_append, BitVec.getLsbD_extractLsb']
  by_cases below : i < 8
  · simp [below]
  · simp [below, show i - 8 < 8 by omega, show 8 + (i - 8) = i by omega]

theorem pred_eq : value + 0xFFFF#16 = value - 1#16 := by
  rw [BitVec.sub_eq_add_neg]
  rfl

theorem pred_pred : value - 1#16 - 1#16 = value - 2#16 := by
  simp only [BitVec.sub_eq_add_neg, BitVec.add_assoc]
  rfl

end Words

end MachEmu.Proofs.StatusByte
