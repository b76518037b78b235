import Mathlib.Data.BitVec
import Mathlib.Tactic.Ring

/-! Stacks that grow downwards in a memory whose addresses wrap. A frame is a pair of
values, the second of them at the stack pointer. -/

namespace RingStack

variable {w : Nat} {β : Type} {memory other : BitVec w → β} {sp address distance : BitVec w}
  {frames : List (β × β)} {depth : Nat}

/-- One of the addresses that so many frames take. -/
def Live (sp : BitVec w) (depth : Nat) (address : BitVec w) : Prop := (address - sp).toNat < 2 * depth

def Stacked (memory : BitVec w → β) (sp : BitVec w) : List (β × β) → Prop
  | [] => True
  | (hi, low) :: frames => memory sp = low ∧ memory (sp + 1) = hi ∧ Stacked memory (sp + 2) frames

theorem live_low : Live sp (depth + 1) sp := by
  rw [Live, BitVec.sub_self, BitVec.toNat_zero]
  omega

theorem live_high : Live sp (depth + 1) (sp + 1) := by
  have apart : sp + 1 - sp = 1 := by ring
  have small : (1 : BitVec w).toNat ≤ 1 := Nat.mod_le 1 (2 ^ w)
  rw [Live, apart]
  omega

/-- What is live below the top is live. -/
theorem Live.below (live : Live (sp + 2) depth address) : Live sp (depth + 1) address := by
  have split : address - sp = address - (sp + 2) + 2 := by ring
  have small : (2 : BitVec w).toNat ≤ 2 := Nat.mod_le 2 (2 ^ w)
  have most : (address - sp).toNat ≤ (address - (sp + 2)).toNat + 2 := by
    rw [split, BitVec.toNat_add]
    exact (Nat.mod_le _ _).trans (Nat.add_le_add_left small _)
  unfold Live at live ⊢
  omega

/-- The addresses before the stack pointer are free until the frames come round to them. -/
theorem not_live_before (positive : 0 < distance.toNat) (room : 2 * depth + distance.toNat ≤ 2 ^ w) :
    ¬ Live sp depth (sp - distance) := by
  have apart : sp - distance - sp = -distance := by ring
  have less : 2 ^ w - distance.toNat < 2 ^ w := Nat.sub_lt (Nat.two_pow_pos w) positive
  rw [Live, apart, BitVec.toNat_neg, Nat.mod_eq_of_lt less]
  omega

theorem Stacked.congr (stacked : Stacked memory sp frames)
    (same : ∀ address, Live sp frames.length address → other address = memory address) :
    Stacked other sp frames := by
  induction frames generalizing sp with
  | nil => trivial
  | cons frame frames ih =>
    obtain ⟨low, high, rest⟩ := stacked
    exact ⟨(same _ live_low).trans low, (same _ live_high).trans high, ih rest fun address live => same address live.below⟩

/-- A frame is stored beside the others as long as there is room for it. -/
theorem Stacked.push (stacked : Stacked memory sp frames) (wide : 1 < w)
    (room : 2 * (frames.length + 1) ≤ 2 ^ w) (hi low : β) :
    Stacked (Function.update (Function.update memory (sp - 1) hi) (sp - 2) low) (sp - 2) ((hi, low) :: frames) := by
  have four : 2 ^ 2 ≤ 2 ^ w := Nat.pow_le_pow_right Nat.two_pos wide
  have less : 2 < 2 ^ w := by omega
  have one : (1 : BitVec w).toNat = 1 := Nat.mod_eq_of_lt (Nat.lt_of_succ_lt less)
  have two : (2 : BitVec w).toNat = 2 := Nat.mod_eq_of_lt less
  have above : sp - 2 + 1 = sp - 1 := by ring
  have back : sp - 2 + 2 = sp := by ring
  have distinct : sp - 1 ≠ sp - 2 := by
    intro same
    have equal : (1 : BitVec w) = 2 := sub_right_injective same
    rw [← equal, one] at two
    cases two
  refine ⟨Function.update_self .., ?_, ?_⟩
  · rw [above, Function.update_of_ne distinct, Function.update_self]
  · rw [back]
    apply stacked.congr
    intro address live
    have high : address ≠ sp - 1 := by
      rintro rfl
      exact not_live_before (by omega) (by omega) live
    have lower : address ≠ sp - 2 := by
      rintro rfl
      exact not_live_before (by omega) (by omega) live
    rw [Function.update_of_ne lower, Function.update_of_ne high]

end RingStack
