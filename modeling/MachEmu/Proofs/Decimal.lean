import MachEmu.Proofs.Multibyte

/-! Decimal numbers of many bytes, two digits to a byte. Each binary addition is
followed by a decimal adjustment, which relies on both carries of the addition. -/

namespace MachEmu.Proofs.Decimal
open Intel8080 Isa8080 StatusByte Arithmetic BusTransactions BusDiscipline Instructions Multibyte

def Packed (b : Byte) : Prop := b.toNat / 16 ≤ 9 ∧ b.toNat % 16 ≤ 9

instance (b : Byte) : Decidable (Packed b) := inferInstanceAs (Decidable (_ ∧ _))

def decimal (b : Byte) : Nat := 10 * (b.toNat / 16) + b.toNat % 16

section Adjustment

def adjustsLow (a status : Byte) : Bool := decide (9 < a.toNat % 16) || (Flags.ofByte status).ac

def adjustsHigh (a status : Byte) : Bool :=
  decide (9 < (if adjustsLow a status then a.toNat + 6 else a.toNat) / 16) || (Flags.ofByte status).cy

def adjustment (a status : Byte) : Byte :=
  (if adjustsLow a status then 6 else 0) + (if adjustsHigh a status then 0x60 else 0)

/-- The carry flag is set by an adjustment of the high digit and is never cleared. -/
theorem daa_run {ω : Type} (w : Wiring ω) (s : System ω) : ∃ after, daa w s = .ok 4 after ∧
    after.cpu.a = s.cpu.a + adjustment s.cpu.a s.cpu.status ∧ carry after = adjustsHigh s.cpu.a s.cpu.status := by
  have low : (decide (9 < (s.cpu.a.extractLsb' 0 4).toNat) || (Flags.ofByte s.cpu.status).ac) =
      adjustsLow s.cpu.a s.cpu.status := by
    rw [BitVec.extractLsb'_toNat]
    rfl
  have high := daa_high s.cpu.a (Flags.ofByte s.cpu.status).ac (Flags.ofByte s.cpu.status).cy
  rw [low] at high
  change _ = adjustsHigh s.cpu.a s.cpu.status at high
  simp only [daa, bind_run, cpu_run, Intel8080.test, test_ofByte, high]
  simp only [daa_low, low]
  cases adjusted : adjustsHigh s.cpu.a s.cpu.status with
  | false =>
    have clear : (Flags.ofByte s.cpu.status).cy = false := (Bool.or_eq_false_iff.mp adjusted).2
    simp [adjustment, adjusted, carry_eq, Flags.ofResult, Intel8080.set, clear]
  | true => simp [adjustment, adjusted, carry_eq, Flags.ofResult, Intel8080.set, Intel8080.assign]

end Adjustment

section Digits
variable (x y : Nat) (c : Bool)

/-- Adjusting a binary sum of two digits and a carry gives a decimal digit and carry. -/
theorem digits_adjusted (first : x / 16 ≤ 9 ∧ x % 16 ≤ 9) (second : y / 16 ≤ 9 ∧ y % 16 ≤ 9) {r z : Nat} {low high : Bool}
    (sum : r = (x + y + c.toNat) % 256)
    (lowAdjusts : low = true ↔ 9 < r % 16 ∨ 16 ≤ x % 16 + y % 16 + c.toNat)
    (highAdjusts : high = true ↔ 9 < (if low then r + 6 else r) / 16 ∨ 256 ≤ x + y + c.toNat)
    (result : z = (r + (if low then 6 else 0) + (if high then 96 else 0)) % 256) :
    (z / 16 ≤ 9 ∧ z % 16 ≤ 9) ∧
      10 * (z / 16) + z % 16 + 100 * high.toNat = (10 * (x / 16) + x % 16) + (10 * (y / 16) + y % 16) + c.toNat := by
  have unit := Bool.toNat_le c
  cases low <;> cases high <;> simp at lowAdjusts highAdjusts result ⊢ <;> omega

end Digits

variable {ω : Type} (build : Build) (memory io : IController ω)

/-- An addition that is followed by an adjustment, with or without a fetch in between. -/
def Decimally (s : System ω) (y : Byte) (after : System ω) : Prop :=
  ∃ sum ready ticks, Operates build memory io .adc s y sum ∧
    (ready = sum ∨ fetch (wiring build memory io) sum = .ok () ready) ∧
    perform ready.cpu .daa (wiring build memory io) ready = .ok ticks after

variable {build memory io} {s last : System ω} {pairs : List (Byte × Byte)} {results : List Byte}

theorem fetch_leaves {sum ready : System ω} (quiet : Quiet sum.bus)
    (ran : fetch (wiring build memory io) sum = .ok () ready) :
    ready.cpu.a = sum.cpu.a ∧ ready.cpu.status = sum.cpu.status := by
  obtain ⟨self, ⟨addr, data, control⟩, world⟩ := sum
  obtain rfl : control = 0#8 := quiet
  simp only [fetch, bind_run, cpu_run, readFromAddress_memory] at ran
  cases called : memory.read self.pc world with
  | error fault world => simp [called] at ran
  | ok opcode world =>
    simp only [called, receive_run, modifyCpu_run] at ran
    cases ran
    exact ⟨rfl, rfl⟩

theorem Decimally.adjusts {y : Byte} {after : System ω} (step : Decimally build memory io s y after) (quiet : Quiet s.bus)
    (first : Packed s.cpu.a) (second : Packed y) :
    Packed after.cpu.a ∧
      decimal after.cpu.a + 100 * (carry after).toNat = decimal s.cpu.a + decimal y + (carry s).toNat := by
  obtain ⟨sum, ready, ticks, operates, begun, ran⟩ := step
  obtain ⟨added, flags, clear⟩ := operates.adc quiet
  have same : ready.cpu.a = sum.cpu.a ∧ ready.cpu.status = sum.cpu.status := by
    rcases begun with rfl | fetched
    · exact ⟨rfl, rfl⟩
    · exact fetch_leaves clear fetched
  obtain ⟨adjusted, done, result, out⟩ := daa_run (wiring build memory io) ready
  cases done.symm.trans ran
  rw [same.1, same.2] at result out
  have x := s.cpu.a.isLt
  have operand := y.isLt
  have value : sum.cpu.a.toNat = (s.cpu.a.toNat + y.toNat + (carry s).toNat) % 256 := by
    rw [added]
    cases carry s <;> simp
  have half : (Flags.ofByte sum.cpu.status).ac = decide (16 ≤ s.cpu.a.toNat % 16 + y.toNat % 16 + (carry s).toNat) := by
    rw [flags, ofByte_addStatus]
    simp [Flags.ofResult, BitVec.carry]
  have full : (Flags.ofByte sum.cpu.status).cy = decide (256 ≤ s.cpu.a.toNat + y.toNat + (carry s).toNat) := by
    rw [flags, ofByte_addStatus]
    simp [Flags.ofResult, BitVec.carry, Nat.mod_eq_of_lt x, Nat.mod_eq_of_lt operand]
  have low : adjustsLow sum.cpu.a sum.cpu.status = true ↔
      9 < sum.cpu.a.toNat % 16 ∨ 16 ≤ s.cpu.a.toNat % 16 + y.toNat % 16 + (carry s).toNat := by
    simp [adjustsLow, half]
  have high : adjustsHigh sum.cpu.a sum.cpu.status = true ↔
      9 < (if adjustsLow sum.cpu.a sum.cpu.status then sum.cpu.a.toNat + 6 else sum.cpu.a.toNat) / 16 ∨
        256 ≤ s.cpu.a.toNat + y.toNat + (carry s).toNat := by
    simp [adjustsHigh, full]
  rw [out]
  apply digits_adjusted s.cpu.a.toNat y.toNat (carry s) first second value low high
  rw [result, adjustment, BitVec.toNat_add]
  cases adjustsLow sum.cpu.a sum.cpu.status <;> cases adjustsHigh sum.cpu.a sum.cpu.status <;> simp [Nat.add_assoc]

/-- The value of the bytes of a packed number, the least significant first. -/
def packedNumber (bytes : List Byte) : Nat := Nat.ofDigits 100 (bytes.map decimal)

theorem decimal_lt {b : Byte} (packed : Packed b) : decimal b < 100 := by
  obtain ⟨high, low⟩ := packed
  rw [decimal]
  omega

theorem steps_packed (steps : Steps (Decimally build memory io) s pairs results last)
    (operands : ∀ pair ∈ pairs, Packed pair.1 ∧ Packed pair.2) : ∀ r ∈ results, Packed r := by
  induction steps with
  | nil s => exact List.forall_mem_nil _
  | cons carried step rest ih =>
    obtain ⟨first, others⟩ := List.forall_mem_cons.mp operands
    exact List.forall_mem_cons.mpr ⟨(step.adjusts carried.quiet first.1 first.2).1, ih others⟩

theorem packed_number (steps : Steps (Decimally build memory io) s pairs results last)
    (operands : ∀ pair ∈ pairs, Packed pair.1 ∧ Packed pair.2) :
    packedNumber results =
        (packedNumber (pairs.map Prod.fst) + packedNumber (pairs.map Prod.snd) + (carry s).toNat) % 100 ^ pairs.length ∧
      (carry last = true ↔
        100 ^ pairs.length ≤ packedNumber (pairs.map Prod.fst) + packedNumber (pairs.map Prod.snd) + (carry s).toNat) := by
  have chain : Ripple.Chain (Ripple.Adds 100) (pairs.map fun pair => (decimal pair.1, decimal pair.2)) (carry s)
      (results.map decimal) (carry last) :=
    steps.ripple operands fun quiet first second step =>
      ⟨decimal_lt (step.adjusts quiet first second).1, (step.adjusts quiet first second).2⟩
  simpa [packedNumber, Function.comp_def] using Ripple.adds chain (by decide)

theorem steps_exist (s : System ω) (pairs : List (Byte × Byte)) :
    ∃ results last, Steps (Decimally build memory io) s pairs results last := by
  apply Steps.exists
  intro s x y
  let loaded : System ω := ⟨{ s.cpu with a := x, b := y }, {}, s.world⟩
  obtain ⟨sum, added⟩ := register_accepted (wiring build memory io) .adc (.inl rfl) .b (by decide) loaded
  obtain ⟨next, adjusted, -⟩ := daa_run (wiring build memory io) sum
  exact ⟨loaded, next, ⟨rfl, rfl⟩, rfl, sum, sum, _, .register .b (by decide) added, .inl rfl, adjusted⟩

/-- The sums of packed numbers of any length, with the carry that comes in and goes out. -/
theorem multidigit_addition (build : Build) (memory io : IController ω) :
    (∀ {s last : System ω} {pairs results}, Steps (Decimally build memory io) s pairs results last →
      (∀ pair ∈ pairs, Packed pair.1 ∧ Packed pair.2) →
      results.length = pairs.length ∧ (∀ r ∈ results, Packed r) ∧
      packedNumber results =
        (packedNumber (pairs.map Prod.fst) + packedNumber (pairs.map Prod.snd) + (carry s).toNat) % 100 ^ pairs.length ∧
      (carry last = true ↔
        100 ^ pairs.length ≤ packedNumber (pairs.map Prod.fst) + packedNumber (pairs.map Prod.snd) + (carry s).toNat)) ∧
    ∀ (s : System ω) pairs, ∃ results last, Steps (Decimally build memory io) s pairs results last := by
  refine ⟨?_, steps_exist⟩
  intro s last pairs results steps operands
  exact ⟨steps.length, steps_packed steps operands, packed_number steps operands⟩

/-- 2985 and 4936 are 7921. -/
theorem multidigit_addition_four_digits :
    ∃ results last,
      Steps (Decimally ⟨true, true⟩ (PlainRam.ramController default)
        (PlainRam.portController ⟨fun _ n => (0, n), fun _ _ n => n⟩))
        ⟨{}, {}, ⟨fun _ => 0, 0⟩⟩ [(0x85, 0x36), (0x29, 0x49)] results last ∧
      packedNumber results = 7921 ∧ carry last = false := by
  obtain ⟨sums, exist⟩ := multidigit_addition ⟨true, true⟩ (PlainRam.ramController default)
    (PlainRam.portController ⟨fun _ (n : Nat) => (0, n), fun _ _ n => n⟩)
  obtain ⟨results, last, steps⟩ := exist ⟨{}, {}, ⟨fun _ => 0, 0⟩⟩ [(0x85, 0x36), (0x29, 0x49)]
  obtain ⟨-, -, sum, out⟩ := sums steps (by simp [Packed])
  have total : packedNumber [0x85, 0x29] + packedNumber [0x36, 0x49] = 7921 := by
    simp [packedNumber, decimal, Nat.ofDigits_cons]
  simp only [List.map_cons, List.map_nil, total] at sum out
  exact ⟨results, last, steps, sum, Bool.eq_false_iff.mpr (mt out.mp (by decide))⟩

end MachEmu.Proofs.Decimal
