import MachEmu.Proofs.Instructions
import Mathlib.Tactic.IntervalCases

/-! `Execute` on plain RAM is the reference instruction set. The hand-written
switch picks the helper the bit-field decoder asks for, and that helper has the
effect of the decoded instruction. -/

namespace MachEmu.Proofs.InstructionSet
open Intel8080 Isa8080 StatusByte BusTransactions PlainRam Instructions

/-- The encodings the manual leaves without an instruction. -/
def unassigned : List Byte := [0x08, 0x10, 0x18, 0x20, 0x28, 0x30, 0x38, 0xCB, 0xD9, 0xDD, 0xED, 0xFD]

theorem decode_none : ∀ opcode : Byte, decode opcode = none ↔ opcode ∈ unassigned := by
  decide

theorem decode_hlt : ∀ opcode : Byte, decode opcode = some .hlt ↔ opcode = 0x76 := by
  decide

/-- Each of the 256 cases names the helper for the decoded instruction. -/
theorem switch_eq {ω : Type} (self : Intel8080) :
    switch (ω := ω) self = match decode self.opcode with
      | some instr => perform self instr
      | none => notImplemented := by
  obtain ⟨n, bound, found⟩ : ∃ n < 256, self.opcode = BitVec.ofNat 8 n :=
    ⟨self.opcode.toNat, self.opcode.isLt, by simp⟩
  obtain ⟨a, b, c, d, e, h, l, pc, sp, status, iff, opcode⟩ := self
  dsimp only at found ⊢
  subst found
  interval_cases n <;> rfl

variable {δ : Type} (build : Build) (uuid : Uuid) (io : Ports δ) (self : Intel8080) (addr : Word) (data : Byte)
  (mem : Word → Byte) (state : δ)

theorem execute_fetches :
    execute (ramWiring build uuid io) ⟨self, ⟨addr, data, 0#8⟩, ⟨mem, state⟩⟩ =
      switch { self with opcode := mem self.pc } (ramWiring build uuid io)
        ⟨{ self with opcode := mem self.pc }, idle, ⟨mem, state⟩⟩ := by
  simp [execute, fetch, ControlBus.receive, idle]

theorem view_opcode (bus : SystemBus) (opcode : Byte) :
    view ⟨{ self with opcode }, bus, ⟨mem, state⟩⟩ = view ⟨self, ⟨addr, data, 0#8⟩, ⟨mem, state⟩⟩ := rfl

theorem execute_performs (instr : Instr) (form : StatusForm self.status) (decoded : decode (mem self.pc) = some instr)
    (runs : instr ≠ .hlt) :
    Simulates (ramWiring build uuid io) execute ⟨self, ⟨addr, data, 0#8⟩, ⟨mem, state⟩⟩
      (charge (Flags.ofByte self.status) instr)
      (exec io.device instr (view ⟨self, ⟨addr, data, 0#8⟩, ⟨mem, state⟩⟩)) := by
  have assigned : wellFormed instr = true := by simpa [decoded] using decode_wellFormed (mem self.pc)
  have performed := performs build uuid io instr assigned runs { self with opcode := mem self.pc } mem state form decoded
  simp only [Simulates] at performed ⊢
  rw [execute_fetches, switch_eq]
  simp only [decoded]
  rw [← view_opcode self addr data mem state idle (mem self.pc)]
  exact performed

theorem execute_refines (form : StatusForm self.status) (assigned : mem self.pc ∉ unassigned)
    (runs : mem self.pc ≠ 0x76) :
    ∃ taken after,
      execute (ramWiring build uuid io) ⟨self, ⟨addr, data, 0#8⟩, ⟨mem, state⟩⟩ = .ok taken after ∧
      Isa8080.step io.device (view ⟨self, ⟨addr, data, 0#8⟩, ⟨mem, state⟩⟩) = some (view after) ∧
      StatusForm after.cpu.status ∧ after.bus = idle := by
  obtain ⟨instr, decoded⟩ : ∃ instr, decode (mem self.pc) = some instr :=
    Option.ne_none_iff_exists'.mp (mt (decode_none (mem self.pc)).mp assigned)
  have running : instr ≠ .hlt := by
    rintro rfl
    exact runs ((decode_hlt (mem self.pc)).mp decoded)
  have simulated := execute_performs build uuid io self addr data mem state instr form decoded running
  cases ran : execute (ramWiring build uuid io) ⟨self, ⟨addr, data, 0#8⟩, ⟨mem, state⟩⟩ with
  | error fault after => simp [Simulates, ran] at simulated
  | ok taken after =>
    simp only [Simulates, ran] at simulated
    obtain ⟨-, expected, formed, quiet⟩ := simulated
    refine ⟨taken, after, rfl, ?_, formed, quiet⟩
    rw [expected, Isa8080.step]
    exact congrArg (Option.map _) decoded

/-- A push wraps from the bottom of the address space to its top. -/
theorem execute_refines_push :
    ∃ taken after,
      execute (ramWiring ⟨true, true⟩ default ⟨fun _ n => (0#8, n), fun _ _ n => n + 1⟩)
        ⟨{ pc := 0xFFFF, sp := 1 }, ⟨0x1234, 0x56, 0#8⟩, ⟨fun _ => 0xC5, 0⟩⟩ = .ok taken after ∧
      Isa8080.step (Ports.device ⟨fun _ n => (0#8, n), fun _ _ n => n + 1⟩)
        (view ⟨{ pc := 0xFFFF, sp := 1 }, ⟨0x1234, 0x56, 0#8⟩, ⟨fun _ => 0xC5, (0 : Nat)⟩⟩) = some (view after) ∧
      StatusForm after.cpu.status ∧ after.bus = idle :=
  execute_refines _ _ _ _ _ _ _ _ (by decide) (by decide) (by decide)

end MachEmu.Proofs.InstructionSet
