import MachEmu.TestControllers
import MachEmu.Proofs.Guests
import Mathlib.Data.List.GetD
import Mathlib.Tactic.IntervalCases

/-! Programs that pass the time, as the one that the tests take a second with: a register
is counted down over a stretch of `NOP`s. -/

namespace MachEmu.Proofs.Delays
open Isa8080 StatusByte PlainRam Instructions
open Machine Loop Traces Timeline Conversations Reference Times Lockstep Guests

variable {δ γ : Type}

section Programs

/-- `MVI A`, the stretch, `DCR A`, `JNZ` to the stretch and `JMP` to the exit. -/
def delayCode (base exit : Word) (count : Byte) (nops : Nat) : List Byte :=
  [0x3E, count] ++ List.replicate nops 0x00 ++
    [0x3D, 0xC2, (base + 2).extractLsb' 0 8, (base + 2).extractLsb' 8 8, 0xC3, exit.extractLsb' 0 8, exit.extractLsb' 8 8]

/-- The program is in memory, and its exit is not in it. -/
structure Delay (mem : Word → Byte) (base exit : Word) (count : Byte) (nops : Nat) : Prop where
  placed : ∀ {i byte}, (delayCode base exit count nops)[i]? = some byte → mem (base + BitVec.ofNat 16 i) = byte
  apart : ∀ i < nops + 9, base + BitVec.ofNat 16 i ≠ exit

def passes (count : Byte) : Nat := if count = 0 then 256 else count.toNat

/-- The readings of a meter over a pass of the loop, and over the program. -/
def passPrice (spend : γ → Nat → γ) (nops : Nat) (reading : γ) : γ := spend (spend ((spend · 4)^[nops] reading) 5) 10

def delayPrice (spend : γ → Nat → γ) (count : Byte) (nops : Nat) (reading : γ) : γ :=
  spend ((passPrice spend nops)^[passes count] (spend reading 7)) 10

def spending (spend : γ → Nat → γ) (flags : Flags) (instr : Instr) (reading : γ) : γ :=
  spend reading (charge flags instr).toNat

variable {mem : Word → Byte} {base exit : Word} {count a : Byte} {nops offset : Nat} {device : Device δ}
  {spend : γ → Nat → γ}
  {reading : γ} {s : State δ}

structure At (mem : Word → Byte) (base : Word) (offset : Nat) (a : Byte) (s : State δ) : Prop where
  mem : s.mem = mem
  pc : s.pc = base + BitVec.ofNat 16 offset
  a : s.a = a
  masked : s.inte = false

theorem At.fetch (at' : At mem base offset a s) (delay : Delay mem base exit count nops) (ahead : Nat) {byte : Byte}
    (there : (delayCode base exit count nops)[offset + ahead]? = some byte) :
      s.mem (s.pc + BitVec.ofNat 16 ahead) = byte := by
  rw [at'.mem, at'.pc, BitVec.add_assoc, ← BitVec.ofNat_add]
  exact delay.placed there

theorem At.ahead (at' : At mem base offset a s) (ahead : Nat) :
    s.pc + BitVec.ofNat 16 ahead = base + BitVec.ofNat 16 (offset + ahead) := by
  rw [at'.pc, BitVec.add_assoc, ← BitVec.ofNat_add]

theorem At.leads {goal : γ → State δ → Prop} (at' : At mem base offset a s) (delay : Delay mem base exit count nops)
    (opcode : Byte)
    (instr : Instr) (there : (delayCode base exit count nops)[offset]? = some opcode) (inside : offset < nops + 9)
    (decoded : decode opcode = some instr) (runs : instr ≠ .hlt) (input : instr ≠ .in) (output : instr ≠ .out)
    (rest : Leads device (spending spend) (·.pc ≠ exit) goal (spending spend s.flags instr reading) (exec device instr s)) :
    Leads device (spending spend) (·.pc ≠ exit) goal reading s := by
  refine .silent at'.masked (fun _ => ?_) ?_ runs input output rest
  · change s.pc ≠ exit
    rw [at'.pc]
    exact delay.apart offset inside
  · have fetched : s.mem (s.pc + BitVec.ofNat 16 0) = opcode := at'.fetch delay 0 there
    rw [BitVec.add_zero] at fetched
    rw [fetched]
    exact decoded

theorem code_nop {i : Nat} (inside : i < nops) : (delayCode base exit count nops)[i + 2]? = some 0x00 := by
  have first : i + 2 < ([0x3E, count] ++ List.replicate nops (0x00 : Byte)).length := by simp [inside]
  rw [delayCode, List.getElem?_append_left first]
  simp [inside]

theorem code_rest (i : Nat) : (delayCode base exit count nops)[nops + 2 + i]? =
    [0x3D, 0xC2, (base + 2).extractLsb' 0 8, (base + 2).extractLsb' 8 8, 0xC3, exit.extractLsb' 0 8,
      exit.extractLsb' 8 8][i]? := by
  have last : ([0x3E, count] ++ List.replicate nops (0x00 : Byte)).length = nops + 2 := by
    rw [List.length_append, List.length_replicate, Nat.add_comm]
    rfl
  rw [delayCode, List.getElem?_append_right (by omega), last, Nat.add_sub_cancel_left]

theorem Delay.of (load : mem base = 0x3E ∧ mem (base + 1) = count)
    (nop : ∀ i < nops, mem (base + BitVec.ofNat 16 (i + 2)) = 0x00)
    (rest : ∀ {i byte}, [0x3D, 0xC2, (base + 2).extractLsb' 0 8, (base + 2).extractLsb' 8 8, 0xC3, exit.extractLsb' 0 8,
      exit.extractLsb' 8 8][i]? = some byte → mem (base + BitVec.ofNat 16 (nops + 2 + i)) = byte)
    (apart : ∀ i < nops + 9, base + BitVec.ofNat 16 i ≠ exit) : Delay mem base exit count nops := by
  refine ⟨fun {i byte} there => ?_, apart⟩
  match i with
  | 0 =>
    cases there
    rw [BitVec.add_zero]
    exact load.1
  | 1 =>
    cases there
    exact load.2
  | i + 2 =>
    by_cases inside : i < nops
    · cases there.symm.trans (code_nop inside)
      exact nop i inside
    · have last : i + 2 = nops + 2 + (i - nops) := by omega
      rw [last] at there ⊢
      exact rest ((code_rest _).symm.trans there)

theorem nops_lead (delay : Delay mem base exit count nops) (at' : At mem base 2 a s) :
    Leads device (spending spend) (·.pc ≠ exit)
    (fun after s => after = (spend · 4)^[nops] reading ∧ At mem base (nops + 2) a s) reading s := by
  let inv (left : Nat) (s : State δ) : Prop := left ≤ nops ∧ At mem base (nops - left + 2) a s
  have body {left : Nat} {reading : γ} {s : State δ} (here : inv (left + 1) s) :
      Leads device (spending spend) (·.pc ≠ exit) (fun after s => after = spend reading 4 ∧ inv left s) reading s := by
    obtain ⟨few, here⟩ := here
    have inside : nops - (left + 1) < nops := by omega
    refine here.leads delay 0x00 .nop (code_nop inside)
      (by omega) rfl nofun nofun nofun (.done fun state => ⟨rfl, by omega, ?_⟩)
    refine ⟨here.mem, ?_, here.a, here.masked⟩
    have next : nops - (left + 1) + 2 + 1 = nops - left + 2 := by omega
    exact (here.ahead 1).trans (by rw [next])
  have begins (state : δ) : inv nops { s with device := state } :=
    ⟨Nat.le_refl _, by rw [Nat.sub_self]; exact ⟨at'.mem, at'.pc, at'.a, at'.masked⟩⟩
  exact (Leads.repeats body begins).trans fun reached => .done fun state => ⟨(reached state).1, (reached state).2.2⟩

theorem pass_lead (delay : Delay mem base exit count nops) (at' : At mem base 2 a s) :
    Leads device (spending spend) (·.pc ≠ exit)
      (fun after s => after = passPrice spend nops reading ∧
        At mem base (if a - 1 = 0 then nops + 6 else 2) (a - 1) s) reading s := by
  refine (nops_lead delay at').trans fun {reading s} reached => ?_
  obtain ⟨rfl, here⟩ := reached s.device
  refine here.leads delay 0x3D (.dcr .a) (code_rest 0) (by omega) rfl nofun nofun nofun ?_
  generalize counted : exec device (.dcr .a) s = counting
  have there : At mem base (nops + 3) (a - 1) counting := by
    rw [← counted]
    exact ⟨here.mem, here.ahead 1, congrArg (· - 1) here.a, here.masked⟩
  have zero : counting.flags.z = (a - 1 == 0) := by
    rw [← counted, ← here.a]
    rfl
  refine there.leads delay 0xC2 (.jmpIf .nz) (code_rest 1) (by omega) rfl nofun nofun nofun (.done fun state => ⟨rfl, ?_⟩)
  · have target : counting.imm16 = base + 2 := by
      have low := there.fetch delay 1 (code_rest 2)
      have high := there.fetch delay 2 (code_rest 3)
      exact (congrArg₂ (· ++ ·) high low).trans (append_bytes _)
    by_cases last : a - 1 = 0
    · have off : ¬ Cond.nz.holds counting.flags = true := by
        change ¬ (!counting.flags.z) = true
        rw [zero, last]
        decide
      rw [if_pos last, exec, if_neg off]
      exact ⟨there.mem, there.ahead 3, there.a, there.masked⟩
    · have on : Cond.nz.holds counting.flags = true := by
        change (!counting.flags.z) = true
        rw [zero, beq_eq_false_iff_ne.mpr last]
        rfl
      rw [if_neg last, exec, if_pos on]
      exact ⟨there.mem, target, there.a, there.masked⟩

theorem delay_leads (delay : Delay mem base exit count nops) (there : s.mem = mem) (pc : s.pc = base)
    (masked : s.inte = false) : Leads device (spending spend) (·.pc ≠ exit)
    (fun after s => after = delayPrice spend count nops reading ∧ s.pc = exit) reading s := by
  have start : At mem base 0 s.a s := ⟨there, pc.trans (BitVec.add_zero base).symm, rfl, masked⟩
  refine start.leads delay 0x3E (.mvi .a) rfl (by omega) rfl nofun nofun nofun ?_
  generalize loaded : exec device (.mvi .a) s = first
  have begun : At mem base 2 count first := by
    rw [← loaded]
    exact ⟨there, start.ahead 2, start.fetch delay 1 rfl, masked⟩
  let inv (left : Nat) (s : State δ) : Prop :=
    left ≤ 256 ∧ At mem base (if left = 0 then nops + 6 else 2) (BitVec.ofNat 8 left) s
  have body {left : Nat} {reading : γ} {s : State δ} (here : inv (left + 1) s) :
      Leads device (spending spend) (·.pc ≠ exit)
        (fun after s => after = passPrice spend nops reading ∧ inv left s) reading s := by
    obtain ⟨few, here⟩ := here
    refine (pass_lead delay here).trans fun {_ s} reached => .done fun state => ⟨(reached state).1, by omega, ?_⟩
    have less : BitVec.ofNat 8 (left + 1) - 1 = BitVec.ofNat 8 left := by
      rw [BitVec.ofNat_add]
      exact BitVec.add_sub_cancel _ _
    have zero : BitVec.ofNat 8 left = 0 ↔ left = 0 := by
      rw [← BitVec.toNat_inj]
      simp
      omega
    have there := (reached state).2
    rw [less, if_congr zero rfl rfl] at there
    exact there
  have counts : passes count ≠ 0 ∧ passes count ≤ 256 ∧ BitVec.ofNat 8 (passes count) = count := by
    unfold passes
    split
    next zero => exact ⟨by decide, Nat.le_refl _, zero.symm⟩
    next positive =>
      exact ⟨fun none =>
        positive (BitVec.toNat_inj.mp none), by omega, (BitVec.ofNat_toNat _ count).trans (BitVec.setWidth_eq count)⟩
  have begins (state : δ) : inv (passes count) { first with device := state } := by
    refine ⟨counts.2.1, ?_⟩
    rw [if_neg counts.1, counts.2.2]
    exact ⟨begun.mem, begun.pc, begun.a, begun.masked⟩
  refine (Leads.repeats body begins).trans fun {_ s} reached => ?_
  obtain ⟨rfl, -, last⟩ := reached s.device
  rw [if_pos rfl] at last
  refine last.leads delay 0xC3 .jmp (code_rest 4) (by omega) rfl nofun nofun nofun (.done fun state => ⟨rfl, ?_⟩)
  have low := last.fetch delay 1 (code_rest 5)
  have high := last.fetch delay 2 (code_rest 6)
  exact (congrArg₂ (· ++ ·) high low).trans (append_bytes _)

end Programs

section Meters

/-- The cycles that were executed, and those of them that the clock has not waited for, with one wait in `period` cycles. -/
def counting (period : Nat) (reading : Nat × Nat) (ticks : Nat) : Nat × Nat :=
  (reading.1 + ticks, if period ≤ reading.2 + ticks then 0 else reading.2 + ticks)

variable {epoch resolution : Int} {loop : Loop (Ram δ)}

/-- The meter of a first run. -/
structure Counted (epoch resolution : Int) (reading : Nat × Nat) (loop : Loop (Ram δ)) : Prop where
  clocked : Clocked epoch resolution loop
  total : loop.totalTicks = reading.1
  count : loop.clock.tickCount = reading.2

theorem counted_metered (positive : 0 ≤ resolution) :
    Metered (spending (counting (resolution / 500).toNat)) (Counted (δ := δ) epoch resolution) where
  rests {reading loop after} still counted := by
    obtain ⟨clocked, total, count⟩ := counted
    refine ⟨clocked.advance (.rests still), ?_, ?_⟩
    · exact (congrArg (·.2.2.2) still).trans total
    · exact (congrArg (·.1.tickCount) still).trans count
  ticks {reading loop after flags instr} ticked sampled more counted := by
    obtain ⟨clocked, total, count⟩ := counted
    have few := (Ticks.charge_range flags instr).2
    have wide : ((charge flags instr).setWidth 64).toNat = (charge flags instr).toNat := by
      rw [BitVec.toNat_setWidth]
      omega
    refine ⟨clocked.advance (.ticks _ few ticked sampled more), ?_, ?_⟩
    · rw [more, total, spending, counting, Int.natCast_add]
    · obtain ⟨-, left⟩ := tick_counted clocked.paced clocked.below (by omega) ticked
      rw [left, wide, clocked.period, count, spending, counting]
      split
      next reached => rw [if_pos (by omega)]; rfl
      next early => rw [if_neg (by omega), Int.natCast_add]

/-- The time is past that of the cycles that were waited for. -/
theorem Counted.time {reading : Nat × Nat} (counted : Counted epoch resolution reading loop) :
    ((reading.1 : Int) - reading.2) * 500 ≤ loop.currTime := by
  obtain ⟨clocked, total, count⟩ := counted
  obtain ⟨waited, -⟩ := clocked.paced.time
  rw [clocked.shown, ← total, ← count]
  exact waited

end Meters

section Runs
variable {lib : Libraries} {build : Build} {m : Machine (Ram δ)} {setup : Setup (Ram δ)} {io : Ports δ}
  {service : BitVec 64 → BitVec 64 → δ → ISR × δ} {start loop : Loop (Ram δ)} {moves : List (LoopMove (Ram δ))}
    {resolution : Int}
  {exit : Word} {count : Byte} {nops : Nat}

def delayCycles (count : Byte) (nops : Nat) : Nat := passes count * (4 * nops + 15) + 17

/-- The cycles of the program that the clock has not waited for when it comes to its exit. -/
def pendingCycles (period : Nat) (count : Byte) (nops : Nat) : Nat := (delayPrice (counting period) count nops (0, 0)).2

theorem iterate_total (price : Nat × Nat → Nat × Nat) {cost : Nat}
    (costs : ∀ reading, (price reading).1 = reading.1 + cost) (n : Nat)
    (reading : Nat × Nat) : (price^[n] reading).1 = reading.1 + n * cost := by
  induction n generalizing reading with
  | zero => simp
  | succ n ih =>
    rw [Function.iterate_succ_apply, ih, costs, Nat.succ_mul]
    omega

theorem delayPrice_total (period : Nat) : (delayPrice (counting period) count nops (0, 0)).1 = delayCycles count nops := by
  have pass (reading : Nat × Nat) : (passPrice (counting period) nops reading).1 = reading.1 + (4 * nops + 15) := by
    have stretch := iterate_total (counting period · 4) (fun _ => rfl) nops reading
    change ((counting period · 4)^[nops] reading).1 + 5 + 10 = _
    rw [stretch]
    omega
  change ((passPrice (counting period) nops)^[passes count] (counting period (0, 0) 7)).1 + 10 = _
  rw [iterate_total _ pass]
  unfold delayCycles counting
  dsimp only
  omega

/-- Before a run is at the exit of its program it was there at the end of the program's cycles. -/
theorem delay_arrives {maxResolution : Int} (first : FirstRun lib build maxResolution m setup start)
    (wired : Wired setup io service)
    (steady : start.host.Steady) (resolves : m.opt.clockResolution = .ok resolution)
    (range : 0 ≤ resolution ∧ resolution ≤ 10000000000)
    (delay : Delay start.sys.world.mem start.sys.cpu.pc exit count nops)
    (run : Run (recorded (Loop.step setup)) start moves loop)
    (unloaded : ∀ move ∈ moves, Unloaded move.events) (alone : Alone moves) {move : LoopMove (Ram δ)}
    (member : move ∈ moves) (arrived : move.after.sys.cpu.pc = exit) :
    ∃ state ∈ passed start moves, state.sys.cpu.pc = exit ∧ state.totalTicks = delayCycles count nops ∧
      ((delayCycles count nops : Int) - pendingCycles (resolution / 500).toNat count nops) * 500 ≤ state.currTime ∧
      state.currTime ≤ move.after.currTime := by
  obtain ⟨before, after, rfl⟩ := List.append_of_mem member
  have upTo := run.upTo
  have among : ∀ {other}, other ∈ before ++ [move] → other ∈ before ++ move :: after := by
    intro other inside
    rw [List.append_cons]
    exact List.mem_append_left _ inside
  have entered := first_run_entered first
  have masked : (view start.sys).inte = false := congrArg Intel8080.iff entered.cleared
  obtain ⟨sampled, -, none⟩ := first_run_sampled first steady
  have counted : Counted start.host.last resolution (0, 0) start :=
    ⟨first_run_clocked first steady resolves range, Entered.unticked entered, none⟩
  have leads : Leads io.device (spending (counting (resolution / 500).toNat)) (·.pc ≠ exit)
      (fun reading s => reading = delayPrice (counting (resolution / 500).toNat) count nops (0, 0) ∧ s.pc = exit)
        (0, 0) (view start.sys) :=
    delay_leads delay rfl rfl masked
  have arrives := run_leading entered wired (counted_metered range.1) leads counted upTo
    (fun move inside => unloaded move (among inside)) (fun move inside => alone move (among inside))
  rcases arrives with ⟨state, there, _, counted, rfl, gone⟩ | early
  · have total := counted.total
    have time := counted.time
    rw [delayPrice_total] at total time
    obtain ⟨-, since, shown, -⟩ := run_sampled sampled upTo
    rcases List.mem_cons.mp there with rfl | later
    · exact ⟨_, List.mem_cons_self .., gone, total, time, since⟩
    · obtain ⟨earlier, inside, rfl⟩ := List.mem_map.mp later
      have passes : earlier.after ∈ passed start (before ++ move :: after) :=
        List.mem_cons_of_mem _ (List.mem_map_of_mem (among inside))
      exact ⟨_, passes, gone, total, time, (shown earlier inside).2.2⟩
  · exact absurd arrived early

end Runs

section TimedProgram
open MemoryController ErrorState

/-- A file that is loaded is found in the memory from its offset on, and nothing else is changed. -/
theorem load_places {file : RomFile} {offset : Word} {memory after : MemoryController} (small : file.size < 65536)
    (loaded : load (some file) offset memory = .ok () after) :
      after = store (file.content.take file.size) offset memory := by
  have size : (BitVec.ofNat 16 file.size).toNat = file.size := by
    rw [BitVec.toNat_ofNat, Nat.mod_eq_of_lt small]
  obtain ⟨-, loaded⟩ := guard_ok_iff.mp loaded
  obtain ⟨-, loaded⟩ := guard_ok_iff.mp loaded
  obtain ⟨_, _, ⟨⟩, loaded⟩ := bind_ok_iff.mp loaded
  rw [size] at loaded
  split at loaded
  next => cases loaded
  next =>
    cases loaded
    rfl

def loadTimed : EStateM Fault MemoryController Unit := do
  load (some ⟨4, [0xD3, 0xFE, 0xD3, 0xFF]⟩) 0
  load (some ⟨19, [0x3E, 0x0A] ++ List.replicate 17 0⟩) 4
  load (some ⟨7, [0x3D, 0xC2, 0x06, 0x00, 0xC3, 0x00, 0x00]⟩) 0xC353

/-- The files that the tests time hold a program that counts down from ten over 49997 `NOP`s. -/
theorem timed_delay {memory after : MemoryController} (clear : memory.memory = fun _ => 0)
    (loaded : loadTimed memory = .ok () after) : Delay after.memory 4 0 10 49997 := by
  obtain ⟨_, exiting, first, loaded⟩ := bind_ok_iff.mp loaded
  obtain ⟨_, starting, second, loaded⟩ := bind_ok_iff.mp loaded
  obtain rfl := load_places (by decide) first
  obtain rfl := load_places (by decide) second
  obtain rfl := load_places (by decide) loaded
  have address {i : Nat} (inside : i < 50006) : ((4 : Word) + BitVec.ofNat 16 i).toNat = 4 + i := by
    rw [BitVec.toNat_add, BitVec.toNat_ofNat]
    change (4 + i % 65536) % 65536 = 4 + i
    omega
  refine .of ⟨rfl, rfl⟩ (fun i inside => ?_) (fun {i byte} there => ?_) fun i inside same => ?_
  · have here := address (i := i + 2) (by omega)
    generalize (4 : Word) + BitVec.ofNat 16 (i + 2) = addr at here ⊢
    have before : ¬ (0xC353 : Word) ≤ addr := by
      rw [BitVec.le_def, here]
      change ¬ 50003 ≤ 4 + (i + 2)
      omega
    have since : (4 : Word) ≤ addr := by
      rw [BitVec.le_def, here]
      exact Nat.le_add_right 4 _
    have from' : (0 : Word) ≤ addr := BitVec.le_def.mpr (Nat.zero_le _)
    have index : addr.toNat - (4 : Word).toNat = i + 2 := by
      rw [here]
      exact Nat.add_sub_cancel_left ..
    have index' : addr.toNat - (0 : Word).toNat = i + 6 := by
      rw [here]
      change 4 + (i + 2) - 0 = i + 6
      omega
    dsimp only [store]
    rw [if_neg before, if_pos since, if_pos from', index, index', clear]
    change (List.replicate 17 (0 : Byte)).getD i (([] : List Byte).getD (i + 2) 0) = 0
    rw [List.getD_nil, List.getD_eq_getElem?_getD]
    exact List.getElem?_getD_replicate_default_eq _ _ _
  · match i with
    | 0 | 1 | 2 | 3 | 4 | 5 | 6 =>
      cases there
      rfl
    | _ + 7 => cases there
  · have zero := congrArg BitVec.toNat same
    rw [address inside] at zero
    change 4 + i = 0 at zero
    omega

theorem stretch_counting (n total : Nat) {count : Nat} (small : count < 50000) : (counting 50000 · 4)^[n] (total, count) =
    (total + n * 4, if 4 * n + count < 50000 then 4 * n + count else 4 * ((n - (50003 - count) / 4) % 12500)) := by
  induction n with
  | zero => simp [small]
  | succ n ih =>
    rw [Function.iterate_succ_apply', ih, counting]
    refine Prod.ext (by dsimp only; omega) ?_
    dsimp only
    split <;> split <;> split <;> omega

def timedPass (nops : Nat) (reading : Nat × Nat) : Nat × Nat :=
  counting 50000 (counting 50000 (reading.1 + nops * 4, if 4 * nops + reading.2 < 50000 then 4 * nops + reading.2
    else 4 * ((nops - (50003 - reading.2) / 4) % 12500)) 5) 10

theorem passPrice_timed (nops total : Nat) {count : Nat} (small : count < 50000) :
    passPrice (counting 50000) nops (total, count) = timedPass nops (total, count) := by
  rw [passPrice, stretch_counting nops total small, timedPass]

theorem counting_less (reading : Nat × Nat) (ticks : Nat) : (counting 50000 reading ticks).2 < 50000 := by
  unfold counting
  dsimp only
  split <;> omega

theorem timedPass_iterate (nops n : Nat) {total count : Nat} (small : count < 50000) :
    (passPrice (counting 50000) nops)^[n] (total, count) = (timedPass nops)^[n] (total, count) := by
  induction n generalizing total count with
  | zero => rfl
  | succ n ih =>
    have left : (timedPass nops (total, count)).2 < 50000 := counting_less _ _
    rw [Function.iterate_succ_apply, Function.iterate_succ_apply, passPrice_timed nops total small]
    exact ih left

/-- With a period of 50000 cycles the clock has waited for more than a second when the exit is reached. -/
theorem timed_cycles : delayCycles 10 49997 = 2000047 ∧ pendingCycles 50000 10 49997 = 10 := by
  have begins : counting 50000 (0, 0) 7 = (7, 7) := rfl
  refine ⟨rfl, ?_⟩
  rw [pendingCycles, delayPrice, begins, timedPass_iterate _ _ (by decide)]
  decide +kernel

/-- A run comes to the exit of its program after all its cycles, and not before the time of those that the clock waits for.
The program that the tests time takes a second. -/
theorem run_delays {lib : Libraries} {build : Build} {m : Machine (Ram δ)} {setup : Setup (Ram δ)} {io : Ports δ}
    {service : BitVec 64 → BitVec 64 → δ → ISR × δ} {start loop : Loop (Ram δ)} {moves : List (LoopMove (Ram δ))}
    {resolution : Int}
    {maxResolution : Int} (first : FirstRun lib build maxResolution m setup start) (wired : Wired setup io service)
    (steady : start.host.Steady) (resolves : m.opt.clockResolution = .ok resolution)
    (range : 0 ≤ resolution ∧ resolution ≤ 10000000000)
    (run : Run (recorded (Loop.step setup)) start moves loop) (unloaded : ∀ move ∈ moves, Unloaded move.events)
    (alone : Alone moves) {move : LoopMove (Ram δ)} (member : move ∈ moves) :
    (∀ exit count nops, Delay start.sys.world.mem start.sys.cpu.pc exit count nops → move.after.sys.cpu.pc = exit →
      (∃ state ∈ passed start moves, state.sys.cpu.pc = exit ∧ state.totalTicks = delayCycles count nops) ∧
        ((delayCycles count nops : Int) - pendingCycles (resolution / 500).toNat count nops) * 500 ≤ move.after.currTime) ∧
    (∀ memory after, memory.memory = (fun _ => 0) → loadTimed memory = .ok () after → start.sys.world.mem = after.memory →
      start.sys.cpu.pc = 4 → resolution = 25000000 → move.after.sys.cpu.pc = 0 →
      (∃ state ∈ passed start moves, state.sys.cpu.pc = 0 ∧ state.totalTicks = 2000047) ∧
      1000000000 ≤ move.after.currTime) := by
  constructor
  · intro exit count nops delay arrived
    obtain ⟨state, there, gone, total, time, since⟩ :=
      delay_arrives first wired steady resolves range delay run unloaded alone member arrived
    exact ⟨⟨state, there, gone, total⟩, Int.le_trans time since⟩
  · intro memory after clear loaded stored pc timed arrived
    have delay := timed_delay clear loaded
    rw [← stored, ← pc] at delay
    obtain ⟨state, there, gone, total, time, since⟩ :=
      delay_arrives first wired steady resolves range delay run unloaded alone member arrived
    obtain ⟨cycles, pending⟩ := timed_cycles
    have period : ((25000000 : Int) / 500).toNat = 50000 := rfl
    rw [cycles] at total
    rw [timed, cycles, period, pending] at time
    exact ⟨⟨state, there, gone, total⟩, by omega⟩

end TimedProgram

section Session
open Lifecycle Threshold

def shortWorld : Ram Unit where
  mem := (MemoryController.store (delayCode 4 0 1 1) 4 {}).memory
  io := ()

def idlePorts : Ports Unit := ⟨fun _ state => (0, state), fun _ _ state => state⟩

def idleController : IController (Ram Unit) := deviceController idlePorts fun _ _ state => (.noInterrupt, state)

def shortCalls : List (Call (Ram Unit)) := [.setOptions (some tickOptions),
  .setMemoryController (some (ramController MemoryController.uuid)), .setIoController (some idleController)]

def shortRun : Option (Setup (Ram Unit) × Loop (Ram Unit) × Loop (Ram Unit) × List (LoopMove (Ram Unit))) := do
  let (setup, start) ← enter tickLibraries ⟨true, false⟩ shortWorld shortCalls 4 [10, 20, 20000, 20001]
  let (loop, moves) ← Traces.run (recorded (Loop.step setup)) (List.replicate 8 (.turn (.ok none) (.ok ()))) start
  return (setup, start, loop, moves)

theorem short_delay : Delay shortWorld.mem 4 0 1 1 := by
  refine .of ⟨rfl, rfl⟩ (fun i inside => ?_) (fun {i byte} there => ?_) fun i inside => ?_
  · obtain rfl : i = 0 := by omega
    rfl
  · match i with
    | 0 | 1 | 2 | 3 | 4 | 5 | 6 =>
      cases there
      rfl
    | _ + 7 => cases there
  · have range : i < 10 := inside
    interval_cases i <;> decide

theorem short_delays : ∃ (m : Machine (Ram Unit)) (setup : Setup (Ram Unit)) (start loop : Loop (Ram Unit))
    (before : List (LoopMove (Ram Unit))) (move : LoopMove (Ram Unit)),
      FirstRun tickLibraries ⟨true, false⟩ 1 m setup start ∧
      Run (recorded (Loop.step setup)) start (before ++ [move]) loop ∧ move.after.sys.cpu.pc = 0 ∧
      (∃ state ∈ passed start (before ++ [move]), state.sys.cpu.pc = 0 ∧ state.totalTicks = delayCycles 1 1) ∧
      ((delayCycles 1 1 : Int) - pendingCycles 20 1 1) * 500 ≤ move.after.currTime := by
  have outcome : shortRun.map
      (fun out => (out.1.memoryController, out.1.ioController, out.2.1.sys.world, out.2.1.sys.cpu.pc, out.2.1.host,
      out.2.2.2.map fun move => (move.input, move.after.sys.cpu.pc, move.events.filterMap loadedText))) = some
        (ramController MemoryController.uuid,
        idleController, shortWorld, 4, ⟨0, [10, 20, 20000, 20001], []⟩,
        [6, 7, 8, 11, 11, 11, 11].map (fun pc =>
          (.turn (.ok none) (.ok ()), pc, [])) ++ [(.turn (.ok none) (.ok ()), 0, [])]) := by
    with_unfolding_all rfl
  have opted : (ready tickLibraries ⟨true, false⟩ shortWorld shortCalls).map (·.opt.clockResolution) = some
      (.ok 10000) := by
    with_unfolding_all rfl
  obtain ⟨⟨setup, start, loop, moves⟩, ran, same⟩ := Option.map_eq_some_iff.mp outcome
  obtain ⟨⟨_, _⟩, entered, ran⟩ := Option.bind_eq_some_iff.mp ran
  obtain ⟨⟨_, _⟩, moved, ran⟩ := Option.bind_eq_some_iff.mp ran
  cases ran
  simp only [Prod.mk.injEq] at same
  obtain ⟨memory, ports, world, pc, host, made⟩ := same
  obtain ⟨m, prepared, first⟩ := enter_first entered
    (List.forall_mem_cons.mpr ⟨rfl, List.forall_mem_cons.mpr ⟨rfl, List.forall_mem_singleton.mpr rfl⟩⟩)
  have resolves : m.opt.clockResolution = .ok 10000 := by
    rw [prepared] at opted
    exact Option.some.inj opted
  have steady : start.host.Steady := by
    rw [host]
    unfold SteadyClock.Host.Steady
    decide
  obtain ⟨earlier, move, split⟩ : ∃ earlier move, moves = earlier ++ [move] := by
    rcases List.eq_nil_or_concat moves with rfl | ⟨earlier, move, rfl⟩
    · cases made
    · exact ⟨earlier, move, List.concat_eq_append⟩
  have silent : ∀ other ∈ moves, (∃ loaded saved, other.input = .turn loaded saved) ∧
      other.events.filterMap loadedText = [] := by
    intro other member
    have shown :=
      List.mem_map_of_mem (f := fun move => (move.input, move.after.sys.cpu.pc, move.events.filterMap loadedText)) member
    rw [made, List.mem_append, List.mem_map, List.mem_singleton] at shown
    obtain ⟨_, -, same⟩ | same := shown
    · simp only [Prod.mk.injEq] at same
      exact ⟨⟨_, _, same.1.symm⟩, same.2.2.symm⟩
    · simp only [Prod.mk.injEq] at same
      exact ⟨⟨_, _, same.1⟩, same.2.2⟩
  subst split
  rw [List.map_append, List.map_singleton] at made
  have arrived : move.after.sys.cpu.pc = 0 := congrArg (·.2.1) (List.singleton_inj.mp (List.append_inj' made rfl).2)
  have run := Run.of_run moved
  have delay := short_delay
  rw [← pc, ← world] at delay
  refine ⟨m, setup, start, loop, earlier, move, first, run, arrived, ?_⟩
  obtain ⟨delays, -⟩ := run_delays first ⟨⟨_, memory⟩, ports⟩ steady resolves ⟨by decide, by decide⟩ run
    (fun other member => unloaded_of (silent other member).2) (alone_of fun choice member => by
      obtain ⟨other, inside, rfl⟩ := List.mem_map.mp member
      exact (silent other inside).1) (List.mem_append_right _ (List.mem_singleton_self _))
  exact delays _ _ _ delay arrived

end Session
end MachEmu.Proofs.Delays
