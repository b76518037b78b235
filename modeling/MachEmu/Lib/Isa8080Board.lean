import MachEmu.Lib.Isa8080

/-! A machine around the 8080: the processor, an interrupt request that waits for
it, and devices and a memory that others also reach. -/

namespace Isa8080

variable {δ : Type}

def State.reset (pc : Word) (mem : Word → Byte) (device : δ) : State δ where
  b := 0
  c := 0
  d := 0
  e := 0
  h := 0
  l := 0
  a := 0
  flags := ⟨false, false, false, false, false⟩
  pc := pc
  sp := 0
  inte := false
  mem := mem
  device := device

/-- The entry of an interrupt, a restart that returns to the instruction it comes before. -/
def State.interrupt (level : BitVec 3) (s : State δ) : State δ :=
  { s.pushWord s.pc with pc := (0#10 ++ level ++ 0#3 : BitVec 16), inte := false }

def next (device : Device δ) (s : State δ) : Option (State δ) :=
  match decode (s.mem s.pc) with
  | some .hlt => none
  | some instr => some (exec device instr s)
  | none => none

theorem next_some {device : Device δ} {s after : State δ} (ran : next device s = some after) :
    ∃ instr, decode (s.mem s.pc) = some instr ∧ instr ≠ .hlt ∧ after = exec device instr s := by
  unfold next at ran
  split at ran
  next => cases ran
  next instr runs decoded =>
    cases ran
    exact ⟨instr, decoded, runs, rfl⟩
  next => cases ran

theorem next_eq {device : Device δ} {s : State δ} {instr : Instr} (decoded : decode (s.mem s.pc) = some instr)
    (runs : instr ≠ .hlt) : next device s = some (exec device instr s) := by
  unfold next
  rw [decoded]
  cases instr with
  | hlt => exact absurd rfl runs
  | _ => rfl

structure Board (δ : Type) where
  processor : State δ
  request : Option (BitVec 3) := none

/-- What happens on a board: an instruction cycle, an interrupt request, or something
that the processor has no part in. -/
inductive Happening (δ : Type) where
  | cycle
  | raise (level : BitVec 3)
  | devices (change : δ → δ)
  | outside (mem : Word → Byte) (device : δ)

namespace Board

/-- A request is taken by the next cycle. It is lost where interrupts are disabled. -/
def cycle (device : Device δ) (board : Board δ) : Option (Board δ) :=
  match board.request with
  | some level =>
    if board.processor.inte then some ⟨board.processor.interrupt level, none⟩
    else (next device board.processor).map fun processor => ⟨processor, none⟩
  | none => (next device board.processor).map fun processor => ⟨processor, none⟩

def react (device : Device δ) (board : Board δ) : Happening δ → Option (Board δ)
  | .cycle => board.cycle device
  | .raise level => some { board with request := some level }
  | .devices change => some { board with processor := { board.processor with device := change board.processor.device } }
  | .outside mem state => some { board with processor := { board.processor with mem, device := state } }

def run (device : Device δ) (happenings : List (Happening δ)) (board : Board δ) : Option (Board δ) :=
  happenings.foldlM (react device) board

theorem run_append (device : Device δ) (happenings more : List (Happening δ)) (board : Board δ) :
    run device (happenings ++ more) board = (run device happenings board).bind (run device more) :=
  List.foldlM_append

theorem run_one (device : Device δ) (happening : Happening δ) (board : Board δ) :
    run device [happening] board = board.react device happening := by
  rw [run, List.foldlM_cons]
  cases board.react device happening <;> rfl

theorem run_raises {device : Device δ} {happenings : List (Happening δ)} {board last : Board δ}
    (only : ∀ happening ∈ happenings, ∃ level, happening = .raise level) (ran : run device happenings board = some last) :
    last.processor = board.processor := by
  induction happenings generalizing board with
  | nil =>
    cases ran
    rfl
  | cons happening happenings ih =>
    obtain ⟨⟨level, rfl⟩, others⟩ := List.forall_mem_cons.mp only
    rw [run, List.foldlM_cons] at ran
    exact (ih others ran).trans rfl

end Board
end Isa8080
