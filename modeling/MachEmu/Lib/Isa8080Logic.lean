import MachEmu.Lib.Isa8080Board
import Mathlib.Logic.Function.Iterate

/-! Rules for the programs of an 8080 that runs with interrupts disabled, beside devices
that may change at any time. A meter goes on with every instruction. -/

namespace Isa8080

variable {δ γ : Type} {device : Device δ} {meter : Flags → Instr → γ → γ} {during : State δ → Prop}
  {goal mid : γ → State δ → Prop}
  {reading : γ} {s : State δ}

/-- From a state to one of the `goal`, and only through states that are `during`. -/
inductive Leads (device : Device δ) (meter : Flags → Instr → γ → γ) (during : State δ → Prop)
    (goal : γ → State δ → Prop) : γ → State δ → Prop
  | done {reading : γ} {s : State δ} (reached : ∀ state, goal reading { s with device := state }) :
      Leads device meter during goal reading s
  | instr {reading : γ} {s : State δ} {instr : Instr} (masked : s.inte = false)
    (holds : ∀ state, during { s with device := state })
      (decoded : decode (s.mem s.pc) = some instr) (runs : instr ≠ .hlt)
      (rest : ∀ state, Leads device meter during goal (meter s.flags instr reading)
        (exec device instr { s with device := state })) :
      Leads device meter during goal reading s

theorem exec_apart {instr : Instr} (input : instr ≠ .in) (output : instr ≠ .out) (s : State δ) (state : δ) :
    exec device instr { s with device := state } = { exec device instr s with device := state } := by
  cases instr with
  | «in» => exact absurd rfl input
  | out => exact absurd rfl output
  | lxi rp => cases rp <;> rfl
  | dad rp => cases rp <;> rfl
  | stax rp => cases rp <;> rfl
  | ldax rp => cases rp <;> rfl
  | inx rp => cases rp <;> rfl
  | dcx rp => cases rp <;> rfl
  | inr r => cases r <;> rfl
  | dcr r => cases r <;> rfl
  | mvi r => cases r <;> rfl
  | mov dst src => cases dst <;> cases src <;> rfl
  | alu op r => cases op <;> cases r <;> rfl
  | aluImm op => cases op <;> rfl
  | push rp => cases rp <;> rfl
  | pop rp => cases rp <;> rfl
  | retIf cond =>
    unfold exec
    dsimp only
    split <;> rfl
  | jmpIf cond =>
    unfold exec
    dsimp only
    split <;> rfl
  | callIf cond =>
    unfold exec
    dsimp only
    split <;> rfl
  | _ => rfl

namespace Leads

theorem beside (leads : Leads device meter during goal reading s) (state : δ) :
    Leads device meter during goal reading { s with device := state } := by
  cases leads with
  | done reached => exact .done reached
  | instr masked holds decoded runs rest => exact .instr masked holds decoded runs rest

theorem silent {instr : Instr} (masked : s.inte = false) (holds : ∀ state, during { s with device := state })
    (decoded : decode (s.mem s.pc) = some instr) (runs : instr ≠ .hlt) (input : instr ≠ .in) (output : instr ≠ .out)
    (rest : Leads device meter during goal (meter s.flags instr reading) (exec device instr s)) :
    Leads device meter during goal reading s := by
  refine .instr masked holds decoded runs fun state => ?_
  rw [exec_apart input output]
  exact rest.beside state

theorem trans (first : Leads device meter during mid reading s)
    (rest : ∀ {reading s}, (∀ state, mid reading { s with device := state }) → Leads device meter during goal reading s) :
    Leads device meter during goal reading s := by
  induction first with
  | done reached => exact rest reached
  | instr masked holds decoded runs _ ih => exact .instr masked holds decoded runs ih

/-- A loop that counts down, at the same price every time. -/
theorem repeats {inv : Nat → State δ → Prop} {price : γ → γ}
    (body : ∀ {count reading s}, inv (count + 1) s →
      Leads device meter during (fun after s => after = price reading ∧ inv count s) reading s) {count : Nat}
    (begins : ∀ state, inv count { s with device := state }) :
    Leads device meter during (fun after s => after = price^[count] reading ∧ inv 0 s) reading s := by
  induction count generalizing reading s with
  | zero => exact .done fun state => ⟨rfl, begins state⟩
  | succ count ih =>
    refine (body (begins s.device)).trans fun {next s} reached => ?_
    obtain rfl := (reached s.device).1
    exact ih fun state => (reached state).2

/-- The next cycle of a board executes the instruction, whether an interrupt is requested or not. -/
theorem cycle (board : Board δ) (leads : Leads device meter during goal reading board.processor) :
    goal reading board.processor ∨ during board.processor ∧ ∃ instr,
      decode (board.processor.mem board.processor.pc) = some instr ∧
      instr ≠ .hlt ∧ board.processor.inte = false ∧ board.cycle device = some ⟨exec device instr board.processor, none⟩ ∧
      Leads device meter during goal (meter board.processor.flags instr reading) (exec device instr board.processor) := by
  obtain ⟨processor, request⟩ := board
  cases leads with
  | done reached => exact .inl (reached processor.device)
  | @instr _ _ instr masked holds decoded runs rest =>
    refine .inr ⟨holds processor.device, instr, decoded, runs, masked, ?_, rest processor.device⟩
    have ran : next device processor = some (exec device instr processor) := next_eq decoded runs
    unfold Board.cycle
    cases request with
    | none =>
      dsimp only
      rw [ran, Option.map_some]
    | some level =>
      dsimp only at masked ⊢
      rw [if_neg (ne_true_of_eq_false masked), ran, Option.map_some]

end Leads
end Isa8080
