import MachEmu.Lib.ErrorState

/-! Programs that work on a state of their own. They reach their surroundings by
questions, which are answered with a value, and by commands. -/

namespace Programs
open ErrorState

inductive Program (σ κ δ β α : Type) where
  | pure (value : α)
  | look (rest : σ → Program σ κ δ β α)
  | change (f : σ → σ) (rest : Program σ κ δ β α)
  | check (rest : Program σ κ δ β α)
  | ask (question : κ) (rest : β → Program σ κ δ β α)
  | tell (command : δ) (rest : Program σ κ δ β α)

variable {σ κ δ β α γ : Type}

def Program.bind (f : α → Program σ κ δ β γ) : Program σ κ δ β α → Program σ κ δ β γ
  | .pure value => f value
  | .look rest => .look fun self => (rest self).bind f
  | .change g rest => .change g (rest.bind f)
  | .check rest => .check (rest.bind f)
  | .ask question rest => .ask question fun answer => (rest answer).bind f
  | .tell command rest => .tell command (rest.bind f)

/-- What the steps of a program do. A check is an assertion, which may be compiled out. -/
structure Interpretation (σ κ δ β : Type) (m : Type → Type) where
  look : m σ
  change : (σ → σ) → m Unit
  check : m Unit
  ask : κ → m β
  tell : δ → m Unit

namespace Interpretation
variable {m : Type → Type} [Monad m] (i : Interpretation σ κ δ β m)

def run : Program σ κ δ β α → m α
  | .pure value => pure value
  | .look rest => i.look >>= fun self => run (rest self)
  | .change f rest => i.change f >>= fun _ => run rest
  | .check rest => i.check >>= fun _ => run rest
  | .ask question rest => i.ask question >>= fun answer => run (rest answer)
  | .tell command rest => i.tell command >>= fun _ => run rest

theorem run_bind [LawfulMonad m] (p : Program σ κ δ β α) (f : α → Program σ κ δ β γ) :
    i.run (p.bind f) = i.run p >>= fun value => i.run (f value) := by
  induction p with
  | pure value => rw [Program.bind, run, pure_bind]
  | look rest ih => simp only [Program.bind, run, bind_assoc, ih]
  | change g rest ih => simp only [Program.bind, run, bind_assoc, ih]
  | check rest ih => simp only [Program.bind, run, bind_assoc, ih]
  | ask question rest ih => simp only [Program.bind, run, bind_assoc, ih]
  | tell command rest ih => simp only [Program.bind, run, bind_assoc, ih]

end Interpretation

section Simulation
variable {ε τ υ : Type} {R : τ → υ → Prop} {i : Interpretation σ κ δ β (EStateM ε τ)}
  {j : Interpretation σ κ δ β (EStateM ε υ)}

/-- Each step of one interpretation simulates that of the other. -/
structure Interpretation.Simulates (R : τ → υ → Prop) (i : Interpretation σ κ δ β (EStateM ε τ))
    (j : Interpretation σ κ δ β (EStateM ε υ)) : Prop where
  look : ErrorState.Simulates R i.look j.look
  change : ∀ f, ErrorState.Simulates R (i.change f) (j.change f)
  check : ErrorState.Simulates R i.check j.check
  ask : ∀ question, ErrorState.Simulates R (i.ask question) (j.ask question)
  tell : ∀ command, ErrorState.Simulates R (i.tell command) (j.tell command)

theorem Interpretation.Simulates.run (steps : i.Simulates R j) (p : Program σ κ δ β α) :
    ErrorState.Simulates R (i.run p) (j.run p) := by
  induction p with
  | pure value => exact ErrorState.Simulates.pure value
  | look rest ih => exact steps.look.bind ih
  | change f rest ih => exact (steps.change f).bind fun _ => ih
  | check rest ih => exact steps.check.bind fun _ => ih
  | ask question rest ih => exact (steps.ask question).bind ih
  | tell command rest ih => exact (steps.tell command).bind fun _ => ih

end Simulation

section Errors
variable {ε τ : Type} {allowed : ε → Prop} {i : Interpretation σ κ δ β (EStateM ε τ)}

/-- The steps of an interpretation fail only with errors that are allowed. -/
structure Interpretation.Raises (allowed : ε → Prop) (i : Interpretation σ κ δ β (EStateM ε τ)) : Prop where
  look : ∀ s, ErrorState.Raises allowed i.look s
  change : ∀ f s, ErrorState.Raises allowed (i.change f) s
  check : ∀ s, ErrorState.Raises allowed i.check s
  ask : ∀ question s, ErrorState.Raises allowed (i.ask question) s
  tell : ∀ command s, ErrorState.Raises allowed (i.tell command) s

theorem Interpretation.Raises.run (steps : i.Raises allowed) (p : Program σ κ δ β α) (s : τ) :
    ErrorState.Raises allowed (i.run p) s := by
  induction p generalizing s with
  | pure value => exact ErrorState.Raises.pure value
  | look rest ih => exact (steps.look s).bind fun self mid _ => ih self mid
  | change f rest ih => exact (steps.change f s).bind fun _ mid _ => ih mid
  | check rest ih => exact (steps.check s).bind fun _ mid _ => ih mid
  | ask question rest ih => exact (steps.ask question s).bind fun answer mid _ => ih answer mid
  | tell command rest ih => exact (steps.tell command s).bind fun _ mid _ => ih mid

end Errors
end Programs
