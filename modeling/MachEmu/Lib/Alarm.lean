import Mathlib.Data.List.Chain

/-! An alarm that is looked at from time to time, and that rings when more than a period
has passed since it last rang. Times are words, and compared as those. -/

namespace Alarm

structure Look (w : Nat) where
  time : BitVec w
  rang : Bool
deriving DecidableEq, Repr

variable {w : Nat} {period last : BitVec w} {looks : List (Look w)}

/-- The time that the alarm counts from after a look. -/
def Look.since (look : Look w) (last : BitVec w) : BitVec w := if look.rang then look.time else last

def lastRing (last : BitVec w) (looks : List (Look w)) : BitVec w := looks.foldl (fun last look => look.since last) last

/-- The alarm rings when it is due, and at no other look. -/
def Kept (period : BitVec w) : BitVec w → List (Look w) → Prop
  | _, [] => True
  | last, look :: looks => (look.rang = true ↔ period < look.time - last) ∧ Kept period (look.since last) looks

theorem lastRing_snoc (look : Look w) : lastRing last (looks ++ [look]) = look.since (lastRing last looks) := by
  rw [lastRing, List.foldl_append]
  rfl

theorem kept_snoc {look : Look w} : Kept period last (looks ++ [look]) ↔
    Kept period last looks ∧ (look.rang = true ↔ period < look.time - lastRing last looks) := by
  induction looks generalizing last with
  | nil => exact and_comm
  | cons first looks ih =>
    rw [List.cons_append, Kept, ih, Kept, and_assoc]
    rfl

section Forward

/-- The clock does not go back. -/
def Forward (last : BitVec w) (looks : List (Look w)) : Prop := (last.toNat :: looks.map (·.time.toNat)).Pairwise (· ≤ ·)

def rings (looks : List (Look w)) : List Nat := (looks.filter (·.rang)).map (·.time.toNat)

theorem Forward.cons {look : Look w} (forward : Forward last (look :: looks)) :
    last.toNat ≤ look.time.toNat ∧ Forward (look.since last) looks := by
  obtain ⟨later, sorted⟩ := List.pairwise_cons.mp forward
  refine ⟨later _ (List.mem_cons_self ..), ?_⟩
  unfold Look.since
  split
  next => exact sorted
  next =>
    exact List.pairwise_cons.mpr ⟨fun time member => later time (List.mem_cons_of_mem _ member),
      (List.pairwise_cons.mp sorted).2⟩

theorem due_iff {time : BitVec w} (later : last.toNat ≤ time.toNat) : period < time - last ↔
    last.toNat + period.toNat < time.toNat := by
  rw [BitVec.lt_def, BitVec.toNat_sub_of_le (BitVec.le_def.mpr later)]
  omega

/-- More than a period lies between two rings. -/
theorem Kept.spaced (kept : Kept period last looks) (forward : Forward last looks) :
    (last.toNat :: rings looks).IsChain (fun earlier later => earlier + period.toNat < later) := by
  induction looks generalizing last with
  | nil => exact .singleton _
  | cons look looks ih =>
    obtain ⟨rang, kept⟩ := kept
    obtain ⟨later, forward⟩ := forward.cons
    have rest := ih kept forward
    by_cases ringing : look.rang = true
    · rw [Look.since, if_pos ringing] at rest
      rw [rings, List.filter_cons_of_pos ringing]
      exact .cons_cons ((due_iff later).mp (rang.mp ringing)) rest
    · rw [Look.since, if_neg ringing] at rest
      rw [rings, List.filter_cons_of_neg ringing]
      exact rest

/-- The alarm is never silent for longer than a period. -/
theorem Kept.waits (kept : Kept period last looks) (forward : Forward last looks) {before after : List (Look w)}
    {time : BitVec w}
    (silent : looks = before ++ ⟨time, false⟩ :: after) : time.toNat ≤ (lastRing last before).toNat + period.toNat := by
  induction before generalizing last looks with
  | nil =>
    subst silent
    have early := mt kept.1.mpr Bool.false_ne_true
    rw [due_iff forward.cons.1] at early
    exact Nat.not_lt.mp early
  | cons look before ih =>
    subst silent
    exact ih kept.2 forward.cons.2 rfl

theorem spaced_length {first bound : Nat} {times : List Nat} {period : Nat}
    (spaced : (first :: times).IsChain (fun earlier later => earlier + period < later))
    (below : ∀ time ∈ first :: times, time ≤ bound) : first + times.length * period ≤ bound := by
  induction times generalizing first with
  | nil => simpa using below first (List.mem_cons_self ..)
  | cons next times ih =>
    obtain ⟨later, rest⟩ := List.isChain_cons_cons.mp spaced
    have more := ih rest fun time member => below time (List.mem_cons_of_mem _ member)
    rw [List.length_cons, Nat.succ_mul]
    omega

end Forward
end Alarm
