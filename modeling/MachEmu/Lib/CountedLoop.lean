import Mathlib.Algebra.Group.Nat.Defs

/-! Loops of the form `for (i = start; i < bound; i++)` whose counter is a
machine word. The comparison is made on integers, so a bound beyond the range
of the counter is never reached: the counter wraps and the loop goes on. -/

namespace CountedLoop

universe u v
variable {w : Nat} {m : Type u → Type v} {α : Type u}

/-- The loop observed for at most `fuel` tests of its condition; `none` when it is still going then. -/
def run [Monad m] (bound : Nat) (body : α → BitVec w → m α) : Nat → BitVec w → α → m (Option α)
  | 0, _, _ => pure none
  | fuel + 1, i, acc =>
    if i.toNat < bound then do
      let acc ← body acc i
      run bound body fuel (i + 1) acc
    else pure (some acc)

def counters (count : Nat) (start : BitVec w) : List (BitVec w) :=
  (List.range count).map fun i => start + BitVec.ofNat w i

@[simp] theorem counters_zero (start : BitVec w) : counters 0 start = [] := rfl

@[simp] theorem length_counters (count : Nat) (start : BitVec w) : (counters count start).length = count := by
  simp [counters]

theorem counters_succ (count : Nat) (start : BitVec w) :
    counters (count + 1) start = start :: counters count (start + 1) := by
  simp only [counters, List.range_succ_eq_map, List.map_cons, List.map_map, BitVec.ofNat_eq_ofNat, List.cons.injEq]
  refine ⟨by simp, List.map_congr_left fun i _ => ?_⟩
  simp only [Function.comp, Nat.succ_eq_add_one, BitVec.add_assoc]
  rw [Nat.add_comm i 1, BitVec.ofNat_add]

section Rules
variable [Monad m] [LawfulMonad m] (body : α → BitVec w → m α)

/-- Within the range of the counter the loop runs its body once for each value below the bound, then ends. -/
theorem run_ends (count : Nat) (start : BitVec w) (acc : α) (fits : start.toNat + count < 2 ^ w) (fuel : Nat)
    (enough : count < fuel) :
    run (start.toNat + count) body fuel start acc = some <$> (counters count start).foldlM body acc := by
  induction count generalizing start acc fuel with
  | zero =>
    obtain ⟨fuel, rfl⟩ := Nat.exists_eq_add_of_lt enough
    simp [run]
  | succ count ih =>
    obtain ⟨fuel, rfl⟩ : ∃ rest, fuel = rest + 1 := ⟨fuel - 1, by omega⟩
    have stepped : (start + 1).toNat = start.toNat + 1 := by
      simp only [BitVec.toNat_add, BitVec.ofNat_eq_ofNat, BitVec.toNat_ofNat]
      rw [Nat.mod_eq_of_lt (a := 1) (by omega), Nat.mod_eq_of_lt (by omega)]
    have below : start.toNat < start.toNat + (count + 1) := by omega
    simp only [run, below, if_true, counters_succ, List.foldlM_cons, map_bind]
    refine bind_congr fun acc => ?_
    have rest := ih (start + 1) acc (by omega) fuel (by omega)
    rwa [stepped, Nat.add_right_comm] at rest

theorem run_busy (bound fuel : Nat) (start : BitVec w) (acc : α)
    (busy : ∀ i ∈ counters fuel start, i.toNat < bound) :
    run bound body fuel start acc = (counters fuel start).foldlM body acc >>= fun _ => pure none := by
  induction fuel generalizing start acc with
  | zero => simp [run]
  | succ fuel ih =>
    rw [counters_succ] at busy
    have below : start.toNat < bound := busy start List.mem_cons_self
    have rest (acc : α) := ih (start + 1) acc fun i member => busy i (List.mem_cons_of_mem start member)
    simp only [run, below, if_true, counters_succ, List.foldlM_cons, bind_assoc, rest]

/-- Beyond the range of the counter the condition never tests false. -/
theorem run_wraps (bound : Nat) (beyond : 2 ^ w ≤ bound) (fuel : Nat) (start : BitVec w) (acc : α) :
    run bound body fuel start acc = (counters fuel start).foldlM body acc >>= fun _ => pure none :=
  run_busy body bound fuel start acc fun i _ => Nat.lt_of_lt_of_le i.isLt beyond

theorem run_unfinished (bound fuel : Nat) (start : BitVec w) (acc : α) (unfinished : start.toNat + fuel ≤ bound) :
    run bound body fuel start acc = (counters fuel start).foldlM body acc >>= fun _ => pure none := by
  refine run_busy body bound fuel start acc fun i member => ?_
  obtain ⟨k, inside, rfl⟩ := List.mem_map.mp member
  have below := List.mem_range.mp inside
  have bounded : (start + BitVec.ofNat w k).toNat ≤ start.toNat + k := by
    rw [BitVec.toNat_add, BitVec.toNat_ofNat]
    exact Nat.le_trans (Nat.mod_le _ _) (Nat.add_le_add_left (Nat.mod_le _ _) _)
  omega

end Rules
end CountedLoop
