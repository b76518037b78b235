import Mathlib.Data.Nat.Digits.Defs
import Mathlib.Data.Nat.Digits.Lemmas

/-! Numbers of several digits, the least significant first, that are worked through
one digit at a time. A carry goes from each digit to the next. -/

namespace Ripple

/-- The operands of the digits with the carry that comes in, and the results with the carry that goes out. -/
inductive Chain (digit : Nat → Nat → Bool → Nat → Bool → Prop) : List (Nat × Nat) → Bool → List Nat → Bool → Prop
  | nil (carry : Bool) : Chain digit [] carry [] carry
  | cons {x y r : Nat} {carry mid out : Bool} {pairs : List (Nat × Nat)} {results : List Nat}
    (first : digit x y carry r mid)
      (rest : Chain digit pairs mid results out) : Chain digit ((x, y) :: pairs) carry (r :: results) out

structure Adds (base x y : Nat) (carry : Bool) (r : Nat) (out : Bool) : Prop where
  digit : r < base
  sum : r + base * out.toNat = x + y + carry.toNat

structure Subtracts (base x y : Nat) (borrow : Bool) (r : Nat) (out : Bool) : Prop where
  digit : r < base
  difference : r + y + borrow.toNat = x + base * out.toNat

theorem adds_digit {base x y : Nat} (carry : Bool) (first : x < base) (second : y < base) :
    Adds base x y carry ((x + y + carry.toNat) % base) (decide (base ≤ x + y + carry.toNat)) := by
  have unit := Bool.toNat_le carry
  refine ⟨Nat.mod_lt _ (by omega), ?_⟩
  by_cases full : base ≤ x + y + carry.toNat
  · rw [Nat.mod_eq_sub_mod full, Nat.mod_eq_of_lt (by omega), decide_eq_true full, Bool.toNat_true]
    omega
  · rw [Nat.mod_eq_of_lt (by omega), decide_eq_false full, Bool.toNat_false]
    omega

theorem subtracts_digit {base x y : Nat} (borrow : Bool) (first : x < base) (second : y < base) :
    Subtracts base x y borrow ((x + (base - (y + borrow.toNat))) % base) (decide (x < y + borrow.toNat)) := by
  have unit := Bool.toNat_le borrow
  refine ⟨Nat.mod_lt _ (by omega), ?_⟩
  by_cases short : x < y + borrow.toNat
  · rw [Nat.mod_eq_of_lt (by omega), decide_eq_true short, Bool.toNat_true]
    omega
  · rw [Nat.mod_eq_sub_mod (by omega), Nat.mod_eq_of_lt (by omega), decide_eq_false short, Bool.toNat_false]
    omega

variable {digit : Nat → Nat → Bool → Nat → Bool → Prop} {base : Nat} {pairs : List (Nat × Nat)} {results : List Nat}
  {carry out : Bool}

theorem Chain.length (chain : Chain digit pairs carry results out) : results.length = pairs.length := by
  induction chain with
  | nil => rfl
  | cons _ _ ih => rw [List.length_cons, List.length_cons, ih]

theorem Chain.digits (chain : Chain digit pairs carry results out)
    (small : ∀ {x y carry r mid}, digit x y carry r mid → r < base) : ∀ r ∈ results, r < base := by
  induction chain with
  | nil => exact List.forall_mem_nil _
  | cons first _ ih => exact List.forall_mem_cons.mpr ⟨small first, ih⟩

/-- What the digits of the results add up to is less than the carry that goes out. -/
theorem Chain.bounded (chain : Chain digit pairs carry results out)
    (small : ∀ {x y carry r mid}, digit x y carry r mid → r < base)
    (two : 1 < base) : Nat.ofDigits base results < base ^ pairs.length := by
  rw [← chain.length]
  exact Nat.ofDigits_lt_base_pow_length two (chain.digits small)

theorem Chain.total (chain : Chain (Adds base) pairs carry results out) :
    Nat.ofDigits base results + base ^ pairs.length * out.toNat =
      Nat.ofDigits base (pairs.map Prod.fst) + Nat.ofDigits base (pairs.map Prod.snd) + carry.toNat := by
  induction chain with
  | nil carry => simp
  | @cons x y r carry mid out pairs results first rest ih =>
    have sum := first.sum
    simp only [Nat.ofDigits_cons, List.map_cons, List.length_cons, Nat.pow_succ]
    calc r + base * Nat.ofDigits base results + base ^ pairs.length * base * out.toNat
        = r + base * (Nat.ofDigits base results + base ^ pairs.length * out.toNat) := by ring
      _ = r + base * (Nat.ofDigits base (pairs.map Prod.fst) + Nat.ofDigits base
        (pairs.map Prod.snd) + mid.toNat) := by rw [ih]
      _ = (r + base * mid.toNat) + base * (Nat.ofDigits base (pairs.map Prod.fst) + Nat.ofDigits base
        (pairs.map Prod.snd)) := by ring
      _ = (x + y + carry.toNat) + base * (Nat.ofDigits base (pairs.map Prod.fst) + Nat.ofDigits base
        (pairs.map Prod.snd)) := by rw [sum]
      _ = x + base * Nat.ofDigits base (pairs.map Prod.fst) + (y + base * Nat.ofDigits base
        (pairs.map Prod.snd)) + carry.toNat := by ring

theorem Chain.remainder (chain : Chain (Subtracts base) pairs carry results out) :
    Nat.ofDigits base results + Nat.ofDigits base (pairs.map Prod.snd) + carry.toNat =
      Nat.ofDigits base (pairs.map Prod.fst) + base ^ pairs.length * out.toNat := by
  induction chain with
  | nil carry => simp
  | @cons x y r borrow mid out pairs results first rest ih =>
    have difference := first.difference
    simp only [Nat.ofDigits_cons, List.map_cons, List.length_cons, Nat.pow_succ]
    have step : base * Nat.ofDigits base results + base * Nat.ofDigits base (pairs.map Prod.snd) + base * mid.toNat =
        base * Nat.ofDigits base (pairs.map Prod.fst) + base ^ pairs.length * base * out.toNat := by
      calc base * Nat.ofDigits base results + base * Nat.ofDigits base (pairs.map Prod.snd) + base * mid.toNat
          = base * (Nat.ofDigits base results + Nat.ofDigits base (pairs.map Prod.snd) + mid.toNat) := by ring
        _ = base * (Nat.ofDigits base (pairs.map Prod.fst) + base ^ pairs.length * out.toNat) := by rw [ih]
        _ = base * Nat.ofDigits base (pairs.map Prod.fst) + base ^ pairs.length * base * out.toNat := by ring
    omega

/-- The digits of a sum, and the carry that says whether it is too long. -/
theorem adds (chain : Chain (Adds base) pairs carry results out) (two : 1 < base) :
    Nat.ofDigits base results =
        (Nat.ofDigits base (pairs.map Prod.fst) + Nat.ofDigits base (pairs.map Prod.snd) + carry.toNat) % base
          ^ pairs.length ∧
      (out = true ↔ base ^ pairs.length ≤
        Nat.ofDigits base (pairs.map Prod.fst) + Nat.ofDigits base (pairs.map Prod.snd) + carry.toNat) := by
  have below := chain.bounded Adds.digit two
  rw [← chain.total]
  constructor
  · rw [Nat.add_mul_mod_self_left, Nat.mod_eq_of_lt below]
  · cases out with
    | false => simpa using below
    | true => simp

/-- The digits of a difference, and the borrow that says whether it is negative. -/
theorem subtracts (chain : Chain (Subtracts base) pairs carry results out) (two : 1 < base) :
    ((Nat.ofDigits base results : Nat) : Int) =
        ((Nat.ofDigits base (pairs.map Prod.fst) : Nat) - (Nat.ofDigits base (pairs.map Prod.snd) :
          Nat) - carry.toNat : Int) %
          base ^ pairs.length ∧
      (out = true ↔ Nat.ofDigits base (pairs.map Prod.fst) < Nat.ofDigits base (pairs.map Prod.snd) + carry.toNat) := by
  have below := chain.bounded Subtracts.digit two
  have remainder := chain.remainder
  generalize Nat.ofDigits base results = r at below remainder ⊢
  generalize Nat.ofDigits base (pairs.map Prod.fst) = x at remainder ⊢
  generalize Nat.ofDigits base (pairs.map Prod.snd) = y at remainder ⊢
  constructor
  · have whole : (r : Int) + y + carry.toNat = x + base ^ pairs.length * out.toNat := by exact_mod_cast remainder
    have same : (x : Int) - y - carry.toNat = r - base ^ pairs.length * out.toNat := by linarith
    rw [same, Int.sub_mul_emod_self_left, Int.emod_eq_of_lt (Int.natCast_nonneg _) (by exact_mod_cast below)]
  · cases out with
    | false =>
      simp only [Bool.toNat_false, Nat.mul_zero, Nat.add_zero] at remainder
      simp only [Bool.false_eq_true, false_iff]
      omega
    | true =>
      simp only [Bool.toNat_true, Nat.mul_one] at remainder
      simp only [true_iff]
      omega

end Ripple
