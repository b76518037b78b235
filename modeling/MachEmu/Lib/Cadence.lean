import Mathlib.Algebra.Ring.Nat
import Mathlib.Data.List.Basic

/-! Work that is interrupted by stops. A stop follows the first piece of work with
which the work since the stop before reaches a threshold. -/

namespace Cadence

inductive Mark (γ : Type) where
  | work (amount : Nat)
  | stop (call : γ)

variable {γ : Type} {marks before gap after : List (Mark γ)} {threshold : Int}

def Mark.amount : Mark γ → Nat
  | .work amount => amount
  | .stop _ => 0

def total (marks : List (Mark γ)) : Nat := (marks.map Mark.amount).sum

def Stops (marks : List (Mark γ)) : Prop := ∃ call, .stop call ∈ marks

/-- The work since the last stop. -/
def elapsed (marks : List (Mark γ)) : Nat := marks.foldl (fun sum mark => match mark with
  | .work amount => sum + amount
  | .stop _ => 0) 0

theorem total_append (marks more : List (Mark γ)) : total (marks ++ more) = total marks + total more := by
  simp [total]

theorem elapsed_work (amount : Nat) : elapsed (marks ++ [.work amount]) = elapsed marks + amount := by
  simp [elapsed]

theorem elapsed_stop (call : γ) : elapsed (marks ++ [.stop call]) = 0 := by
  simp [elapsed]

theorem stops_append {marks more : List (Mark γ)} : Stops (marks ++ more) ↔ Stops marks ∨ Stops more := by
  simp [Stops, exists_or]

theorem not_stops_cons {mark : Mark γ} : ¬ Stops (mark :: marks) ↔ (∃ amount, mark = .work amount) ∧ ¬ Stops marks := by
  cases mark with
  | work amount => simp [Stops]
  | stop call => simp [Stops]

/-- Work without a stop only adds up. -/
theorem elapsed_append (unstopped : ¬ Stops gap) : elapsed (marks ++ gap) = elapsed marks + total gap := by
  induction gap generalizing marks with
  | nil => simp [total]
  | cons mark gap ih =>
    obtain ⟨⟨amount, rfl⟩, rest⟩ := not_stops_cons.mp unstopped
    have cons : marks ++ .work amount :: gap = (marks ++ [.work amount]) ++ gap := by simp
    rw [cons, ih rest, elapsed_work, Nat.add_assoc]
    rfl

/-- Work is measured from the beginning or from a stop. -/
def Fresh (marks : List (Mark γ)) : Prop := marks = [] ∨ ∃ earlier call, marks = earlier ++ [.stop call]

theorem Fresh.elapsed (fresh : Fresh marks) : elapsed marks = 0 := by
  rcases fresh with rfl | ⟨earlier, call, rfl⟩
  · rfl
  · exact elapsed_stop call

theorem append_eq_cons {α : Type} {marks before after : List α} {mark last : α}
    (same : marks ++ [last] = before ++ mark :: after) :
    (marks = before ∧ last = mark ∧ after = []) ∨ ∃ rest, after = rest ++ [last] ∧ marks = before ++ mark :: rest := by
  rcases List.eq_nil_or_concat' after with rfl | ⟨rest, final, rfl⟩
  · obtain ⟨rfl, single⟩ := List.append_inj' same rfl
    cases single
    exact .inl ⟨rfl, rfl, rfl⟩
  · have apart : marks ++ [last] = (before ++ mark :: rest) ++ [final] := by simpa using same
    obtain ⟨rfl, single⟩ := List.append_inj' apart rfl
    cases single
    exact .inr ⟨rest, rfl, rfl⟩

/-- A stop follows the work with which the threshold is reached, and no other. -/
structure Paced (threshold : Int) (marks : List (Mark γ)) : Prop where
  stops : ∀ {before call after}, marks = before ++ .stop call :: after → threshold ≤ elapsed before
  works : ∀ {before} {amount : Nat} {after}, marks = before ++ .work amount :: after → threshold ≤ elapsed before + amount →
    ∃ call rest, after = .stop call :: rest

theorem Paced.nil : Paced threshold ([] : List (Mark γ)) := by
  constructor
  · intro before call after impossible
    simp at impossible
  · intro before amount after impossible
    simp at impossible

theorem Paced.work {amount : Nat} (paced : Paced threshold marks) (early : elapsed marks + amount < threshold) :
    Paced threshold (marks ++ [.work amount]) := by
  constructor
  · intro before call after same
    obtain ⟨-, impossible, -⟩ | ⟨rest, -, inner⟩ := append_eq_cons same
    · cases impossible
    · exact paced.stops inner
  · intro before other after same due
    obtain ⟨rfl, last, -⟩ | ⟨rest, rfl, inner⟩ := append_eq_cons same
    · cases last
      omega
    · obtain ⟨call, more, rfl⟩ := paced.works inner due
      exact ⟨call, _, rfl⟩

theorem Paced.stop {amount : Nat} (paced : Paced threshold marks) (due : threshold ≤ elapsed marks + amount) (call : γ) :
    Paced threshold (marks ++ [.work amount, .stop call]) := by
  have split : marks ++ [.work amount, .stop call] = (marks ++ [.work amount]) ++ [.stop call] := by simp
  rw [split]
  constructor
  · intro before other after same
    obtain ⟨rfl, -, -⟩ | ⟨rest, -, inner⟩ := append_eq_cons same
    · rw [elapsed_work]
      omega
    · obtain ⟨-, impossible, -⟩ | ⟨rest, -, first⟩ := append_eq_cons inner
      · cases impossible
      · exact paced.stops first
  · intro before other after same reached
    obtain ⟨-, impossible, -⟩ | ⟨rest, rfl, inner⟩ := append_eq_cons same
    · cases impossible
    · obtain ⟨-, -, rfl⟩ | ⟨rest, rfl, first⟩ := append_eq_cons inner
      · exact ⟨call, [], rfl⟩
      · obtain ⟨earlier, more, rfl⟩ := paced.works first reached
        exact ⟨earlier, _, rfl⟩

/-- The work up to a stop reaches the threshold, and exceeds it by less than the last piece. -/
theorem Paced.between {most : Nat} {call : γ} (paced : Paced threshold (before ++ gap ++ .stop call :: after))
    (fresh : Fresh before) (unstopped : ¬ Stops gap) (small : ∀ mark ∈ gap, mark.amount ≤ most) (positive : 0 < threshold) :
    threshold ≤ total gap ∧ total gap < threshold + most := by
  have measured {part : List (Mark γ)} (unstopped : ¬ Stops part) : elapsed (before ++ part) = total part := by
    rw [elapsed_append unstopped, fresh.elapsed, Nat.zero_add]
  have reached := paced.stops rfl
  rw [measured unstopped] at reached
  refine ⟨reached, ?_⟩
  rcases List.eq_nil_or_concat' gap with rfl | ⟨earlier, last, rfl⟩
  · have nothing : total ([] : List (Mark γ)) = 0 := rfl
    omega
  · rw [stops_append, not_or] at unstopped
    have bound : last.amount ≤ most := small last (by simp)
    have sum : total (earlier ++ [last]) = total earlier + last.amount := total_append earlier [last]
    have early : (total earlier : Int) < threshold := by
      rcases List.eq_nil_or_concat' earlier with rfl | ⟨first, mark, rfl⟩
      · exact positive
      · obtain ⟨first_unstopped, mark_unstopped⟩ := not_or.mp (mt stops_append.mpr unstopped.1)
        obtain ⟨amount, rfl⟩ := (not_stops_cons.mp mark_unstopped).1
        obtain ⟨other, rfl⟩ := (not_stops_cons.mp unstopped.2).1
        refine Int.not_le.mp fun due => ?_
        have position : before ++ (first ++ [.work amount] ++ [.work other]) ++ .stop call :: after =
            (before ++ first) ++ .work amount :: .work other :: .stop call :: after := by simp
        rw [total_append] at due
        obtain ⟨stop, rest, impossible⟩ := paced.works position (by rw [measured first_unstopped]; exact due)
        cases impossible
    omega

theorem length_mul_le_total {least : Nat} (large : ∀ mark ∈ gap, least ≤ mark.amount) : gap.length * least ≤ total gap := by
  induction gap with
  | nil => simp
  | cons mark gap ih =>
    obtain ⟨first, rest⟩ := List.forall_mem_cons.mp large
    have sum : total (mark :: gap) = mark.amount + total gap := rfl
    have bound := ih rest
    rw [List.length_cons, Nat.succ_mul]
    omega

/-- A stretch of work that reaches the threshold is stopped in or right after. -/
theorem Paced.stretch {least : Nat} (paced : Paced threshold (before ++ gap ++ after))
    (large : ∀ amount, .work amount ∈ gap → least ≤ amount) (long : threshold ≤ gap.length * least) (some : gap ≠ []) :
    Stops gap ∨ ∃ call rest, after = .stop call :: rest := by
  by_cases unstopped : Stops gap
  · exact .inl unstopped
  · refine .inr ?_
    have every : ∀ mark ∈ gap, least ≤ mark.amount := by
      intro mark member
      cases mark with
      | work amount => exact large amount member
      | stop call => exact absurd ⟨call, member⟩ unstopped
    have sum := length_mul_le_total every
    obtain ⟨earlier, last, rfl⟩ := (List.eq_nil_or_concat' gap).resolve_left some
    obtain ⟨earlier_unstopped, last_unstopped⟩ := not_or.mp (mt stops_append.mpr unstopped)
    obtain ⟨amount, rfl⟩ := (not_stops_cons.mp last_unstopped).1
    have position : before ++ (earlier ++ [.work amount]) ++ after = (before ++ earlier) ++ .work amount :: after := by simp
    refine paced.works position ?_
    rw [elapsed_append earlier_unstopped]
    have whole : total (earlier ++ [.work amount]) = total earlier + amount := total_append earlier [.work amount]
    omega

def workCount (marks : List (Mark γ)) : Nat := marks.countP fun
  | .work _ => true
  | .stop _ => false

def stopCount (marks : List (Mark γ)) : Nat := marks.countP fun
  | .work _ => false
  | .stop _ => true

theorem workCount_append (marks more : List (Mark γ)) :
    workCount (marks ++ more) = workCount marks + workCount more := List.countP_append

theorem stopCount_append (marks more : List (Mark γ)) :
    stopCount (marks ++ more) = stopCount marks + stopCount more := List.countP_append

theorem unstopped_or (marks : List (Mark γ)) : (workCount marks = marks.length ∧ ¬ Stops marks) ∨
    ∃ gap call rest, marks = gap ++ .stop call :: rest ∧ workCount gap = gap.length ∧ ¬ Stops gap := by
  induction marks with
  | nil => exact .inl ⟨rfl, by simp [Stops]⟩
  | cons mark marks ih =>
    cases mark with
    | stop call => exact .inr ⟨[], call, marks, rfl, rfl, by simp [Stops]⟩
    | work amount =>
      have first : workCount (.work amount :: marks) = workCount marks + 1 := by simp [workCount]
      rcases ih with ⟨all, unstopped⟩ | ⟨gap, call, rest, rfl, all, unstopped⟩
      · exact .inl ⟨by rw [first, all, List.length_cons], by simpa [Stops] using unstopped⟩
      · exact .inr ⟨.work amount :: gap, call, rest, rfl, by simpa [workCount] using all, by simpa [Stops] using unstopped⟩

theorem nth_stop {marks : List (Mark γ)} {n : Nat} (more : n < stopCount marks) :
    ∃ before call after, marks = before ++ .stop call :: after ∧ stopCount before = n := by
  induction marks generalizing n with
  | nil => cases more
  | cons mark marks ih =>
    cases mark with
    | work amount =>
      have skipped (rest : List (Mark γ)) : stopCount (.work amount :: rest) = stopCount rest := by simp [stopCount]
      rw [skipped] at more
      obtain ⟨before, call, after, rfl, count⟩ := ih more
      exact ⟨.work amount :: before, call, after, rfl, by rw [skipped, count]⟩
    | stop call =>
      have counted (rest : List (Mark γ)) : stopCount (.stop call :: rest) = stopCount rest + 1 := by simp [stopCount]
      rw [counted] at more
      cases n with
      | zero => exact ⟨[], call, marks, rfl, rfl⟩
      | succ n =>
        obtain ⟨before, other, after, rfl, count⟩ := ih (Nat.lt_of_succ_lt_succ more)
        exact ⟨.stop call :: before, other, after, rfl, by rw [counted, count]⟩

section Bounds
variable {least most : Nat}

/-- Without a stop there are at most so many pieces of work. -/
theorem Paced.unstopped_le (paced : Paced threshold (before ++ gap ++ after))
    (large : ∀ amount, .work amount ∈ gap → least ≤ amount)
    (unstopped : ¬ Stops gap) (reached : threshold ≤ most * least) (positive : 0 < most) : gap.length ≤ most := by
  refine Nat.not_lt.mp fun longer => ?_
  have position : before ++ gap.take most ++ (gap.drop most ++ after) = before ++ gap ++ after := by
    rw [List.append_assoc, ← List.append_assoc (gap.take most), List.take_append_drop, List.append_assoc]
  rw [← position] at paced
  have taken : (gap.take most).length = most := List.length_take_of_le (Nat.le_of_lt longer)
  have some : gap.take most ≠ [] := List.ne_nil_of_length_pos (by omega)
  have stretched := paced.stretch (fun amount member => large amount (List.mem_of_mem_take member))
      (by rw [taken]; exact reached) some
  rcases stretched with ⟨call, member⟩ | ⟨call, rest, next⟩
  · exact unstopped ⟨call, List.mem_of_mem_take member⟩
  · obtain ⟨mark, left, dropped⟩ : ∃ mark left, gap.drop most = mark :: left := ⟨_, _, List.drop_eq_getElem_cons longer⟩
    rw [dropped] at next
    cases next
    exact unstopped ⟨call, List.mem_of_mem_drop (dropped ▸ List.mem_cons_self)⟩

/-- Stops are as frequent as the work is large. -/
theorem Paced.workCount_le (paced : Paced threshold (before ++ marks))
    (large : ∀ amount, .work amount ∈ marks → least ≤ amount)
    (reached : threshold ≤ most * least) (positive : 0 < most) : workCount marks ≤ (stopCount marks + 1) * most := by
  obtain ⟨length, bound⟩ : ∃ length, marks.length ≤ length := ⟨_, Nat.le_refl _⟩
  induction length generalizing before marks with
  | zero =>
    obtain rfl := List.length_eq_zero_iff.mp (Nat.le_zero.mp bound)
    exact Nat.zero_le _
  | succ length ih =>
    rcases unstopped_or marks with ⟨all, unstopped⟩ | ⟨gap, call, rest, rfl, all, unstopped⟩
    · rw [← List.append_nil marks, ← List.append_assoc] at paced
      have short := paced.unstopped_le large unstopped reached positive
      have more : 1 * most ≤ (stopCount marks + 1) * most := Nat.mul_le_mul_right most (by omega)
      omega
    · have position : before ++ (gap ++ .stop call :: rest) = (before ++ gap ++ [.stop call]) ++ rest := by simp
      have short : gap.length ≤ most := by
        rw [← List.append_assoc] at paced
        exact paced.unstopped_le (fun amount member => large amount (by simp [member])) unstopped reached positive
      rw [position] at paced
      have others := ih paced (fun amount member => large amount (by simp [member])) (by simp at bound; omega)
      have work : workCount (gap ++ .stop call :: rest) = workCount gap + workCount rest := by simp [workCount]
      have stop : stopCount (gap ++ .stop call :: rest) = stopCount gap + (stopCount rest + 1) := by simp [stopCount]
      have more : (stopCount rest + 1 + 1) * most ≤ (stopCount gap + (stopCount rest + 1) + 1) * most :=
        Nat.mul_le_mul_right most (by omega)
      rw [Nat.succ_mul] at more
      rw [work, stop]
      omega

end Bounds
end Cadence
