import Mathlib.Data.List.Induction
import Mathlib.Data.Option.Basic

/-! A store of values under keys, and the updates it takes. An update gives values
to some of the keys. -/

namespace LastWriter

variable {κ ν : Type}

abbrev Store (κ ν : Type) := κ → Option ν

/-- Keys the update does not mention keep their values. -/
def apply (store update : Store κ ν) : Store κ ν := fun key => (update key).or (store key)

/-- The values the updates give to a key, in order. -/
def given (updates : List (Store κ ν)) (key : κ) : List ν := updates.filterMap fun update => update key

theorem given_append (updates more : List (Store κ ν)) (key : κ) :
    given (updates ++ more) key = given updates key ++ given more key :=
  List.filterMap_append

theorem given_one (update : Store κ ν) (key : κ) : given [update] key = (update key).toList := by
  cases mentioned : update key with
  | none => simp [given, mentioned]
  | some value => simp [given, mentioned]

theorem foldl_apply (updates : List (Store κ ν)) (store : Store κ ν) (key : κ) :
    updates.foldl apply store key = (given updates key).getLast?.or (store key) := by
  induction updates using List.reverseRecOn with
  | nil => rfl
  | append_singleton updates update ih =>
    rw [List.foldl_append, given_append, given_one, List.getLast?_append]
    change (update key).or (updates.foldl apply store key) = _
    rw [ih, Option.or_assoc]
    cases update key with
    | none => rfl
    | some value => rfl

end LastWriter
