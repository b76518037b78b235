import MachEmu.Lib.ErrorState
import MachEmu.Opt

/-! Looking up options after an update, and the conversions of numbers. -/

namespace MachEmu.Proofs.Options
open ErrorState

theorem lookup_insert {key other : String} {value : Json} {members : List (String × Json)} :
    (Json.insert other value members).lookup key = if key = other then some value else members.lookup key := by
  induction members with
  | nil =>
    by_cases same : key = other
    · simp [Json.insert, same]
    · have apart : (key == other) = false := beq_false_of_ne same
      simp [Json.insert, List.lookup_cons, same, apart]
  | cons member members ih =>
    obtain ⟨name, present⟩ := member
    unfold Json.insert
    by_cases same : key = other
    · subst same
      rw [if_pos rfl] at ih ⊢
      split
      next => rw [List.lookup_cons, beq_self_eq_true]
      next =>
        split
        next => rw [List.lookup_cons, beq_self_eq_true]
        next later =>
          have apart : (key == name) = false := beq_false_of_ne later
          rw [List.lookup_cons, apart]
          exact ih
    · have apart : (key == other) = false := beq_false_of_ne same
      rw [if_neg same] at ih ⊢
      split
      next => rw [List.lookup_cons, apart]
      next =>
        split
        next here => rw [List.lookup_cons, List.lookup_cons, apart, ← here, apart]
        next => rw [List.lookup_cons, List.lookup_cons, ih]

/-- An update with one member leaves the others alone. -/
theorem index_update {json updated value : Json} {key other : String}
    (update : json.update (.object [(other, value)]) = .ok updated)
    (apart : key ≠ other) : updated.index key = json.index key := by
  have unlike : (key == other) = false := beq_false_of_ne apart
  cases json with
  | null =>
    cases update
    simp [Json.insert, Json.index, List.lookup_cons, unlike]
  | object members =>
    cases update
    simp [Json.index, lookup_insert, apart]
  | _ => cases update

theorem truncate_intCast (n : Int) : Json.truncate n = n := by
  unfold Json.truncate
  split
  · rw [← Int.cast_neg, Int.floor_intCast, neg_neg]
  · exact Int.floor_intCast n

/-- The option text of `SetClockResolution`. -/
def resolutionText (resolution : Int) : String := "\x7b\"clockResolution\":" ++ toString resolution ++ "\x7d"

/-- The parser reads a number back that the program prints. -/
def Parses (lib : Libraries) (resolution : Int) : Prop :=
  lib.parse (resolutionText resolution) = some (.object [("clockResolution", .integer resolution)])

theorem resolutionText_plain (resolution : Int) :
    "file://".toList.isPrefixOf (resolutionText resolution).toList = false := by
  have brace : "\x7b\"clockResolution\":".toList = '\x7b' :: "\"clockResolution\":".toList := by simp
  have file : "file://".toList = 'f' :: "ile://".toList := by simp
  have apart : ('f' == '\x7b') = false := by decide
  change "file://".toList.isPrefixOf ("\x7b\"clockResolution\":" ++ toString resolution ++ "\x7d").toList = false
  rw [String.toList_append, String.toList_append, brace, file, List.cons_append, List.cons_append,
    List.isPrefixOf_cons_cons, apart, Bool.false_and]

variable {lib : Libraries} {build : Build} {opt changed : Opt}

/-- Only the one option is replaced. -/
theorem setOptions_resolution {resolution : Int} (parses : Parses lib resolution) :
    opt.setOptions lib build (some (resolutionText resolution)) =
      (opt.json.update (.object [("clockResolution", .integer resolution)])).map Opt.mk := by
  have read : Opt.read lib (resolutionText resolution) = .ok (.object [("clockResolution", .integer resolution)]) := by
    have plain : ¬ "file://".toList.isPrefixOf (resolutionText resolution).toList = true := by
      rw [resolutionText_plain]
      exact Bool.false_ne_true
    unfold Opt.read
    rw [if_neg plain, parse, parses]
  have absent (key : String) (other : key ≠ "clockResolution") :
      (Json.object [("clockResolution", .integer resolution)]).contains key = false := by
    have apart : (key == "clockResolution") = false := beq_false_of_ne other
    simp [Json.contains, List.lookup_cons, apart]
  have kept : Opt.convertDeprecated (.object [("clockResolution", .integer resolution)]) =
      .ok (.object [("clockResolution", .integer resolution)]) := by
    simp [Opt.convertDeprecated, absent, pure, Except.pure, bind, Except.bind]
  unfold Opt.setOptions
  simp only [read,
    absent "cpu" (by decide), absent "isrFreq" (by decide), absent "compressor" (by decide), kept, Bool.and_false,
    bind, Except.bind, pure, Except.pure]
  cases opt.json.update (.object [("clockResolution", .integer resolution)]) <;> rfl

theorem isrFreq_resolution {resolution : Int} (parses : Parses lib resolution)
    (set : opt.setOptions lib build (some (resolutionText resolution)) = .ok changed) : changed.isrFreq = opt.isrFreq := by
  rw [setOptions_resolution parses] at set
  cases update : opt.json.update (.object [("clockResolution", .integer resolution)]) with
  | error fault =>
    rw [update] at set
    cases set
  | ok json =>
    rw [update] at set
    cases set
    unfold Opt.isrFreq
    rw [index_update update (by decide)]

end MachEmu.Proofs.Options
