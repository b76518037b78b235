import MachEmu.Lib.LastWriter
import MachEmu.Proofs.Options

/-! The option store over all the calls it takes, those that throw included. -/

namespace MachEmu.Proofs.OptionHistory
open ErrorState LastWriter Options

abbrev Members := List (String × Json)

/-- What a document says about a key. Of equal keys the last one counts. -/
def mentions (members : Members) : Store String Json := fun key => members.reverse.lookup key

theorem lookup_update (members others : Members) (key : String) :
    (others.foldl (fun members (key, value) => Json.insert key value members) members).lookup key =
      (mentions others key).or (members.lookup key) := by
  induction others generalizing members with
  | nil => rfl
  | cons other others ih =>
    obtain ⟨name, value⟩ := other
    rw [List.foldl_cons, ih, mentions, mentions, List.reverse_cons, List.lookup_append, lookup_insert, Option.or_assoc]
    by_cases same : key = name
    · subst same
      simp
    · have apart : (key == name) = false := beq_false_of_ne same
      simp [List.lookup_cons, same, apart]

variable {lib : Libraries} {build : Build} {opt changed : Opt} {members : Members}

theorem optional_ok_iff {α β γ : Type} {c : Prop} [Decidable c] {found : Except Fault α} {get : α → Except Fault β}
    {bad : β → Prop} [DecidablePred bad] {fault : Fault} {rest : Unit → Except Fault γ} {result : γ} :
    (if c then do
        let value ← found
        let option ← get value
        if bad option then do
          let r ← throw fault
          rest r
        else rest ()
      else rest ()) = .ok result ↔
      (c → ∃ value option, found = .ok value ∧ get value = .ok option ∧ ¬ bad option) ∧ rest () = .ok result := by
  by_cases given : c
  · rw [if_pos given, except_bind_ok_iff]
    constructor
    · intro ⟨value, present, ran⟩
      obtain ⟨option, got, ran⟩ := except_bind_ok_iff.mp ran
      obtain ⟨good, ran⟩ := except_guard_ok_iff.mp ran
      exact ⟨fun _ => ⟨value, option, present, got, good⟩, ran⟩
    · intro ⟨checked, ran⟩
      obtain ⟨value, option, present, got, good⟩ := checked given
      exact ⟨value, present, except_bind_ok_iff.mpr ⟨option, got, except_guard_ok_iff.mpr ⟨good, ran⟩⟩⟩
  · rw [if_neg given]
    exact ⟨fun ran => ⟨fun here => absurd here given, ran⟩, And.right⟩

structure Legal (build : Build) (opt : Opt) (json : Json) : Prop where
  cpu : ¬ (opt.json.contains "cpu" && json.contains "cpu") = true
  isrFreq : json.contains "isrFreq" = true →
    ∃ value freq, json.index "isrFreq" = .ok value ∧ value.getDouble = .ok freq ∧ ¬ freq < 0
  compressor : (!build.zlib && json.contains "compressor") = true →
    ∃ value name, json.index "compressor" = .ok value ∧ value.getString = .ok name ∧ ¬ (name == "zlib") = true

theorem setOptions_ok_iff {text : String} : opt.setOptions lib build (some text) = .ok changed ↔
    ∃ json, Opt.read lib text = .ok json ∧ Legal build opt json ∧
      ∃ converted, Opt.convertDeprecated json = .ok converted ∧ opt.json.update converted = .ok changed.json := by
  unfold Opt.setOptions
  dsimp only
  rw [except_bind_ok_iff]
  apply exists_congr
  intro json
  apply and_congr_right
  intro read
  rw [except_guard_ok_iff, optional_ok_iff, optional_ok_iff, except_bind_ok_iff]
  constructor
  · intro ⟨cpu, isrFreq, compressor, converted, converts, merges⟩
    obtain ⟨merged, updated, made⟩ := except_bind_ok_iff.mp merges
    obtain rfl := except_pure_ok_iff.mp made
    exact ⟨⟨cpu, isrFreq, compressor⟩, converted, converts, updated⟩
  · intro ⟨⟨cpu, isrFreq, compressor⟩, converted, converts, updated⟩
    exact ⟨cpu, isrFreq, compressor, converted, converts, except_bind_ok_iff.mpr ⟨changed.json, updated, rfl⟩⟩

theorem setOptions_defaults (set : opt.setOptions lib build none = .ok changed) :
    opt.json.update (Opt.defaultOpts build) = .ok changed.json := by
  change (opt.json.update (Opt.defaultOpts build) >>= fun json => .ok ⟨json⟩) = .ok changed at set
  obtain ⟨merged, updated, made⟩ := except_bind_ok_iff.mp set
  cases made
  exact updated

/-- The options that `ram` and `rom` replace. -/
def deprecated : List String := ["ramOffset", "ramSize", "romOffset", "romSize"]

theorem convertDeprecated_new {json : Json} (new : (json.contains "ram" || json.contains "rom") = true) :
    Opt.convertDeprecated json = .ok json := by
  unfold Opt.convertDeprecated
  rw [if_pos new]
  rfl

theorem convertDeprecated_plain {json : Json} (plain : ∀ key ∈ deprecated, json.contains key = false) :
    Opt.convertDeprecated json = .ok json := by
  have ramOffset := plain "ramOffset" (by simp [deprecated])
  have ramSize := plain "ramSize" (by simp [deprecated])
  have romOffset := plain "romOffset" (by simp [deprecated])
  by_cases new : (json.contains "ram" || json.contains "rom") = true
  · exact convertDeprecated_new new
  · unfold Opt.convertDeprecated
    rw [if_neg new]
    simp [ramOffset, ramSize, romOffset, pure, Except.pure, bind, Except.bind]

section Documents

def documentOf : Json → Option Members
  | .object members => some members
  | _ => none

/-- The document of a call. A null pointer stands for the defaults. -/
def document (lib : Libraries) (build : Build) : Option String → Option Members
  | none => documentOf (Opt.defaultOpts build)
  | some text => (Opt.read lib text).toOption.bind documentOf

/-- The members of a store that has taken updates. -/
def Stores (opt : Opt) (store : Store String Json) : Prop :=
  ∃ members, opt.json = .object members ∧ ∀ key, members.lookup key = store key

theorem mentions_none {key : String} : mentions members key = none ↔ (Json.object members).contains key = false := by
  rw [mentions, Json.contains, Option.isSome_eq_false_iff, Option.isNone_iff_eq_none, List.lookup_eq_none_iff,
    List.lookup_eq_none_iff]
  simp only [List.mem_reverse]

theorem Stores.update {store : Store String Json} {json merged : Json} (stores : Stores opt store)
    (updated : opt.json.update json = .ok merged) :
    ∃ members, json = .object members ∧ Stores ⟨merged⟩ (apply store (mentions members)) := by
  obtain ⟨present, same, looked⟩ := stores
  rw [same] at updated
  cases json with
  | object members =>
    cases updated
    refine ⟨members, rfl, _, rfl, fun key => ?_⟩
    rw [lookup_update, looked]
    rfl
  | _ => cases updated

end Documents

section Calls

def Plain (lib : Libraries) (text : String) : Prop :=
  ∀ members, Opt.read lib text = .ok (.object members) → ∀ key ∈ deprecated, mentions members key = none

/-- Only the first document that is accepted can set the cpu. -/
def SetsOnce (store : Store String Json) (members : Members) : Prop := store "cpu" = none ∨ mentions members "cpu" = none

theorem contains_stored {store : Store String Json} (stores : Stores opt store) (key : String) :
    opt.json.contains key = (store key).isSome := by
  obtain ⟨members, same, looked⟩ := stores
  rw [same, Json.contains, looked]

theorem index_stored {store : Store String Json} (stores : Stores opt store) (key : String) :
    opt.json.index key = .ok ((store key).getD .null) := by
  obtain ⟨members, same, looked⟩ := stores
  rw [same, Json.index, looked]

theorem defaults_cpu (build : Build) {members : Members} (same : documentOf (Opt.defaultOpts build) = some members) :
    mentions members "cpu" = none := by
  cases same
  rfl

theorem setOptions_merges {call : Option String} (set : opt.setOptions lib build call = .ok changed) :
    ∃ json, opt.json.update json = .ok changed.json := by
  cases call with
  | none => exact ⟨_, setOptions_defaults set⟩
  | some text =>
    obtain ⟨json, -, -, converted, -, updated⟩ := setOptions_ok_iff.mp set
    exact ⟨converted, updated⟩

theorem Stores.setOptions {store : Store String Json} {call : Option String} (stores : Stores opt store)
    (plain : ∀ text, call = some text → Plain lib text) (set : opt.setOptions lib build call = .ok changed) :
    ∃ members, document lib build call = some members ∧ Stores changed (apply store (mentions members)) ∧
      SetsOnce store members := by
  cases call with
  | none =>
    obtain ⟨members, same, merges⟩ := stores.update (setOptions_defaults set)
    have found : documentOf (Opt.defaultOpts build) = some members := by rw [same, documentOf]
    exact ⟨members, found, merges, .inr (defaults_cpu build found)⟩
  | some text =>
    obtain ⟨json, read, legal, converted, converts, updated⟩ := setOptions_ok_iff.mp set
    have absent : ∀ key ∈ deprecated, json.contains key = false := by
      intro key member
      cases json with
      | object members => exact mentions_none.mp (plain text rfl members read key member)
      | _ => rfl
    obtain rfl := Except.ok.inj ((convertDeprecated_plain absent).symm.trans converts)
    obtain ⟨members, rfl, merges⟩ := stores.update updated
    refine ⟨members, by simp [document, read, documentOf, Except.toOption], merges, ?_⟩
    cases vacant : store "cpu" with
    | none => exact .inl vacant
    | some cpu =>
      refine .inr (mentions_none.mpr ?_)
      have once := legal.cpu
      rw [contains_stored stores, vacant, Option.isSome_some, Bool.true_and] at once
      exact Bool.eq_false_iff.mpr once

/-- The store after a call, and the documents that were accepted. A call that throws changes nothing. -/
def turn (lib : Libraries) (build : Build) (state : Opt × List (Store String Json)) (call : Option String) :
    Opt × List (Store String Json) :=
  match state.1.setOptions lib build call with
  | .ok changed => (changed, state.2 ++ ((document lib build call).map mentions).toList)
  | .error _ => state

def history (lib : Libraries) (build : Build) (calls : List (Option String)) : Opt × List (Store String Json) :=
  calls.foldl (turn lib build) (Opt.init build, [])

def initial (build : Build) : Store String Json := fun key => ((documentOf (Opt.defaultOpts build)).getD []).lookup key

structure Reflects (build : Build) (state : Opt × List (Store String Json)) : Prop where
  store : Stores state.1 (state.2.foldl apply (initial build))
  once : (given state.2 "cpu").length ≤ 1

theorem initial_cpu (build : Build) : initial build "cpu" = none := rfl

theorem Reflects.turn {state : Opt × List (Store String Json)} {call : Option String} (reflects : Reflects build state)
    (plain : ∀ text, call = some text → Plain lib text) : Reflects build (turn lib build state call) := by
  obtain ⟨store, once⟩ := reflects
  unfold OptionHistory.turn
  cases set : state.1.setOptions lib build call with
  | error fault => exact ⟨store, once⟩
  | ok changed =>
    obtain ⟨members, found, merges, sets⟩ := store.setOptions plain set
    rw [found]
    refine ⟨?_, ?_⟩
    · change Stores changed ((state.2 ++ [mentions members]).foldl apply (initial build))
      rw [List.foldl_append]
      exact merges
    · change (given (state.2 ++ [mentions members]) "cpu").length ≤ 1
      rw [given_append, given_one, List.length_append]
      rcases sets with vacant | silent
      · rw [foldl_apply, initial_cpu, Option.or_none, List.getLast?_eq_none_iff] at vacant
        rw [vacant, List.length_nil, Nat.zero_add]
        exact Option.length_toList_le
      · rw [silent]
        exact once

theorem history_reflects (calls : List (Option String)) (plain : ∀ text, some text ∈ calls → Plain lib text) :
    Reflects build (history lib build calls) := by
  induction calls using List.reverseRecOn with
  | nil => exact ⟨⟨_, rfl, fun _ => rfl⟩, Nat.zero_le 1⟩
  | append_singleton calls call ih =>
    have earlier := ih fun text member => plain text (List.mem_append_left _ member)
    rw [history, List.foldl_append]
    refine earlier.turn fun text same => plain text ?_
    rw [same]
    exact List.mem_append_right _ (List.mem_singleton.mpr rfl)

/-- Whatever the texts say, the store is an object. -/
theorem history_stores (lib : Libraries) (build : Build) (calls : List (Option String)) :
    ∃ store, Stores (history lib build calls).1 store := by
  induction calls using List.reverseRecOn with
  | nil => exact ⟨_, _, rfl, fun _ => rfl⟩
  | append_singleton calls call ih =>
    obtain ⟨store, stores⟩ := ih
    rw [history, List.foldl_append]
    change ∃ store, Stores (turn lib build (history lib build calls) call).1 store
    unfold turn
    cases set : (history lib build calls).1.setOptions lib build call with
    | error fault => exact ⟨store, stores⟩
    | ok changed =>
      obtain ⟨json, updated⟩ := setOptions_merges set
      obtain ⟨members, -, merges⟩ := stores.update updated
      exact ⟨_, merges⟩

end Calls

section Getters

/-- The options that have a getter and a default. -/
def optionKeys : List String :=
  ["clockResolution", "compressor", "encoder", "isrFreq", "loadAsync", "saveAsync", "runAsync", "ram", "rom"]

structure Answers (opt : Opt) (value : String → Json) : Prop where
  clockResolution : opt.clockResolution = (value "clockResolution").getInt64
  compressor : opt.compressor = (value "compressor").getString
  encoder : opt.encoder = (value "encoder").getString
  isrFreq : opt.isrFreq = (value "isrFreq").getDouble
  loadAsync : opt.loadAsync = (value "loadAsync").getBool
  saveAsync : opt.saveAsync = (value "saveAsync").getBool
  runAsync : opt.runAsync = (value "runAsync").getBool
  ram : opt.ram = do ((← (value "ram").index "block").items.mapM Opt.readBlock)
  rom : opt.rom = do ((← (value "rom").index "file").items.mapM Opt.readBlock)

theorem Stores.answers {store : Store String Json} (stores : Stores opt store) : Answers opt fun key =>
    (store key).getD .null where
  clockResolution := congrArg (· >>= _) (index_stored stores "clockResolution")
  compressor := congrArg (· >>= _) (index_stored stores "compressor")
  encoder := congrArg (· >>= _) (index_stored stores "encoder")
  isrFreq := congrArg (· >>= _) (index_stored stores "isrFreq")
  loadAsync := congrArg (· >>= _) (index_stored stores "loadAsync")
  saveAsync := congrArg (· >>= _) (index_stored stores "saveAsync")
  runAsync := congrArg (· >>= _) (index_stored stores "runAsync")
  ram := congrArg (· >>= _) (index_stored stores "ram")
  rom := congrArg (· >>= _) (index_stored stores "rom")

/-- The getters read no other options. -/
theorem Answers.congr {value other : String → Json} (answers : Answers opt value)
    (same : ∀ key ∈ optionKeys, value key = other key) : Answers opt other := by
  obtain ⟨clockResolution, compressor, encoder, isrFreq, loadAsync, saveAsync, runAsync, ram, rom⟩ := answers
  simp only [optionKeys, List.forall_mem_cons] at same
  obtain ⟨clockResolution', compressor', encoder', isrFreq', loadAsync', saveAsync', runAsync', ram', rom', -⟩ := same
  exact ⟨clockResolution' ▸ clockResolution, compressor' ▸ compressor, encoder' ▸ encoder, isrFreq' ▸ isrFreq,
    loadAsync' ▸ loadAsync,
    saveAsync' ▸ saveAsync, runAsync' ▸ runAsync, ram' ▸ ram, rom' ▸ rom⟩

theorem Stores.cpuType {store : Store String Json} (stores : Stores opt store) :
    opt.cpuType = (store "cpu").elim (.ok "") Json.getString := by
  unfold Opt.cpuType
  rw [contains_stored stores, index_stored stores]
  cases store "cpu" with
  | none => rfl
  | some cpu => rfl

end Getters

section Histories

theorem first_last {α : Type} {values : List α} (once : values.length ≤ 1) : values.getLast? = values.head? := by
  match values, once with
  | [], _ => rfl
  | [_], _ => rfl

theorem defaults_mention (build : Build) (key : String) (listed : key ∈ optionKeys) :
    ∃ members value, document lib build none = some members ∧ mentions members key = some value ∧
      initial build key = some value := by
  obtain ⟨ndebug, zlib⟩ := build
  simp only [optionKeys, List.mem_cons, List.not_mem_nil, or_false] at listed
  rcases listed with rfl | rfl | rfl | rfl | rfl | rfl | rfl | rfl | rfl <;> exact ⟨_, _, rfl, rfl, rfl⟩

theorem turn_cases (state : Opt × List (Store String Json)) (call : Option String) :
    (∃ fault, state.1.setOptions lib build call = .error fault ∧ turn lib build state call = state) ∨
      ∃ changed, state.1.setOptions lib build call = .ok changed ∧
        turn lib build state call = (changed, state.2 ++ ((document lib build call).map mentions).toList) := by
  unfold turn
  cases set : state.1.setOptions lib build call with
  | error fault => exact .inl ⟨fault, rfl, rfl⟩
  | ok changed => exact .inr ⟨changed, rfl, rfl⟩

/-- The last document that was accepted and mentions an option decides it. A null pointer mentions them all.
The first one to set the cpu decides that. -/
theorem last_writer_wins (calls : List (Option String)) (plain : ∀ text, some text ∈ calls → Plain lib text) :
    Answers (history lib build calls).1
      (fun key => ((given (history lib build calls).2 key).getLast?.or (initial build key)).getD .null) ∧
    (history lib build calls).1.cpuType = (given (history lib build calls).2 "cpu").head?.elim (.ok "") Json.getString ∧
    (∀ key ∈ optionKeys, ∃ members value, document lib build none = some members ∧ mentions members key = some value ∧
      initial build key = some value) ∧
    ∀ call, (∃ fault, (history lib build calls).1.setOptions lib build call = .error fault ∧
        history lib build (calls ++ [call]) = history lib build calls) ∨
      ∃ changed, (history lib build calls).1.setOptions lib build call = .ok changed ∧
        history lib build (calls ++ [call]) =
          (changed, (history lib build calls).2 ++ ((document lib build call).map mentions).toList) := by
  have reflects : Reflects build (history lib build calls) := history_reflects calls plain
  refine ⟨?_, ?_, defaults_mention build, ?_⟩
  · have answers := reflects.store.answers
    simp only [foldl_apply] at answers
    exact answers
  · rw [reflects.store.cpuType, foldl_apply, initial_cpu, Option.or_none, first_last reflects.once]
  · intro call
    have snoc : history lib build (calls ++ [call]) = turn lib build (history lib build calls) call := by
      rw [history, List.foldl_append]
      rfl
    rw [snoc]
    exact turn_cases (history lib build calls) call

def writerLibraries : Libraries where
  parse text :=
    if text = "frequency" then some (.object [("cpu", .string "i8080"), ("isrFreq", .integer 7)])
    else if text = "negative" then some (.object [("isrFreq", .integer (-7)), ("runAsync", .bool true)])
    else none
  parseFile _ := none
  dump _ := ""
  base64Encode _ := ""
  base64Decode _ := []
  compressBound := id
  compress _ _ := none
  uncompress _ _ := none
  md5 _ := Vector.replicate 16 0

theorem writer_plain (text : String) : Plain writerLibraries text := by
  intro members read key listed
  have parsed : writerLibraries.parse text = some (.object members) := by
    unfold Opt.read at read
    split at read
    next => cases read
    next =>
      unfold parse at read
      split at read
      next json found => rw [found, Except.ok.inj read]
      next => cases read
  simp only [deprecated, List.mem_cons, List.not_mem_nil, or_false] at listed
  simp only [writerLibraries] at parsed
  split at parsed
  next =>
    cases parsed
    rcases listed with rfl | rfl | rfl | rfl <;> rfl
  next =>
    split at parsed
    next =>
      cases parsed
      rcases listed with rfl | rfl | rfl | rfl <;> rfl
    next => cases parsed

/-- A cpu and a frequency are set, two calls are refused, and a null pointer restores the frequency. -/
theorem last_writer_wins_reset :
    (history writerLibraries ⟨true, true⟩ [some "frequency", some "negative", some "malformed", none]).1.isrFreq = .ok 0 ∧
    (history writerLibraries ⟨true, true⟩ [some "frequency", some "negative", some "malformed", none]).1.cpuType =
      .ok "i8080" := by
  obtain ⟨answers, cpu, -⟩ := @last_writer_wins writerLibraries ⟨true, true⟩
    [some "frequency", some "negative", some "malformed", none] fun text _ => writer_plain text
  have freqs :
      given (history writerLibraries ⟨true, true⟩ [some "frequency", some "negative", some "malformed", none]).2 "isrFreq" =
      [.integer 7, .integer 0] := by with_unfolding_all rfl
  have cpus : given (history writerLibraries ⟨true, true⟩
      [some "frequency", some "negative", some "malformed", none]).2 "cpu" =
      [.string "i8080"] := by with_unfolding_all rfl
  have isrFreq := answers.isrFreq
  rw [freqs] at isrFreq
  rw [cpus] at cpu
  exact ⟨isrFreq, cpu⟩

end Histories

end MachEmu.Proofs.OptionHistory
