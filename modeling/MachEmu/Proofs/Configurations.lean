import MachEmu.Proofs.Adjustments
import MachEmu.Proofs.Exceptions
import MachEmu.Proofs.Layouts
import Mathlib.Tactic.NormNum

/-! The option values that every reader accepts, and the runs of a machine whose
option texts give no others. -/

namespace MachEmu.Proofs.Configurations
open ErrorState Machine Traces LastWriter Options OptionHistory Deprecated Layouts Exceptions

section Values

def IsBool (json : Json) : Prop := ∃ value, json = .bool value

def IsNumber (json : Json) : Prop := (number json).isSome

def IsResolution (json : Json) : Prop := ∃ value, number json = some value ∧ -1 ≤ value ∧ value ≤ 10000000000

def IsFrequency (json : Json) : Prop := ∃ value, number json = some value ∧ 0 ≤ value

/-- A list of blocks, whose offsets and sizes are numbers. -/
def ListsBlocks (inner : String) (json : Json) : Prop :=
  ∃ blocks written, elements inner json = some blocks ∧ blocks.mapM writtenBlock = some written

/-- The options, each with its documented values. -/
def legalValues (build : Build) : List (String × (Json → Prop)) :=
  [("clockResolution", IsResolution),
    ("compressor", fun json => json = .string "none" ∨ build.zlib = true ∧ json = .string "zlib"),
    ("encoder", fun json => json = .string "base64"),
    ("cpu", fun json => json = .string "i8080"),
    ("isrFreq", IsFrequency),
    ("loadAsync", IsBool), ("runAsync", IsBool), ("saveAsync", IsBool),
    ("ram", ListsBlocks "block"), ("rom", ListsBlocks "file"),
    ("ramOffset", IsNumber), ("ramSize", IsNumber), ("romOffset", IsNumber), ("romSize", IsNumber)]

def LegalValues (build : Build) (given : Store String Json) : Prop :=
  ∀ option ∈ legalValues build, ∀ json, given option.1 = some json → option.2 json

def LegalDocument (build : Build) (json : Json) : Prop :=
  ∃ members, json = .object members ∧ LegalValues build (mentions members)

/-- Legal values which do not ask for a thread that the host cannot start. -/
structure Harmless (build : Build) (threads : Bool) (given : Store String Json) : Prop where
  legal : LegalValues build given
  threads : threads = false → given "runAsync" ≠ some (.bool true)

/-- A text that passes the checks of the source has harmless values only. -/
def Meets (lib : Libraries) (build : Build) (threads : Bool) (opt : Opt) (text : String) : Prop :=
  ∀ members, Opt.read lib text = .ok (.object members) → Legal build opt (.object members) →
    (∃ converted, Opt.convertDeprecated (.object members) = .ok converted) → Harmless build threads (mentions members)

variable {build : Build} {threads : Bool} {store update : Store String Json}

theorem Harmless.apply (first : Harmless build threads store) (second : Harmless build threads update) :
    Harmless build threads (apply store update) := by
  have either {key : String} {json : Json} (found : LastWriter.apply store update key = some json) :
      update key = some json ∨ store key = some json := by
    rcases Option.or_eq_some_iff.mp found with given | kept
    · exact .inl given
    · exact .inr kept.2
  refine ⟨fun option listed json found => ?_, fun missing found => ?_⟩
  · rcases either found with given | kept
    · exact second.legal option listed json given
    · exact first.legal option listed json kept
  · rcases either found with given | kept
    · exact second.threads missing given
    · exact first.threads missing kept

theorem listsBlocks_one (inner : String) (offset size : Int) :
    ListsBlocks inner (.object [(inner, .array [.object [("offset", .integer offset), ("size", .integer size)]])]) := by
  refine ⟨[.object [("offset", .integer offset), ("size", .integer size)]], [((offset : Rat), (size : Rat))], ?_, rfl⟩
  unfold elements
  dsimp only
  rw [List.lookup_cons, beq_self_eq_true]

theorem layout_harmless (ramOffset ramSize romOffset romSize : Int) :
    Harmless build threads fun key => (Opt.layout ramOffset ramSize romOffset romSize).lookup key := by
  refine ⟨?_, fun _ found => by cases found⟩
  simp [LegalValues, legalValues, Opt.layout, List.lookup_cons, listsBlocks_one]

theorem defaults_harmless (build : Build) (threads : Bool) {members : Members}
    (same : documentOf (Opt.defaultOpts build) = some members) : Harmless build threads (mentions members) := by
  cases same
  obtain ⟨zlib, checked⟩ := build
  refine ⟨?_, fun _ found => by cases found⟩
  have bound : (-1 : Rat) ≤ 10000000000 := by norm_num
  cases zlib <;> simp [LegalValues, legalValues, mentions, Opt.layout, List.lookup_cons, listsBlocks_one, IsBool,
    IsResolution, IsFrequency, number, bound]

end Values

section Stores
variable {lib : Libraries} {build : Build} {threads : Bool} {opt changed : Opt} {members : Members}

structure Sound (build : Build) (threads : Bool) (store : Store String Json) : Prop where
  harmless : Harmless build threads store
  present : ∀ key ∈ optionKeys, (store key).isSome

def Holds (build : Build) (threads : Bool) (opt : Opt) : Prop := ∃ store, Stores opt store ∧ Sound build threads store

theorem init_holds (build : Build) (threads : Bool) : Holds build threads (Opt.init build) := by
  refine ⟨_, ⟨_, rfl, fun _ => rfl⟩, ?_, ?_⟩
  · obtain ⟨zlib, checked⟩ := build
    refine ⟨?_, fun _ found => by cases found⟩
    have bound : (-1 : Rat) ≤ 10000000000 := by norm_num
    cases zlib <;> simp [LegalValues, legalValues, Opt.layout, List.lookup_cons, listsBlocks_one, IsBool,
      IsResolution, IsFrequency, number, bound]
  · simp [optionKeys, Opt.layout, List.lookup_cons]

theorem optional_bind_ok {ε α β : Type} {c : Prop} [Decidable c] {x y : Except ε α} {rest : α → Except ε β} {result : β}
    (ran : (if c then x >>= rest else y >>= rest) = .ok result) : ∃ value, rest value = .ok result := by
  split at ran
  next =>
    obtain ⟨value, -, ran⟩ := except_bind_ok_iff.mp ran
    exact ⟨value, ran⟩
  next =>
    obtain ⟨value, -, ran⟩ := except_bind_ok_iff.mp ran
    exact ⟨value, ran⟩

/-- What the conversion of the deprecated options leaves of a document. -/
theorem convertDeprecated_members {converted : Json} (converts : Opt.convertDeprecated (.object members) = .ok converted) :
    converted = .object members ∨ mentions members "ram" = none ∧ mentions members "rom" = none ∧
      ∃ ramOffset ramSize romOffset romSize, converted = .object
        (inserted members (Opt.layout ramOffset ramSize romOffset romSize)) := by
  unfold Opt.convertDeprecated at converts
  split at converts
  next => exact .inl (Except.ok.inj converts).symm
  next old =>
    obtain ⟨ram, rom⟩ := Bool.or_eq_false_iff.mp (Bool.eq_false_iff.mpr old)
    dsimp only at converts
    obtain ⟨ramOffset, converts⟩ := optional_bind_ok converts
    obtain ⟨ramSize, converts⟩ := optional_bind_ok converts
    obtain ⟨romOffset, converts⟩ := optional_bind_ok converts
    obtain ⟨romSize, converts⟩ := optional_bind_ok converts
    split at converts
    next => exact .inr ⟨mentions_none.mpr ram, mentions_none.mpr rom, _, _, _, _, (Except.ok.inj converts).symm⟩
    next => exact .inl (Except.ok.inj converts).symm

theorem converts_object {json : Json} {others : Members} (converts : Opt.convertDeprecated json = .ok (.object others)) :
    ∃ members, json = .object members := by
  have kept {json : Json} (plain : ∀ key ∈ deprecated, json.contains key = false)
      (converts : Opt.convertDeprecated json = .ok (.object others)) : json = .object others :=
    Except.ok.inj ((convertDeprecated_plain plain).symm.trans converts)
  cases json with
  | object members => exact ⟨members, rfl⟩
  | _ => exact ⟨others, kept (fun _ _ => rfl) converts⟩

theorem converted_harmless {converted : Json} (harmless : Harmless build threads (mentions members))
    (converts : Opt.convertDeprecated (.object members) = .ok converted) :
    ∃ others, converted = .object others ∧ Harmless build threads (mentions others) := by
  rcases convertDeprecated_members converts with rfl | ⟨ram, rom, ramOffset, ramSize, romOffset, romSize, rfl⟩
  · exact ⟨members, rfl, harmless⟩
  · refine ⟨_, rfl, ?_⟩
    have merged := harmless.apply (layout_harmless ramOffset ramSize romOffset romSize)
    have same : mentions (inserted members (Opt.layout ramOffset ramSize romOffset romSize)) =
        apply (mentions members) fun key => (Opt.layout ramOffset ramSize romOffset romSize).lookup key :=
      funext fun key => mentions_layout ram rom key
    rw [same]
    exact merged

theorem Holds.update {json : Json} (holds : Holds build threads opt) (harmless : Harmless build threads (mentions members))
    (updated : opt.json.update (.object members) = .ok json) : Holds build threads ⟨json⟩ := by
  obtain ⟨store, stores, sound⟩ := holds
  obtain ⟨others, same, merges⟩ := stores.update updated
  cases same
  refine ⟨_, merges, sound.harmless.apply harmless, fun key listed => ?_⟩
  have present := sound.present key listed
  unfold apply
  rw [Option.isSome_or, present, Bool.or_true]

theorem Holds.setOptions {options : Option String} (holds : Holds build threads opt)
    (meets : ∀ text, options = some text → Meets lib build threads opt text)
    (set : opt.setOptions lib build options = .ok changed) : Holds build threads changed := by
  cases options with
  | none => exact holds.update (defaults_harmless build threads rfl) (setOptions_defaults set)
  | some text =>
    obtain ⟨json, read, legal, converted, converts, updated⟩ := setOptions_ok_iff.mp set
    obtain ⟨store, stores, -⟩ := id holds
    obtain ⟨others, rfl, -⟩ := stores.update updated
    obtain ⟨members, rfl⟩ := converts_object converts
    have harmless := meets text rfl members read legal ⟨_, converts⟩
    obtain ⟨_, same, merged⟩ := converted_harmless harmless converts
    cases same
    exact holds.update merged updated

end Stores

section Histories
variable {ω : Type} {lib : Libraries} {build : Build} {threads : Bool} {opt : Opt} {m start after : Machine ω}

/-- The machine has sound options. -/
def Configured (build : Build) (threads : Bool) (m : Machine ω) : Prop := Holds build threads m.opt

/-- A request that is in range has a harmless text. -/
theorem resolution_meets {resolution : Int} (parses : Parses lib resolution)
    (range : ¬ (resolution < -1 ∨ resolution > 10000000000)) :
    Meets lib build threads opt (resolutionText resolution) := by
  intro members read _ _
  have plain : ¬ "file://".toList.isPrefixOf (resolutionText resolution).toList = true := by
    rw [resolutionText_plain]
    exact Bool.false_ne_true
  unfold Opt.read at read
  rw [if_neg plain, parse, parses] at read
  cases read
  obtain ⟨low, high⟩ := not_or.mp range
  have lower : (-1 : Rat) ≤ resolution := by exact_mod_cast Int.not_lt.mp low
  have upper : (resolution : Rat) ≤ 10000000000 := by exact_mod_cast Int.not_lt.mp high
  refine ⟨?_, fun _ found => by cases found⟩
  simp [LegalValues, legalValues, mentions, List.lookup_cons, IsResolution, number, lower, upper]

theorem setOptions_holds (holds : Configured build threads m) (options : Option String)
    (meets : ∀ text, options = some text → m.running = false → Meets lib build threads m.opt text) :
    Ends (Configured build threads) (setOptions lib build options) m := by
  refine Ends.get_bind ?_
  by_cases running : m.running = true
  · rw [if_pos running]
    exact holds
  · rw [if_neg running]
    refine Ends.get_bind <| Ends.ofExcept_bind holds fun opt set => ?_
    have idle : m.running = false := Bool.eq_false_iff.mpr running
    have kept : Holds build threads opt := Holds.setOptions holds (fun text same => meets text same idle) set
    refine Ends.modify_bind ?_
    exact kept

theorem setClockResolution_holds (parses : ∀ resolution, Parses lib resolution) (holds : Configured build threads m)
    (resolution : Int) : Ends (Configured build threads) (setClockResolution lib build resolution) m := by
  refine Ends.get_bind <| Ends.guard holds ?_
  by_cases range : resolution < -1 ∨ resolution > 10000000000
  · rw [if_pos range]
    exact holds
  · rw [if_neg range]
    refine Ends.get_bind <| Ends.ofExcept_bind holds fun opt set => Ends.modify_bind <| Ends.get_bind ?_
    have kept : Holds build threads opt := by
      refine Holds.setOptions holds (fun text same => ?_) set
      cases same
      exact resolution_meets (parses resolution) range
    dsimp only
    refine Ends.modify_bind ?_
    split
    · refine Ends.ofExcept_bind kept fun freq _ => Ends.ofExcept_bind kept fun ticksPerIsr _ => Ends.modify_bind ?_
      exact kept
    · exact kept

theorem prepare_holds (parses : ∀ resolution, Parses lib resolution) (holds : Configured build threads m)
    (pc : Word) (epoch : Int) : Ends (Configured build threads) (prepare lib build pc epoch) m := by
  refine Ends.get_bind <| Ends.guard holds <| Ends.get_bind <| Ends.guard holds <| Ends.get_bind <| Ends.guard holds ?_
  have reset : Configured build threads
      { m with sys := { m.sys with cpu := m.sys.cpu.reset pc }, clock := m.clock.resetAt epoch } := holds
  refine Ends.modify_bind <| Ends.get_bind <| Ends.ofExcept_bind reset fun resolution _ => ?_
  have configured := setClockResolution_holds parses reset resolution
  refine Ends.bind configured fun _ mid ran => ?_
  unfold Ends at configured ⊢
  rw [ran] at configured
  exact configured

theorem frames_holds {α : Type} {x : EStateM Fault (Machine ω) α} (frames : Frames Machine.opt x)
    (holds : Configured build threads m) : Ends (Configured build threads) x m := by
  have same : (final (x m)).opt = m.opt := frames m
  unfold Ends Configured
  rw [same]
  exact holds

theorem launch_frames (can : Bool) (host : SteadyClock.Host) : Frames (Machine.opt (ω := ω)) (launch can host) := by
  refine (Frames.modify fun _ => by rfl).bind fun _ => Frames.get.bind fun _ => (Frames.ofExcept _).bind fun _ => ?_
  exact Frames.guard <| (Frames.modify fun _ => by rfl).bind fun _ => Frames.pure _

theorem complete_keeps {moves : List (Loop.Choice ω)} {result : EStateM.Result Fault (Machine ω) Int}
    (completed : m.complete lib build moves = some result) : (final result).opt = m.opt ∧
      (final result).memoryController = m.memoryController ∧ (final result).ioController = m.ioController := by
  obtain ⟨host, -, completed⟩ := Option.bind_eq_some_iff.mp completed
  obtain ⟨⟨outcome, sys, clock⟩, -, completed⟩ := Option.bind_eq_some_iff.mp completed
  cases outcome with
  | ok totalTime =>
    cases completed
    exact ⟨rfl, rfl, rfl⟩
  | error fault =>
    cases completed
    exact ⟨rfl, rfl, rfl⟩

theorem begin_holds (parses : ∀ resolution, Parses lib resolution) (holds : Configured build threads m)
    (pc : Word) (epoch : Int) (can : Bool) (host : SteadyClock.Host) :
    Ends (Configured build threads) (do prepare lib build pc epoch; launch can host) m := by
  have prepares := prepare_holds parses holds pc epoch
  refine Ends.bind prepares fun _ mid ran => ?_
  unfold Ends at prepares
  rw [ran] at prepares
  exact frames_holds (launch_frames can host) prepares

theorem run_holds (parses : ∀ resolution, Parses lib resolution) (holds : Configured build threads m)
    {pc : Word} {epoch : Int} {readings : List Int} {can : Bool} {moves : List (Loop.Choice ω)}
    {result : EStateM.Result Fault (Machine ω) (Launch × Int)}
    (ran : m.run lib build pc epoch readings can moves = some result) : Configured build threads (final result) := by
  have begins := begin_holds parses holds pc epoch can ⟨epoch, readings, []⟩
  unfold Ends at begins
  unfold Machine.run at ran
  split at ran
  next begun =>
    rw [begun] at begins
    cases ran
    exact begins
  next mid begun =>
    rw [begun] at begins
    obtain ⟨inner, completed, ran⟩ := Option.bind_eq_some_iff.mp ran
    obtain ⟨same, -⟩ := complete_keeps completed
    unfold Configured
    cases inner with
    | ok totalTime last =>
      cases ran
      exact same.symm ▸ begins
    | error fault last =>
      cases ran
      exact same.symm ▸ begins
  next begun =>
    rw [begun] at begins
    cases ran
    exact begins

theorem answer_holds (parses : ∀ resolution, Parses lib resolution) (holds : Configured build threads m)
    {call : Call ω} {reply : Reply}
    (meets : ∀ text, call = .setOptions (some text) → m.running = false → Meets lib build threads m.opt text)
    (answered : answer lib build call m = some (reply, after)) : Configured build threads after := by
  have ended {α : Type} {returns : α → Reply} {result : EStateM.Result Fault (Machine ω) α}
      (replied : replies returns result = (reply, after)) : final result = after := by
    cases result with
    | ok value last => cases replied; rfl
    | error fault last => cases replied; rfl
  cases call with
  | setOptions options =>
    have ends := setOptions_holds holds options fun text same => meets text (by rw [same])
    exact Adjustments.replies_ends ends (Option.some.inj answered)
  | setClockResolution resolution =>
    exact Adjustments.replies_ends (setClockResolution_holds parses holds resolution) (Option.some.inj answered)
  | setMemoryController controller =>
    have frames : Frames Machine.opt (setMemoryController controller) :=
      Frames.guard <| Frames.get.bind fun _ => Frames.guard <| Frames.modify fun _ => by rfl
    exact Adjustments.replies_ends (frames_holds frames holds) (Option.some.inj answered)
  | setIoController controller =>
    have frames : Frames Machine.opt (setIoController controller) :=
      Frames.guard <| Frames.get.bind fun _ => Frames.guard <| Frames.modify fun _ => by rfl
    exact Adjustments.replies_ends (frames_holds frames holds) (Option.some.inj answered)
  | onLoad handler =>
    have frames : Frames (Machine.opt (ω := ω)) (setOnLoad handler) :=
      Frames.get.bind fun _ => Frames.guard <| Frames.modify fun _ => by rfl
    exact Adjustments.replies_ends (frames_holds frames holds) (Option.some.inj answered)
  | onSave handler =>
    have frames : Frames (Machine.opt (ω := ω)) (setOnSave handler) :=
      Frames.get.bind fun _ => Frames.guard <| Frames.modify fun _ => by rfl
    exact Adjustments.replies_ends (frames_holds frames holds) (Option.some.inj answered)
  | run pc epoch readings can moves =>
    obtain ⟨result, ran, replied⟩ := Option.map_eq_some_iff.mp answered
    rw [← ended replied]
    exact run_holds parses holds ran
  | waitForCompletion moves =>
    obtain ⟨result, ran, replied⟩ := Option.map_eq_some_iff.mp answered
    rw [← ended replied]
    unfold Machine.waitForCompletion at ran
    split at ran
    next =>
      unfold Configured
      rw [(complete_keeps ran).1]
      exact holds
    next =>
      cases ran
      exact holds

end Histories

section Getters
variable {build : Build} {threads : Bool} {opt : Opt} {store : Store String Json}

theorem getInt64_number {json : Json} {value : Rat} (same : number json = some value) :
    json.getInt64 = .ok (BitVec.ofInt 64 (Json.truncate value)).toInt := by
  cases json with
  | integer n =>
    cases same
    rw [truncate_intCast]
    rfl
  | float x =>
    cases same
    rfl
  | _ => cases same

theorem truncate_range {value : Rat} (low : -1 ≤ value) (high : value ≤ 10000000000) :
    -1 ≤ Json.truncate value ∧ Json.truncate value ≤ 10000000000 := by
  unfold Json.truncate
  split
  next negative =>
    have small : ⌊-value⌋ ≤ 1 := Int.floor_le_iff.mpr (by push_cast; linarith)
    have positive : 0 ≤ ⌊-value⌋ := Int.floor_nonneg.mpr (by linarith)
    omega
  next positive =>
    have bottom : 0 ≤ ⌊value⌋ := Int.floor_nonneg.mpr (not_lt.mp positive)
    have top : ⌊value⌋ ≤ 10000000000 := Int.floor_le_iff.mpr (by push_cast; linarith)
    omega

theorem Sound.value (sound : Sound build threads store) (key : String) (legal : Json → Prop)
    (listed : (key, legal) ∈ legalValues build) (option : key ∈ optionKeys) : ∃ json, store key = some json ∧
      legal json := by
  obtain ⟨json, found⟩ := Option.isSome_iff_exists.mp (sound.present key option)
  exact ⟨json, found, sound.harmless.legal (key, legal) listed json found⟩

theorem clockResolution_range (holds : Holds build threads opt) :
    ∃ resolution, opt.clockResolution = .ok resolution ∧ ¬ (resolution < -1 ∨ resolution > 10000000000) := by
  obtain ⟨store, stores, sound⟩ := holds
  obtain ⟨json, found, value, same, low, high⟩ :=
    sound.value "clockResolution" IsResolution (by simp [legalValues]) (by simp [optionKeys])
  obtain ⟨lower, upper⟩ := truncate_range low high
  refine ⟨Json.truncate value, ?_, by omega⟩
  have kept : (BitVec.ofInt 64 (Json.truncate value)).toInt = Json.truncate value := by
    rw [BitVec.toInt_ofInt]
    exact Int.bmod_eq_of_le (by omega) (by omega)
  rw [stores.answers.clockResolution, found, Option.getD_some, getInt64_number same, kept]

theorem isrFreq_read (holds : Holds build threads opt) : ∃ freq, opt.isrFreq = .ok freq := by
  obtain ⟨store, stores, sound⟩ := holds
  obtain ⟨json, found, value, same, -⟩ := sound.value "isrFreq" IsFrequency (by simp [legalValues]) (by simp [optionKeys])
  rw [stores.answers.isrFreq, found, Option.getD_some]
  cases json with
  | integer n => exact ⟨_, rfl⟩
  | float x => exact ⟨_, rfl⟩
  | _ => cases same

theorem async_read (holds : Holds build threads opt) : (∃ async, opt.loadAsync = .ok async) ∧
    (∃ async, opt.saveAsync = .ok async) ∧
    ∃ async, opt.runAsync = .ok async ∧ ¬ (async = true ∧ threads = false) := by
  obtain ⟨store, stores, sound⟩ := holds
  have answers := stores.answers
  obtain ⟨load, foundLoad, loadAsync, rfl⟩ := sound.value "loadAsync" IsBool (by simp [legalValues]) (by simp [optionKeys])
  obtain ⟨save, foundSave, saveAsync, rfl⟩ := sound.value "saveAsync" IsBool (by simp [legalValues]) (by simp [optionKeys])
  obtain ⟨run, foundRun, runAsync, rfl⟩ := sound.value "runAsync" IsBool (by simp [legalValues]) (by simp [optionKeys])
  refine ⟨⟨loadAsync, ?_⟩, ⟨saveAsync, ?_⟩, runAsync, ?_, ?_⟩
  · rw [answers.loadAsync, foundLoad]
    rfl
  · rw [answers.saveAsync, foundSave]
    rfl
  · rw [answers.runAsync, foundRun]
    rfl
  · rintro ⟨rfl, missing⟩
    exact sound.harmless.threads missing foundRun

end Getters

section Runs
variable {ω : Type} {lib : Libraries} {build : Build} {threads : Bool} {opt : Opt} {m prepared : Machine ω}
  {pc : Word} {epoch : Int}

structure Ready (opt : Opt) (m : Machine ω) : Prop where
  options : m.opt = opt
  idle : m.running = false
  controllers : Undisturbing m

/-- A run throws for want of a thread at most. What is thrown before the
first instruction leaves the registers as they were. -/
structure Runnable (ω : Type) (lib : Libraries) (build : Build) (threads : Bool) (opt : Opt) : Prop where
  runs : ∀ (m : Machine ω) pc epoch readings moves fault after, Ready opt m → (∀ choice ∈ moves, Mannered choice) →
    m.run lib build pc epoch readings threads moves = some (.error fault after) → fault.caught = true →
    threads = false ∧ opt.runAsync = .ok true
  completes : ∀ (m : Machine ω) pc epoch readings before moves launched after, Ready opt m →
    (∀ choice ∈ before ++ moves, Mannered choice) →
      m.run lib build pc epoch readings threads before = some (.ok launched after) →
    ∀ fault last, after.waitForCompletion lib build moves = some (.error fault last) → Uncaught fault
  unchanged : ∀ (m : Machine ω) pc epoch readings fault after, Ready opt m →
    m.run lib build pc epoch readings threads [] = some (.error fault after) → fault.caught = true →
      after.sys.cpu = m.sys.cpu

theorem uncaught_toInt64 (value : Rat) : OnlyThrows Uncaught (toInt64 value) := by
  unfold toInt64
  dsimp only
  split
  · exact .ok _
  · exact .error rfl

theorem only_ok {α : Type} {e : Except Fault α} {value : α} (same : e = .ok value) : OnlyThrows Uncaught e := by
  rw [same]
  exact .ok _

theorem resolution_set (parses : ∀ resolution, Parses lib resolution) (holds : Holds build threads opt) (resolution : Int) :
    ∃ changed, opt.setOptions lib build (some (resolutionText resolution)) = .ok changed := by
  obtain ⟨store, ⟨members, same, -⟩, -⟩ := holds
  rw [setOptions_resolution (parses resolution), same]
  exact ⟨_, rfl⟩

theorem setClockResolution_uncaught (parses : ∀ resolution, Parses lib resolution) (holds : Configured build threads m)
    (idle : m.running = false) {resolution : Int} (range : ¬ (resolution < -1 ∨ resolution > 10000000000)) :
    Raises Uncaught (setClockResolution lib build resolution) m := by
  refine Raises.get_bind <| Raises.guard (fun running => ?_) fun _ => ?_
  · rw [idle] at running
    cases running
  refine Raises.guard (fun outside => absurd outside range) fun _ => Raises.get_bind ?_
  obtain ⟨changed, set⟩ := resolution_set parses holds resolution
  have kept : Holds build threads changed := by
    refine Holds.setOptions holds (fun text same => ?_) set
    cases same
    exact resolution_meets (parses resolution) range
  obtain ⟨freq, read⟩ := isrFreq_read kept
  refine (Raises.ofExcept (only_ok set)).bind fun opt mid stored => ?_
  obtain ⟨same, rfl⟩ := ofExcept_ok_iff.mp stored
  obtain rfl := Except.ok.inj (set.symm.trans same)
  refine (Raises.modify _).bind fun _ _ _ => Raises.get_bind <| (Raises.modify _).bind fun _ _ _ => ?_
  refine Raises.ite ?_ (Raises.pure _)
  refine (Raises.ofExcept (only_ok read)).bind fun freq _ _ => (Raises.ofExcept (uncaught_toInt64 _)).bind fun _ _ _ => ?_
  exact (Raises.modify _).bind fun _ _ _ => Raises.pure _

theorem prepare_uncaught (parses : ∀ resolution, Parses lib resolution) (holds : Holds build threads opt)
    (ready : Ready opt m) (pc : Word) (epoch : Int) : Raises Uncaught (prepare lib build pc epoch) m := by
  obtain ⟨rfl, idle, ⟨memory, memorySet, -⟩, io, ioSet, -⟩ := ready
  refine Raises.get_bind <| Raises.guard (fun absent => ?_) fun _ => ?_
  · rw [memorySet] at absent
    cases absent
  refine Raises.get_bind <| Raises.guard (fun absent => ?_) fun _ => ?_
  · rw [ioSet] at absent
    cases absent
  refine Raises.get_bind <| Raises.guard (fun running => ?_) fun _ => ?_
  · rw [idle] at running
    cases running
  obtain ⟨resolution, read, range⟩ := clockResolution_range holds
  refine (Raises.modify _).bind fun _ mid reset => ?_
  cases reset
  refine Raises.get_bind <| (Raises.ofExcept (only_ok read)).bind fun other mid converted => ?_
  obtain ⟨same, rfl⟩ := ofExcept_ok_iff.mp converted
  obtain rfl := Except.ok.inj (read.symm.trans same)
  have reset : Configured build threads
      { m with sys := { m.sys with cpu := m.sys.cpu.reset pc }, clock := m.clock.resetAt epoch } := holds
  exact (setClockResolution_uncaught parses reset idle range).bind fun _ _ _ => Raises.pure _

theorem prepare_controllers (lib : Libraries) (build : Build) (pc : Word) (epoch : Int) :
    Frames (fun m : Machine ω => (m.memoryController, m.ioController)) (prepare lib build pc epoch) := by
  refine Frames.get.bind fun _ => Frames.guard <| Frames.get.bind fun _ => Frames.guard <| Frames.get.bind fun _ => ?_
  refine Frames.guard <| (Frames.modify fun _ => by rfl).bind fun _ => Frames.get.bind fun _ => ?_
  refine (Frames.ofExcept _).bind fun clockResolution => Frames.bind ?_ fun _ => Frames.pure _
  exact Lifecycle.setClockResolution_frames lib build (fun _ _ => rfl) (fun _ _ => rfl) (fun _ _ => rfl) clockResolution

/-- What a run goes on with once the machine is prepared. -/
theorem prepared_ready (parses : ∀ resolution, Parses lib resolution) (holds : Holds build threads opt)
    (ready : Ready opt m)
    (prepares : prepare lib build pc epoch m = .ok () prepared) : Holds build threads prepared.opt ∧
      Undisturbing prepared := by
  obtain ⟨rfl, idle, ⟨memory, memorySet, memoryAnswers⟩, io, ioSet, ioAnswers⟩ := ready
  have sound := prepare_holds parses holds pc epoch
  have framed := prepare_controllers lib build pc epoch m
  unfold Ends at sound
  rw [prepares] at sound framed
  obtain ⟨sameMemory, sameIo⟩ := Prod.mk.inj framed
  exact ⟨sound, ⟨memory, sameMemory.trans memorySet, memoryAnswers⟩, io, sameIo.trans ioSet, ioAnswers⟩

theorem complete_uncaught (undisturbing : Undisturbing m) (holds : Holds build threads m.opt) {moves : List (Loop.Choice ω)}
    (mannered : ∀ choice ∈ moves, Mannered choice) {fault : Fault} {after : Machine ω}
    (completed : m.complete lib build moves = some (.error fault after)) : Uncaught fault := by
  obtain ⟨host, -, completed⟩ := Option.bind_eq_some_iff.mp completed
  obtain ⟨⟨outcome, sys, clock⟩, looped, completed⟩ := Option.bind_eq_some_iff.mp completed
  obtain ⟨loads, saves, -⟩ := async_read holds
  have contained : Contained outcome := machineLoop_contained undisturbing loads saves mannered looped
  cases outcome with
  | ok totalTime => cases completed
  | error fault =>
    cases completed
    exact contained fault rfl

/-- A run fails with no exception, and leaves a machine that can be waited for. -/
def Fares (build : Build) (threads : Bool) : EStateM.Result Fault (Machine ω) (Launch × Int) → Prop
  | .ok _ after => Holds build threads after.opt ∧ Undisturbing after
  | .error fault _ => Uncaught fault

theorem run_fares (parses : ∀ resolution, Parses lib resolution) (holds : Holds build threads opt) (ready : Ready opt m)
    {readings : List Int} {moves : List (Loop.Choice ω)} (mannered : ∀ choice ∈ moves, Mannered choice)
    {result : EStateM.Result Fault (Machine ω) (Launch × Int)}
    (ran : m.run lib build pc epoch readings threads moves = some result) : Fares build threads result := by
  unfold Machine.run at ran
  cases preparing : prepare lib build pc epoch m with
  | error fault after =>
    rw [bind_error preparing] at ran
    cases ran
    exact prepare_uncaught parses holds ready pc epoch fault after preparing
  | ok done prepared =>
    obtain ⟨sound, undisturbing⟩ := prepared_ready parses holds ready preparing
    obtain ⟨-, -, async, read, started⟩ := async_read sound
    rw [bind_ok preparing, Lifecycle.launch_run, read] at ran
    dsimp only at ran
    rw [if_neg started] at ran
    have launched : Undisturbing { prepared with running := true, fut := some ⟨epoch, readings, []⟩ } :=
      ⟨undisturbing.memory, undisturbing.io⟩
    cases async with
    | true =>
      cases ran
      exact ⟨sound, launched⟩
    | false =>
      obtain ⟨inner, completed, ran⟩ := Option.bind_eq_some_iff.mp ran
      cases inner with
      | error fault after =>
        cases ran
        exact complete_uncaught launched sound mannered completed
      | ok totalTime after =>
        cases ran
        obtain ⟨options, memory, io⟩ := complete_keeps completed
        exact ⟨options ▸ sound, memory ▸ launched.memory, io ▸ launched.io⟩

theorem uncaught_not_caught {fault : Fault} (uncaught : Uncaught fault) : ¬ fault.caught = true := by
  rw [uncaught]
  exact Bool.false_ne_true

theorem Holds.runnable (parses : ∀ resolution, Parses lib resolution) (holds : Holds build threads opt) :
    Runnable ω lib build threads opt where
  runs m pc epoch readings moves fault after ready mannered ran caught :=
    absurd caught (uncaught_not_caught (run_fares parses holds ready mannered ran))
  completes m pc epoch readings before moves launched after ready mannered ran fault last waited := by
    obtain ⟨first, mannered⟩ := List.forall_mem_append.mp mannered
    obtain ⟨sound, undisturbing⟩ := run_fares parses holds ready first ran
    unfold Machine.waitForCompletion at waited
    split at waited
    next => exact complete_uncaught undisturbing sound mannered waited
    next => cases waited
  unchanged m pc epoch readings fault after ready ran caught :=
    absurd caught (uncaught_not_caught (run_fares parses holds ready (List.forall_mem_nil _) ran))

end Runs

section Claims
variable {ω : Type} {lib : Libraries} {build : Build} {threads : Bool} {m start : Machine ω}

/-- A document with an illegal value is refused and changes nothing, and with what is stored a machine can be run. -/
structure Dependable (lib : Libraries) (build : Build) (threads : Bool)
    (move : Move (Machine ω) (Call ω) (Entry ω)) : Prop where
  refused : ∀ text json, move.input = .setOptions (some text) → Opt.read lib text = .ok json → ¬ LegalDocument build json →
    (∃ fault, move.events = [⟨move.input, move.before, .threw fault⟩]) ∧ move.after.opt = move.before.opt
  runnable : Runnable ω lib build threads move.after.opt

theorem accepted_legal {opt changed : Opt} {store : Store String Json} {text : String} {json : Json}
    (stores : Stores opt store) (meets : Meets lib build threads opt text) (read : Opt.read lib text = .ok json)
    (set : opt.setOptions lib build (some text) = .ok changed) : LegalDocument build json := by
  obtain ⟨other, again, legal, converted, converts, updated⟩ := setOptions_ok_iff.mp set
  obtain rfl := Except.ok.inj (read.symm.trans again)
  obtain ⟨others, rfl, -⟩ := stores.update updated
  obtain ⟨members, rfl⟩ := converts_object converts
  exact ⟨members, rfl, (meets members read legal ⟨_, converts⟩).legal⟩

/-- A running machine takes no options, and an idle one those that its store takes. -/
theorem setOptions_error {options : Option String}
    (refused : m.running = false → ∃ fault, m.opt.setOptions lib build options = .error fault) :
    ∃ fault, setOptions lib build options m = .error fault m := by
  unfold setOptions
  rw [bind_ok (get_run m)]
  by_cases running : m.running = true
  · rw [if_pos running]
    exact ⟨busy, rfl⟩
  · obtain ⟨fault, refused⟩ := refused (Bool.eq_false_iff.mpr running)
    rw [if_neg running]
    dsimp only
    rw [bind_ok (get_run m), refused, bind_error (ofExcept_error fault m)]
    exact ⟨fault, rfl⟩

theorem make_configured {options : Option String} {maxResolution : Int} {world : ω}
    (cpu : lib.parse "\x7b\"cpu\":\"i8080\"\x7d" = some (.object [("cpu", .string "i8080")]))
    (meets : ∀ text, options = some text → Meets lib build threads (Opt.init build) text)
    (made : make lib build options maxResolution world = .ok start) : Configured build threads start := by
  have default (opt : Opt) : Meets lib build threads opt "\x7b\"cpu\":\"i8080\"\x7d" := by
    intro members read _ _
    unfold Opt.read at read
    rw [if_neg (by simp), parse, cpu] at read
    cases read
    refine ⟨?_, fun _ found => by cases found⟩
    simp [LegalValues, legalValues, mentions, List.lookup_cons]
  obtain ⟨first, opt, set, chosen, rfl⟩ := Lifecycle.make_sets made
  have holds := (init_holds build threads).setOptions meets set
  rcases chosen with rfl | chosen
  · exact holds
  · refine holds.setOptions (fun text same => ?_) chosen
    cases same
    exact default first

theorem move_dependable (parses : ∀ resolution, Parses lib resolution) (holds : Configured build threads m) {call : Call ω}
    {events : List (Entry ω)} {after : Machine ω}
    (meets : ∀ text, call = .setOptions (some text) → m.running = false → Meets lib build threads m.opt text)
    (moved : step lib build call m = some (after, events)) :
    Configured build threads after ∧ Dependable lib build threads ⟨m, call, events, after⟩ := by
  obtain ⟨reply, rfl, answered⟩ := Lifecycle.step_entry moved
  have kept : Configured build threads after := answer_holds parses holds meets answered
  refine ⟨kept, ?_, kept.runnable parses⟩
  intro text json same read illegal
  obtain ⟨store, stores, -⟩ := id holds
  cases same
  have refused : ∃ fault, setOptions lib build (some text) m = .error fault m := by
    apply setOptions_error
    intro idle
    cases set : m.opt.setOptions lib build (some text) with
    | error fault => exact ⟨fault, rfl⟩
    | ok changed => exact absurd (accepted_legal stores (meets text rfl idle) read set) illegal
  obtain ⟨fault, failed⟩ := refused
  rw [answer, failed] at answered
  cases answered
  exact ⟨⟨fault, rfl⟩, rfl⟩

/-- When all texts that pass the checks have harmless values, illegal ones are refused, and
the machine can be run after any calls. -/
theorem dependable_of_harmless {options : Option String} {maxResolution : Int} {world : ω}
    {moves : List (Move (Machine ω) (Call ω) (Entry ω))} (parses : ∀ resolution, Parses lib resolution)
    (cpu : lib.parse "\x7b\"cpu\":\"i8080\"\x7d" = some (.object [("cpu", .string "i8080")]))
    (made : make lib build options maxResolution world = .ok start)
    (first : ∀ text, options = some text → Meets lib build threads (Opt.init build) text)
    (run : Run (recorded (step lib build)) start moves m)
    (meets : ∀ move ∈ moves, ∀ text, move.input = .setOptions (some text) → move.before.running = false →
      Meets lib build threads move.before.opt text) :
    (∀ text json, options = some text → Opt.read lib text = .ok json → LegalDocument build json) ∧
      Runnable ω lib build threads start.opt ∧ ∀ move ∈ moves, Dependable lib build threads move := by
  have new : Configured build threads start := make_configured cpu first made
  refine ⟨fun text json same read => ?_, Holds.runnable parses new, ?_⟩
  · obtain ⟨opt, set, -⟩ := except_bind_ok_iff.mp made
    obtain ⟨store, stores, -⟩ := init_holds build threads
    rw [same] at set
    exact accepted_legal stores (first text same) read set
  · have kept : (∀ move ∈ moves, ∀ text, move.input = .setOptions (some text) → move.before.running = false →
        Meets lib build threads move.before.opt text) →
        Configured build threads m ∧ ∀ move ∈ moves, Dependable lib build threads move := by
      apply run.invariant (fun moves m => (∀ move ∈ moves, ∀ text, move.input = .setOptions (some text) →
        move.before.running = false → Meets lib build threads move.before.opt text) →
        Configured build threads m ∧ ∀ move ∈ moves, Dependable lib build threads move)
      · exact fun _ => ⟨new, List.forall_mem_nil _⟩
      · intro moves m call after events ih moved meets
        obtain ⟨entries, stepped, rfl⟩ := recorded_some moved
        obtain ⟨before, last⟩ := List.forall_mem_append.mp meets
        obtain ⟨configured, dependable⟩ := ih before
        obtain ⟨kept, here⟩ := move_dependable parses configured (List.forall_mem_singleton.mp last) stepped
        exact ⟨kept, List.forall_mem_append.mpr ⟨dependable, List.forall_mem_singleton.mpr here⟩⟩
    exact (kept meets).2

def spelled : List Char → Int
  | '-' :: digits => -Nat.ofDigitChars 10 digits 0
  | digits => Nat.ofDigitChars 10 digits 0

theorem spelled_repr (resolution : Int) : spelled (toString resolution).toList = resolution := by
  rw [Int.toString_eq_repr, Int.repr_eq_if]
  split
  next positive =>
    have unsigned : ∀ digits, Nat.toDigits 10 resolution.toNat ≠ '-' :: digits := by
      intro digits same
      have member : '-' ∈ Nat.toDigits 10 resolution.toNat := by rw [same]; exact List.mem_cons_self
      have digit : '-'.isDigit = true := Nat.isDigit_of_mem_toDigits (by decide : 0 < 10) (by decide) member
      exact absurd digit (by decide)
    rw [Nat.toList_repr, spelled, Nat.ofDigitChars_ten_toDigits, Int.toNat_of_nonneg positive]
    exact unsigned
  next negative =>
    rw [String.toList_append, Nat.toList_repr]
    change -((Nat.ofDigitChars 10 (Nat.toDigits 10 (-resolution).toNat) 0 : Nat) : Int) = resolution
    rw [Nat.ofDigitChars_ten_toDigits]
    omega

/-- A parser for the texts of the machine, and for two others. -/
def rangeLibraries : Libraries where
  parse text :=
    if text = "\x7b\"cpu\":\"i8080\"\x7d" then some (.object [("cpu", .string "i8080")])
    else if text = "each tick" then some (.object [("clockResolution", .integer 1000000), ("isrFreq", .integer 1)])
    else if text = "too low" then some (.object [("clockResolution", .integer (-5))])
    else
      let resolution := spelled (text.toList.drop 19).dropLast
      if text = resolutionText resolution then some (.object [("clockResolution", .integer resolution)]) else none
  parseFile _ := none
  dump _ := ""
  base64Encode _ := ""
  base64Decode _ := []
  compressBound := id
  compress _ _ := none
  uncompress _ _ := none
  md5 _ := Vector.replicate 16 0

theorem range_parses (resolution : Int) : Parses rangeLibraries resolution := by
  have text : (resolutionText resolution).toList =
      "\x7b\"clockResolution\":".toList ++ (toString resolution).toList ++ ['\x7d'] := by
    unfold resolutionText
    rw [String.toList_append, String.toList_append]
    rfl
  have middle : ((resolutionText resolution).toList.drop 19).dropLast = (toString resolution).toList := by
    rw [text]
    simp
  have apart (other : String) (differs : other.toList.take 4 ≠ "\x7b\"cl".toList) : resolutionText resolution ≠ other := by
    rintro rfl
    apply differs
    rw [text]
    simp
  unfold Parses rangeLibraries
  dsimp only
  rw [if_neg (apart _ (by simp)), if_neg (apart _ (by simp)), if_neg (apart _ (by simp)), middle, spelled_repr, if_pos rfl]

theorem quitter_answers : Answering (Lifecycle.quitter (return 0)) :=
  ⟨fun _ _ => Raises.pure _, fun _ _ _ => Raises.pure _, fun _ _ _ => Raises.pure _⟩

def optioned (opt : Opt) : Machine Unit where
  sys := { world := () }
  clock := CpuClock.make 2000000 1
  opt
  memoryController := some (Lifecycle.quitter (return 0))
  ioController := some (Lifecycle.quitter (return 0))

theorem optioned_ready (opt : Opt) : Ready opt (optioned opt) :=
  ⟨rfl, rfl, ⟨_, rfl, quitter_answers⟩, _, rfl, quitter_answers⟩

/-- A resolution that is out of range is accepted. A run at 0x100 throws, and the program counter is there. -/
theorem too_low_accepted : ∃ (start after : Machine Unit) (events : List (Entry Unit)),
    make rangeLibraries ⟨true, true⟩ none 1 () = .ok start ∧
      step rangeLibraries ⟨true, true⟩ (.setOptions (some "too low")) start = some (after, events) ∧
      events.map Entry.reply = [.returned] ∧
      (∃ last, (optioned after.opt).run rangeLibraries ⟨true, true⟩ 0x100 0 [] true [] =
        some (.error (.exception "Clock resolution out of range") last) ∧ last.sys.cpu.pc = 0x100) ∧
      ¬ Dependable rangeLibraries ⟨true, true⟩ true ⟨start, .setOptions (some "too low"), events, after⟩ := by
  have ran : ∃ (start after : Machine Unit) (events : List (Entry Unit)),
      make rangeLibraries ⟨true, true⟩ none 1 () = .ok start ∧
      step rangeLibraries ⟨true, true⟩ (.setOptions (some "too low")) start = some (after, events) ∧
        events.map Entry.reply = [.returned] ∧
      ∃ last, (optioned after.opt).run rangeLibraries ⟨true, true⟩ 0x100 0 [] true [] =
        some (.error (.exception "Clock resolution out of range") last) ∧ last.sys.cpu.pc = 0x100 :=
    ⟨_, _, _, by with_unfolding_all rfl, by with_unfolding_all rfl, by with_unfolding_all rfl,
      _, by with_unfolding_all rfl, by with_unfolding_all rfl⟩
  obtain ⟨start, after, events, made, moved, replied, last, threw, pc⟩ := ran
  refine ⟨start, after, events, made, moved, replied, ⟨last, threw, pc⟩, fun dependable => ?_⟩
  have same := dependable.runnable.unchanged (optioned after.opt) _ _ _ _ last (optioned_ready after.opt) threw rfl
  have unchanged : (0 : Word) = 0x100 := (congrArg Intel8080.pc same).symm.trans pc
  exact absurd unchanged (by decide)

/-- With legal values, the machine can be run after the call. -/
theorem dependable_of_harmless_tick : ∃ (start after : Machine Unit) (events : List (Entry Unit)),
    make rangeLibraries ⟨true, true⟩ none 1 () = .ok start ∧
      step rangeLibraries ⟨true, true⟩ (.setOptions (some "each tick")) start = some (after, events) ∧
      events.map Entry.reply = [.returned] ∧
      Dependable rangeLibraries ⟨true, true⟩ true ⟨start, .setOptions (some "each tick"), events, after⟩ := by
  have ran : ∃ (start after : Machine Unit) (events : List (Entry Unit)),
      make rangeLibraries ⟨true, true⟩ none 1 () = .ok start ∧
      step rangeLibraries ⟨true, true⟩ (.setOptions (some "each tick")) start = some (after, events) ∧
        events.map Entry.reply = [.returned] :=
    ⟨_, _, _, by with_unfolding_all rfl, by with_unfolding_all rfl, by with_unfolding_all rfl⟩
  obtain ⟨start, after, events, made, moved, replied⟩ := ran
  refine ⟨start, after, events, made, moved, replied, ?_⟩
  have meets : ∀ opt, Meets rangeLibraries ⟨true, true⟩ true opt "each tick" := by
    intro opt members read _ _
    have known : Opt.read rangeLibraries "each tick" = .ok
        (.object [("clockResolution", .integer 1000000), ("isrFreq", .integer 1)]) := by
      with_unfolding_all rfl
    cases known.symm.trans read
    refine ⟨?_, fun _ found => by cases found⟩
    have low : (-1 : Rat) ≤ 1000000 := by norm_num
    have high : (1000000 : Rat) ≤ 10000000000 := by norm_num
    simp [LegalValues, legalValues, mentions, List.lookup_cons, IsResolution, IsFrequency, number, low, high]
  have run := Run.refl.move (recorded_of moved)
  obtain ⟨-, -, dependable⟩ := dependable_of_harmless range_parses
    (by with_unfolding_all rfl) made (fun _ same => by cases same) run
    (List.forall_mem_singleton.mpr fun text same _ => by cases same; exact meets _)
  exact dependable _ (List.mem_singleton.mpr rfl)

end Claims

end MachEmu.Proofs.Configurations
