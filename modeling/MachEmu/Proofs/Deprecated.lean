import MachEmu.Proofs.OptionHistory

/-! The memory options that `ram` and `rom` replace, against the document that is
written with these. -/

namespace MachEmu.Proofs.Deprecated
open ErrorState LastWriter Options OptionHistory

structure MemoryOptions where
  ramOffset : Option Word := none
  ramSize : Option Word := none
  romOffset : Option Word := none
  romSize : Option Word := none

namespace MemoryOptions

def given (options : MemoryOptions) : Bool :=
  options.ramOffset.isSome || options.ramSize.isSome || options.romOffset.isSome || options.romSize.isSome

/-- The members of the new form. Absent values are zero. -/
def layout (options : MemoryOptions) : Members :=
  let value (option : Option Word) : Int := (option.getD 0).toNat
  Opt.layout (value options.ramOffset) (value options.ramSize) (value options.romOffset) (value options.romSize)

end MemoryOptions

/-- The document is written with the options, and without `ram` and `rom`. -/
structure Writes (members : Members) (options : MemoryOptions) : Prop where
  ram : mentions members "ram" = none
  rom : mentions members "rom" = none
  ramOffset : members.lookup "ramOffset" = options.ramOffset.map fun value => .integer value.toNat
  ramSize : members.lookup "ramSize" = options.ramSize.map fun value => .integer value.toNat
  romOffset : members.lookup "romOffset" = options.romOffset.map fun value => .integer value.toNat
  romSize : members.lookup "romSize" = options.romSize.map fun value => .integer value.toNat

def without (members : Members) : Members := members.filter fun member => !deprecated.contains member.1

def inserted (members others : Members) : Members :=
  others.foldl (fun members (key, value) => Json.insert key value members) members

def replaced (members : Members) (options : MemoryOptions) : Members := inserted (without members) options.layout

section Documents
variable {members : Members} {key : String}

theorem mentions_cons (name : String) (value : Json) :
    mentions ((name, value) :: members) key = (mentions members key).or (if key = name then some value else none) := by
  rw [mentions, List.reverse_cons, List.lookup_append]
  by_cases same : key = name
  · subst same
    rw [if_pos rfl, List.lookup_cons, beq_self_eq_true]
    rfl
  · have apart : (key == name) = false := beq_false_of_ne same
    rw [if_neg same, List.lookup_cons, apart]
    rfl

theorem mentions_insert {name : String} {value : Json} (absent : mentions members name = none) :
    mentions (Json.insert name value members) key = if key = name then some value else mentions members key := by
  induction members with
  | nil =>
    rw [Json.insert, mentions_cons]
    rfl
  | cons member members ih =>
    obtain ⟨other, present⟩ := member
    rw [mentions_cons] at absent
    obtain ⟨later, apart⟩ := Option.or_eq_none_iff.mp absent
    have distinct : name ≠ other := by
      intro same
      rw [if_pos same] at apart
      cases apart
    unfold Json.insert
    rw [if_neg distinct]
    split
    next =>
      rw [mentions_cons, mentions_cons]
      by_cases same : key = name
      · subst same
        simp [later, distinct]
      · simp [same]
    next =>
      rw [mentions_cons, ih later, mentions_cons]
      by_cases same : key = name
      · subst same
        simp
      · simp [same]

theorem lookup_filter {α : Type} (members : List (String × α)) (kept : String → Bool) (chosen : kept key = true) :
    (members.filter fun member => kept member.1).lookup key = members.lookup key := by
  induction members with
  | nil => rfl
  | cons member members ih =>
    obtain ⟨name, value⟩ := member
    rw [List.filter_cons, List.lookup_cons]
    by_cases same : key = name
    · subst same
      rw [if_pos chosen, List.lookup_cons]
      cases key == key <;> [exact ih; rfl]
    · have apart : (key == name) = false := beq_false_of_ne same
      rw [apart]
      split
      next => rw [List.lookup_cons, apart, ih]
      next => exact ih

theorem lookup_without (kept : deprecated.contains key = false) : (without members).lookup key = members.lookup key :=
  lookup_filter members (fun key => !deprecated.contains key) (by rw [kept]; rfl)

theorem mentions_without (kept : deprecated.contains key = false) :
    mentions (without members) key = mentions members key := by
  rw [mentions, mentions, without, ← List.filter_reverse]
  exact lookup_filter members.reverse (fun key => !deprecated.contains key) (by rw [kept]; rfl)

theorem mentions_layout {ramOffset ramSize romOffset romSize : Int} (ram : mentions members "ram" = none)
    (rom : mentions members "rom" = none) (key : String) :
    mentions (inserted members (Opt.layout ramOffset ramSize romOffset romSize)) key =
      ((Opt.layout ramOffset ramSize romOffset romSize).lookup key).or (mentions members key) := by
  have next : mentions (Json.insert "ram" (.object [("block", .array [.object [("offset", .integer ramOffset),
      ("size", .integer ramSize)]])]) members) "rom" = none := by
    rw [mentions_insert ram, if_neg (by decide), rom]
  change mentions (Json.insert "rom" _ (Json.insert "ram" _ members)) key = _
  rw [mentions_insert next, mentions_insert ram, Opt.layout, List.lookup_cons, List.lookup_cons]
  by_cases here : key = "rom"
  · subst here
    rfl
  · rw [if_neg here]
    by_cases there : key = "ram"
    · subst there
      rfl
    · have apart : (key == "ram") = false := beq_false_of_ne there
      have distinct : (key == "rom") = false := beq_false_of_ne here
      rw [if_neg there, apart, distinct]
      rfl

theorem lookup_layout {ramOffset ramSize romOffset romSize : Int} (other : key ≠ "ram" ∧ key ≠ "rom") :
    (inserted members (Opt.layout ramOffset ramSize romOffset romSize)).lookup key = members.lookup key := by
  change (Json.insert "rom" _ (Json.insert "ram" _ members)).lookup key = _
  rw [lookup_insert, lookup_insert, if_neg other.2, if_neg other.1]

end Documents

section Layouts
variable {opt : Opt} {store : Store String Json} {options : MemoryOptions}

theorem getUint_word (value : Word) : (Json.integer value.toNat).getUint 16 = .ok value := by
  simp [Json.getUint]

theorem readBlock_words (offset size : Word) :
    Opt.readBlock (.object [("offset", .integer offset.toNat), ("size", .integer size.toNat)]) = .ok (offset, size) := by
  simp [Opt.readBlock, Json.constAt, List.lookup_cons, getUint_word, bind, Except.bind, pure, Except.pure]

theorem layout_read (stores : Stores opt store) (ram : store "ram" = options.layout.lookup "ram")
    (rom : store "rom" = options.layout.lookup "rom") :
    opt.ram = .ok [(options.ramOffset.getD 0, options.ramSize.getD 0)] ∧
      opt.rom = .ok [(options.romOffset.getD 0, options.romSize.getD 0)] := by
  have answers := stores.answers
  rw [answers.ram, answers.rom, ram, rom]
  dsimp only [MemoryOptions.layout]
  generalize options.ramOffset.getD 0 = ramOffset
  generalize options.ramSize.getD 0 = ramSize
  generalize options.romOffset.getD 0 = romOffset
  generalize options.romSize.getD 0 = romSize
  simp [Opt.layout, List.lookup_cons, Json.index, Json.items, readBlock_words, bind, Except.bind, pure, Except.pure]

end Layouts

section Conversion
variable {members : Members} {options : MemoryOptions}

theorem option_read {γ : Type} {key : String} {value : Option Word} {rest : Option Word → Except Fault γ}
    (written : members.lookup key = value.map fun value => .integer value.toNat) :
    (if (Json.object members).contains key = true then
      (do return some (← (← (Json.object members).index key).getUint 16)) >>= rest
    else pure none >>= rest) = rest value := by
  cases value with
  | none => simp [Json.contains, written, pure, Except.pure, bind, Except.bind]
  | some value => simp [Json.contains, Json.index, written, getUint_word, bind, Except.bind, pure, Except.pure]

/-- The options the source takes over: the size of the rom only beside that of the ram. -/
def taken (options : MemoryOptions) : MemoryOptions :=
  if options.ramSize.isSome then options else { options with romSize := none }

theorem convertDeprecated_writes (writes : Writes members options) : Opt.convertDeprecated (.object members) =
    if options.ramSize.isSome && options.romSize.isNone then Json.typeError
    else .ok (.object (if (taken options).given then inserted members (taken options).layout else members)) := by
  have ram := mentions_none.mp writes.ram
  have old : ¬ ((Json.object members).contains "ram" || (Json.object members).contains "rom") = true := by
    rw [ram, mentions_none.mp writes.rom]
    exact Bool.false_ne_true
  unfold Opt.convertDeprecated
  rw [if_neg old]
  dsimp only
  rw [option_read writes.ramOffset]
  simp only [ram, Bool.not_false, Bool.and_true]
  rw [option_read writes.ramSize, option_read writes.romOffset]
  have sized : (Json.object members).contains "ramSize" = options.ramSize.isSome := by
    rw [Json.contains, writes.ramSize, Option.isSome_map]
  have asked : (Json.object members).index "romSize" = .ok
      ((options.romSize.map fun value => .integer value.toNat).getD .null) := by
    rw [Json.index, writes.romSize]
  rw [sized, asked]
  obtain ⟨ramOffset, ramSize, romOffset, romSize⟩ := options
  cases ramSize with
  | none => cases ramOffset <;> cases romOffset <;> rfl
  | some ramSize =>
    cases romSize with
    | none => rfl
    | some romSize =>
      have got := getUint_word romSize
      simp only [Option.map_some, Option.getD_some, bind, Except.bind, got]
      cases ramOffset <;> rfl

end Conversion

section Calls
variable {lib : Libraries} {build : Build} {opt updated : Opt} {store : Store String Json} {members : Members}
  {options : MemoryOptions} {text : String}

/-- The checks look at three options only. -/
theorem legal_congr {json other : Json} (legal : Legal build opt json)
    (contains : ∀ key ∈ ["cpu", "isrFreq", "compressor"], other.contains key = json.contains key)
    (index : ∀ key ∈ ["cpu", "isrFreq", "compressor"], other.index key = json.index key) :
    Legal build opt other := by
  obtain ⟨cpu, isrFreq, compressor⟩ := legal
  refine ⟨?_, ?_, ?_⟩
  · rw [contains "cpu" (by simp)]
    exact cpu
  · rw [contains "isrFreq" (by simp), index "isrFreq" (by simp)]
    exact isrFreq
  · rw [contains "compressor" (by simp), index "compressor" (by simp)]
    exact compressor

theorem legal_replaced (legal : Legal build opt (.object (replaced members options))) :
    Legal build opt (.object members) := by
  have same : ∀ key ∈ ["cpu", "isrFreq", "compressor"], (replaced members options).lookup key = members.lookup key := by
    intro key listed
    simp only [List.mem_cons, List.not_mem_nil, or_false] at listed
    rcases listed with rfl | rfl | rfl
    · exact (lookup_layout (by decide)).trans (lookup_without (by decide))
    · exact (lookup_layout (by decide)).trans (lookup_without (by decide))
    · exact (lookup_layout (by decide)).trans (lookup_without (by decide))
  apply legal_congr legal
  · intro key listed
    rw [Json.contains, Json.contains, same key listed]
  · intro key listed
    rw [Json.index, Json.index, same key listed]

theorem accepted {converted : Members} (stores : Stores opt store) (read : Opt.read lib text = .ok (.object members))
    (legal : Legal build opt (.object members))
    (converts : Opt.convertDeprecated (.object members) = .ok (.object converted)) :
    ∃ changed, opt.setOptions lib build (some text) = .ok changed ∧ Stores changed (apply store (mentions converted)) := by
  obtain ⟨present, same, -⟩ := id stores
  have updated : opt.json.update (.object converted) = .ok (.object (inserted present converted)) := by
    rw [same]
    rfl
  obtain ⟨others, equal, merges⟩ := stores.update updated
  cases equal
  exact ⟨⟨_⟩, setOptions_ok_iff.mpr ⟨_, read, legal, _, converts, updated⟩, merges⟩

theorem merged_layout {base : Members} (stores : Stores updated (apply store (mentions (inserted base options.layout))))
    (ram : mentions base "ram" = none) (rom : mentions base "rom" = none) :
    updated.ram = .ok [(options.ramOffset.getD 0, options.ramSize.getD 0)] ∧
      updated.rom = .ok [(options.romOffset.getD 0, options.romSize.getD 0)] := by
  apply layout_read stores
  · rw [apply, MemoryOptions.layout, mentions_layout ram rom]
    rfl
  · rw [apply, MemoryOptions.layout, mentions_layout ram rom]
    rfl

/-- What a store says about memory is left alone by a document that says nothing. -/
theorem merged_silent (before : Stores opt store) (after : Stores updated (apply store (mentions members)))
    (ram : mentions members "ram" = none) (rom : mentions members "rom" = none) :
    updated.ram = opt.ram ∧ updated.rom = opt.rom := by
  have same (key : String) (silent : mentions members key = none) : apply store (mentions members) key = store key := by
    rw [apply, silent, Option.none_or]
  rw [after.answers.ram, after.answers.rom, before.answers.ram, before.answers.rom, same "ram" ram, same "rom" rom]
  exact ⟨rfl, rfl⟩

/-- The document and the new form come to the same just when the size of the rom is not lost. -/
def Harmless (opt : Opt) (options : MemoryOptions) : Prop :=
  if options.ramSize.isSome then options.romSize.isSome = true
  else ∀ size, options.romSize = some size →
    if options.ramOffset.isSome || options.romOffset.isSome then size = 0 else opt.ram = .ok [(0, 0)] ∧
      opt.rom = .ok [(0, size)]

theorem exists_ok_iff {ε α : Type} {x : Except ε α} {value : α} {P : α → Prop} (ran : x = .ok value) :
    (∃ other, x = .ok other ∧ P other) ↔ P value := by
  constructor
  · intro found
    obtain ⟨other, again, holds⟩ := found
    cases ran.symm.trans again
    exact holds
  · intro holds
    exact ⟨value, ran, holds⟩

/-- What is left of the options is merged like the new form. -/
theorem taken_merged (stores : Stores opt store) (writes : Writes members options)
    (read : Opt.read lib text = .ok (.object members))
    (legal : Legal build opt (.object members)) (complete : (options.ramSize.isSome && options.romSize.isNone) = false)
    (given : (taken options).given = true) :
    ∃ changed, opt.setOptions lib build (some text) = .ok changed ∧
      changed.ram = .ok [(options.ramOffset.getD 0, options.ramSize.getD 0)] ∧
      changed.rom = .ok [(options.romOffset.getD 0, (taken options).romSize.getD 0)] := by
  have converts := convertDeprecated_writes writes
  rw [complete, if_neg Bool.false_ne_true, if_pos given] at converts
  obtain ⟨changed, set, merges⟩ := accepted stores read legal converts
  obtain ⟨ram, rom⟩ := merged_layout merges writes.ram writes.rom
  have others : (taken options).ramOffset = options.ramOffset ∧ (taken options).ramSize = options.ramSize ∧
      (taken options).romOffset = options.romOffset := by
    unfold taken
    split <;> exact ⟨rfl, rfl, rfl⟩
  rw [others.1, others.2.1] at ram
  rw [others.2.2] at rom
  exact ⟨changed, set, ram, rom⟩

/-- The size of the rom alone makes no difference to the memory. -/
theorem taken_silent (stores : Stores opt store) (writes : Writes members options)
    (read : Opt.read lib text = .ok (.object members))
    (legal : Legal build opt (.object members)) (sized : options.ramSize.isSome = false)
    (given : (taken options).given = false) :
    ∃ changed, opt.setOptions lib build (some text) = .ok changed ∧ changed.ram = opt.ram ∧ changed.rom = opt.rom := by
  have converts := convertDeprecated_writes writes
  rw [sized, Bool.false_and, if_neg Bool.false_ne_true, given, if_neg Bool.false_ne_true] at converts
  obtain ⟨changed, set, merges⟩ := accepted stores read legal converts
  exact ⟨changed, set, merged_silent stores merges writes.ram writes.rom⟩

theorem old_iff {converted : Opt} (stores : Stores opt store) (writes : Writes members options)
    (given : options.given = true)
    (read : Opt.read lib text = .ok (.object members)) (legal : Legal build opt (.object members))
    (ram : converted.ram = .ok [(options.ramOffset.getD 0, options.ramSize.getD 0)])
    (rom : converted.rom = .ok [(options.romOffset.getD 0, options.romSize.getD 0)]) :
    (∃ changed, opt.setOptions lib build (some text) = .ok changed ∧ changed.ram = converted.ram ∧
      changed.rom = converted.rom) ↔
      Harmless opt options := by
  rw [ram, rom]
  unfold Harmless
  cases sized : options.ramSize.isSome with
  | true =>
    rw [if_pos rfl]
    have whole : taken options = options := by rw [taken, if_pos sized]
    cases other : options.romSize.isSome with
    | true =>
      have complete : (options.ramSize.isSome && options.romSize.isNone) = false := by
        rw [← Option.not_isSome, other, Bool.not_true, Bool.and_false]
      obtain ⟨changed, set, sameRam, sameRom⟩ := taken_merged stores writes read legal complete (by rw [whole, given])
      rw [whole] at sameRom
      rw [exists_ok_iff set, sameRam, sameRom]
      simp
    | false =>
      have fails : Opt.convertDeprecated (.object members) = Json.typeError := by
        rw [convertDeprecated_writes writes, sized, ← Option.not_isSome, other]
        rfl
      refine ⟨fun accepts => ?_, fun impossible => absurd impossible Bool.false_ne_true⟩
      obtain ⟨changed, set, -⟩ := accepts
      obtain ⟨json, again, -, converted, converts, -⟩ := setOptions_ok_iff.mp set
      obtain rfl := Except.ok.inj (read.symm.trans again)
      cases fails.symm.trans converts
  | false =>
    rw [if_neg Bool.false_ne_true]
    have dropped : taken options = { options with romSize := none } := by
      rw [taken, sized]
      rfl
    have absent : options.ramSize = none := Option.isSome_eq_false_iff.mp sized |> Option.isNone_iff_eq_none.mp
    have complete : (options.ramSize.isSome && options.romSize.isNone) = false := by rw [sized, Bool.false_and]
    have left : (taken options).given = (options.ramOffset.isSome || options.romOffset.isSome) := by
      rw [dropped]
      simp [MemoryOptions.given, absent]
    cases offset : options.ramOffset.isSome || options.romOffset.isSome with
    | true =>
      obtain ⟨changed, set, sameRam, sameRom⟩ := taken_merged stores writes read legal complete (left.trans offset)
      rw [exists_ok_iff set, sameRam, sameRom, dropped]
      cases options.romSize with
      | none => simp
      | some size =>
        simp only [Option.getD_none, Option.getD_some, Except.ok.injEq, List.cons.injEq, Prod.mk.injEq, and_true,
          true_and, if_true,
          Option.some.injEq, forall_eq']
        exact eq_comm
    | false =>
      obtain ⟨changed, set, sameRam, sameRom⟩ := taken_silent stores writes read legal sized (left.trans offset)
      rw [exists_ok_iff set, sameRam, sameRom]
      obtain ⟨ramOffset, ramSize, romOffset, romSize⟩ := options
      obtain ⟨noRam, noRom⟩ := Bool.or_eq_false_iff.mp offset
      obtain rfl : ramOffset = none := by simpa using noRam
      obtain rfl : romOffset = none := by simpa using noRom
      obtain rfl : ramSize = none := absent
      obtain ⟨size, rfl⟩ : ∃ size, romSize = some
        size := by simpa [MemoryOptions.given, Option.isSome_iff_exists] using given
      simp

/-- Beside `ram` or `rom` the options are kept, and nobody reads them. -/
structure SameAnswers (first second : Except Fault Opt) : Prop where
  accepted : (∃ changed, first = .ok changed) ↔ ∃ changed, second = .ok changed
  answers : ∀ changed other, first = .ok changed → second = .ok other →
    (∃ value, Answers changed value ∧ Answers other value) ∧ changed.cpuType = other.cpuType

theorem new_same {bare : String} (stores : Stores opt store) (read : Opt.read lib text = .ok (.object members))
    (left : Opt.read lib bare = .ok (.object (without members)))
    (new : ((Json.object members).contains "ram" || (Json.object members).contains "rom") = true) :
    SameAnswers (opt.setOptions lib build (some text)) (opt.setOptions lib build (some bare)) := by
  have kept : ∀ key ∈ ["cpu", "isrFreq", "compressor"], (without members).lookup key = members.lookup key := by
    intro key listed
    simp only [List.mem_cons, List.not_mem_nil, or_false] at listed
    rcases listed with rfl | rfl | rfl <;> exact lookup_without (by decide)
  have contains : ∀ key ∈ ["cpu", "isrFreq", "compressor"],
      (Json.object (without members)).contains key = (Json.object members).contains key :=
    fun key listed => by rw [Json.contains, Json.contains, kept key listed]
  have index : ∀ key ∈ ["cpu", "isrFreq", "compressor"],
      (Json.object (without members)).index key = (Json.object members).index key :=
    fun key listed => by rw [Json.index, Json.index, kept key listed]
  have still :
      ((Json.object (without members)).contains "ram" || (Json.object (without members)).contains "rom") = true := by
    rw [Json.contains, Json.contains, lookup_without (by decide), lookup_without (by decide)]
    exact new
  have first (legal : Legal build opt (.object members)) := accepted stores read legal (convertDeprecated_new new)
  have second (legal : Legal build opt (.object (without members))) :=
    accepted stores left legal (convertDeprecated_new still)
  have legal_iff : Legal build opt (.object members) ↔ Legal build opt (.object (without members)) :=
    ⟨fun legal => legal_congr legal contains index,
      fun legal => legal_congr legal (fun key listed => (contains key listed).symm) fun key listed =>
        (index key listed).symm⟩
  have legal_of {other : String} {json : Json} {changed : Opt} (found : Opt.read lib other = .ok json)
      (set : opt.setOptions lib build (some other) = .ok changed) : Legal build opt json := by
    obtain ⟨again, same, legal, -⟩ := setOptions_ok_iff.mp set
    cases found.symm.trans same
    exact legal
  refine ⟨⟨?_, ?_⟩, ?_⟩
  · intro accepts
    obtain ⟨changed, set⟩ := accepts
    obtain ⟨other, done, -⟩ := second (legal_iff.mp (legal_of read set))
    exact ⟨other, done⟩
  · intro accepts
    obtain ⟨other, set⟩ := accepts
    obtain ⟨changed, done, -⟩ := first (legal_iff.mpr (legal_of left set))
    exact ⟨changed, done⟩
  · intro changed other set done
    obtain ⟨changed', set', one⟩ := first (legal_of read set)
    obtain ⟨other', done', two⟩ := second (legal_of left done)
    cases set.symm.trans set'
    cases done.symm.trans done'
    have same (key : String) (read : deprecated.contains key = false) :
        apply store (mentions (without members)) key = apply store (mentions members) key := by
      rw [apply, apply, mentions_without read]
    refine ⟨⟨_, one.answers, two.answers.congr ?_⟩, ?_⟩
    · intro key listed
      simp only [optionKeys, List.mem_cons, List.not_mem_nil, or_false] at listed
      rcases listed with rfl | rfl | rfl | rfl | rfl | rfl | rfl | rfl | rfl <;> rw [same _ (by decide)]
    · rw [one.cpuType, two.cpuType, same "cpu" (by decide)]

/-- In any history, the old form is the new form just when it is harmless. Beside `ram` or `rom` it changes nothing. -/
theorem deprecated_iff (calls : List (Option String)) (read : Opt.read lib text = .ok (.object members)) :
    (∀ options : MemoryOptions, Writes members options → options.given = true → ∀ modern updated,
      Opt.read lib modern = .ok (.object (replaced members options)) →
      (history lib build calls).1.setOptions lib build (some modern) = .ok updated →
      ((∃ changed, (history lib build calls).1.setOptions lib build (some text) = .ok changed ∧
        changed.ram = updated.ram ∧ changed.rom = updated.rom) ↔ Harmless (history lib build calls).1 options)) ∧
    (((Json.object members).contains "ram" || (Json.object members).contains "rom") = true → ∀ bare,
      Opt.read lib bare = .ok (.object (without members)) →
      SameAnswers ((history lib build calls).1.setOptions lib build (some text))
        ((history lib build calls).1.setOptions lib build (some bare))) := by
  obtain ⟨store, stores⟩ := history_stores lib build calls
  refine ⟨?_, fun new bare left => new_same stores read left new⟩
  intro options writes given modern updated found set
  obtain ⟨json, again, legal, converted, converts, merges⟩ := setOptions_ok_iff.mp set
  cases found.symm.trans again
  have new : ((Json.object (replaced members options)).contains "ram" ||
      (Json.object (replaced members options)).contains "rom") = true := by
    have there : ∃ rom, (replaced members options).lookup "rom" = some rom := ⟨_, lookup_insert.trans (if_pos rfl)⟩
    obtain ⟨rom, there⟩ := there
    rw [Json.contains, Json.contains, there, Option.isSome_some, Bool.or_true]
  cases (convertDeprecated_new new).symm.trans converts
  obtain ⟨others, same, after⟩ := stores.update merges
  cases same
  change Stores updated (apply store (mentions (inserted (without members) options.layout))) at after
  obtain ⟨ram, rom⟩ := merged_layout after ((mentions_without (by decide)).trans writes.ram)
    ((mentions_without (by decide)).trans writes.rom)
  exact old_iff stores writes given read (legal_replaced legal) ram rom

end Calls

section Documents

def memoryLibraries : Libraries where
  parse text :=
    if text = "offsets" then some (.object [("ramOffset", .integer 4096), ("romOffset", .integer 256)])
    else if text = "offsets, new" then some (.object (replaced [] { ramOffset := some 4096, romOffset := some 256 }))
    else if text = "size of the ram" then some (.object [("ramSize", .integer 4096)])
    else if text = "size of the ram, new" then some (.object (replaced [] { ramSize := some 4096 }))
    else if text = "size of the rom" then some (.object [("romSize", .integer 4096)])
    else if text = "size of the rom, new" then some (.object (replaced [] { romSize := some 4096 }))
    else none
  parseFile _ := none
  dump _ := ""
  base64Encode _ := ""
  base64Decode _ := []
  compressBound := id
  compress _ _ := none
  uncompress _ _ := none
  md5 _ := Vector.replicate 16 0

/-- The size of the ram alone is refused, and that of the rom alone is lost. -/
theorem sizes_differ :
    ((Opt.init ⟨true, true⟩).setOptions memoryLibraries ⟨true, true⟩ (some "size of the ram") = .error
      (.exception "type_error") ∧
      ((Opt.init ⟨true, true⟩).setOptions memoryLibraries ⟨true, true⟩ (some "size of the ram, new")).bind Opt.ram =
        .ok [(0, 4096)]) ∧
    ((Opt.init ⟨true, true⟩).setOptions memoryLibraries ⟨true, true⟩ (some "size of the rom")).bind Opt.rom = .ok [(0, 0)] ∧
      ((Opt.init ⟨true, true⟩).setOptions memoryLibraries ⟨true, true⟩ (some "size of the rom, new")).bind Opt.rom =
        .ok [(0, 4096)] := by
  with_unfolding_all exact ⟨⟨rfl, rfl⟩, rfl, rfl⟩

theorem deprecated_iff_offsets :
    ∃ changed updated, (Opt.init ⟨true, true⟩).setOptions memoryLibraries ⟨true, true⟩ (some "offsets") = .ok changed ∧
      (Opt.init ⟨true, true⟩).setOptions memoryLibraries ⟨true, true⟩ (some "offsets, new") = .ok updated ∧
      changed.ram = updated.ram ∧ changed.rom = updated.rom := by
  have read : Opt.read memoryLibraries "offsets" = .ok
      (.object [("ramOffset", .integer 4096), ("romOffset", .integer 256)]) := by
    with_unfolding_all rfl
  have modern : Opt.read memoryLibraries "offsets, new" =
      .ok (.object (replaced [("ramOffset", .integer 4096), ("romOffset", .integer 256)]
        { ramOffset := some 4096, romOffset := some 256 })) := by
    with_unfolding_all rfl
  have set : ∃ updated, (Opt.init ⟨true, true⟩).setOptions memoryLibraries ⟨true, true⟩
      (some "offsets, new") = .ok updated :=
    ⟨_, by with_unfolding_all rfl⟩
  obtain ⟨updated, set⟩ := set
  obtain ⟨old, -⟩ := @deprecated_iff memoryLibraries ⟨true, true⟩ _ "offsets" [] read
  obtain ⟨changed, done, same⟩ :=
    (old { ramOffset := some 4096, romOffset := some 256 } ⟨rfl, rfl, rfl, rfl, rfl, rfl⟩ rfl _ updated modern set).mpr
    nofun
  exact ⟨changed, updated, done, set, same⟩

end Documents
end MachEmu.Proofs.Deprecated
