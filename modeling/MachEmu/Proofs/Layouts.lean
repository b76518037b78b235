import MachEmu.Proofs.Deprecated

/-! The blocks of memory that a document lists, against the blocks that the getters
return. Nothing checks them, and the getters keep sixteen bits of each number. -/

namespace MachEmu.Proofs.Layouts
open ErrorState LastWriter Options OptionHistory Deprecated

section Written

def number : Json → Option Rat
  | .integer value => some value
  | .float value => some value
  | _ => none

def writtenBlock : Json → Option (Rat × Rat)
  | .object members => do return (← (members.lookup "offset").bind number, ← (members.lookup "size").bind number)
  | _ => none

def elements (inner : String) : Json → Option (List Json)
  | .object members =>
    match members.lookup inner with
    | some (.array elements) => some elements
    | _ => none
  | _ => none

/-- The blocks a document lists under a key. -/
def written (members : Members) (key inner : String) : Option (List (Rat × Rat)) :=
  ((mentions members key).bind (elements inner)).bind fun elements => elements.mapM writtenBlock

def writtenRam (members : Members) : Option (List (Rat × Rat)) := written members "ram" "block"

def writtenRom (members : Members) : Option (List (Rat × Rat)) := written members "rom" "file"

end Written

/-- Both numbers have sixteen bits, and the block ends within the 64K. -/
structure Fits (block : Rat × Rat) : Prop where
  offset : ∃ n : Nat, n < 65536 ∧ block.1 = n
  size : ∃ n : Nat, n < 65536 ∧ block.2 = n
  inside : block.1 + block.2 ≤ 65536

def AllFit (members : Members) : Prop :=
  (∀ blocks, writtenRam members = some blocks → ∀ block ∈ blocks, Fits block) ∧
    ∀ blocks, writtenRom members = some blocks → ∀ block ∈ blocks, Fits block

/-- A getter returns just these numbers, and the blocks are within the 64K. -/
def Exactly (result : Except Fault (List Block)) (blocks : List (Rat × Rat)) : Prop :=
  ∃ read : List Block, result = .ok read ∧ (read.map fun block => ((block.1.toNat : Rat), (block.2.toNat : Rat))) = blocks ∧
    ∀ block ∈ blocks, block.1 + block.2 ≤ 65536

/-- What is accepted is read back as it was written, and what does not fit is refused. -/
structure Guarded (lib : Libraries) (build : Build) (opt : Opt) (text : String) (members : Members) : Prop where
  ram : ∀ changed, opt.setOptions lib build (some text) = .ok changed →
    ∀ blocks, writtenRam members = some blocks → Exactly changed.ram blocks
  rom : ∀ changed, opt.setOptions lib build (some text) = .ok changed →
    ∀ blocks, writtenRom members = some blocks → Exactly changed.rom blocks
  refused : ¬ AllFit members → ∃ fault, opt.setOptions lib build (some text) = .error fault

section Getters

def keptBits (value : Rat) : Word := BitVec.ofInt 16 (Json.truncate value)

theorem getUint_number {json : Json} {value : Rat} (same : number json = some value) :
    json.getUint 16 = .ok (keptBits value) := by
  cases json with
  | integer n =>
    cases same
    rw [keptBits, truncate_intCast]
    rfl
  | float x =>
    cases same
    rfl
  | _ => cases same

theorem keptBits_nat {n : Nat} (small : n < 65536) : (keptBits n).toNat = n := by
  have whole : Json.truncate (n : Rat) = (n : Int) := by
    rw [← Int.cast_natCast, truncate_intCast]
  rw [keptBits, whole, BitVec.ofInt_natCast, BitVec.toNat_ofNat, Nat.mod_eq_of_lt small]

theorem constAt_lookup {members : Members} {key : String} {json : Json} (found : members.lookup key = some json) :
    (Json.object members).constAt key = .ok json := by
  rw [Json.constAt, found]

theorem readBlock_written {json : Json} {block : Rat × Rat} (same : writtenBlock json = some block) :
    Opt.readBlock json = .ok (keptBits block.1, keptBits block.2) := by
  cases json with
  | object members =>
    obtain ⟨offset, atOffset, rest⟩ := Option.bind_eq_some_iff.mp same
    obtain ⟨size, atSize, made⟩ := Option.bind_eq_some_iff.mp rest
    obtain rfl := Option.some.inj made
    obtain ⟨first, found, value⟩ := Option.bind_eq_some_iff.mp atOffset
    obtain ⟨second, there, other⟩ := Option.bind_eq_some_iff.mp atSize
    rw [Opt.readBlock, constAt_lookup found, constAt_lookup there]
    simp only [bind, Except.bind, getUint_number value, getUint_number other]
    rfl
  | _ => cases same

theorem mapM_written {elements : List Json} {blocks : List (Rat × Rat)} (same : elements.mapM writtenBlock = some blocks) :
    elements.mapM Opt.readBlock = .ok (blocks.map fun block => (keptBits block.1, keptBits block.2)) := by
  induction elements generalizing blocks with
  | nil =>
    cases same
    rfl
  | cons json elements ih =>
    rw [List.mapM_cons] at same
    obtain ⟨block, here, rest⟩ := Option.bind_eq_some_iff.mp same
    obtain ⟨others, there, made⟩ := Option.bind_eq_some_iff.mp rest
    obtain rfl := Option.some.inj made
    rw [List.mapM_cons, readBlock_written here, ih there]
    rfl

/-- The store holds the blocks a document lists, and reads them with sixteen bits. -/
theorem items_written {members : Members} {key inner : String} {blocks : List (Rat × Rat)}
    (lists : written members key inner = some blocks) :
    (((mentions members key).getD .null).index inner >>= fun json => json.items.mapM Opt.readBlock) =
      .ok (blocks.map fun block => (keptBits block.1, keptBits block.2)) := by
  obtain ⟨listed, inside, mapped⟩ := Option.bind_eq_some_iff.mp lists
  obtain ⟨json, found, isList⟩ := Option.bind_eq_some_iff.mp inside
  rw [found, Option.getD_some]
  cases json with
  | object others =>
    unfold elements at isList
    dsimp only at isList
    split at isList
    next _ there =>
      obtain rfl := Option.some.inj isList
      rw [Json.index, there]
      exact mapM_written mapped
    next => cases isList
  | _ => cases isList

theorem written_mentions {members : Members} {key inner : String} (lists : (written members key inner).isSome) :
    (Json.object members).contains key = true := by
  obtain ⟨blocks, lists⟩ := Option.isSome_iff_exists.mp lists
  obtain ⟨listed, inside, -⟩ := Option.bind_eq_some_iff.mp lists
  obtain ⟨json, found, -⟩ := Option.bind_eq_some_iff.mp inside
  apply Bool.of_not_eq_false
  intro absent
  rw [mentions_none.mpr absent] at found
  cases found

end Getters

section Fitting

/-- What fits keeps all its bits. -/
theorem Fits.kept {block : Rat × Rat} (fits : Fits block) :
    (((keptBits block.1).toNat : Rat), ((keptBits block.2).toNat : Rat)) = block := by
  obtain ⟨⟨offset, smallOffset, sameOffset⟩, ⟨size, smallSize, sameSize⟩, -⟩ := fits
  rw [sameOffset, sameSize, keptBits_nat smallOffset, keptBits_nat smallSize, ← sameOffset, ← sameSize]

theorem exactly_fitting {blocks : List (Rat × Rat)} (fit : ∀ block ∈ blocks, Fits block) :
    Exactly (.ok (blocks.map fun block => (keptBits block.1, keptBits block.2))) blocks := by
  refine ⟨_, rfl, ?_, fun block listed => (fit block listed).inside⟩
  rw [List.map_map]
  calc blocks.map _ = blocks.map id := List.map_congr_left fun block listed => (fit block listed).kept
    _ = blocks := List.map_id blocks

end Fitting

section Documents
variable {lib : Libraries} {build : Build} {opt changed : Opt} {store : Store String Json} {members : Members}
  {text : String}

/-- An accepted document replaces the blocks it lists by their sixteen bits. -/
theorem blocks_kept (stores : Stores changed (apply store (mentions members))) :
    (∀ blocks, writtenRam members = some blocks →
      changed.ram = .ok (blocks.map fun block => (keptBits block.1, keptBits block.2))) ∧
      ∀ blocks, writtenRom members = some blocks →
      changed.rom = .ok (blocks.map fun block => (keptBits block.1, keptBits block.2)) := by
  have merged {key inner : String} {blocks : List (Rat × Rat)} (lists : written members key inner = some blocks) :
      (apply store (mentions members) key).getD .null = (mentions members key).getD .null := by
    have present := written_mentions (Option.isSome_iff_exists.mpr ⟨blocks, lists⟩)
    cases found : mentions members key with
    | none => exact absurd present (Bool.eq_false_iff.mp (mentions_none.mp found))
    | some json => rw [apply, found, Option.some_or]
  constructor
  · intro blocks lists
    rw [stores.answers.ram, merged lists]
    exact items_written lists
  · intro blocks lists
    rw [stores.answers.rom, merged lists]
    exact items_written lists

theorem accepts_listed (stores : Stores opt store) (read : Opt.read lib text = .ok (.object members))
    (listed : (writtenRam members).isSome ∨ (writtenRom members).isSome) (legal : Legal build opt (.object members)) :
    ∃ changed, opt.setOptions lib build (some text) = .ok changed ∧ Stores changed (apply store (mentions members)) := by
  apply accepted stores read legal
  apply convertDeprecated_new
  rcases listed with ram | rom
  · rw [written_mentions ram, Bool.true_or]
  · rw [written_mentions rom, Bool.or_true]

theorem refused_of_illegal (read : Opt.read lib text = .ok (.object members))
    (illegal : ¬ Legal build opt (.object members)) :
    ∃ fault, opt.setOptions lib build (some text) = .error fault := by
  cases set : opt.setOptions lib build (some text) with
  | error fault => exact ⟨fault, rfl⟩
  | ok changed =>
    obtain ⟨json, again, legal, -⟩ := setOptions_ok_iff.mp set
    cases read.symm.trans again
    exact absurd legal illegal

/-- A layout is guarded just when another option is refused, or when every block of it fits. -/
theorem layouts_iff (calls : List (Option String)) (read : Opt.read lib text = .ok (.object members))
    (listed : (writtenRam members).isSome ∨ (writtenRom members).isSome) :
    Guarded lib build (history lib build calls).1 text members ↔
      ¬ Legal build (history lib build calls).1 (.object members) ∨ AllFit members := by
  obtain ⟨store, stores⟩ := history_stores lib build calls
  constructor
  · intro guarded
    by_cases legal : Legal build (history lib build calls).1 (.object members)
    · apply Or.inr
      apply Classical.byContradiction
      intro overflows
      obtain ⟨fault, refused⟩ := guarded.refused overflows
      obtain ⟨changed, set, -⟩ := accepts_listed stores read listed legal
      cases refused.symm.trans set
    · exact .inl legal
  · intro holds
    by_cases legal : Legal build (history lib build calls).1 (.object members)
    · have fit : AllFit members := holds.resolve_left (not_not_intro legal)
      obtain ⟨changed, set, merges⟩ := accepts_listed stores read listed legal
      obtain ⟨ram, rom⟩ := blocks_kept merges
      refine ⟨?_, ?_, fun overflows => absurd fit overflows⟩
      · intro other again blocks lists
        obtain rfl := Except.ok.inj (set.symm.trans again)
        rw [ram blocks lists]
        exact exactly_fitting (fit.1 blocks lists)
      · intro other again blocks lists
        obtain rfl := Except.ok.inj (set.symm.trans again)
        rw [rom blocks lists]
        exact exactly_fitting (fit.2 blocks lists)
    · obtain ⟨fault, refused⟩ := refused_of_illegal read legal
      refine ⟨?_, ?_, fun _ => ⟨fault, refused⟩⟩
      · intro changed set
        cases refused.symm.trans set
      · intro changed set
        cases refused.symm.trans set

def oneBlock (offset size : Int) : Members :=
  [("ram", .object [("block", .array [.object [("offset", .integer offset), ("size", .integer size)]])])]

def layoutLibraries : Libraries where
  parse text :=
    if text = "the 64K" then some (.object (oneBlock 0 65536))
    else if text = "the upper half" then some (.object (oneBlock 32768 32768))
    else none
  parseFile _ := none
  dump _ := ""
  base64Encode _ := ""
  base64Decode _ := []
  compressBound := id
  compress _ _ := none
  uncompress _ _ := none
  md5 _ := Vector.replicate 16 0

theorem writtenRam_oneBlock (offset size : Int) :
    writtenRam (oneBlock offset size) = some [((offset : Rat), (size : Rat))] := rfl

/-- A ram of 64K is accepted, and becomes a ram of no bytes. -/
theorem whole_ram_lost :
    ((history layoutLibraries ⟨true, true⟩ []).1.setOptions layoutLibraries ⟨true, true⟩ (some "the 64K")).bind
      Opt.ram = .ok [(0, 0)] ∧
    ¬ Guarded layoutLibraries ⟨true, true⟩ (history layoutLibraries ⟨true, true⟩ []).1 "the 64K" (oneBlock 0 65536) := by
  have set : ∃ changed, (history layoutLibraries ⟨true, true⟩ []).1.setOptions layoutLibraries ⟨true, true⟩
      (some "the 64K") = .ok changed ∧
      changed.ram = .ok [(0, 0)] := ⟨_, by with_unfolding_all rfl, by with_unfolding_all rfl⟩
  obtain ⟨changed, set, ram⟩ := set
  refine ⟨?_, ?_⟩
  · rw [set]
    exact ram
  · intro guarded
    obtain ⟨blocks, read, same, -⟩ := guarded.ram changed set _ (writtenRam_oneBlock 0 65536)
    cases ram.symm.trans read
    simp at same

theorem layouts_iff_upper_half :
    Guarded layoutLibraries ⟨true, true⟩ (history layoutLibraries ⟨true, true⟩ []).1 "the upper half"
      (oneBlock 32768 32768) := by
  have read : Opt.read layoutLibraries "the upper half" = .ok (.object (oneBlock 32768 32768)) := by with_unfolding_all rfl
  apply (@layouts_iff layoutLibraries ⟨true, true⟩ _ "the upper half" [] read (.inl rfl)).mpr
  apply Or.inr
  constructor
  · intro blocks lists block listed
    cases (writtenRam_oneBlock 32768 32768).symm.trans lists
    cases List.mem_singleton.mp listed
    exact ⟨⟨32768, by norm_num, by norm_num⟩, ⟨32768, by norm_num, by norm_num⟩, by norm_num⟩
  · intro blocks lists
    cases lists

end Documents
end MachEmu.Proofs.Layouts
