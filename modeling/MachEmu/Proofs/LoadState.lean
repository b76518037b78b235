import MachEmu.Lib.Memory
import MachEmu.Proofs.Codec
import MachEmu.Proofs.StateChecks

/-! A load restores everything or nothing: the checks come first, and past them
the only step that could still fail is a read beyond the decoded ram. -/

namespace MachEmu.Proofs.LoadState
open ErrorState Gather StateChecks Machine

variable {ω : Type}

/-- A memory controller that does not throw and whose reads have no effect. -/
structure Steady (memory : IController ω) (read : ω → Word → Byte) (write : Word → Byte → ω → ω) : Prop where
  read_eq : ∀ addr w, memory.read addr w = .ok (read w addr) w
  write_eq : ∀ addr value w, memory.write addr value w = .ok () (write addr value w)

def Stores (read : ω → Word → Byte) (write : Word → Byte → ω → ω) : Prop :=
  ∀ addr value w, read (write addr value w) = Function.update (read w) addr value

def writeBack (write : Word → Byte → ω → ω) (bytes : List (Word × Byte)) (w : ω) : ω :=
  bytes.foldl (fun w byte => write byte.1 byte.2 w) w

theorem writeBack_reads {read : ω → Word → Byte} {write : Word → Byte → ω → ω} (stores : Stores read write)
    (bytes : List (Word × Byte)) (w : ω) : read (writeBack write bytes w) = Memory.writeAll (read w) bytes := by
  induction bytes generalizing w with
  | nil => rfl
  | cons byte bytes ih =>
    rw [Memory.writeAll_cons, ← stores]
    exact ih _

section Ram
variable {memory : IController ω} {read : ω → Word → Byte} {write : Word → Byte → ω → ω}

theorem Steady.reads (steady : Steady memory read write) (w : ω) : Reads memory w (read w) :=
  fun addr => steady.read_eq addr w

/-- One index runs through the addresses of the whole layout. -/
theorem writeRam_eq (ram : List Byte) (ramMetadata : List Block) :
    writeRam memory ram ramMetadata = (addresses ramMetadata).foldlM (writeByte memory ram) 0 := by
  have folded (index : BitVec 32) : ramMetadata.foldlM (fun index rm => forBlock rm (writeByte memory ram) index) index =
      (addresses ramMetadata).foldlM (writeByte memory ram) index := by
    induction ramMetadata generalizing index with
    | nil => rfl
    | cons rm ramMetadata ih =>
      rw [List.foldlM_cons, addresses_cons, List.foldlM_append, forBlock_eq]
      exact bind_congr ih
  exact folded 0

theorem writeByte_inside (steady : Steady memory read write) (ram : List Byte) (index : Nat) (addr : Word) (w : ω)
    (inside : index < ram.length) (small : ram.length < 2 ^ 32) :
    writeByte memory ram (BitVec.ofNat 32 index) addr w =
      .ok (BitVec.ofNat 32 (index + 1)) (write addr ram[index] w) := by
  have position : (BitVec.ofNat 32 index).toNat = index := by
    rw [BitVec.toNat_ofNat, Nat.mod_eq_of_lt (by omega)]
  simp only [writeByte, position, List.getElem?_eq_getElem inside]
  rw [bind_ok (steady.write_eq addr ram[index] w), BitVec.ofNat_add]
  rfl

theorem writeByte_outside (ram : List Byte) (addr : Word) (w : ω) (small : ram.length < 2 ^ 32) :
    writeByte memory ram (BitVec.ofNat 32 ram.length) addr w = .error .undefined w := by
  have position : (BitVec.ofNat 32 ram.length).toNat = ram.length := by
    rw [BitVec.toNat_ofNat, Nat.mod_eq_of_lt small]
  simp only [writeByte, position, List.getElem?_eq_none (Nat.le_refl _)]
  exact bind_error rfl

theorem foldlM_writeByte (steady : Steady memory read write) (ram : List Byte) (small : ram.length < 2 ^ 32)
    (addrs : List Word) (index : Nat) (w : ω) (inside : index + addrs.length ≤ ram.length) :
    addrs.foldlM (writeByte memory ram) (BitVec.ofNat 32 index) w =
      .ok (BitVec.ofNat 32 (index + addrs.length)) (writeBack write (addrs.zip (ram.drop index)) w) := by
  induction addrs generalizing index w with
  | nil => rfl
  | cons addr addrs ih =>
    rw [List.length_cons] at inside
    have here : index < ram.length := by omega
    rw [List.foldlM_cons, bind_ok (writeByte_inside steady ram index addr w here small), ih _ _ (by omega),
      List.drop_eq_getElem_cons here, List.length_cons, Nat.add_assoc, Nat.add_comm 1]
    rfl

/-- With more addresses than bytes the index runs off the end of the ram. -/
theorem foldlM_writeByte_overrun (steady : Steady memory read write) (ram : List Byte) (small : ram.length < 2 ^ 32)
    (addrs : List Word) (w : ω) (longer : ram.length < addrs.length) :
    ∃ after, addrs.foldlM (writeByte memory ram) 0 w = .error .undefined after := by
  have served : (addrs.take ram.length).length = ram.length := by
    rw [List.length_take]
    omega
  have written := foldlM_writeByte steady ram small (addrs.take ram.length) 0 w (by omega)
  rw [served, Nat.zero_add] at written
  obtain ⟨addr, rest, remaining⟩ : ∃ addr rest, addrs.drop ram.length = addr :: rest :=
    ⟨_, _, List.drop_eq_getElem_cons longer⟩
  refine ⟨writeBack write ((addrs.take ram.length).zip ram) w, ?_⟩
  conv => lhs; rw [← List.take_append_drop ram.length addrs, remaining]
  rw [List.foldlM_append]
  exact (bind_ok written).trans (bind_error (writeByte_outside ram addr _ small))

theorem toNat_ramSize (ramMetadata : List Block) :
    (ramSize ramMetadata).toNat = (ramMetadata.map fun rm => rm.2.toNat).sum % 2 ^ 32 := by
  have summed (size : BitVec 32) : (ramMetadata.foldl (fun size rm => size + rm.2.setWidth 32) size).toNat =
      (size.toNat + (ramMetadata.map fun rm => rm.2.toNat).sum) % 2 ^ 32 := by
    induction ramMetadata generalizing size with
    | nil => exact (Nat.mod_eq_of_lt size.isLt).symm
    | cons rm ramMetadata ih =>
      have narrow := rm.2.isLt
      rw [List.foldl_cons, ih, BitVec.toNat_add, BitVec.toNat_setWidth, List.map_cons, List.sum_cons]
      omega
  simpa [ramSize] using summed 0

theorem sum_of_size {ram : List Byte} {ramMetadata : List Block}
    (size : (ram.length : Int) = (ramSize ramMetadata).toInt) :
    ram.length < 2 ^ 31 ∧ ((ramMetadata.map fun rm => rm.2.toNat).sum < 2 ^ 31 →
      ram.length = (addresses ramMetadata).length) := by
  have wrapped := toNat_ramSize ramMetadata
  rw [BitVec.toInt_eq_toNat_cond] at size
  rw [length_addresses]
  constructor
  · split at size <;> omega
  · intro bounded
    rw [Nat.mod_eq_of_lt (by omega)] at wrapped
    split at size <;> omega

end Ram

section Load
variable {lib : Libraries} {build : Build} {opt : Opt} {memory : IController ω} {read : ω → Word → Byte}
  {write : Word → Byte → ω → ω} {str : String} {s : System ω} {json : Json} {ram : List Byte}
  {ramMetadata : List Block} {cpu : Intel8080}

/-- The cpu part of the document loads into `self` and gives `cpu`. -/
def CpuAccepts (lib : Libraries) (build : Build) (json : Json) (self cpu : Intel8080) : Prop :=
  ∃ cpuState, json.index "cpu" = .ok cpuState ∧ self.load lib build (lib.dump cpuState) = .ok cpu

theorem onWorld_ok {α : Type} {call : EStateM Fault ω α} {value : α} {world : ω} (ran : call s.world = .ok value world) :
    onWorld call s = .ok value { s with world } := by
  simp [onWorld, ran]

theorem onWorld_error {α : Type} {call : EStateM Fault ω α} {fault : Fault} {world : ω}
    (failed : call s.world = .error fault world) : onWorld call s = .error fault { s with world } := by
  simp [onWorld, failed]

theorem catch_ok {σ : Type} {body : EStateM Fault σ Unit} {s after : σ} (ran : body s = .ok () after) :
    catchException body s = .ok () after := by
  simp [catchException, ran]

theorem catch_exception {σ : Type} {body : EStateM Fault σ Unit} {s after : σ} {fault : Fault}
    (failed : body s = .error fault after) (caught : IsException fault) : catchException body s = .ok () after := by
  obtain ⟨what, rfl⟩ := caught
  simp [catchException, failed]

theorem catch_undefined {σ : Type} {body : EStateM Fault σ Unit} {s after : σ}
    (failed : body s = .error .undefined after) : catchException body s = .error .undefined after := by
  simp [catchException, failed]

theorem load_checked (steady : Steady memory read write) (nonempty : str ≠ "")
    (compatible : Compatible lib build opt memory.uuid (read s.world) str json ram ramMetadata)
    (accepted : CpuAccepts lib build json s.cpu cpu) :
    loadMachineState lib build opt memory str s =
      catchException (do let _ ← onWorld (writeRam memory ram ramMetadata)) { s with cpu } := by
  obtain ⟨cpuState, found, loaded⟩ := accepted
  have checked := (checkState_ok_iff (steady.reads s.world)).mpr ⟨compatible, rfl⟩
  rw [loadMachineState, if_neg nonempty]
  simp only [catchException]
  rw [bind_ok (onWorld_ok checked), found, bind_ok (ofExcept_ok _ _), bind_ok (get_run _), loaded,
    bind_ok (ofExcept_ok _ _), bind_ok (modify_run _ _)]

theorem load_accepted (steady : Steady memory read write) (nonempty : str ≠ "")
    (compatible : Compatible lib build opt memory.uuid (read s.world) str json ram ramMetadata)
    (accepted : CpuAccepts lib build json s.cpu cpu) (bounded : (ramMetadata.map fun rm => rm.2.toNat).sum < 2 ^ 31) :
    loadMachineState lib build opt memory str s =
      .ok () { s with cpu, world := writeBack write ((addresses ramMetadata).zip ram) s.world } := by
  obtain ⟨small, exactly⟩ := sum_of_size compatible.size
  have inside : 0 + (addresses ramMetadata).length ≤ ram.length := by rw [exactly bounded, Nat.zero_add]
  have written : writeRam memory ram ramMetadata s.world = .ok (BitVec.ofNat 32 (0 + (addresses ramMetadata).length))
      (writeBack write ((addresses ramMetadata).zip ram) s.world) := by
    rw [writeRam_eq]
    exact foldlM_writeByte steady ram (by omega) (addresses ramMetadata) 0 s.world inside
  rw [load_checked steady nonempty compatible accepted]
  exact catch_ok (bind_ok (onWorld_ok (s := { s with cpu }) written))

/-- When the `int` sum has wrapped, the layout is longer than the ram it was compared with. -/
theorem load_overrun (steady : Steady memory read write) (nonempty : str ≠ "")
    (compatible : Compatible lib build opt memory.uuid (read s.world) str json ram ramMetadata)
    (accepted : CpuAccepts lib build json s.cpu cpu)
    (wrapped : 2 ^ 31 ≤ (ramMetadata.map fun rm => rm.2.toNat).sum) :
    ∃ after, loadMachineState lib build opt memory str s = .error .undefined after := by
  obtain ⟨small, -⟩ := sum_of_size compatible.size
  have longer : ram.length < (addresses ramMetadata).length := by
    rw [length_addresses]
    omega
  obtain ⟨world, overrun⟩ := foldlM_writeByte_overrun steady ram (by omega) (addresses ramMetadata) s.world longer
  rw [← writeRam_eq] at overrun
  rw [load_checked steady nonempty compatible accepted]
  exact ⟨_, catch_undefined (bind_error (onWorld_error overrun))⟩

theorem load_refused (steady : Steady memory read write) {romMetadata : List Block}
    (romLayout : opt.rom = .ok romMetadata) (ramLayout : opt.ram = .ok ramMetadata)
    (refused : str = "" ∨ ¬ ∃ json ram cpu,
      Compatible lib build opt memory.uuid (read s.world) str json ram ramMetadata ∧ CpuAccepts lib build json s.cpu cpu) :
    loadMachineState lib build opt memory str s = .ok () s := by
  unfold loadMachineState
  split
  next => rfl
  next nonempty =>
    have neutral : Neutral IsException (checkState lib build opt memory str) s.world :=
      checkState_neutral (steady.reads s.world) romLayout ramLayout str
    cases checked : checkState lib build opt memory str s.world with
    | error fault world =>
      simp only [Neutral, checked] at neutral
      obtain ⟨caught, rfl⟩ := neutral
      exact catch_exception (bind_error (onWorld_error checked)) caught
    | ok result world =>
      obtain ⟨json, ram, metadata⟩ := result
      obtain ⟨compatible, rfl⟩ := (checkState_ok_iff (steady.reads s.world)).mp checked
      obtain rfl := Except.ok.inj (compatible.layout.symm.trans ramLayout)
      have rejected : ∀ cpu, ¬ CpuAccepts lib build json s.cpu cpu := by
        intro cpu accepted
        exact (refused.resolve_left nonempty) ⟨json, ram, cpu, compatible, accepted⟩
      cases found : json.index "cpu" with
      | error fault =>
        refine catch_exception ((bind_ok (onWorld_ok checked)).trans (bind_error ?_)) (throws_index json "cpu" fault found)
        rw [found]
        rfl
      | ok cpuState =>
        cases loaded : s.cpu.load lib build (lib.dump cpuState) with
        | ok cpu => exact absurd ⟨cpuState, found, loaded⟩ (rejected cpu)
        | error fault =>
          refine catch_exception ?_ (throws_load lib build _ s.cpu fault loaded)
          rw [bind_ok (onWorld_ok checked)]
          dsimp only
          rw [found, bind_ok (ofExcept_ok _ _), bind_ok (get_run _), loaded]
          exact bind_error rfl

end Load

section Atomicity
variable (lib : Libraries) (build : Build) (opt : Opt) (memory : IController ω) (read : ω → Word → Byte)
  (write : Word → Byte → ω → ω) (str : String) (s : System ω)

/-- `after` is the machine `s` with the state of the document: the ten fields the cpu
document converts to, and the decoded ram at its place in the layout. -/
structure Restored (after : System ω) (json doc : Json) (ram : List Byte) (ramMetadata : List Block) : Prop where
  document : parse lib str = .ok json
  cpuDocument : (do parse lib (lib.dump (← json.index "cpu"))) = .ok doc
  registers : StateChecks.Carries doc after.cpu
  flipFlop : after.cpu.iff = s.cpu.iff
  opcode : after.cpu.opcode = s.cpu.opcode
  decoded : decodeRam lib build json = .ok ram
  layout : opt.ram = .ok ramMetadata
  length : ram.length = (addresses ramMetadata).length
  world : after.world = writeBack write ((addresses ramMetadata).zip ram) s.world
  memory : Stores read write → read after.world = Memory.writeAll (read s.world) ((addresses ramMetadata).zip ram)
  bus : after.bus = s.bus

/-- The load returns, and has changed either nothing or everything. -/
def AllOrNothing : Prop :=
  ∃ after, loadMachineState lib build opt memory str s = .ok () after ∧
    (after = s ∨ ∃ json doc ram ramMetadata, Restored lib build opt read write str s after json doc ram ramMetadata)

variable {lib build opt memory read write str s}

variable (write) in
theorem restored_of_accepted {json : Json} {ram : List Byte} {ramMetadata : List Block} {cpu : Intel8080}
    (compatible : Compatible lib build opt memory.uuid (read s.world) str json ram ramMetadata)
    (accepted : CpuAccepts lib build json s.cpu cpu) (bounded : (ramMetadata.map fun rm => rm.2.toNat).sum < 2 ^ 31) :
    ∃ doc, Restored lib build opt read write str s
      { s with cpu, world := writeBack write ((addresses ramMetadata).zip ram) s.world } json doc ram ramMetadata := by
  obtain ⟨cpuState, found, loaded⟩ := accepted
  obtain ⟨doc, parsed, -, registers, flipFlop, opcode⟩ := load_ok_iff.mp loaded
  exact ⟨doc, {
    document := compatible.document
    cpuDocument := except_bind_ok_iff.mpr ⟨cpuState, found, parsed⟩
    registers
    flipFlop
    opcode
    decoded := compatible.decoded
    layout := compatible.layout
    length := (sum_of_size compatible.size).2 bounded
    world := rfl
    memory := fun stores => writeBack_reads stores _ s.world
    bus := rfl }⟩

theorem all_or_nothing_iff (steady : Steady memory read write) {romMetadata ramMetadata : List Block}
    (romLayout : opt.rom = .ok romMetadata) (ramLayout : opt.ram = .ok ramMetadata) :
    AllOrNothing lib build opt memory read write str s ↔
      ((∃ json ram cpu, str ≠ "" ∧
        Compatible lib build opt memory.uuid (read s.world) str json ram ramMetadata ∧
        CpuAccepts lib build json s.cpu cpu) →
      (ramMetadata.map fun rm => rm.2.toNat).sum < 2 ^ 31) := by
  constructor
  · rintro ⟨after, returned, -⟩ ⟨json, ram, cpu, nonempty, compatible, accepted⟩
    by_contra wrapped
    obtain ⟨stopped, overrun⟩ := load_overrun steady nonempty compatible accepted (Nat.le_of_not_lt wrapped)
    rw [overrun] at returned
    cases returned
  · intro bounded
    by_cases passes : ∃ json ram cpu, str ≠ "" ∧
        Compatible lib build opt memory.uuid (read s.world) str json ram ramMetadata ∧ CpuAccepts lib build json s.cpu cpu
    · obtain ⟨json, ram, cpu, nonempty, compatible, accepted⟩ := passes
      have fits := bounded ⟨json, ram, cpu, nonempty, compatible, accepted⟩
      obtain ⟨doc, restored⟩ := restored_of_accepted write compatible accepted fits
      exact ⟨_, load_accepted steady nonempty compatible accepted fits,
        .inr ⟨json, doc, ram, ramMetadata, restored⟩⟩
    · refine ⟨s, load_refused steady romLayout ramLayout ?_, .inl rfl⟩
      by_cases empty : str = ""
      · exact .inl empty
      · exact .inr fun ⟨json, ram, cpu, compatible, accepted⟩ => passes ⟨json, ram, cpu, empty, compatible, accepted⟩

end Atomicity

theorem ram_steady {δ : Type} (uuid : Uuid) : Steady (PlainRam.ramController (δ := δ) uuid) PlainRam.Ram.mem
    fun addr value ram => { ram with mem := Function.update ram.mem addr value } :=
  ⟨fun _ _ => rfl, fun _ _ _ => rfl⟩

theorem ram_stores {δ : Type} : Stores (PlainRam.Ram.mem (δ := δ))
    fun addr value ram => { ram with mem := Function.update ram.mem addr value } :=
  fun _ _ _ => rfl

/-! Runs on a machine whose ram is all zero. Base64 turns three zero bytes into
`AAAA`, and its text is long enough to be told from the other texts by length. -/

section Zeros
variable (n : Nat)

def zeroRam : List Byte := List.replicate (3 * n) 0

def zeroText : String := String.ofList (List.replicate (4 * n) 'A')

def optWith (blocks : List Json) : Opt where
  json := .object [("clockResolution", .integer (-1)), ("compressor", .string "none"), ("encoder", .string "base64"),
    ("isrFreq", .integer 0), ("loadAsync", .bool false), ("ram", .object [("block", .array blocks)]),
    ("rom", .object [("file", .array [.object [("offset", .integer 0), ("size", .integer 0)]])]),
    ("runAsync", .bool false), ("saveAsync", .bool false)]

def sampleUuid : Uuid := Vector.replicate 16 0x11

def emptyHash : Uuid :=
  #v[0xD4, 0x1D, 0x8C, 0xD9, 0x8F, 0x00, 0xB2, 0x04, 0xE9, 0x80, 0x09, 0x98, 0xEC, 0xF8, 0x42, 0x7E]

def resetCpu : Json :=
  .object [("pc", .integer 0), ("registers", .object [("a", .integer 0), ("b", .integer 0), ("c", .integer 0),
    ("d", .integer 0), ("e", .integer 0), ("h", .integer 0), ("l", .integer 0), ("s", .integer 2)]),
    ("sp", .integer 0), ("uuid", .string "O+hPH516S3ClRdnzSRL8rQ==")]

def resetText : String :=
  "\x7b\"pc\":0,\"registers\":\x7b\"a\":0,\"b\":0,\"c\":0,\"d\":0,\"e\":0,\"h\":0,\"l\":0,\"s\":2\x7d,\"sp\":0," ++
    "\"uuid\":\"O+hPH516S3ClRdnzSRL8rQ==\"\x7d"

def zeroDocument : Json :=
  .object [("cpu", resetCpu), ("memory", .object [("ram", .object [("bytes", .string (zeroText n)),
    ("compressor", .string "none"), ("encoder", .string "base64"), ("size", .integer (3 * n))]),
    ("rom", .string "1B2M2Y8AsgTpgAmY7PhCfg=="), ("uuid", .string "EREREREREREREREREREREQ==")])]

def zeroState : String :=
  Machine.print (Intel8080.print "O+hPH516S3ClRdnzSRL8rQ==" {}) "EREREREREREREREREREREQ==" "1B2M2Y8AsgTpgAmY7PhCfg=="
    "base64" "none" (3 * n : Nat) (zeroText n)

def zeroLibraries : Libraries where
  parse text := if text.length < 1000 then some resetCpu else some (zeroDocument n)
  parseFile _ := none
  dump _ := resetText
  base64Encode src :=
    if src = Intel8080.uuid then "O+hPH516S3ClRdnzSRL8rQ=="
    else if src = sampleUuid.toList then "EREREREREREREREREREREQ=="
    else if src = emptyHash.toList then "1B2M2Y8AsgTpgAmY7PhCfg=="
    else String.ofList (List.replicate (4 * ((src.length + 2) / 3)) 'A')
  base64Decode text :=
    if text.length < 1000 then
      ([("O+hPH516S3ClRdnzSRL8rQ==", Intel8080.uuid), ("EREREREREREREREREREREQ==", sampleUuid.toList),
        ("1B2M2Y8AsgTpgAmY7PhCfg==", emptyHash.toList)].lookup text).getD []
    else zeroRam n
  compressBound n := n
  compress _ _ := none
  uncompress _ _ := none
  md5 _ := emptyHash

theorem length_zeroText : (zeroText n).length = 4 * n := by
  rw [zeroText, String.length_ofList, List.length_replicate]

theorem length_middle (before middle after : String) : middle.length ≤ (before ++ middle ++ after).length := by
  simp only [String.length_append]
  omega

theorem length_zeroState : 4 * n ≤ (zeroState n).length := by
  rw [← length_zeroText]
  exact length_middle _ (zeroText n) _

variable {n}

theorem parse_zeroState (long : 250 ≤ n) : parse (zeroLibraries n) (zeroState n) = .ok (zeroDocument n) := by
  have whole : ¬ (zeroState n).length < 1000 :=
    Nat.not_lt.mpr (Nat.le_trans (Nat.mul_le_mul_left 4 long) (length_zeroState n))
  have found : (zeroLibraries n).parse (zeroState n) = some (zeroDocument n) := by
    simp only [zeroLibraries]
    rw [if_neg whole]
  rw [parse, found]

theorem parse_resetText : parse (zeroLibraries n) resetText = .ok resetCpu := by
  have short : resetText.length < 1000 := by decide +kernel
  have found : (zeroLibraries n).parse resetText = some resetCpu := by
    simp only [zeroLibraries]
    rw [if_pos short]
  rw [parse, found]

theorem decode_zeroText (long : 250 ≤ n) : (zeroLibraries n).base64Decode (zeroText n) = zeroRam n := by
  have whole : ¬ (zeroText n).length < 1000 := by
    rw [length_zeroText]
    omega
  exact if_neg whole

theorem zeroState_nonempty (some : 0 < n) : zeroState n ≠ "" := by
  intro empty
  have longer := length_zeroState n
  rw [empty, String.length_empty] at longer
  omega

theorem zero_compatible {blocks : List Json} {ramMetadata : List Block} (long : 250 ≤ n)
    (layout : blocks.mapM Opt.readBlock = .ok ramMetadata)
    (size : (3 * n : Int) = (ramSize ramMetadata).toInt) (content : Word → Byte) :
    Compatible (zeroLibraries n) ⟨true, false⟩ (optWith blocks) sampleUuid content (zeroState n) (zeroDocument n)
      (zeroRam n) ramMetadata where
  identified := by decide
  document := parse_zeroState long
  controller := by rfl
  rom := ⟨[(0, 0)], by rfl, by rfl⟩
  decoded := congrArg Except.ok (decode_zeroText long)
  layout := layout
  size := by
    rw [zeroRam, List.length_replicate]
    exact_mod_cast size

theorem zero_accepts {self : Intel8080} : CpuAccepts (zeroLibraries n) ⟨true, false⟩ (zeroDocument n) self
    { iff := self.iff, opcode := self.opcode } := by
  refine ⟨resetCpu, by rfl, ?_⟩
  change Intel8080.load _ _ resetText _ = _
  rw [Intel8080.load, parse_resetText]
  rfl

def zeroBlock : Json := .object [("offset", .integer 0x2000), ("size", .integer 768)]

/-- A state that is accepted replaces the registers and the ram, and nothing else. -/
theorem all_or_nothing_zeros :
    (∃ after, loadMachineState (zeroLibraries 256) ⟨true, false⟩ (optWith [zeroBlock])
      (PlainRam.ramController (δ := Unit) sampleUuid)
        (zeroState 256) ⟨{ a := 7, pc := 9 }, {}, fun _ => 0xEE, ()⟩ = .ok () after ∧
      after.cpu = {} ∧ after.world.mem 0x2000 = 0 ∧ after.world.mem 0x22FF = 0 ∧ after.world.mem 0x2300 = 0xEE) ∧
    AllOrNothing (zeroLibraries 256) ⟨true, false⟩ (optWith [zeroBlock]) (PlainRam.ramController (δ := Unit) sampleUuid)
      PlainRam.Ram.mem (fun addr value ram => { ram with mem := Function.update ram.mem addr value }) (zeroState 256)
      ⟨{ a := 7, pc := 9 }, {}, fun _ => 0xEE, ()⟩ := by
  have romLayout : (optWith [zeroBlock]).rom = .ok [(0, 0)] := by rfl
  have ramLayout : (optWith [zeroBlock]).ram = .ok [(0x2000, 768)] := by rfl
  have compatible : Compatible (zeroLibraries 256) ⟨true, false⟩ (optWith [zeroBlock]) sampleUuid (fun _ => 0xEE)
      (zeroState 256)
      (zeroDocument 256) (zeroRam 256) [(0x2000, 768)] := zero_compatible (by decide) (by rfl) (by decide) _
  have loaded := load_accepted (s := ⟨{ a := 7, pc := 9 }, {}, fun _ => 0xEE, ()⟩) (ram_steady sampleUuid)
    (zeroState_nonempty (by decide)) compatible zero_accepts (by decide)
  refine ⟨⟨_, loaded, rfl, ?_⟩, (all_or_nothing_iff (ram_steady sampleUuid) romLayout ramLayout).mpr fun _ => by decide⟩
  have written := writeBack_reads ram_stores ((addresses [(0x2000, 768)]).zip (zeroRam 256))
      (⟨fun _ => 0xEE, ()⟩ : PlainRam.Ram Unit)
  rw [written]
  decide +kernel

theorem readBlock_replicate (count : Nat) :
    (List.replicate count (Json.object [("offset", .integer 0), ("size", .integer 65534)])).mapM Opt.readBlock =
      .ok (List.replicate count (0, 65534)) := by
  induction count with
  | zero => rfl
  | succ count ih =>
    rw [List.replicate_succ, List.mapM_cons, ih]
    rfl

theorem sum_replicate_size (count : Nat) :
    ((List.replicate count (0, 65534) : List Block).map fun rm => rm.2.toNat).sum = count * 65534 := by
  rw [List.map_replicate, List.sum_replicate]
  rfl

/-- The sizes of 65540 blocks of 65534 bytes add up to 131064 in an `int`. A ram of
that many bytes passes the check, and the load runs off its end. -/
theorem load_wide_layout :
    ¬ AllOrNothing (zeroLibraries 43688) ⟨true, false⟩
      (optWith (List.replicate 65540 (.object [("offset", .integer 0), ("size", .integer 65534)])))
      (PlainRam.ramController (δ := Unit) sampleUuid) PlainRam.Ram.mem
      (fun addr value ram => { ram with mem := Function.update ram.mem addr value }) (zeroState 43688)
      ⟨{}, {}, fun _ => 0, ()⟩ := by
  rintro ⟨after, returned, -⟩
  have nonempty : zeroState 43688 ≠ "" := zeroState_nonempty (by decide)
  have size : (3 * (43688 : Nat) : Int) = (ramSize (List.replicate 65540 (0, 65534))).toInt := by
    rw [BitVec.toInt_eq_toNat_cond, toNat_ramSize, sum_replicate_size]
    norm_num
  obtain ⟨stopped, overrun⟩ := load_overrun (s := ⟨{}, {}, fun _ => 0, ()⟩) (ram_steady sampleUuid) nonempty
    (zero_compatible (by norm_num) (readBlock_replicate 65540) size _) zero_accepts
    (by rw [sum_replicate_size]; norm_num)
  rw [overrun] at returned
  cases returned

end Zeros
end MachEmu.Proofs.LoadState
