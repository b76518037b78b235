import MachEmu.Proofs.SaveLoad
import MachEmu.Proofs.StatusByte

/-! The documents that a load accepts, field by field, against those that a save can
write. -/

namespace MachEmu.Proofs.Documents
open ErrorState Gather StateChecks LoadState StatusByte Machine

section Members

def member (json : Json) (key : String) : Json :=
  match json with
  | .object members => (members.lookup key).getD .null
  | _ => .null

def register (json : Json) (name : String) : Json := member (member (member json "cpu") "registers") name

def registerNames : List String := ["a", "b", "c", "d", "e", "h", "l", "s"]

/-- The values that `get<uintN_t>` converts. -/
def arithmetic : Json → Bool
  | .integer _ => true
  | .float _ => true
  | .bool _ => true
  | _ => false

variable {α : Type} {json : Json} {key : String}

theorem index_bind {get : Json → Except Fault α} (null : get .null = Json.typeError) :
    (json.index key >>= get) = get (member json key) := by
  cases json with
  | null => rfl
  | object members => rfl
  | _ => exact null.symm

theorem index_member (found : member json key ≠ .null) : json.index key = .ok (member json key) := by
  cases json with
  | null => rfl
  | object members => rfl
  | _ => exact absurd rfl found

theorem member_of_index {found : Json} (read : json.index key = .ok found) : found = member json key := by
  cases json with
  | null => exact (Except.ok.inj read).symm
  | object members => exact (Except.ok.inj read).symm
  | _ => cases read

theorem getUint_ok_iff {width : Nat} : (∃ value, json.getUint width = .ok value) ↔ arithmetic json = true := by
  cases json with
  | integer n => exact iff_of_true ⟨_, rfl⟩ rfl
  | float x => exact iff_of_true ⟨_, rfl⟩ rfl
  | bool b => exact iff_of_true ⟨_, rfl⟩ rfl
  | _ =>
    refine iff_of_false ?_ Bool.false_ne_true
    intro converted
    obtain ⟨value, converted⟩ := converted
    cases converted

theorem getString_ok_iff {text : String} : json.getString = .ok text ↔ json = .string text := by
  cases json with
  | string other =>
    constructor
    · intro got
      rw [Except.ok.inj got]
    · intro same
      cases same
      rfl
  | _ => exact iff_of_false nofun nofun

end Members

section Forms

def IsInteger (bound : Int) (json : Json) : Prop := ∃ n, json = .integer n ∧ 0 ≤ n ∧ n ≤ bound

def letter (c : Char) : Bool := c.isAlphanum || c == '+' || c == '/'

/-- Groups of four letters, the last of which may be padded. -/
def grouped : List Char → Bool
  | [] => true
  | a :: b :: c :: d :: rest =>
    if rest.isEmpty then letter a && letter b && (letter c && (letter d || d == '=') || c == '=' && d == '=')
    else letter a && letter b && letter c && letter d && grouped rest
  | _ => false

def IsBase64Text (json : Json) : Prop := ∃ text, json = .string text ∧ grouped text.toList = true

/-- The documents that a save can write. -/
structure WellFormed (json : Json) : Prop where
  registers : ∀ name ∈ registerNames, IsInteger 255 (register json name)
  status : ∀ n, register json "s" = .integer n → StatusForm (BitVec.ofInt 8 n)
  pc : IsInteger 65535 (member (member json "cpu") "pc")
  sp : IsInteger 65535 (member (member json "cpu") "sp")
  cpuUuid : IsBase64Text (member (member json "cpu") "uuid")
  uuid : IsBase64Text (member (member json "memory") "uuid")
  rom : IsBase64Text (member (member json "memory") "rom")
  bytes : IsBase64Text (member (member (member json "memory") "ram") "bytes")

variable (lib : Libraries) (build : Build)

/-- What the decoder leaves of a string are these bytes. -/
def Leaves (json : Json) (bytes : List Byte) : Prop := ∃ text, json = .string text ∧ lib.base64Decode text = bytes

/-- What is left of the ram, decompressed as the document says. -/
def LeavesRam (json : Json) (bytes : List Byte) : Prop :=
  ∃ compressor size text, member json "encoder" = .string "base64" ∧ member json "compressor" = .string compressor ∧
    (member json "size").getUint 32 = .ok size ∧ member json "bytes" = .string text ∧
    Utils.txtToBin lib build "base64" compressor size text = .ok bytes

/-- The fields of a document that no check refuses. Numbers and booleans of any value will do. -/
structure Passes (uuid : Uuid) (content : Word → Byte) (romMetadata ramMetadata : List Block) (text : String)
    (json : Json) : Prop where
  nonempty : text ≠ ""
  identified : uuid ≠ Vector.replicate 16 0
  controller : Leaves lib (member (member json "memory") "uuid") uuid.toList
  rom : Leaves lib (member (member json "memory") "rom") (Utils.md5 lib ((addresses romMetadata).map content))
  ram : ∃ bytes, LeavesRam lib build (member (member json "memory") "ram") bytes ∧
    (bytes.length : Int) = (ramSize ramMetadata).toInt
  cpu : Leaves lib (member (member json "cpu") "uuid") Intel8080.uuid
  registers : ∀ name ∈ registerNames, arithmetic (register json name) = true
  pc : arithmetic (member (member json "cpu") "pc") = true
  sp : arithmetic (member (member json "cpu") "sp") = true

theorem isInteger_toNat {width : Nat} (value : BitVec width) : IsInteger (2 ^ width - 1) (.integer value.toNat) := by
  have bound : (value.toNat : Int) < 2 ^ width := by exact_mod_cast value.isLt
  exact ⟨_, rfl, Int.natCast_nonneg _, Int.le_sub_one_of_lt bound⟩

/-- The document of a save is such a document, when the status byte has its form and the texts are in base64. -/
theorem pieces_wellFormed {pieces : SaveLoad.Pieces} {cpu : Intel8080} {ram : List Byte} (status : StatusForm cpu.status)
    (texts : ∀ text ∈ [pieces.cpuUuid, pieces.memUuid, pieces.romMd5, pieces.bytes], grouped (cStr text).toList = true) :
    WellFormed (pieces.document cpu ram) where
  registers name listed := by
    simp only [registerNames, List.mem_cons, List.not_mem_nil, or_false] at listed
    rcases listed with rfl | rfl | rfl | rfl | rfl | rfl | rfl | rfl
    all_goals exact isInteger_toNat (_ : Byte)
  status n same := by
    cases same
    rw [SaveLoad.ofInt_toNat]
    exact status
  pc := isInteger_toNat cpu.pc
  sp := isInteger_toNat cpu.sp
  cpuUuid := ⟨_, rfl, texts _ (by simp)⟩
  uuid := ⟨_, rfl, texts _ (by simp)⟩
  rom := ⟨_, rfl, texts _ (by simp)⟩
  bytes := ⟨_, rfl, texts _ (by simp)⟩

end Forms

section Checks
variable {lib : Libraries} {build : Build} {json : Json} {bytes : List Byte}

theorem txtToBin_plain (size : BitVec 32) (text : String) :
    Utils.txtToBin lib build "base64" "none" size text = .ok (lib.base64Decode text) := by
  simp [Utils.txtToBin]

theorem leaves_iff : (do Utils.txtToBin lib build "base64" "none" 16 (← json.getString)) = .ok bytes ↔
    Leaves lib json bytes := by
  constructor
  · intro decoded
    obtain ⟨text, got, decoded⟩ := except_bind_ok_iff.mp decoded
    rw [txtToBin_plain] at decoded
    exact ⟨text, getString_ok_iff.mp got, Except.ok.inj decoded⟩
  · intro leaves
    obtain ⟨text, rfl, rfl⟩ := leaves
    change Utils.txtToBin lib build "base64" "none" 16 text = _
    exact txtToBin_plain 16 text

theorem digest_ok_iff (name : String) :
    Machine.digest lib build json name = .ok bytes ↔ Leaves lib (member (member json "memory") name) bytes := by
  unfold Machine.digest
  rw [index_bind rfl, index_bind rfl]
  exact leaves_iff

theorem decodeRam_ok_iff :
    Machine.decodeRam lib build json = .ok bytes ↔ LeavesRam lib build (member (member json "memory") "ram") bytes := by
  unfold Machine.decodeRam
  rw [index_bind rfl, index_bind rfl]
  generalize member (member json "memory") "ram" = ram
  rw [index_bind rfl]
  constructor
  · intro decoded
    obtain ⟨encoder, isEncoder, decoded⟩ := except_bind_ok_iff.mp decoded
    rw [index_bind rfl] at decoded
    obtain ⟨compressor, isCompressor, decoded⟩ := except_bind_ok_iff.mp decoded
    rw [index_bind rfl] at decoded
    obtain ⟨size, isSize, decoded⟩ := except_bind_ok_iff.mp decoded
    rw [index_bind rfl] at decoded
    obtain ⟨text, isText, decoded⟩ := except_bind_ok_iff.mp decoded
    have base64 : encoder = "base64" := by
      by_contra other
      rw [Utils.txtToBin, if_pos other] at decoded
      cases decoded
    subst base64
    exact ⟨compressor, size, text, getString_ok_iff.mp isEncoder, getString_ok_iff.mp isCompressor, isSize,
      getString_ok_iff.mp isText, decoded⟩
  · intro leaves
    obtain ⟨compressor, size, text, isEncoder, isCompressor, isSize, isText, decoded⟩ := leaves
    refine except_bind_ok_iff.mpr ⟨_, getString_ok_iff.mpr isEncoder, ?_⟩
    rw [index_bind rfl]
    refine except_bind_ok_iff.mpr ⟨_, getString_ok_iff.mpr isCompressor, ?_⟩
    rw [index_bind rfl]
    refine except_bind_ok_iff.mpr ⟨_, isSize, ?_⟩
    rw [index_bind rfl]
    exact except_bind_ok_iff.mpr ⟨_, getString_ok_iff.mpr isText, decoded⟩

theorem jsonRegister_eq (name : String) :
    Intel8080.jsonRegister (member json "cpu") name = (register json name).getUint 8 := by
  unfold Intel8080.jsonRegister
  rw [index_bind rfl, index_bind rfl]
  rfl

theorem word_eq (key : String) : (do (← (member json "cpu").index key).getUint 16) =
    (member (member json "cpu") key).getUint 16 :=
  index_bind rfl

theorem carries_iff {self : Intel8080} :
    (∃ cpu, Carries (member json "cpu") cpu ∧ cpu.iff = self.iff ∧ cpu.opcode = self.opcode) ↔
      (∀ name ∈ registerNames, arithmetic (register json name) = true) ∧
      arithmetic (member (member json "cpu") "pc") = true ∧
        arithmetic (member (member json "cpu") "sp") = true := by
  constructor
  · intro carried
    obtain ⟨cpu, ⟨a, b, c, d, e, h, l, status, pc, sp⟩, -⟩ := carried
    rw [jsonRegister_eq] at a b c d e h l status
    rw [word_eq] at pc sp
    refine ⟨fun name listed => ?_, getUint_ok_iff.mp ⟨_, pc⟩, getUint_ok_iff.mp ⟨_, sp⟩⟩
    simp only [registerNames, List.mem_cons, List.not_mem_nil, or_false] at listed
    rcases listed with rfl | rfl | rfl | rfl | rfl | rfl | rfl | rfl
    · exact getUint_ok_iff.mp ⟨_, a⟩
    · exact getUint_ok_iff.mp ⟨_, b⟩
    · exact getUint_ok_iff.mp ⟨_, c⟩
    · exact getUint_ok_iff.mp ⟨_, d⟩
    · exact getUint_ok_iff.mp ⟨_, e⟩
    · exact getUint_ok_iff.mp ⟨_, h⟩
    · exact getUint_ok_iff.mp ⟨_, l⟩
    · exact getUint_ok_iff.mp ⟨_, status⟩
  · intro converts
    obtain ⟨registers, pc, sp⟩ := converts
    have byte (name : String) (listed : name ∈ registerNames) : ∃ value : Byte,
        Intel8080.jsonRegister (member json "cpu") name = .ok value := by
      rw [jsonRegister_eq]
      exact getUint_ok_iff.mpr (registers name listed)
    obtain ⟨a, isA⟩ := byte "a" (by simp [registerNames])
    obtain ⟨b, isB⟩ := byte "b" (by simp [registerNames])
    obtain ⟨c, isC⟩ := byte "c" (by simp [registerNames])
    obtain ⟨d, isD⟩ := byte "d" (by simp [registerNames])
    obtain ⟨e, isE⟩ := byte "e" (by simp [registerNames])
    obtain ⟨h, isH⟩ := byte "h" (by simp [registerNames])
    obtain ⟨l, isL⟩ := byte "l" (by simp [registerNames])
    obtain ⟨status, isStatus⟩ := byte "s" (by simp [registerNames])
    obtain ⟨isPc, pcRead⟩ := getUint_ok_iff.mpr pc
    obtain ⟨isSp, spRead⟩ := getUint_ok_iff.mpr sp
    rw [← word_eq] at pcRead spRead
    exact ⟨{ self with a, b, c, d, e, h, l, status, pc := isPc, sp := isSp },
      ⟨isA, isB, isC, isD, isE, isH, isL, isStatus, pcRead, spRead⟩, rfl, rfl⟩

/-- The JSON library reads back the cpu document that it dumps. -/
def Redumps (lib : Libraries) (json : Json) : Prop := parse lib (lib.dump (member json "cpu")) = .ok (member json "cpu")

theorem cpuAccepts_iff (redumps : Redumps lib json) {self cpu : Intel8080} :
    CpuAccepts lib build json self cpu ↔ Leaves lib (member (member json "cpu") "uuid") Intel8080.uuid ∧
      Carries (member json "cpu") cpu ∧ cpu.iff = self.iff ∧ cpu.opcode = self.opcode := by
  have uuid_iff :
      (do Utils.txtToBin lib build "base64" "none" 16 (← (← (member json "cpu").index "uuid").getString)) =
        .ok Intel8080.uuid ↔ Leaves lib (member (member json "cpu") "uuid") Intel8080.uuid := by
    rw [index_bind rfl]
    exact leaves_iff
  constructor
  · intro accepts
    obtain ⟨cpuState, found, loaded⟩ := accepts
    obtain rfl := member_of_index found
    obtain ⟨doc, parsed, uuid, rest⟩ := load_ok_iff.mp loaded
    obtain rfl := Except.ok.inj (redumps.symm.trans parsed)
    exact ⟨uuid_iff.mp uuid, rest⟩
  · intro accepts
    obtain ⟨uuid, carries⟩ := accepts
    have present : member json "cpu" ≠ .null := by
      intro absent
      obtain ⟨text, isText, -⟩ := uuid
      rw [absent] at isText
      cases isText
    exact ⟨_, index_member present, load_ok_iff.mpr ⟨_, redumps, uuid_iff.mpr uuid, carries⟩⟩

end Checks

section Loads
variable {ω : Type} {lib : Libraries} {build : Build} {opt : Opt} {memory : IController ω} {read : ω → Word → Byte}
  {write : Word → Byte → ω → ω} {text : String} {s : System ω} {json : Json} {romMetadata ramMetadata : List Block}

/-- Whatever the registers hold, a load of the text changes nothing. -/
def Refused (lib : Libraries) (build : Build) (opt : Opt) (memory : IController ω) (text : String) (s : System ω) : Prop :=
  ∀ cpu, loadMachineState lib build opt memory text { s with cpu } = .ok () { s with cpu }

theorem passes_iff (self : Intel8080) (redumps : Redumps lib json) (document : parse lib text = .ok json)
    (romLayout : opt.rom = .ok romMetadata) (ramLayout : opt.ram = .ok ramMetadata) {content : Word → Byte} :
    Passes lib build memory.uuid content romMetadata ramMetadata text json ↔ text ≠ "" ∧ ∃ other ram cpu,
      Compatible lib build opt memory.uuid content text other ram ramMetadata ∧ CpuAccepts lib build other self cpu := by
  constructor
  · intro passes
    obtain ⟨ram, leaves, size⟩ := passes.ram
    obtain ⟨cpu, carries⟩ := carries_iff.mpr ⟨passes.registers, passes.pc, passes.sp⟩
    refine ⟨passes.nonempty, json, ram, cpu, ?_, (cpuAccepts_iff redumps).mpr ⟨passes.cpu, carries⟩⟩
    exact ⟨passes.identified, document, (digest_ok_iff "uuid").mpr passes.controller,
      ⟨romMetadata, romLayout, (digest_ok_iff "rom").mpr passes.rom⟩, decodeRam_ok_iff.mpr leaves, ramLayout, size⟩
  · intro accepted
    obtain ⟨nonempty, other, ram, cpu, compatible, accepts⟩ := accepted
    obtain rfl := Except.ok.inj (document.symm.trans compatible.document)
    obtain ⟨uuid, carries⟩ := (cpuAccepts_iff redumps).mp accepts
    obtain ⟨registers, pc, sp⟩ := carries_iff.mp ⟨cpu, carries⟩
    obtain ⟨metadata, layout, hash⟩ := compatible.rom
    obtain rfl := Except.ok.inj (romLayout.symm.trans layout)
    exact ⟨nonempty, compatible.identified, (digest_ok_iff "uuid").mp compatible.controller, (digest_ok_iff "rom").mp hash,
      ⟨ram, decodeRam_ok_iff.mp compatible.decoded, compatible.size⟩, uuid, registers, pc, sp⟩

/-- A document that passes the checks replaces the registers, or runs off the end of its ram. -/
theorem refused_iff (steady : Steady memory read write) (redumps : Redumps lib json) (document : parse lib text = .ok json)
    (romLayout : opt.rom = .ok romMetadata) (ramLayout : opt.ram = .ok ramMetadata) :
    Refused lib build opt memory text s ↔ ¬ Passes lib build memory.uuid
      (read s.world) romMetadata ramMetadata text json := by
  constructor
  · intro refused passes
    obtain ⟨value, isA⟩ := getUint_ok_iff.mpr (passes.registers "a" (by simp [registerNames]))
    rw [← jsonRegister_eq] at isA
    -- The load leaves `value` in `a`, so it must have been there before.
    have before := refused { s.cpu with a := value + 1 }
    obtain ⟨nonempty, other, ram, cpu, compatible, accepts⟩ :=
      (passes_iff { s.cpu with a := value + 1 } redumps document romLayout ramLayout).mp passes
    obtain rfl := Except.ok.inj (document.symm.trans compatible.document)
    obtain ⟨-, carries, -⟩ := (cpuAccepts_iff redumps).mp accepts
    have same : value = cpu.a := Except.ok.inj (isA.symm.trans carries.a)
    by_cases bounded : (ramMetadata.map fun rm => rm.2.toNat).sum < 2 ^ 31
    · have loaded :=
        load_accepted (s := { s with cpu := { s.cpu with a := value + 1 } }) steady nonempty compatible accepts bounded
      have after := (EStateM.Result.ok.inj (loaded.symm.trans before)).2
      have kept : cpu.a = value + 1 := congrArg (fun s => s.cpu.a) after
      rw [← same] at kept
      exact absurd kept (by bv_omega)
    · obtain ⟨stopped, overrun⟩ := load_overrun
        (s := { s with cpu := { s.cpu with a := value + 1 } }) steady nonempty compatible accepts
        (Nat.le_of_not_lt bounded)
      rw [overrun] at before
      cases before
  · intro fails cpu
    apply load_refused steady romLayout ramLayout
    by_cases empty : text = ""
    · exact .inl empty
    · refine .inr fun accepted => fails ?_
      exact (passes_iff cpu redumps document romLayout ramLayout).mpr ⟨empty, accepted⟩

/-- A document that no save can write is refused, just when it is not such a document or one of the checks fails. -/
theorem malformed_refused_iff (steady : Steady memory read write) (redumps : Redumps lib json)
    (document : parse lib text = .ok json)
    (romLayout : opt.rom = .ok romMetadata) (ramLayout : opt.ram = .ok ramMetadata) :
    (¬ WellFormed json → Refused lib build opt memory text s) ↔
      WellFormed json ∨ ¬ Passes lib build memory.uuid (read s.world) romMetadata ramMetadata text json := by
  rw [refused_iff steady redumps document romLayout ramLayout]
  exact Classical.or_iff_not_imp_left.symm

end Loads

section Fields

/-- A document for a machine without ram and rom, with a value for the register `a`. -/
def fieldDocument (a : Json) : Json :=
  .object [("cpu", .object [("pc", .integer 0), ("registers", .object [("a", a), ("b", .integer 0), ("c", .integer 0),
      ("d", .integer 0), ("e", .integer 0), ("h", .integer 0), ("l", .integer 0), ("s", .integer 2)]),
      ("sp", .integer 0), ("uuid", .string "O+hPH516S3ClRdnzSRL8rQ==")]),
    ("memory", .object
      [("ram", .object [("bytes", .string ""), ("compressor", .string "none"), ("encoder", .string "base64"),
      ("size", .integer 0)]), ("rom", .string "1B2M2Y8AsgTpgAmY7PhCfg=="), ("uuid", .string "EREREREREREREREREREREQ==")])]

def fieldLibraries (json : Json) : Libraries :=
  { zeroLibraries 256 with
    parse := fun text => if text = "state" then some json else some (member json "cpu")
    dump := fun _ => "cpu" }

def loadField (a : Json) (s : System (PlainRam.Ram Unit)) : EStateM.Result Fault (System (PlainRam.Ram Unit)) Unit :=
  loadMachineState (fieldLibraries (fieldDocument a)) ⟨true, false⟩ (Opt.init ⟨true, false⟩)
    (PlainRam.ramController sampleUuid) "state" s

def emptied : System (PlainRam.Ram Unit) := ⟨{}, {}, fun _ => 0, ()⟩

theorem field_malformed {a : Json} (other : ∀ n, a = .integer n → 255 < n) : ¬ WellFormed (fieldDocument a) := by
  intro formed
  obtain ⟨n, same, -, small⟩ := formed.registers "a" (by simp [registerNames])
  have large := other n same
  omega

/-- The register takes the value modulo 256. -/
theorem wide_register_accepted :
    ¬ WellFormed (fieldDocument (.integer 300)) ∧
      (∃ after, loadField (.integer 300) emptied = .ok () after ∧ after.cpu.a = 44) ∧
      ¬ (¬ WellFormed (fieldDocument (.integer 300)) → Refused (fieldLibraries (fieldDocument (.integer 300))) ⟨true, false⟩
        (Opt.init ⟨true, false⟩) (PlainRam.ramController sampleUuid) "state" emptied) := by
  have malformed : ¬ WellFormed (fieldDocument (.integer 300)) := field_malformed fun n same => by cases same; decide
  have loaded : ∃ after, loadField (.integer 300) emptied = .ok () after ∧ after.cpu.a = 44 :=
    ⟨_, by with_unfolding_all rfl, by with_unfolding_all rfl⟩
  refine ⟨malformed, loaded, fun holds => ?_⟩
  obtain ⟨after, ran, value⟩ := loaded
  have unchanged : loadField (.integer 300) emptied = .ok () emptied := holds malformed {}
  obtain rfl := (EStateM.Result.ok.inj (ran.symm.trans unchanged)).2
  exact absurd value (by decide)

theorem malformed_refused_text : Refused (fieldLibraries (fieldDocument (.string "7"))) ⟨true, false⟩
    (Opt.init ⟨true, false⟩) (PlainRam.ramController (δ := Unit) sampleUuid) "state" emptied := by
  have malformed : ¬ WellFormed (fieldDocument (.string "7")) := field_malformed fun n same => by cases same
  refine (malformed_refused_iff (ram_steady sampleUuid) (by with_unfolding_all rfl) (by with_unfolding_all rfl)
    (by rfl : (Opt.init ⟨true, false⟩).rom = .ok [(0, 0)])
    (by rfl : (Opt.init ⟨true, false⟩).ram = .ok [(0, 0)])).mpr (.inr ?_) malformed
  intro passes
  have converts : arithmetic (.string "7") = true := passes.registers "a" (by simp [registerNames])
  cases converts

end Fields
end MachEmu.Proofs.Documents
