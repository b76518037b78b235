import MachEmu.Proofs.Gather

/-! What the checks of a load establish. They read the memory and the document
but change nothing, and whatever they throw is an exception the load catches. -/

namespace MachEmu.Proofs.StateChecks
open ErrorState Gather

/-- What `catch (const std::exception&)` catches. -/
def IsException (fault : Fault) : Prop := ∃ what, fault = .exception what

abbrev Throws {α : Type} (e : Except Fault α) : Prop := OnlyThrows IsException e

section Getters
variable {α : Type} (json : Json) (key : String)

theorem throws_exception (what : String) : Throws (.error (.exception what) : Except Fault α) :=
  OnlyThrows.error ⟨what, rfl⟩

theorem throws_typeError : Throws (Json.typeError : Except Fault α) := throws_exception "type_error"

theorem throws_index : Throws (json.index key) := by
  cases json <;> first | exact OnlyThrows.ok _ | exact throws_typeError

theorem throws_getString : Throws json.getString := by
  cases json <;> first | exact OnlyThrows.ok _ | exact throws_typeError

theorem throws_getUint (width : Nat) : Throws (json.getUint width) := by
  cases json <;> first | exact OnlyThrows.ok _ | exact throws_typeError

end Getters

section Conversions
variable (lib : Libraries) (build : Build)

theorem throws_parse (text : String) : Throws (parse lib text) := by
  unfold parse
  split
  · exact OnlyThrows.ok _
  · exact throws_exception _

theorem throws_txtToBin (decoder decompressor : String) (size : BitVec 32) (text : String) :
    Throws (Utils.txtToBin lib build decoder decompressor size text) := by
  unfold Utils.txtToBin
  dsimp only
  split
  · exact throws_exception _
  · split
    · split
      · split
        · exact OnlyThrows.ok _
        · exact throws_exception _
      · exact throws_exception _
    · exact OnlyThrows.ok _

theorem throws_digest (json : Json) (name : String) : Throws (Machine.digest lib build json name) :=
  (throws_index json "memory").bind fun memory => (throws_index memory name).bind fun field =>
    (throws_getString field).bind fun text => throws_txtToBin lib build _ _ _ text

theorem throws_decodeRam (json : Json) : Throws (Machine.decodeRam lib build json) := by
  refine (throws_index json "memory").bind fun memory => (throws_index memory "ram").bind fun ram => ?_
  refine (throws_index ram _).bind fun field => (throws_getString field).bind fun encoder => ?_
  refine (throws_index ram _).bind fun field => (throws_getString field).bind fun compressor => ?_
  refine (throws_index ram _).bind fun field => (throws_getUint field 32).bind fun size => ?_
  exact (throws_index ram _).bind fun field => (throws_getString field).bind fun text => throws_txtToBin lib build _ _ _ _

theorem throws_jsonRegister (json : Json) (name : String) : Throws (Intel8080.jsonRegister json name) :=
  (throws_index json "registers").bind fun registers => (throws_index registers name).bind fun field =>
    throws_getUint field 8

theorem throws_copyOut (json : Json) (self : Intel8080) : Throws (self.copyOut json) := by
  unfold Intel8080.copyOut
  iterate 8 refine (throws_jsonRegister json _).bind fun _ => ?_
  refine (throws_index json _).bind fun field => (throws_getUint field 16).bind fun pc => ?_
  exact (throws_index json _).bind fun field => (throws_getUint field 16).bind fun sp => OnlyThrows.ok _

theorem throws_load (text : String) (self : Intel8080) : Throws (self.load lib build text) := by
  unfold Intel8080.load
  refine (throws_parse lib text).bind fun json => (throws_index json "uuid").bind fun field => ?_
  refine (throws_getString field).bind fun uuid => (throws_txtToBin lib build _ _ _ _).bind fun jsonUuid => ?_
  split
  · exact throws_exception _
  · exact throws_copyOut json self

end Conversions

structure Carries (json : Json) (cpu : Intel8080) : Prop where
  a : Intel8080.jsonRegister json "a" = .ok cpu.a
  b : Intel8080.jsonRegister json "b" = .ok cpu.b
  c : Intel8080.jsonRegister json "c" = .ok cpu.c
  d : Intel8080.jsonRegister json "d" = .ok cpu.d
  e : Intel8080.jsonRegister json "e" = .ok cpu.e
  h : Intel8080.jsonRegister json "h" = .ok cpu.h
  l : Intel8080.jsonRegister json "l" = .ok cpu.l
  status : Intel8080.jsonRegister json "s" = .ok cpu.status
  pc : (do (← json.index "pc").getUint 16) = .ok cpu.pc
  sp : (do (← json.index "sp").getUint 16) = .ok cpu.sp

variable {lib : Libraries} {build : Build} {opt : Opt} {ω : Type} {memory : IController ω}

theorem copyOut_ok_iff {json : Json} {self cpu : Intel8080} :
    self.copyOut json = .ok cpu ↔ Carries json cpu ∧ cpu.iff = self.iff ∧ cpu.opcode = self.opcode := by
  simp only [Intel8080.copyOut, except_bind_ok_iff]
  constructor
  · rintro ⟨a, ha, b, hb, c, hc, d, hd, e, he, h, hh, l, hl, s, hs, pc, hpc, v, hv, sp, hsp, w, hw, ⟨⟩⟩
    refine ⟨⟨ha, hb, hc, hd, he, hh, hl, hs, ?_, ?_⟩, rfl, rfl⟩
    · exact except_bind_ok_iff.mpr ⟨pc, hpc, hv⟩
    · exact except_bind_ok_iff.mpr ⟨sp, hsp, hw⟩
  · rintro ⟨carries, enabled, code⟩
    obtain ⟨pc, hpc, hv⟩ := except_bind_ok_iff.mp carries.pc
    obtain ⟨sp, hsp, hw⟩ := except_bind_ok_iff.mp carries.sp
    refine ⟨_, carries.a, _, carries.b, _, carries.c, _, carries.d, _, carries.e, _, carries.h, _, carries.l, _,
      carries.status, pc, hpc, _, hv, sp, hsp, _, hw, ?_⟩
    rw [← enabled, ← code]
    rfl

theorem load_ok_iff {text : String} {self cpu : Intel8080} :
    self.load lib build text = .ok cpu ↔
      ∃ json, parse lib text = .ok json ∧
        (do Utils.txtToBin lib build "base64" "none" 16 (← (← json.index "uuid").getString)) = .ok Intel8080.uuid ∧
        Carries json cpu ∧ cpu.iff = self.iff ∧ cpu.opcode = self.opcode := by
  simp only [Intel8080.load, except_bind_ok_iff, except_guard_ok_iff, copyOut_ok_iff, not_not]
  constructor
  · rintro ⟨json, parsed, field, found, uuid, text, jsonUuid, decoded, rfl, rest⟩
    exact ⟨json, parsed, ⟨field, found, uuid, text, decoded⟩, rest⟩
  · rintro ⟨json, parsed, ⟨field, found, uuid, text, decoded⟩, rest⟩
    exact ⟨json, parsed, field, found, uuid, text, _, decoded, rfl, rest⟩

/-- The text fits a machine that reads `content`: the document, the decoded ram, and the layout it goes to. -/
structure Compatible (lib : Libraries) (build : Build) (opt : Opt) (uuid : Uuid) (content : Word → Byte) (str : String)
    (json : Json) (ram : List Byte) (ramMetadata : List Block) : Prop where
  identified : uuid ≠ Vector.replicate 16 0
  document : parse lib str = .ok json
  controller : Machine.digest lib build json "uuid" = .ok uuid.toList
  rom : ∃ romMetadata, opt.rom = .ok romMetadata ∧
    Machine.digest lib build json "rom" = .ok (Utils.md5 lib ((addresses romMetadata).map content))
  decoded : Machine.decodeRam lib build json = .ok ram
  layout : opt.ram = .ok ramMetadata
  size : (ram.length : Int) = (Machine.ramSize ramMetadata).toInt

section Checks
variable {w : ω} {content : Word → Byte}

theorem checkState_ok_iff (reads : Reads memory w content) {str : String} {json : Json} {ram : List Byte}
    {ramMetadata : List Block} {after : ω} :
    Machine.checkState lib build opt memory str w = .ok (json, ram, ramMetadata) after ↔
      Compatible lib build opt memory.uuid content str json ram ramMetadata ∧ after = w := by
  simp only [Machine.checkState, bind_ok_iff, guard_ok_iff, ofExcept_ok_iff, not_not]
  constructor
  · rintro ⟨identified, json, _, ⟨document, rfl⟩, uuid, _, ⟨controller, rfl⟩, rfl, romMetadata, _, ⟨layout, rfl⟩,
      rom, _, read, hash, _, ⟨digest, rfl⟩, rfl, ram, _, ⟨decoded, rfl⟩, ramMetadata, _, ⟨ramLayout, rfl⟩, size, ⟨⟩⟩
    rw [readRom_reads reads] at read
    cases read
    exact ⟨⟨identified, document, controller, ⟨romMetadata, layout, digest⟩, decoded, ramLayout, size⟩, rfl⟩
  · rintro ⟨⟨identified, document, controller, ⟨romMetadata, layout, digest⟩, decoded, ramLayout, size⟩, rfl⟩
    exact ⟨identified, json, _, ⟨document, rfl⟩, _, _, ⟨controller, rfl⟩, rfl, romMetadata, _, ⟨layout, rfl⟩,
      _, _, readRom_reads reads romMetadata, _, _, ⟨digest, rfl⟩, rfl, ram, _, ⟨decoded, rfl⟩, ramMetadata, _,
      ⟨ramLayout, rfl⟩, size, rfl⟩

/-- Whatever the text is, the checks leave the world alone and throw at most an exception. -/
theorem checkState_neutral (reads : Reads memory w content) {romMetadata ramMetadata : List Block}
    (romLayout : opt.rom = .ok romMetadata) (ramLayout : opt.ram = .ok ramMetadata) (str : String) :
    Neutral IsException (Machine.checkState lib build opt memory str) w := by
  have refused (what : String) {α β : Type} (rest : α → EStateM Fault ω β) :
      Neutral IsException ((throw (.exception what) : EStateM Fault ω α) >>= rest) w := ⟨⟨what, rfl⟩, rfl⟩
  unfold Machine.checkState
  split
  · exact refused _ _
  refine (Neutral.ofExcept (throws_parse lib str)).bind fun json => ?_
  refine (Neutral.ofExcept (throws_digest lib build json "uuid")).bind fun jsonUuid => ?_
  split
  · exact refused _ _
  rw [romLayout, ramLayout]
  refine (Neutral.pure romMetadata).bind fun romMetadata => ?_
  refine (Neutral.of_run (readRom_reads reads romMetadata)).bind fun rom => ?_
  refine (Neutral.ofExcept (throws_digest lib build json "rom")).bind fun jsonMd5 => ?_
  split
  · exact refused _ _
  refine (Neutral.ofExcept (throws_decodeRam lib build json)).bind fun ram => ?_
  refine (Neutral.pure ramMetadata).bind fun ramMetadata => ?_
  split
  · exact refused _ _
  · exact Neutral.pure _

end Checks
end MachEmu.Proofs.StateChecks
