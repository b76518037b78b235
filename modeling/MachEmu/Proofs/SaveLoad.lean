import MachEmu.Proofs.LoadState
import Mathlib.Data.List.TakeWhile
import Mathlib.Data.Nat.Digits.Defs

/-! A text produced by a save loads into a machine with the same layout and rom,
and restores the registers and the ram blocks as they were at the save. -/

namespace MachEmu.Proofs.SaveLoad
open ErrorState Gather StateChecks LoadState Codec Machine

variable {ω : Type} {lib : Libraries} {build : Build} {opt : Opt} {memory : IController ω} {w : ω}
  {content : Word → Byte} {cpu : Intel8080} {rom ram : List Byte} {text : String}

/-- The document that the cpu's text spells. -/
def cpuDocument (uuid : String) (cpu : Intel8080) : Json :=
  .object [("pc", .integer cpu.pc.toNat),
    ("registers", .object [("a", .integer cpu.a.toNat), ("b", .integer cpu.b.toNat), ("c", .integer cpu.c.toNat),
      ("d", .integer cpu.d.toNat), ("e", .integer cpu.e.toNat), ("h", .integer cpu.h.toNat),
      ("l", .integer cpu.l.toNat), ("s", .integer cpu.status.toNat)]),
    ("sp", .integer cpu.sp.toNat), ("uuid", .string uuid)]

def document (cpu : Json) (uuid rom encoder compressor : String) (size : Int) (bytes : String) : Json :=
  .object [("cpu", cpu), ("memory", .object [("ram", .object [("bytes", .string bytes),
    ("compressor", .string compressor), ("encoder", .string encoder), ("size", .integer size)]),
    ("rom", .string rom), ("uuid", .string uuid)])]

/-- The pieces of text that a save puts together. -/
structure Pieces where
  cpuUuid : String
  memUuid : String
  romMd5 : String
  encoder : String
  compressor : String
  bytes : String

namespace Pieces

def cpuDocument (pieces : Pieces) (cpu : Intel8080) : Json := SaveLoad.cpuDocument (cStr pieces.cpuUuid) cpu

def document (pieces : Pieces) (cpu : Intel8080) (ram : List Byte) : Json :=
  SaveLoad.document (pieces.cpuDocument cpu) (cStr pieces.memUuid) (cStr pieces.romMd5) (cStr pieces.encoder)
    (cStr pieces.compressor) (BitVec.ofNat 32 ram.length).toInt (cStr pieces.bytes)

def printed (pieces : Pieces) (cpu : Intel8080) (ram : List Byte) : String :=
  Machine.print (Intel8080.print (cStr pieces.cpuUuid) cpu) (cStr pieces.memUuid) (cStr pieces.romMd5)
    (cStr pieces.encoder) (cStr pieces.compressor) (BitVec.ofNat 32 ram.length).toInt (cStr pieces.bytes)

/-- The pieces are what the codec makes of the machine under its options. -/
structure Of (pieces : Pieces) (lib : Libraries) (build : Build) (opt : Opt) (uuid : Uuid) (rom ram : List Byte) :
    Prop where
  cpuUuid : Utils.binToTxt lib build "base64" "none" Intel8080.uuid = .ok pieces.cpuUuid
  memUuid : Utils.binToTxt lib build "base64" "none" uuid.toList = .ok pieces.memUuid
  romMd5 : Utils.binToTxt lib build "base64" "none" (Utils.md5 lib rom) = .ok pieces.romMd5
  encoder : opt.encoder = .ok pieces.encoder
  compressor : opt.compressor = .ok pieces.compressor
  bytes : Utils.binToTxt lib build pieces.encoder pieces.compressor ram = .ok pieces.bytes

end Pieces

section Terminator

/-- A text that a C string holds whole. -/
def Printable (text : String) : Prop := Char.ofNat 0 ∉ text.toList

theorem printable_cStr (text : String) : Printable (cStr text) := by
  intro member
  rw [cStr, String.toList_ofList] at member
  have kept := List.mem_takeWhile_imp member
  simp at kept

theorem printable_append {before after : String} (first : Printable before) (second : Printable after) :
    Printable (before ++ after) := by
  intro member
  rw [String.toList_append] at member
  exact (List.mem_append.mp member).elim first second

theorem printable_digits (n : Nat) : Printable (toString n) := by
  intro member
  rw [Nat.toString_eq_repr, Nat.toList_repr] at member
  have digit := Nat.isDigit_of_mem_toDigits (by decide) (by decide) member
  exact absurd digit (by decide)

theorem printable_cpu (uuid : String) (cpu : Intel8080) : Printable (Intel8080.print (cStr uuid) cpu) := by
  unfold Intel8080.print
  repeat' with_reducible apply printable_append
  all_goals first
    | with_reducible exact printable_cStr _
    | with_reducible exact printable_digits _
    | (rw [Printable]; decide)

/-- Passing the string on by `c_str()` drops the terminator again. -/
theorem cStr_push {text : String} (printable : Printable text) : cStr (text.push (Char.ofNat 0)) = text := by
  have kept : ∀ c ∈ text.toList, (c != Char.ofNat 0) = true := fun c member =>
    bne_iff_ne.mpr fun same => printable (same ▸ member)
  rw [cStr, String.toList_push, List.takeWhile_append_of_pos kept]
  simp

end Terminator

theorem format_ok_iff : format lib build opt memory cpu rom ram = .ok text ↔
    ∃ pieces : Pieces, pieces.Of lib build opt memory.uuid rom ram ∧ text = pieces.printed cpu ram := by
  simp only [format, Intel8080.save, except_bind_ok_iff, except_pure_ok_iff]
  constructor
  · rintro ⟨_, ⟨u, cpuUuid, rfl⟩, m, memUuid, r, romMd5, e, encoder, c, compressor, b, bytes, rfl⟩
    refine ⟨⟨u, m, r, e, c, b⟩, ⟨cpuUuid, memUuid, romMd5, encoder, compressor, bytes⟩, ?_⟩
    rw [cStr_push (printable_cpu u cpu), Pieces.printed]
  · rintro ⟨pieces, of, rfl⟩
    refine ⟨_, ⟨_, of.cpuUuid, rfl⟩, _, of.memUuid, _, of.romMd5, _, of.encoder, _, of.compressor, _, of.bytes, ?_⟩
    rw [cStr_push (printable_cpu pieces.cpuUuid cpu), Pieces.printed]

theorem rm_run (reads : Reads memory w content) (metadata : List Block) : Run.rm memory loopFuel metadata w =
    .ok (if AllFit metadata then some ((addresses metadata).map content) else none) w := by
  split
  next fits => simpa [Run.rm] using gather_ends reads metadata [] fits loopFuel (by decide)
  next wraps => exact gather_stuck reads metadata [] (by simpa [AllFit] using wraps) loopFuel

theorem saveState_run (reads : Reads memory w content) {romMetadata ramMetadata : List Block}
    (romLayout : opt.rom = .ok romMetadata) (ramLayout : opt.ram = .ok ramMetadata) :
    saveState lib build opt memory cpu w =
      if memory.uuid = Vector.replicate 16 0 then
        .error (.exception "Invalid memory controller uuid for save interrupt") w
      else if AllFit (ramMetadata ++ romMetadata) then
        match writeState lib build opt memory cpu ((addresses romMetadata).map content)
          ((addresses ramMetadata).map content) with
        | .ok text => .ok (some text) w
        | .error fault => .error fault w
      else .ok none w := by
  unfold saveState
  by_cases unidentified : memory.uuid = Vector.replicate 16 0
  · rw [if_pos unidentified, if_pos unidentified]
    exact bind_error rfl
  rw [if_neg unidentified, if_neg unidentified, ramLayout, romLayout]
  dsimp only
  rw [bind_ok (ofExcept_ok _ _), bind_ok (rm_run reads ramMetadata)]
  by_cases ramFits : AllFit ramMetadata
  · rw [if_pos ramFits]
    dsimp only
    rw [bind_ok (ofExcept_ok _ _), bind_ok (rm_run reads romMetadata)]
    by_cases romFits : AllFit romMetadata
    · have fits : AllFit (ramMetadata ++ romMetadata) := fun m member =>
        (List.mem_append.mp member).elim (ramFits m) (romFits m)
      rw [if_pos romFits, if_pos fits]
      dsimp only
      cases writeState lib build opt memory cpu ((addresses romMetadata).map content)
        ((addresses ramMetadata).map content) with
      | ok text => rfl
      | error fault => exact bind_error rfl
    · rw [if_neg romFits, if_neg fun fits => romFits fun m member => fits m (List.mem_append_right _ member)]
      rfl
  · rw [if_neg ramFits, if_neg fun fits => ramFits fun m member => fits m (List.mem_append_left _ member)]
    rfl

theorem saveState_ok (reads : Reads memory w content) {romMetadata ramMetadata : List Block}
    (romLayout : opt.rom = .ok romMetadata) (ramLayout : opt.ram = .ok ramMetadata) {after : ω}
    (saved : saveState lib build opt memory cpu w = .ok (some text) after) :
    memory.uuid ≠ Vector.replicate 16 0 ∧ after = w ∧
      writeState lib build opt memory cpu ((addresses romMetadata).map content) ((addresses ramMetadata).map content) =
        .ok text := by
  rw [saveState_run reads romLayout ramLayout] at saved
  split at saved
  next => cases saved
  next identified =>
    split at saved
    next =>
      split at saved
      next text written =>
        cases saved
        exact ⟨identified, rfl, written⟩
      next => cases saved
    next => cases saved

section Length

/-- The documented sizes of what the encoder and the compressor produce. -/
structure Sizes (lib : Libraries) : Prop where
  encode : ∀ src, (lib.base64Encode src).length = 4 * ((src.length + 2) / 3)
  compress : ∀ bin dst, lib.compress (lib.compressBound bin.length) bin = some dst →
    dst.length ≤ bin.length + bin.length / 1000 + 13

theorem length_cStr (text : String) : (cStr text).length ≤ text.length := by
  rw [cStr, String.length_ofList, ← String.length_toList]
  exact (List.takeWhile_sublist _).length_le

theorem length_encode (src : List Byte) : (Utils.encode lib src).length = (lib.base64Encode src).length := by
  rw [Utils.encode, String.length_ofList, List.length_append, List.length_take, List.length_replicate,
    String.length_toList]
  omega

theorem length_clip_le (bin : List Byte) : (Utils.clip bin).length ≤ bin.length := by
  rw [Utils.clip, List.length_take]
  exact Nat.min_le_right _ _

/-- The encoder is the only one there is, and the compressor one of two. -/
theorem binToTxt_settings {encoder compressor : String} {bin : List Byte} {txt : String}
    (written : Utils.binToTxt lib build encoder compressor bin = .ok txt) :
    encoder = "base64" ∧ (compressor = "none" ∨ compressor = "zlib") := by
  unfold Utils.binToTxt at written
  dsimp only at written
  split at written
  next => cases written
  next encodes =>
    refine ⟨Decidable.not_not.mp encodes, ?_⟩
    split at written
    next =>
      split at written
      next zlib => exact .inr zlib.2
      next => cases written
    next none => exact .inl (Decidable.not_not.mp none)

theorem length_binToTxt (sizes : Sizes lib) {encoder compressor : String} {bin : List Byte} {txt : String}
    (written : Utils.binToTxt lib build encoder compressor bin = .ok txt) :
    txt.length ≤ 4 * ((bin.length + bin.length / 1000 + 15) / 3) := by
  have short := length_clip_le bin
  unfold Utils.binToTxt at written
  dsimp only at written
  split at written
  next => cases written
  next =>
    split at written
    next =>
      split at written
      next =>
        split at written
        next dst compressed =>
          obtain rfl := Except.ok.inj written
          have bound := sizes.compress _ _ compressed
          have length := (length_encode dst).trans (sizes.encode dst)
          omega
        next => cases written
      next => cases written
    next =>
      obtain rfl := Except.ok.inj written
      have length := (length_encode (Utils.clip bin)).trans (sizes.encode (Utils.clip bin))
      omega

theorem length_append_le {before after : String} {m n : Nat} (first : before.length ≤ m) (second : after.length ≤ n) :
    (before ++ after).length ≤ m + n := by
  rw [String.length_append]
  exact Nat.add_le_add first second

theorem length_byte (value : Byte) : (toString value.toNat).length ≤ 3 :=
  Nat.repr_length value.toNat 3 (by decide) (Nat.lt_trans value.isLt (by decide))

theorem length_word (value : Word) : (toString value.toNat).length ≤ 5 :=
  Nat.repr_length value.toNat 5 (by decide) (Nat.lt_trans value.isLt (by decide))

theorem length_cpu_print (uuid : String) (cpu : Intel8080) : (Intel8080.print uuid cpu).length ≤ uuid.length + 200 := by
  have pieces : (Intel8080.print uuid cpu).length ≤ 9 + uuid.length + 20 + 3 + 5 + 3 + 5 + 3 + 5 + 3 + 5 + 3 + 5 + 3 +
      5 + 3 + 5 + 3 + 7 + 5 + 6 + 5 + 1 := by
    unfold Intel8080.print
    repeat' with_reducible apply length_append_le
    all_goals first | with_reducible exact length_byte _ | with_reducible exact length_word _ | rfl | decide
  omega

theorem cStr_settings {encoder compressor : String} {bin : List Byte} {txt : String}
    (written : Utils.binToTxt lib build encoder compressor bin = .ok txt) :
    cStr encoder = encoder ∧ cStr compressor = compressor ∧ encoder.length ≤ 6 ∧ compressor.length ≤ 4 := by
  obtain ⟨rfl, rfl | rfl⟩ := binToTxt_settings written <;> decide

theorem toInt_length (small : ram.length < 2 ^ 30) : (BitVec.ofNat 32 ram.length).toInt = ram.length := by
  rw [BitVec.toInt_eq_toNat_cond, BitVec.toNat_ofNat, Nat.mod_eq_of_lt (by omega), if_pos (by omega)]

theorem length_printed (sizes : Sizes lib) {pieces : Pieces} (of : pieces.Of lib build opt memory.uuid rom ram)
    (small : ram.length < 2 ^ 30) : (pieces.printed cpu ram).length + 1 < 2 ^ 31 := by
  have cpuUuid := length_binToTxt sizes of.cpuUuid
  have memUuid := length_binToTxt sizes of.memUuid
  have romMd5 := length_binToTxt sizes of.romMd5
  have bytes := length_binToTxt sizes of.bytes
  have hash : (Utils.md5 lib rom).length = 16 := by simp [Utils.md5]
  obtain ⟨-, -, encoder, compressor⟩ := cStr_settings of.bytes
  have size : (toString (BitVec.ofNat 32 ram.length).toInt).length ≤ 10 := by
    rw [toInt_length small]
    exact Nat.repr_length ram.length 10 (by decide) (by omega)
  have cpuText : (Intel8080.print (cStr pieces.cpuUuid) cpu).length ≤ pieces.cpuUuid.length + 200 :=
    Nat.le_trans (length_cpu_print _ _) (Nat.add_le_add_right (length_cStr _) 200)
  have whole : (pieces.printed cpu ram).length ≤ 7 + (pieces.cpuUuid.length + 200) + 20 + pieces.memUuid.length + 9 +
      pieces.romMd5.length + 20 + pieces.encoder.length + 16 + pieces.compressor.length + 9 + 10 + 10 +
      pieces.bytes.length + 4 := by
    unfold Pieces.printed Machine.print
    repeat' with_reducible apply length_append_le
    all_goals first
      | with_reducible exact length_cStr _
      | with_reducible exact cpuText
      | with_reducible exact size
      | decide
  rw [hash] at romMd5
  rw [Vector.length_toList] at memUuid
  have cpuLength : Intel8080.uuid.length = 16 := rfl
  rw [cpuLength] at cpuUuid
  omega

end Length

theorem length_append_right (before after : String) : after.length ≤ (before ++ after).length := by
  rw [String.length_append]
  exact Nat.le_add_left after.length before.length

theorem printed_ne_empty (pieces : Pieces) (cpu : Intel8080) (ram : List Byte) : pieces.printed cpu ram ≠ "" := by
  intro empty
  have closing : "\"\x7d\x7d\x7d".length ≤ (pieces.printed cpu ram).length := length_append_right _ _
  rw [empty] at closing
  exact absurd closing (by decide)

theorem writeState_printed (written : writeState lib build opt memory cpu rom ram = .ok text) (nonempty : text ≠ "") :
    ∃ pieces : Pieces, pieces.Of lib build opt memory.uuid rom ram ∧ text = pieces.printed cpu ram := by
  obtain ⟨formatted, format, printed⟩ := except_bind_ok_iff.mp written
  obtain ⟨pieces, of, rfl⟩ := format_ok_iff.mp format
  refine ⟨pieces, of, ?_⟩
  unfold snprintf at printed
  split at printed
  next => exact (Except.ok.inj printed).symm
  next =>
    split at printed
    next => cases printed
    next => exact absurd (Except.ok.inj printed).symm nonempty

theorem writeState_nonempty (sizes : Sizes lib) (small : ram.length < 2 ^ 30)
    (written : writeState lib build opt memory cpu rom ram = .ok text) : text ≠ "" := by
  obtain ⟨formatted, format, printed⟩ := except_bind_ok_iff.mp written
  obtain ⟨pieces, of, rfl⟩ := format_ok_iff.mp format
  rw [snprintf, if_pos (length_printed sizes of small)] at printed
  obtain rfl := Except.ok.inj printed
  exact printed_ne_empty pieces cpu ram

section Restore

/-- `TxtToBin` undoes `BinToTxt` on these bytes, by way of the C string that is printed. -/
def Undoes (lib : Libraries) (build : Build) (encoder compressor : String) (bin : List Byte) : Prop :=
  ∀ txt, Utils.binToTxt lib build encoder compressor bin = .ok txt →
    Utils.txtToBin lib build encoder compressor (BitVec.ofNat 32 bin.length) (cStr txt) = .ok bin

/-- What a save and the load of its text rely on: the JSON library reads back the
text that was printed and the cpu document it dumps, and the codec is undone on
the four byte sequences in the text. -/
structure Contract (lib : Libraries) (build : Build) (opt : Opt) (uuid : Uuid) (cpu : Intel8080) (rom ram : List Byte) :
    Prop where
  sizes : Sizes lib
  state : ∀ pieces : Pieces, pieces.Of lib build opt uuid rom ram →
    parse lib (pieces.printed cpu ram) = .ok (pieces.document cpu ram)
  cpu : ∀ pieces : Pieces, pieces.Of lib build opt uuid rom ram →
    parse lib (lib.dump (pieces.cpuDocument cpu)) = .ok (pieces.cpuDocument cpu)
  cpuUuid : Undoes lib build "base64" "none" Intel8080.uuid
  memUuid : Undoes lib build "base64" "none" uuid.toList
  romMd5 : Undoes lib build "base64" "none" (Utils.md5 lib rom)
  ram : ∀ encoder compressor, opt.encoder = .ok encoder → opt.compressor = .ok compressor →
    Undoes lib build encoder compressor ram

theorem Pieces.Of.change {pieces : Pieces} {uuid : Uuid} (of : pieces.Of lib build opt uuid rom ram) {other : Opt}
    (encoder : other.encoder = opt.encoder) (compressor : other.compressor = opt.compressor)
    (parser : String → Option Json) : pieces.Of { lib with parse := parser } build other uuid rom ram :=
  ⟨of.cpuUuid, of.memUuid, of.romMd5, encoder ▸ of.encoder, compressor ▸ of.compressor, of.bytes⟩

/-- Of the options it matters how they encode and compress, and of the parser what it makes of these texts. -/
theorem Contract.change {uuid : Uuid} (contract : Contract lib build opt uuid cpu rom ram) {other : Opt}
    (encoder : other.encoder = opt.encoder) (compressor : other.compressor = opt.compressor) {parser : String → Option Json}
    (state : ∀ pieces : Pieces, pieces.Of lib build opt uuid rom ram →
      parser (pieces.printed cpu ram) = lib.parse (pieces.printed cpu ram))
    (cpuState : ∀ pieces : Pieces, pieces.Of lib build opt uuid rom ram →
      parser (lib.dump (pieces.cpuDocument cpu)) = lib.parse (lib.dump (pieces.cpuDocument cpu))) :
    Contract { lib with parse := parser } build other uuid cpu rom ram := by
  have same {pieces : Pieces} (of : pieces.Of { lib with parse := parser } build other uuid rom ram) :
      pieces.Of lib build opt uuid rom ram := of.change encoder.symm compressor.symm lib.parse
  refine ⟨⟨contract.sizes.encode, contract.sizes.compress⟩, ?_, ?_, contract.cpuUuid, contract.memUuid, contract.romMd5, ?_⟩
  · intro pieces of
    have read := contract.state pieces (same of)
    rw [parse, ← state pieces (same of)] at read
    exact read
  · intro pieces of
    have read := contract.cpu pieces (same of)
    rw [parse, ← cpuState pieces (same of)] at read
    exact read
  · intro e c found chosen
    exact contract.ram e c (encoder ▸ found) (compressor ▸ chosen)

theorem ofInt_toNat {width : Nat} (value : BitVec width) : BitVec.ofInt width value.toNat = value := by
  apply BitVec.eq_of_toNat_eq
  rw [BitVec.ofInt_natCast, BitVec.toNat_ofNat, Nat.mod_eq_of_lt value.isLt]

theorem cpuDocument_carries (uuid : String) (cpu : Intel8080) : Carries (cpuDocument uuid cpu) cpu where
  a := congrArg Except.ok (ofInt_toNat cpu.a)
  b := congrArg Except.ok (ofInt_toNat cpu.b)
  c := congrArg Except.ok (ofInt_toNat cpu.c)
  d := congrArg Except.ok (ofInt_toNat cpu.d)
  e := congrArg Except.ok (ofInt_toNat cpu.e)
  h := congrArg Except.ok (ofInt_toNat cpu.h)
  l := congrArg Except.ok (ofInt_toNat cpu.l)
  status := congrArg Except.ok (ofInt_toNat cpu.status)
  pc := congrArg Except.ok (ofInt_toNat cpu.pc)
  sp := congrArg Except.ok (ofInt_toNat cpu.sp)

variable {read : ω → Word → Byte} {write : Word → Byte → ω → ω} {loadOpt : Opt} {ramMetadata romMetadata : List Block}
  {s : System ω}

theorem pieces_compatible (contract : Contract lib build opt memory.uuid cpu rom ram) {pieces : Pieces}
    (of : pieces.Of lib build opt memory.uuid rom ram) (identified : memory.uuid ≠ Vector.replicate 16 0)
    (romLayout : loadOpt.rom = .ok romMetadata) (ramLayout : loadOpt.ram = .ok ramMetadata)
    (sameRom : (addresses romMetadata).map content = rom) (small : ram.length < 2 ^ 31)
    (length : (addresses ramMetadata).length = ram.length) :
    Compatible lib build loadOpt memory.uuid content (pieces.printed cpu ram)
    (pieces.document cpu ram) ram ramMetadata where
  identified := identified
  document := contract.state pieces of
  controller := by
    have undone := contract.memUuid pieces.memUuid of.memUuid
    rwa [Vector.length_toList] at undone
  rom := by
    refine ⟨romMetadata, romLayout, ?_⟩
    have undone := contract.romMd5 pieces.romMd5 of.romMd5
    have hash : (Utils.md5 lib rom).length = 16 := by simp [Utils.md5]
    rwa [hash, ← sameRom] at undone
  decoded := by
    obtain ⟨encoder, compressor, -, -⟩ := cStr_settings of.bytes
    have undone := contract.ram _ _ of.encoder of.compressor pieces.bytes of.bytes
    have size : BitVec.ofInt 32 (BitVec.ofNat 32 ram.length).toInt = BitVec.ofNat 32 ram.length := BitVec.ofInt_toInt
    rw [← size, ← encoder, ← compressor] at undone
    exact undone
  layout := ramLayout
  size := by
    rw [BitVec.toInt_eq_toNat_cond, toNat_ramSize, ← length_addresses, length, Nat.mod_eq_of_lt (by omega),
      if_pos (by omega)]

theorem pieces_accepted {pieces : Pieces} (self : Intel8080)
    (parsed : parse lib (lib.dump (pieces.cpuDocument cpu)) = .ok (pieces.cpuDocument cpu))
    (uuid : Utils.txtToBin lib build "base64" "none" 16 (cStr pieces.cpuUuid) = .ok Intel8080.uuid) :
    CpuAccepts lib build (pieces.document cpu ram) self { cpu with iff := self.iff, opcode := self.opcode } := by
  refine ⟨pieces.cpuDocument cpu, rfl, load_ok_iff.mpr ⟨_, parsed, uuid, ?_, rfl, rfl⟩⟩
  obtain ⟨a, b, c, d, e, h, l, status, pc, sp⟩ := cpuDocument_carries (cStr pieces.cpuUuid) cpu
  exact ⟨a, b, c, d, e, h, l, status, pc, sp⟩

/-- Loading the text of a save puts the saved registers and the saved ram into any machine of the same layout. -/
theorem loadMachineState_saved (steady : Steady memory read write)
    (contract : Contract lib build opt memory.uuid cpu rom ((addresses ramMetadata).map content))
    (identified : memory.uuid ≠ Vector.replicate 16 0)
    (written : writeState lib build opt memory cpu rom ((addresses ramMetadata).map content) = .ok text)
    (nonempty : text ≠ "") (romLayout : loadOpt.rom = .ok romMetadata) (ramLayout : loadOpt.ram = .ok ramMetadata)
    (sameRom : (addresses romMetadata).map (read s.world) = rom)
    (total : (ramMetadata.map fun rm => rm.2.toNat).sum < 2 ^ 31) :
    loadMachineState lib build loadOpt memory text s = .ok ()
      { s with
        cpu := { cpu with iff := s.cpu.iff, opcode := s.cpu.opcode }
        world := writeBack write ((addresses ramMetadata).map fun addr => (addr, content addr)) s.world } := by
  have small : ((addresses ramMetadata).map content).length < 2 ^ 31 := by
    rw [List.length_map, length_addresses]
    exact total
  obtain ⟨pieces, of, rfl⟩ := writeState_printed written nonempty
  have compatible := pieces_compatible contract of identified romLayout ramLayout sameRom small
      (List.length_map content).symm
  have accepted : CpuAccepts lib build (pieces.document cpu ((addresses ramMetadata).map content)) s.cpu
      { cpu with iff := s.cpu.iff, opcode := s.cpu.opcode } :=
    pieces_accepted s.cpu (contract.cpu pieces of) (contract.cpuUuid pieces.cpuUuid of.cpuUuid)
  rw [load_accepted steady nonempty compatible accepted total, Memory.zip_content]

/-- A save under a valid encoder setting and a layout below the top of memory returns the printed pieces. -/
theorem saveState_printed (reads : Reads memory w content) (identified : memory.uuid ≠ Vector.replicate 16 0)
    (romLayout : opt.rom = .ok romMetadata) (ramLayout : opt.ram = .ok ramMetadata)
    (fits : ∀ m ∈ ramMetadata ++ romMetadata, Block.Fits m) (sizes : Sizes lib)
    (total : (ramMetadata.map fun rm => rm.2.toNat).sum < 2 ^ 30) {pieces : Pieces}
    (of : pieces.Of lib build opt memory.uuid ((addresses romMetadata).map content) ((addresses ramMetadata).map content)) :
    saveState lib build opt memory cpu w = .ok (some (pieces.printed cpu ((addresses ramMetadata).map content))) w := by
  have small : ((addresses ramMetadata).map content).length < 2 ^ 30 := by
    rw [List.length_map, length_addresses]
    exact total
  have bounded : AllFit (ramMetadata ++ romMetadata) := fits
  have written : writeState lib build opt memory cpu ((addresses romMetadata).map content)
      ((addresses ramMetadata).map content) = .ok (pieces.printed cpu ((addresses ramMetadata).map content)) := by
    refine except_bind_ok_iff.mpr ⟨_, format_ok_iff.mpr ⟨pieces, of, rfl⟩, ?_⟩
    rw [snprintf, if_pos (length_printed sizes of small)]
  rw [saveState_run reads romLayout ramLayout, if_neg identified, if_pos bounded, written]

/-- Save, change the registers and the ram in any way, load: the registers and the
ram blocks are those of the save, and nothing else has been written. -/
theorem save_then_load (steady : Steady memory read write) (stores : Stores read write)
    (romLayout : opt.rom = .ok romMetadata) (ramLayout : opt.ram = .ok ramMetadata)
    (total : (ramMetadata.map fun rm => rm.2.toNat).sum < 2 ^ 30)
    (contract : Contract lib build opt memory.uuid cpu ((addresses romMetadata).map (read w))
      ((addresses ramMetadata).map (read w)))
    {after : ω} (saved : saveState lib build opt memory cpu w = .ok (some text) after)
    (sameRomLayout : loadOpt.rom = .ok romMetadata) (sameRamLayout : loadOpt.ram = .ok ramMetadata)
    (sameRom : ∀ addr ∈ addresses romMetadata, read s.world addr = read w addr) :
    ∃ loaded, loadMachineState lib build loadOpt memory text s = .ok () loaded ∧
      loaded.cpu = { s.cpu with
        a := cpu.a, b := cpu.b, c := cpu.c, d := cpu.d, e := cpu.e, h := cpu.h, l := cpu.l,
        status := cpu.status, pc := cpu.pc, sp := cpu.sp } ∧
      loaded.bus = s.bus ∧
      ∀ addr, read loaded.world addr = if addr ∈ addresses ramMetadata then read w addr else read s.world addr := by
  obtain ⟨identified, -, written⟩ := saveState_ok (steady.reads w) romLayout ramLayout saved
  have small : ((addresses ramMetadata).map (read w)).length < 2 ^ 30 := by
    rw [List.length_map, length_addresses]
    exact total
  have restored := loadMachineState_saved (s := s) steady contract identified written
    (writeState_nonempty contract.sizes small written) sameRomLayout sameRamLayout (List.map_congr_left sameRom) (by omega)
  refine ⟨_, restored, rfl, rfl, fun addr => ?_⟩
  rw [writeBack_reads stores]
  exact Memory.writeAll_restore (read s.world) (read w) (addresses ramMetadata) addr

end Restore

section Zeros
variable (n : Nat)

def zeroPieces : Pieces where
  cpuUuid := "O+hPH516S3ClRdnzSRL8rQ=="
  memUuid := "EREREREREREREREREREREQ=="
  romMd5 := "1B2M2Y8AsgTpgAmY7PhCfg=="
  encoder := "base64"
  compressor := "none"
  bytes := zeroText n

variable {n} {blocks : List Json}

theorem zeroLibraries_sizes : Sizes (zeroLibraries n) where
  encode := by
    intro src
    simp only [zeroLibraries]
    split
    next same => rw [same]; decide
    next =>
      split
      next same => rw [same]; decide
      next =>
        split
        next same => rw [same]; decide
        next => rw [String.length_ofList, List.length_replicate]
  compress := by
    intro bin dst impossible
    cases impossible

theorem encode_zeroRam (long : 250 ≤ n) : (zeroLibraries n).base64Encode (zeroRam n) = zeroText n := by
  have apart (bin : List Byte) (short : bin.length = 16) : zeroRam n ≠ bin := by
    rintro rfl
    rw [zeroRam, List.length_replicate] at short
    omega
  have length : 4 * (((zeroRam n).length + 2) / 3) = 4 * n := by
    rw [zeroRam, List.length_replicate]
    omega
  simp only [zeroLibraries]
  rw [if_neg (apart _ rfl), if_neg (apart _ rfl), if_neg (apart _ rfl), length, zeroText]

theorem cStr_zeroText : cStr (zeroText n) = zeroText n := by
  simp only [cStr, zeroText, String.toList_ofList]
  congr 1
  exact List.takeWhile_eq_self_iff.mpr fun c member => by
    rw [List.eq_of_mem_replicate member]
    rfl

theorem zero_encode :
    (zeroLibraries n).base64Encode Intel8080.uuid = "O+hPH516S3ClRdnzSRL8rQ==" ∧
    (zeroLibraries n).base64Encode sampleUuid.toList = "EREREREREREREREREREREQ==" ∧
    (zeroLibraries n).base64Encode emptyHash.toList = "1B2M2Y8AsgTpgAmY7PhCfg==" := by
  have sample : sampleUuid.toList ≠ Intel8080.uuid := by decide
  have hash : emptyHash.toList ≠ Intel8080.uuid ∧ emptyHash.toList ≠ sampleUuid.toList := by decide
  simp only [zeroLibraries, if_neg sample, if_neg hash.1, if_neg hash.2, if_true, and_self]

theorem zeroPieces_of (long : 250 ≤ n) (small : n < 2 ^ 28) :
    (zeroPieces n).Of (zeroLibraries n) ⟨true, false⟩ (optWith blocks) sampleUuid [] (zeroRam n) where
  cpuUuid := binToTxt_none (by decide) zero_encode.1 (by decide : "O+hPH516S3ClRdnzSRL8rQ==".length ≤ Utils.bufferSize 16)
  memUuid := binToTxt_none (by decide) zero_encode.2.1 (by decide : "EREREREREREREREREREREQ==".length ≤ Utils.bufferSize 16)
  romMd5 := binToTxt_none (by decide : emptyHash.toList.length < 2 ^ 32) zero_encode.2.2
    (by decide : "1B2M2Y8AsgTpgAmY7PhCfg==".length ≤ Utils.bufferSize 16)
  encoder := by rfl
  compressor := by rfl
  bytes := by
    have length : (zeroRam n).length = 3 * n := List.length_replicate
    refine binToTxt_none (by omega) (encode_zeroRam long) ?_
    change (zeroText n).length ≤ _
    rw [length_zeroText, length, Utils.bufferSize]
    omega

theorem zeroPieces_unique (long : 250 ≤ n) (small : n < 2 ^ 28) {pieces : Pieces}
    (of : pieces.Of (zeroLibraries n) ⟨true, false⟩ (optWith blocks) sampleUuid [] (zeroRam n)) :
    pieces = zeroPieces n := by
  have zeros : (zeroPieces n).Of (zeroLibraries n) ⟨true, false⟩ (optWith blocks) sampleUuid [] (zeroRam n) :=
    zeroPieces_of long small
  obtain ⟨u, m, r, e, c, b⟩ := pieces
  obtain ⟨cpuUuid, memUuid, romMd5, encoder, compressor, bytes⟩ := of
  obtain rfl := Except.ok.inj (encoder.symm.trans zeros.encoder)
  obtain rfl := Except.ok.inj (compressor.symm.trans zeros.compressor)
  obtain rfl := Except.ok.inj (cpuUuid.symm.trans zeros.cpuUuid)
  obtain rfl := Except.ok.inj (memUuid.symm.trans zeros.memUuid)
  obtain rfl := Except.ok.inj (romMd5.symm.trans zeros.romMd5)
  obtain rfl := Except.ok.inj (bytes.symm.trans zeros.bytes)
  rfl

theorem cStr_pieces : cStr (zeroPieces n).cpuUuid = (zeroPieces n).cpuUuid ∧
    cStr (zeroPieces n).memUuid = (zeroPieces n).memUuid ∧ cStr (zeroPieces n).romMd5 = (zeroPieces n).romMd5 ∧
    cStr (zeroPieces n).encoder = (zeroPieces n).encoder ∧ cStr (zeroPieces n).compressor = (zeroPieces n).compressor := by
  simp only [zeroPieces]
  decide

theorem zeroPieces_printed (small : n < 2 ^ 28) : (zeroPieces n).printed {} (zeroRam n) = zeroState n := by
  obtain ⟨cpuUuid, memUuid, romMd5, encoder, compressor⟩ := cStr_pieces (n := n)
  have length : (zeroRam n).length = 3 * n := List.length_replicate
  rw [Pieces.printed, cpuUuid, memUuid, romMd5, encoder, compressor, toInt_length (by omega), length]
  exact congrArg _ cStr_zeroText

theorem zeroPieces_document (small : n < 2 ^ 28) : (zeroPieces n).document {} (zeroRam n) = zeroDocument n := by
  obtain ⟨cpuUuid, memUuid, romMd5, encoder, compressor⟩ := cStr_pieces (n := n)
  have length : (zeroRam n).length = 3 * n := List.length_replicate
  have bytes : cStr (zeroPieces n).bytes = zeroText n := cStr_zeroText
  rw [Pieces.document, Pieces.cpuDocument, cpuUuid, memUuid, romMd5, encoder, compressor, toInt_length (by omega), length,
    bytes]
  rfl

theorem zero_decode :
    Utils.txtToBin (zeroLibraries n) ⟨true, false⟩ "base64" "none" 16 "O+hPH516S3ClRdnzSRL8rQ==" = .ok Intel8080.uuid ∧
    Utils.txtToBin (zeroLibraries n) ⟨true, false⟩ "base64" "none" 16 "EREREREREREREREREREREQ==" = .ok sampleUuid.toList ∧
    Utils.txtToBin (zeroLibraries n) ⟨true, false⟩ "base64" "none" 16 "1B2M2Y8AsgTpgAmY7PhCfg==" = .ok emptyHash.toList :=
  ⟨by rfl, by rfl, by rfl⟩

theorem zero_contract (long : 250 ≤ n) (small : n < 2 ^ 28) :
    Contract (zeroLibraries n) ⟨true, false⟩ (optWith blocks) sampleUuid {} [] (zeroRam n) := by
  have zeros : (zeroPieces n).Of (zeroLibraries n) ⟨true, false⟩ (optWith blocks) sampleUuid [] (zeroRam n) :=
    zeroPieces_of long small
  obtain ⟨cpuUuid, memUuid, romMd5, -, -⟩ := cStr_pieces (n := n)
  refine ⟨zeroLibraries_sizes, ?_, ?_, ?_, ?_, ?_, ?_⟩
  · intro pieces of
    rw [zeroPieces_unique long small of, zeroPieces_printed small, zeroPieces_document small]
    exact parse_zeroState long
  · intro pieces of
    rw [zeroPieces_unique long small of, Pieces.cpuDocument, cpuUuid]
    exact parse_resetText
  · intro txt written
    obtain rfl := Except.ok.inj (zeros.cpuUuid.symm.trans written)
    rw [cpuUuid]
    exact zero_decode.1
  · intro txt written
    obtain rfl := Except.ok.inj (zeros.memUuid.symm.trans written)
    rw [memUuid]
    exact zero_decode.2.1
  · intro txt written
    obtain rfl := Except.ok.inj (zeros.romMd5.symm.trans written)
    rw [romMd5]
    exact zero_decode.2.2
  · intro encoder compressor found chosen txt written
    obtain rfl := Except.ok.inj (zeros.encoder.symm.trans found)
    obtain rfl := Except.ok.inj (zeros.compressor.symm.trans chosen)
    obtain rfl := Except.ok.inj (zeros.bytes.symm.trans written)
    have decoded : (zeroLibraries n).base64Decode (cStr (zeroText n)) = zeroRam n := by
      rw [cStr_zeroText, decode_zeroText long]
    exact congrArg Except.ok decoded

theorem read_zeros (metadata : List Block) (length : (metadata.map fun m => m.2.toNat).sum = 3 * n) :
    (addresses metadata).map (fun _ => (0 : Byte)) = zeroRam n := by
  rw [List.map_const', length_addresses, length, zeroRam]

theorem zeroBlock_fits : ∀ m ∈ ([(0x2000, 768)] ++ [(0, 0)] : List Block), Block.Fits m :=
  List.forall_mem_cons.mpr ⟨by decide, List.forall_mem_cons.mpr ⟨by decide, List.forall_mem_nil _⟩⟩

theorem zeros_saved :
    saveState (zeroLibraries 256) ⟨true, false⟩ (optWith [zeroBlock]) (PlainRam.ramController (δ := Unit) sampleUuid) {}
      ⟨fun _ => 0, ()⟩ = .ok (some (zeroState 256)) ⟨fun _ => 0, ()⟩ := by
  have ram : (addresses [(0x2000, 768)]).map (fun _ => (0 : Byte)) = zeroRam 256 := read_zeros _ (by decide)
  have of : (zeroPieces 256).Of (zeroLibraries 256) ⟨true, false⟩ (optWith [zeroBlock]) sampleUuid []
      ((addresses [(0x2000, 768)]).map (fun _ => (0 : Byte))) := by
    rw [ram]
    exact zeroPieces_of (by decide) (by decide)
  have reads : Reads (PlainRam.ramController sampleUuid) (⟨fun _ => 0, ()⟩ : PlainRam.Ram Unit) fun _ => 0 :=
    (ram_steady sampleUuid).reads _
  have romLayout : (optWith [zeroBlock]).rom = .ok [(0, 0)] := by rfl
  have ramLayout : (optWith [zeroBlock]).ram = .ok [(0x2000, 768)] := by rfl
  have sizes : Sizes (zeroLibraries 256) := zeroLibraries_sizes
  rw [← zeroPieces_printed (by decide), ← ram]
  exact saveState_printed reads (by decide) romLayout ramLayout zeroBlock_fits sizes (by decide) of

theorem save_then_load_zeros :
    ∃ loaded, loadMachineState (zeroLibraries 256) ⟨true, false⟩ (optWith [zeroBlock])
        (PlainRam.ramController (δ := Unit) sampleUuid) (zeroState 256)
        ⟨{ a := 7, pc := 9, iff := true }, {}, fun _ => 0xEE, ()⟩ = .ok () loaded ∧
      loaded.cpu = { ({ a := 7, pc := 9, iff := true } : Intel8080) with
        a := 0, b := 0, c := 0, d := 0, e := 0, h := 0, l := 0, status := 2, pc := 0, sp := 0 } ∧
      loaded.bus = {} ∧
      ∀ addr, loaded.world.mem addr = if addr ∈ addresses [(0x2000, 768)] then 0 else 0xEE :=
  have romLayout : (optWith [zeroBlock]).rom = .ok [(0, 0)] := by rfl
  have ramLayout : (optWith [zeroBlock]).ram = .ok [(0x2000, 768)] := by rfl
  save_then_load (w := (⟨fun _ => 0, ()⟩ : PlainRam.Ram Unit)) (ram_steady sampleUuid) ram_stores romLayout ramLayout
    (by decide) (by rw [read_zeros (n := 256) [(0x2000, 768)] (by decide)]; exact zero_contract (by decide) (by decide))
    zeros_saved romLayout ramLayout (by intro addr member; cases member)

end Zeros
end MachEmu.Proofs.SaveLoad
