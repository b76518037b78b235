import MachEmu.Proofs.SaveLoad

/-! A state that is saved under one layout and loaded under another. What the load
compares are the hash of the rom and the size of the ram. -/

namespace MachEmu.Proofs.SavedLayouts
open ErrorState Gather StateChecks LoadState Codec SaveLoad Machine

variable {ω : Type}

section Recording

/-- A controller that keeps what is written to it. -/
def recording (memory : IController ω) : IController (ω × List (Word × Byte)) where
  uuid := memory.uuid
  read addr s := match memory.read addr s.1 with
    | .ok value world => .ok value (world, s.2)
    | .error fault world => .error fault (world, s.2)
  write addr value s := match memory.write addr value s.1 with
    | .ok done world => .ok done (world, s.2 ++ [(addr, value)])
    | .error fault world => .error fault (world, s.2)
  serviceInterrupts currTime cycles s := match memory.serviceInterrupts currTime cycles s.1 with
    | .ok isr world => .ok isr (world, s.2)
    | .error fault world => .error fault (world, s.2)

def recorded (writes : List (Word × Byte)) (s : System ω) : System (ω × List (Word × Byte)) :=
  ⟨s.cpu, s.bus, (s.world, writes)⟩

variable {memory : IController ω} {read : ω → Word → Byte} {write : Word → Byte → ω → ω}

theorem recording_steady (steady : Steady memory read write) :
    Steady (recording memory) (fun s => read s.1) fun addr value s => (write addr value s.1, s.2 ++ [(addr, value)]) where
  read_eq addr s := by
    unfold recording
    dsimp only
    rw [steady.read_eq]
  write_eq addr value s := by
    unfold recording
    dsimp only
    rw [steady.write_eq]

theorem writeBack_recording (bytes writes : List (Word × Byte)) (w : ω) :
    writeBack (fun addr value (s : ω × List (Word × Byte)) => (write addr value s.1, s.2 ++ [(addr, value)]))
      bytes (w, writes) =
      (writeBack write bytes w, writes ++ bytes) := by
  induction bytes generalizing w writes with
  | nil => rw [List.append_nil]; rfl
  | cons byte bytes ih =>
    have rest := ih (writes ++ [byte]) (write byte.1 byte.2 w)
    rw [List.append_assoc] at rest
    exact rest

end Recording

section Conditions
variable (lib : Libraries) (build : Build) (opt : Opt)

/-- The documented behaviour of the libraries on the text of a save: the JSON library reads back
what was printed, and base64 keeps its contract on the identifiers and on the hash. -/
structure Rereads (uuid : Uuid) (cpu : Intel8080) (rom ram : List Byte) : Prop where
  state : ∀ pieces : Pieces, pieces.Of lib build opt uuid rom ram →
    parse lib (pieces.printed cpu ram) = .ok (pieces.document cpu ram)
  cpu : ∀ pieces : Pieces, pieces.Of lib build opt uuid rom ram →
    parse lib (lib.dump (pieces.cpuDocument cpu)) = .ok (pieces.cpuDocument cpu)
  cpuUuid : Base64 lib Intel8080.uuid
  memUuid : Base64 lib uuid.toList
  romMd5 : Base64 lib (Utils.md5 lib rom)

def Decodes (ram bytes : List Byte) : Prop :=
  ∃ encoder compressor txt, opt.encoder = .ok encoder ∧ opt.compressor = .ok compressor ∧
    Utils.binToTxt lib build encoder compressor ram = .ok txt ∧
    Utils.txtToBin lib build encoder compressor (BitVec.ofNat 32 ram.length) (cStr txt) = .ok bytes

/-- The addresses of the other layout are those of the saved bytes, in the same order. -/
structure InPlace (saved layout : List Block) (ram bytes : List Byte) : Prop where
  begins : bytes <+: ram
  places : addresses layout = (addresses saved).take bytes.length
  covered : ∀ addr ∈ addresses saved, addr ∈ addresses layout

/-- Of a ram that is decoded in full, the layout lists the same addresses. -/
theorem inPlace_whole {saved layout : List Block} {ram : List Byte} (length : ram.length = (addresses saved).length) :
    InPlace saved layout ram ram ↔ addresses layout = addresses saved := by
  constructor
  · intro inPlace
    have same := inPlace.places
    rwa [length, List.take_length] at same
  · intro same
    refine ⟨List.prefix_refl ram, ?_, fun addr member => same.symm ▸ member⟩
    rw [length, List.take_length, same]

end Conditions

section Texts
variable {lib : Libraries} {build : Build} {opt loadOpt : Opt} {memory : IController ω} {cpu : Intel8080}
  {rom ram bytes : List Byte}
  {content : Word → Byte} {ramMetadata romMetadata : List Block} {pieces : Pieces}

theorem cStr_base64 {text : String} (alphabet : ∀ c ∈ text.toList, isBase64 c) : cStr text = text := by
  have kept : ∀ c ∈ text.toList, (c != Char.ofNat 0) = true := by
    intro c member
    apply bne_iff_ne.mpr
    rintro rfl
    exact absurd (alphabet _ member) (by decide)
  rw [cStr, List.takeWhile_eq_self_iff.mpr kept, String.ofList_toList]

/-- Of all lengths, the buffer of the encoder is too short for seven. -/
theorem undoes_of_fits {compressor : String} {bin src : List Byte} (encodes : Encodes lib build bin compressor src)
    (base64 : Base64 lib src) (short : bin.length < 2 ^ 32) (fits : src.length ∉ [1, 2, 4, 5, 7, 10, 13]) :
    Undoes lib build "base64" compressor bin := by
  intro txt written
  have covered : (lib.base64Encode src).length ≤ Utils.bufferSize src.length := by
    rw [base64.length]
    exact (buffer_fits_iff src.length).mpr fits
  rw [binToTxt_encodes encodes, encode_eq covered] at written
  obtain rfl := Except.ok.inj written
  rw [cStr_base64 base64.alphabet, txtToBin_encodes encodes _ base64.inverse, (clip_eq_iff bin).mpr short]

theorem undoes_sixteen {bin : List Byte} (base64 : Base64 lib bin) (length : bin.length = 16) :
    Undoes lib build "base64" "none" bin := by
  have whole : Utils.clip bin = bin := (clip_eq_iff bin).mpr (by omega)
  have encodes : Encodes lib build bin "none" (Utils.clip bin) := .none
  rw [whole] at encodes
  refine undoes_of_fits encodes base64 (by omega) ?_
  rw [length]
  decide

theorem length_md5 (rom : List Byte) : (Utils.md5 lib rom).length = 16 := by
  simp [Utils.md5]

theorem compatible_iff (rereads : Rereads lib build opt memory.uuid cpu rom ram)
    (of : pieces.Of lib build opt memory.uuid rom ram)
    (identified : memory.uuid ≠ Vector.replicate 16 0) (romLayout : loadOpt.rom = .ok romMetadata)
    (ramLayout : loadOpt.ram = .ok ramMetadata) {json : Json} :
    Compatible lib build loadOpt memory.uuid content (pieces.printed cpu ram) json bytes ramMetadata ↔
      json = pieces.document cpu ram ∧ Utils.md5 lib rom = Utils.md5 lib ((addresses romMetadata).map content) ∧
        Decodes lib build opt ram bytes ∧ (bytes.length : Int) = (ramSize ramMetadata).toInt := by
  have digest : Machine.digest lib build (pieces.document cpu ram) "rom" = .ok (Utils.md5 lib rom) := by
    have undone := undoes_sixteen rereads.romMd5 (length_md5 rom) pieces.romMd5 of.romMd5
    rwa [length_md5] at undone
  have decodes : Machine.decodeRam lib build (pieces.document cpu ram) = .ok bytes ↔ Decodes lib build opt ram bytes := by
    obtain ⟨encoder, compressor, -, -⟩ := cStr_settings of.bytes
    have size : BitVec.ofInt 32 (BitVec.ofNat 32 ram.length).toInt = BitVec.ofNat 32 ram.length := BitVec.ofInt_toInt
    change Utils.txtToBin lib build (cStr pieces.encoder) (cStr pieces.compressor)
      (BitVec.ofInt 32 (BitVec.ofNat 32 ram.length).toInt)
      (cStr pieces.bytes) = .ok bytes ↔ _
    rw [size, encoder, compressor]
    constructor
    · intro decoded
      exact ⟨_, _, _, of.encoder, of.compressor, of.bytes, decoded⟩
    · intro decodes
      obtain ⟨e, c, txt, encoder, compressor, written, decoded⟩ := decodes
      obtain rfl := Except.ok.inj (of.encoder.symm.trans encoder)
      obtain rfl := Except.ok.inj (of.compressor.symm.trans compressor)
      obtain rfl := Except.ok.inj (of.bytes.symm.trans written)
      exact decoded
  constructor
  · intro compatible
    obtain rfl := Except.ok.inj ((rereads.state pieces of).symm.trans compatible.document)
    obtain ⟨other, layout, hash⟩ := compatible.rom
    obtain rfl := Except.ok.inj (romLayout.symm.trans layout)
    exact ⟨rfl, Except.ok.inj (digest.symm.trans hash), decodes.mp compatible.decoded, compatible.size⟩
  · intro accepted
    obtain ⟨rfl, hash, decoded, size⟩ := accepted
    have undone := undoes_sixteen rereads.memUuid (Vector.length_toList ..) pieces.memUuid of.memUuid
    rw [Vector.length_toList] at undone
    exact ⟨identified, rereads.state pieces of, undone, ⟨romMetadata, romLayout, hash ▸ digest⟩,
      decodes.mpr decoded, ramLayout, size⟩

end Texts

section Loads
variable {lib : Libraries} {build : Build} {opt loadOpt : Opt} {memory : IController ω} {read : ω → Word → Byte}
  {write : Word → Byte → ω → ω}
  {text : String} {s : System ω} {saved : List (Word × Byte)} {bytes : List Byte} {json : Json} {self : Intel8080}
    {ramMetadata : List Block}

def Refuses (lib : Libraries) (build : Build) (opt : Opt) (memory : IController ω) (read : ω → Word → Byte)
    (text : String) (s : System ω) (ramMetadata : List Block) : Prop :=
  text = "" ∨ ¬ ∃ json ram cpu, Compatible lib build opt memory.uuid (read s.world) text json ram ramMetadata ∧
    CpuAccepts lib build json s.cpu cpu

/-- The load returns. It is refused and changes nothing, or it writes what was saved to the places it was saved from. -/
def Matched (lib : Libraries) (build : Build) (opt : Opt) (memory : IController ω) (read : ω → Word → Byte)
    (text : String) (s : System ω) (ramMetadata : List Block) (saved : List (Word × Byte)) : Prop :=
  ∃ after writes, loadMachineState lib build opt memory text s = .ok () after ∧
    loadMachineState lib build opt (recording memory) text (recorded [] s) = .ok () (recorded writes after) ∧
    (Refuses lib build opt memory read text s ramMetadata ∧ after = s ∧ writes = [] ∨ Memory.Restores saved writes)

theorem matched_refused (steady : Steady memory read write) {romMetadata : List Block}
    (romLayout : opt.rom = .ok romMetadata)
    (ramLayout : opt.ram = .ok ramMetadata) (refuses : Refuses lib build opt memory read text s ramMetadata) :
    Matched lib build opt memory read text s ramMetadata saved :=
  ⟨s, [], load_refused steady romLayout ramLayout refuses,
    load_refused (recording_steady steady) romLayout ramLayout refuses,
    .inl ⟨refuses, rfl, rfl⟩⟩

/-- Past the checks, a load matches just when there is a byte for each address and the writes are those of the save. -/
theorem matched_accepted (steady : Steady memory read write) (nonempty : text ≠ "")
    (compatible : Compatible lib build opt memory.uuid (read s.world) text json bytes ramMetadata)
    (accepted : CpuAccepts lib build json s.cpu self) :
    Matched lib build opt memory read text s ramMetadata saved ↔
      bytes.length = (addresses ramMetadata).length ∧ Memory.Restores saved ((addresses ramMetadata).zip bytes) := by
  have passes : ¬ Refuses lib build opt memory read text s ramMetadata := by
    intro refuses
    exact (refuses.resolve_left nonempty) ⟨json, bytes, self, compatible, accepted⟩
  obtain ⟨small, exactly⟩ := sum_of_size compatible.size
  by_cases bounded : (ramMetadata.map fun rm => rm.2.toNat).sum < 2 ^ 31
  · have length := exactly bounded
    have plain := load_accepted steady nonempty compatible accepted bounded
    have kept : loadMachineState lib build opt (recording memory) text (recorded [] s) = .ok ()
        (recorded ((addresses ramMetadata).zip bytes)
        { s with cpu := self, world := writeBack write ((addresses ramMetadata).zip bytes) s.world }) := by
      have traced := load_accepted (s := recorded [] s) (recording_steady steady) nonempty compatible accepted bounded
      rw [traced]
      unfold recorded
      dsimp only
      rw [writeBack_recording, List.nil_append]
    constructor
    · intro matched
      obtain ⟨after, writes, ran, traced, outcome⟩ := matched
      obtain rfl := (EStateM.Result.ok.inj (plain.symm.trans ran)).2
      have same := (EStateM.Result.ok.inj (kept.symm.trans traced)).2
      have writes_eq : (addresses ramMetadata).zip bytes = writes := congrArg (fun s => s.world.2) same
      subst writes_eq
      exact ⟨length, outcome.resolve_left fun refused => passes refused.1⟩
    · intro restored
      exact ⟨_, _, plain, kept, .inr restored.2⟩
  · have wrapped : 2 ^ 31 ≤ (ramMetadata.map fun rm => rm.2.toNat).sum := Nat.le_of_not_lt bounded
    obtain ⟨stopped, overrun⟩ := load_overrun steady nonempty compatible accepted wrapped
    constructor
    · intro matched
      obtain ⟨after, writes, ran, -⟩ := matched
      rw [overrun] at ran
      cases ran
    · intro restored
      have longer := restored.1
      rw [length_addresses] at longer
      omega

/-- A state saved under one layout and loaded under another is restored to its places or refused, just when
a check tells the two layouts apart or the second one lists the addresses of the first in the same order. -/
theorem matched_iff {cpu : Intel8080} {w after : ω} {romSaved ramSaved romMetadata : List Block}
    (steady : Steady memory read write) (romLayout : opt.rom = .ok romSaved) (ramLayout : opt.ram = .ok ramSaved)
    (rereads : Rereads lib build opt memory.uuid cpu ((addresses romSaved).map (read w))
      ((addresses ramSaved).map (read w)))
    (saves : saveState lib build opt memory cpu w = .ok (some text) after)
    (romLoaded : loadOpt.rom = .ok romMetadata) (ramLoaded : loadOpt.ram = .ok ramMetadata) :
    Matched lib build loadOpt memory read text s ramMetadata ((addresses ramSaved).map fun addr => (addr, read w addr)) ↔
      text = "" ∨ ∀ bytes, Decodes lib build opt ((addresses ramSaved).map (read w)) bytes →
        (bytes.length : Int) = (ramSize ramMetadata).toInt →
        Utils.md5 lib ((addresses romSaved).map (read w)) = Utils.md5 lib ((addresses romMetadata).map (read s.world)) →
        InPlace ramSaved ramMetadata ((addresses ramSaved).map (read w)) bytes := by
  obtain ⟨identified, -, written⟩ := saveState_ok (steady.reads w) romLayout ramLayout saves
  by_cases empty : text = ""
  · constructor
    · exact fun _ => .inl empty
    · exact fun _ => matched_refused steady romLoaded ramLoaded (.inl empty)
  obtain ⟨pieces, of, rfl⟩ := writeState_printed written empty
  have uuid : Utils.txtToBin lib build "base64" "none" 16 (cStr pieces.cpuUuid) = .ok Intel8080.uuid :=
    undoes_sixteen rereads.cpuUuid rfl pieces.cpuUuid of.cpuUuid
  have accepts : CpuAccepts lib build (pieces.document cpu ((addresses ramSaved).map (read w))) s.cpu _ :=
    pieces_accepted s.cpu (rereads.cpu pieces of) uuid
  have passes {json : Json} {bytes : List Byte} :=
    @compatible_iff ω lib build opt loadOpt memory cpu _ _ bytes (read s.world) ramMetadata
    romMetadata pieces rereads of identified romLoaded ramLoaded json
  constructor
  · intro matched
    refine .inr fun bytes decodes size hash => ?_
    have compatible := passes.mpr ⟨rfl, hash, decodes, size⟩
    obtain ⟨length, restores⟩ := (matched_accepted steady empty compatible accepts).mp matched
    obtain ⟨begins, places, covered⟩ := (Memory.restores_iff length).mp restores
    exact ⟨begins, places, covered⟩
  · intro holds
    have inPlace := holds.resolve_left empty
    by_cases refuses : Refuses lib build loadOpt memory read
        (pieces.printed cpu ((addresses ramSaved).map (read w))) s ramMetadata
    · exact matched_refused steady romLoaded ramLoaded refuses
    · obtain ⟨json, bytes, self, compatible, accepted⟩ := Classical.not_not.mp (not_or.mp refuses).2
      obtain ⟨-, hash, decodes, size⟩ := passes.mp compatible
      obtain ⟨begins, places, covered⟩ := inPlace bytes decodes size hash
      have length : bytes.length = (addresses ramMetadata).length := by
        have fewer := begins.length_le
        rw [List.length_map] at fewer
        rw [places, List.length_take, Nat.min_eq_left fewer]
      exact (matched_accepted steady empty compatible accepted).mpr ⟨length,
        (Memory.restores_iff length).mpr ⟨begins, places, covered⟩⟩

end Loads

section Saved
variable {lib : Libraries} {build : Build} {opt loadOpt : Opt} {memory : IController ω} {read : ω → Word → Byte}
  {write : Word → Byte → ω → ω}
  {text : String} {s : System ω} {cpu : Intel8080} {rom ram bytes : List Byte} {ramMetadata romMetadata : List Block}

/-- The text spells as many bytes as the layout has. -/
structure Spells (lib : Libraries) (build : Build) (opt : Opt) (ram : List Byte) (ramMetadata : List Block) (text : String)
    (bytes : List Byte) : Prop where
  nonempty : text ≠ ""
  decodes : Decodes lib build opt ram bytes
  size : (bytes.length : Int) = (ramSize ramMetadata).toInt

theorem Decodes.unique {other : List Byte} (decodes : Decodes lib build opt ram bytes)
    (decodes' : Decodes lib build opt ram other) : bytes = other := by
  obtain ⟨encoder, compressor, txt, found, chosen, written, decoded⟩ := decodes
  obtain ⟨encoder', compressor', txt', found', chosen', written', decoded'⟩ := decodes'
  obtain rfl := Except.ok.inj (found.symm.trans found')
  obtain rfl := Except.ok.inj (chosen.symm.trans chosen')
  obtain rfl := Except.ok.inj (written.symm.trans written')
  exact Except.ok.inj (decoded.symm.trans decoded')

/-- What a load needs to know of the text and of the machine: the text was printed from these registers, this rom
and this ram, and the rom is still the same. -/
structure Printed (lib : Libraries) (build : Build) (opt loadOpt : Opt) (memory : IController ω)
    (read : ω → Word → Byte) (cpu : Intel8080)
    (rom ram : List Byte) (romMetadata ramMetadata : List Block) (text : String) (s : System ω) : Prop where
  rereads : Rereads lib build opt memory.uuid cpu rom ram
  identified : memory.uuid ≠ Vector.replicate 16 0
  written : writeState lib build opt memory cpu rom ram = .ok text
  romLayout : loadOpt.rom = .ok romMetadata
  ramLayout : loadOpt.ram = .ok ramMetadata
  sameRom : (addresses romMetadata).map (read s.world) = rom

theorem Printed.accepts (printed : Printed lib build opt loadOpt memory read cpu rom ram romMetadata ramMetadata text s)
    (spells : Spells lib build opt ram ramMetadata text bytes) :
    ∃ json, Compatible lib build loadOpt memory.uuid (read s.world) text json bytes ramMetadata ∧
      CpuAccepts lib build json s.cpu { cpu with iff := s.cpu.iff, opcode := s.cpu.opcode } := by
  obtain ⟨rereads, identified, written, romLayout, ramLayout, sameRom⟩ := printed
  obtain ⟨pieces, of, rfl⟩ := writeState_printed written spells.nonempty
  refine ⟨pieces.document cpu ram, ?_, ?_⟩
  · exact (compatible_iff rereads of identified romLayout ramLayout).mpr ⟨rfl, by rw [sameRom], spells.decodes, spells.size⟩
  · exact pieces_accepted s.cpu (rereads.cpu pieces of) (undoes_sixteen rereads.cpuUuid rfl pieces.cpuUuid of.cpuUuid)

/-- A load puts back the registers and writes the bytes that the text spells. -/
theorem Printed.load_spells (printed : Printed lib build opt loadOpt memory read cpu rom ram romMetadata ramMetadata text s)
    (steady : Steady memory read write) (spells : Spells lib build opt ram ramMetadata text bytes)
    (bounded : (ramMetadata.map fun rm => rm.2.toNat).sum < 2 ^ 31) :
    loadMachineState lib build loadOpt memory text s = .ok ()
      { s with
        cpu := { cpu with iff := s.cpu.iff, opcode := s.cpu.opcode }
        world := writeBack write ((addresses ramMetadata).zip bytes) s.world } := by
  obtain ⟨json, compatible, accepted⟩ := printed.accepts spells
  exact load_accepted steady spells.nonempty compatible accepted bounded

theorem Printed.load_overruns
    (printed : Printed lib build opt loadOpt memory read cpu rom ram romMetadata ramMetadata text s)
    (steady : Steady memory read write) (spells : Spells lib build opt ram ramMetadata text bytes)
    (wrapped : 2 ^ 31 ≤ (ramMetadata.map fun rm => rm.2.toNat).sum) :
    ∃ after, loadMachineState lib build loadOpt memory text s = .error .undefined after := by
  obtain ⟨json, compatible, accepted⟩ := printed.accepts spells
  exact load_overrun steady spells.nonempty compatible accepted wrapped

theorem Printed.load_refused
    (printed : Printed lib build opt loadOpt memory read cpu rom ram romMetadata ramMetadata text s)
    (steady : Steady memory read write) (refuses : ¬ ∃ bytes, Spells lib build opt ram ramMetadata text bytes) :
    loadMachineState lib build loadOpt memory text s = .ok () s := by
  obtain ⟨rereads, identified, written, romLayout, ramLayout, sameRom⟩ := printed
  refine LoadState.load_refused steady romLayout ramLayout (Classical.or_iff_not_imp_left.mpr fun nonempty accepts => ?_)
  obtain ⟨json, bytes, self, compatible, -⟩ := accepts
  obtain ⟨pieces, of, rfl⟩ := writeState_printed written nonempty
  obtain ⟨-, -, decodes, size⟩ := (compatible_iff rereads of identified romLayout ramLayout).mp compatible
  exact refuses ⟨bytes, nonempty, decodes, size⟩

end Saved

section Zeros

def otherBlock : Json := .object [("offset", .integer 0x4000), ("size", .integer 768)]

def firstPart : Json := .object [("offset", .integer 0x2000), ("size", .integer 256)]

def secondPart : Json := .object [("offset", .integer 0x2100), ("size", .integer 512)]

theorem zero_base64 : Base64 (zeroLibraries 256) Intel8080.uuid ∧ Base64 (zeroLibraries 256) sampleUuid.toList ∧
    Base64 (zeroLibraries 256) emptyHash.toList := by
  obtain ⟨cpu, uuid, hash⟩ := zero_encode (n := 256)
  have letters (text : String) (all : text.toList.all isBase64 = true) : ∀ c ∈ text.toList, isBase64 c :=
    List.all_eq_true.mp all
  refine ⟨⟨?_, ?_, ?_⟩, ⟨?_, ?_, ?_⟩, ⟨?_, ?_, ?_⟩⟩
  all_goals simp only [cpu, uuid, hash]
  all_goals first | rfl | exact letters _ (by rfl)

theorem zero_rereads (blocks : List Json) : Rereads (zeroLibraries 256) ⟨true, false⟩ (optWith blocks) sampleUuid {}
    [] (zeroRam 256) := by
  have contract : Contract (zeroLibraries 256) ⟨true, false⟩ (optWith blocks) sampleUuid {} [] (zeroRam 256) :=
    zero_contract (by norm_num) (by norm_num)
  obtain ⟨cpuUuid, memUuid, romMd5⟩ := zero_base64
  exact ⟨contract.state, contract.cpu, cpuUuid, memUuid, romMd5⟩

theorem zero_spells : Spells (zeroLibraries 256) ⟨true, false⟩ (optWith [zeroBlock]) (zeroRam 256) [(0x2000, 768)]
    (zeroState 256) (zeroRam 256) := by
  have of : (zeroPieces 256).Of (zeroLibraries 256) ⟨true, false⟩ (optWith [zeroBlock]) sampleUuid [] (zeroRam 256) :=
    zeroPieces_of (by norm_num) (by norm_num)
  have contract : Contract (zeroLibraries 256) ⟨true, false⟩ (optWith [zeroBlock]) sampleUuid {} [] (zeroRam 256) :=
    zero_contract (by norm_num) (by norm_num)
  exact ⟨zeroState_nonempty (by norm_num),
    ⟨_, _, _, of.encoder, of.compressor, of.bytes, contract.ram _ _ of.encoder of.compressor _ of.bytes⟩, by decide +kernel⟩

def blank : System (PlainRam.Ram Unit) := ⟨{}, {}, fun _ => 0, ()⟩

/-- Of a ram of the same size elsewhere the load makes a copy. -/
theorem moved_ram_accepted :
    saveState (zeroLibraries 256) ⟨true, false⟩ (optWith [zeroBlock]) (PlainRam.ramController (δ := Unit) sampleUuid) {}
      ⟨fun _ => 0, ()⟩ = .ok (some (zeroState 256)) ⟨fun _ => 0, ()⟩ ∧
    (optWith [otherBlock]).ram = .ok [(0x4000, 768)] ∧
    ¬ Matched (zeroLibraries 256) ⟨true, false⟩ (optWith [otherBlock])
    (PlainRam.ramController (δ := Unit) sampleUuid) PlainRam.Ram.mem
      (zeroState 256) blank [(0x4000, 768)] ((addresses [(0x2000, 768)]).map fun addr => (addr, 0)) := by
  refine ⟨zeros_saved, by rfl, fun matched => ?_⟩
  have compatible : Compatible (zeroLibraries 256) ⟨true, false⟩ (optWith [otherBlock]) sampleUuid (fun _ => 0)
      (zeroState 256)
      (zeroDocument 256) (zeroRam 256) [(0x4000, 768)] := zero_compatible (by norm_num) (by rfl) (by decide) _
  obtain ⟨length, restores⟩ :=
    (matched_accepted (s := blank) (ram_steady sampleUuid) zero_spells.nonempty compatible zero_accepts).mp matched
  obtain ⟨-, taken, -⟩ := (Memory.restores_iff length).mp restores
  exact absurd taken (by decide +kernel)

theorem matched_iff_parts :
    Matched (zeroLibraries 256) ⟨true, false⟩ (optWith [firstPart, secondPart])
    (PlainRam.ramController (δ := Unit) sampleUuid)
      PlainRam.Ram.mem (zeroState 256) blank [(0x2000, 256), (0x2100, 512)]
      ((addresses [(0x2000, 768)]).map fun addr => (addr, 0)) := by
  have romLayout : (optWith [zeroBlock]).rom = .ok [(0, 0)] := by rfl
  have ramLayout : (optWith [zeroBlock]).ram = .ok [(0x2000, 768)] := by rfl
  have ram : (addresses [(0x2000, 768)]).map (fun _ => (0 : Byte)) = zeroRam 256 := read_zeros _ (by decide)
  have rereads := zero_rereads [zeroBlock]
  rw [← ram] at rereads
  apply (matched_iff (s := blank) (w := ⟨fun _ => 0, ()⟩) (ram_steady sampleUuid) romLayout ramLayout rereads zeros_saved
    (by rfl : (optWith [firstPart, secondPart]).rom = .ok [(0, 0)]) (by rfl)).mpr
  refine .inr fun bytes decodes _ _ => ?_
  have spelled := zero_spells.decodes
  rw [← ram] at spelled
  obtain rfl := spelled.unique decodes
  apply (inPlace_whole (List.length_map _)).mpr
  decide +kernel

end Zeros

end MachEmu.Proofs.SavedLayouts
