import MachEmu.Controller
import MachEmu.Cpu.State
import MachEmu.Lib.CountedLoop
import MachEmu.Opt

/-! Saving the state of a machine to a text and loading it back. -/

namespace MachEmu

variable {ω α : Type}

/-- The block `catch (const std::exception&)`. Anything else that is thrown passes through. -/
def catchException {σ : Type} (body : EStateM Fault σ Unit) : EStateM Fault σ Unit := fun s =>
  match body s with
  | .error (.exception _) s => .ok () s
  | result => result

/-- `mem.push_back(memoryController_->Read(addr))` -/
def pushBack (memory : IController ω) (mem : List Byte) (addr : Word) : EStateM Fault ω (List Byte) := do
  return mem ++ [← memory.read addr]

/-- Read the blocks of `metadata` through a 16-bit address, observed for `fuel` tests of each loop condition. -/
def gather (memory : IController ω) (fuel : Nat) : List Block → List Byte → EStateM Fault ω (Option (List Byte))
  | [], mem => return some mem
  | m :: metadata, mem => do
    match ← CountedLoop.run (m.1.toNat + m.2.toNat) (pushBack memory) fuel m.1 mem with
    | some mem => gather memory fuel metadata mem
    | none => return none

/-- `for (int addr = rm.first; addr < rm.first + rm.second; addr++)` -/
def forBlock {σ : Type} (rm : Block) (body : α → Word → EStateM Fault σ α) (acc : α) : EStateM Fault σ α :=
  (List.range' rm.1.toNat rm.2.toNat).foldlM (fun acc addr => body acc (BitVec.ofNat 16 addr)) acc

/-- The loop that collects the rom of the running machine for a load. -/
def readRom (memory : IController ω) (romMetadata : List Block) : EStateM Fault ω (List Byte) :=
  romMetadata.foldlM (fun rom rm => forBlock rm (pushBack memory) rom) []

/-- A loop whose condition was tested this often and still holds runs on forever. -/
def loopFuel : Nat := 2 ^ 16 + 1

namespace Machine

/-- A text whose length `snprintf` cannot report as an `int` is not printed. -/
def snprintf (text : String) : Except Fault String :=
  if text.length + 1 < 2 ^ 31 then .ok text
  else if text.length + 1 = 2 ^ 31 then .error (.exception "length_error")
  else .ok ""

def print (cpu uuid rom encoder compressor : String) (size : Int) (bytes : String) : String :=
  "\x7b\"cpu\":" ++ cpu ++ ",\"memory\":\x7b\"uuid\":\"" ++ uuid ++ "\",\"rom\":\"" ++ rom ++
  "\",\"ram\":\x7b\"encoder\":\"" ++ encoder ++ "\",\"compressor\":\"" ++ compressor ++
  "\",\"size\":" ++ toString size ++ ",\"bytes\":\"" ++ bytes ++ "\"\x7d\x7d\x7d"

variable (lib : Libraries) (build : Build) (opt : Opt) (memory : IController ω)

/-- The text the format string and its arguments stand for. -/
def format (cpu : Intel8080) (rom ram : List Byte) : Except Fault String := do
  let cpu ← cpu.save lib build
  let memUuid ← Utils.binToTxt lib build "base64" "none" memory.uuid.toList
  let romMd5 ← Utils.binToTxt lib build "base64" "none" (Utils.md5 lib rom)
  let encoder ← opt.encoder
  let compressor ← opt.compressor
  let bytes ← Utils.binToTxt lib build encoder compressor ram
  return print (cStr cpu) (cStr memUuid) (cStr romMd5) (cStr encoder) (cStr compressor) (BitVec.ofNat 32 ram.length).toInt
    (cStr bytes)

def writeState (cpu : Intel8080) (rom ram : List Byte) : Except Fault String := do
  snprintf (← format lib build opt memory cpu rom ram)

/-- The lambda `rm` of `Save`. -/
def Save.rm (fuel : Nat) (metadata : List Block) : EStateM Fault ω (Option (List Byte)) :=
  gather memory fuel metadata []

/-- The state of an idle machine; `none` when the call does not return. -/
def save (cpu : Intel8080) : EStateM Fault ω (Option String) := do
  let some rom ← Save.rm memory loopFuel (← ofExcept opt.rom) | return none
  let some ram ← Save.rm memory loopFuel (← ofExcept opt.ram) | return none
  let state ← ofExcept (writeState lib build opt memory cpu rom ram)
  return some (state.push (Char.ofNat 0))

/-- The lambda `rm` of the `ISR::Save` case. -/
def Run.rm (fuel : Nat) (metadata : List Block) : EStateM Fault ω (Option (List Byte)) :=
  gather memory fuel metadata []

/-- The state captured when `ISR::Save` is serviced; `none` when the loop over the memory does not end. -/
def saveState (cpu : Intel8080) : EStateM Fault ω (Option String) := do
  if memory.uuid = Vector.replicate 16 0 then
    throw (.exception "Invalid memory controller uuid for save interrupt")
  let some ram ← Run.rm memory loopFuel (← ofExcept opt.ram) | return none
  let some rom ← Run.rm memory loopFuel (← ofExcept opt.rom) | return none
  return some (← ofExcept (writeState lib build opt memory cpu rom ram))

/-- A controller call from the loop: it sees the world only. -/
def onWorld (call : EStateM Fault ω α) : EStateM Fault (System ω) α := fun s =>
  match call s.world with
  | .ok value world => .ok value { s with world }
  | .error fault world => .error fault { s with world }

/-- `ramSize += rm.second` over all blocks, in an `int`. -/
def ramSize (ramMetadata : List Block) : BitVec 32 :=
  ramMetadata.foldl (fun size rm => size + rm.2.setWidth 32) 0

/-- `memoryController_->Write(addr, ram[ramIndex++])` -/
def writeByte (ram : List Byte) (ramIndex : BitVec 32) (addr : Word) : EStateM Fault ω (BitVec 32) := do
  match ram[ramIndex.toNat]? with
  | some value => memory.write addr value
  | none => throw .undefined
  return ramIndex + 1

/-- Write the ram back, with one `int` index running through all blocks. -/
def writeRam (ram : List Byte) (ramMetadata : List Block) : EStateM Fault ω (BitVec 32) :=
  ramMetadata.foldlM (fun ramIndex rm => forBlock rm (writeByte memory ram) ramIndex) 0

/-- `json["memory"][name]` as 16 bytes in base64. -/
def digest (json : Json) (name : String) : Except Fault (List Byte) := do
  Utils.txtToBin lib build "base64" "none" 16 (← (← (← json.index "memory").index name).getString)

/-- Decode and decompress the ram as the document itself says. -/
def decodeRam (json : Json) : Except Fault (List Byte) := do
  let jsonRam ← (← json.index "memory").index "ram"
  Utils.txtToBin lib build (← (← jsonRam.index "encoder").getString) (← (← jsonRam.index "compressor").getString)
    (← (← jsonRam.index "size").getUint 32) (← (← jsonRam.index "bytes").getString)

/-- The checks ahead of `cpu_->Load`: the memory controller, the rom and the size of the ram must fit. -/
def checkState (str : String) : EStateM Fault ω (Json × List Byte × List Block) := do
  if memory.uuid = Vector.replicate 16 0 then
    throw (.exception "Invalid memory controller uuid for load interrupt")
  let json ← ofExcept (parse lib str)
  let jsonUuid ← ofExcept (digest lib build json "uuid")
  if jsonUuid ≠ memory.uuid.toList then throw (.exception "Incompatible memory controller")
  let rom ← readRom memory (← ofExcept opt.rom)
  let jsonMd5 ← ofExcept (digest lib build json "rom")
  if jsonMd5 ≠ Utils.md5 lib rom then throw (.exception "Incompatible rom")
  let ram ← ofExcept (decodeRam lib build json)
  let ramMetadata ← ofExcept opt.ram
  if (ram.length : Int) ≠ (ramSize ramMetadata).toInt then throw (.exception "Incompatible ram")
  return (json, ram, ramMetadata)

def loadMachineState (str : String) : EStateM Fault (System ω) Unit :=
  if str = "" then return ()
  else catchException do
    let (json, ram, ramMetadata) ← onWorld (checkState lib build opt memory str)
    let cpuState ← ofExcept (json.index "cpu")
    let cpu ← ofExcept ((← get).cpu.load lib build (lib.dump cpuState))
    modify fun s => { s with cpu }
    let _ ← onWorld (writeRam memory ram ramMetadata)

end Machine
end MachEmu
