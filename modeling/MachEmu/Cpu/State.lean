import MachEmu.Cpu
import MachEmu.Utils

/-! The cpu's own part of a saved machine. -/

namespace MachEmu.Intel8080

def uuid : List Byte :=
  [0x3B, 0xE8, 0x4F, 0x1F, 0x9D, 0x7A, 0x4B, 0x70, 0xA5, 0x45, 0xD9, 0xF3, 0x49, 0x12, 0xFC, 0xAD]

/-- `GetState`: the registers, then both bytes of `pc` and of `sp`, high byte first. -/
def getState (self : Intel8080) : List Byte :=
  [self.a, self.b, self.c, self.d, self.e, self.h, self.l, self.status,
    (self.pc >>> 8).setWidth 8, (self.pc &&& 0xFF).setWidth 8, (self.sp >>> 8).setWidth 8, (self.sp &&& 0xFF).setWidth 8]

variable (lib : Libraries) (build : Build)

/-- The printed document. The interrupt flip-flop is not part of it. -/
def print (uuid : String) (self : Intel8080) : String :=
  "\x7b\"uuid\":\"" ++ uuid ++
  "\",\"registers\":\x7b\"a\":" ++ toString self.a.toNat ++ ",\"b\":" ++ toString self.b.toNat ++
  ",\"c\":" ++ toString self.c.toNat ++ ",\"d\":" ++ toString self.d.toNat ++
  ",\"e\":" ++ toString self.e.toNat ++ ",\"h\":" ++ toString self.h.toNat ++
  ",\"l\":" ++ toString self.l.toNat ++ ",\"s\":" ++ toString self.status.toNat ++
  "\x7d,\"pc\":" ++ toString self.pc.toNat ++ ",\"sp\":" ++ toString self.sp.toNat ++ "\x7d"

/-- The string is as long as what `snprintf` writes, the terminating NUL included. -/
def save (self : Intel8080) : Except Fault String := do
  let b64 ← Utils.binToTxt lib build "base64" "none" uuid
  return (print (cStr b64) self).push (Char.ofNat 0)

/-- `json["registers"][name].get<uint8_t>()` -/
def jsonRegister (json : Json) (name : String) : Except Fault Byte := do
  (← (← json.index "registers").index name).getUint 8

/-- Make sure everything exists before the cpu takes it over. -/
def copyOut (json : Json) (self : Intel8080) : Except Fault Intel8080 := do
  let a ← jsonRegister json "a"
  let b ← jsonRegister json "b"
  let c ← jsonRegister json "c"
  let d ← jsonRegister json "d"
  let e ← jsonRegister json "e"
  let h ← jsonRegister json "h"
  let l ← jsonRegister json "l"
  let s ← jsonRegister json "s"
  let pc ← (← json.index "pc").getUint 16
  let sp ← (← json.index "sp").getUint 16
  return { self with a, b, c, d, e, h, l, status := s, pc, sp }

def load (str : String) (self : Intel8080) : Except Fault Intel8080 := do
  let json ← parse lib str
  let jsonUuid ← Utils.txtToBin lib build "base64" "none" 16 (← (← json.index "uuid").getString)
  if jsonUuid ≠ uuid then throw (.exception "Incompatible cpu")
  copyOut json self

end MachEmu.Intel8080
