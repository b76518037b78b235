import MachEmu.Controller

/-! The Intel 8080 emulator: registers, the instruction helpers in the order of
the source, the opcode switch, and the fetch and interrupt logic around it. -/

namespace MachEmu

/-- Bit numbers in the status byte `S Z 0 AC 0 P 1 C`. -/
inductive Condition where
  | carryFlag | parityFlag | auxCarryFlag | zeroFlag | signFlag
deriving DecidableEq, Repr

def Condition.bit : Condition → Nat
  | carryFlag => 0
  | parityFlag => 2
  | auxCarryFlag => 4
  | zeroFlag => 6
  | signFlag => 7

namespace Bits

/-- `std::bitset<8>::test`. -/
def test (r : Byte) (bit : Nat) : Bool := r.getLsbD bit

/-- `std::bitset<8>::operator[](bit) = value`. -/
def assign (r : Byte) (bit : Nat) (value : Bool) : Byte :=
  if value then r ||| 1#8 <<< bit else r &&& ~~~(1#8 <<< bit)

/-- `std::bitset<8>::count`. -/
def count (r : Byte) : Nat := (List.range 8).countP r.getLsbD

end Bits

structure Intel8080 where
  a : Byte := 0
  b : Byte := 0
  c : Byte := 0
  d : Byte := 0
  e : Byte := 0
  h : Byte := 0
  l : Byte := 0
  pc : Word := 0
  sp : Word := 0
  status : Byte := 0b00000010
  iff : Bool := false
  opcode : Byte := 0
deriving DecidableEq, Repr

/-- The registers a helper can be handed by reference. -/
inductive Register where
  | a | b | c | d | e | h | l | status
deriving DecidableEq, Repr

namespace Intel8080

def get (cpu : Intel8080) : Register → Byte
  | .a => cpu.a
  | .b => cpu.b
  | .c => cpu.c
  | .d => cpu.d
  | .e => cpu.e
  | .h => cpu.h
  | .l => cpu.l
  | .status => cpu.status

def set (r : Register) (value : Byte) (cpu : Intel8080) : Intel8080 :=
  match r with
  | .a => { cpu with a := value }
  | .b => { cpu with b := value }
  | .c => { cpu with c := value }
  | .d => { cpu with d := value }
  | .e => { cpu with e := value }
  | .h => { cpu with h := value }
  | .l => { cpu with l := value }
  | .status => { cpu with status := value }

def uint16 (hi low : Byte) : Word := hi.setWidth 16 <<< 8 ||| low.setWidth 16

def parity (r : Byte) : Bool := Bits.count r &&& 1 == 0

def sign (r : Byte) : Bool := Bits.test r 7

def zero (r : Byte) : Bool := r == 0

def test (cpu : Intel8080) (flag : Condition) : Bool := Bits.test cpu.status flag.bit

def assign (flag : Condition) (value : Bool) (cpu : Intel8080) : Intel8080 :=
  { cpu with status := Bits.assign cpu.status flag.bit value }

def hl (cpu : Intel8080) : Word := uint16 cpu.h cpu.l

end Intel8080

/-- Everything an instruction can reach: the cpu, the buses it shares with the
machine, and the world behind the controllers. -/
structure System (ω : Type) where
  cpu : Intel8080 := {}
  bus : SystemBus := {}
  world : ω

/-- The callback the cpu invokes after priming the buses. -/
abbrev Process (ω : Type) := EStateM Fault (SystemBus × ω) Unit

/-- What a cpu is constructed with. -/
structure Wiring (ω : Type) where
  build : Build
  process : Process ω

abbrev CpuM (ω : Type) := ReaderT (Wiring ω) (EStateM Fault (System ω))

namespace Intel8080

variable {ω : Type}

def cpu : CpuM ω Intel8080 := fun _ s => .ok s.cpu s

def modifyCpu (f : Intel8080 → Intel8080) : CpuM ω Unit := fun _ s => .ok () { s with cpu := f s.cpu }

def onBus {α : Type} (f : SystemBus → α × SystemBus) : CpuM ω α := fun _ s =>
  .ok (f s.bus).1 { s with bus := (f s.bus).2 }

/-- `process_`, called with the buses as they are. -/
def process : CpuM ω Unit := fun wiring s =>
  match wiring.process (s.bus, s.world) with
  | .ok _ (bus, world) => .ok () { s with bus, world }
  | .error fault (bus, world) => .error fault { s with bus, world }

/-- `assert(0)`. -/
def assert0 : CpuM ω Unit := do
  if !(← read).build.ndebug then throw .assertion

/-- `++pc_` -/
def incPc : CpuM ω Word := do
  modifyCpu fun cpu => { cpu with pc := cpu.pc + 1 }
  return (← cpu).pc

/-- `pc_++;` as a statement. -/
def nextPc : CpuM ω Unit := modifyCpu fun cpu => { cpu with pc := cpu.pc + 1 }

/-- `sp_++` -/
def postIncSp : CpuM ω Word := do
  let sp := (← cpu).sp
  modifyCpu fun cpu => { cpu with sp := cpu.sp + 1 }
  return sp

/-- `sp_ += 0xFFFF`, followed by reading the pointer. -/
def decSp : CpuM ω Word := do
  modifyCpu fun cpu => { cpu with sp := cpu.sp + 0xFFFF }
  return (← cpu).sp

def setReg (r : Register) (value : Byte) : CpuM ω Unit := modifyCpu (set r value)

def receive : CpuM ω Byte := onBus DataBus.receive

def readFromAddress (readLocation : Signal) (addr : Word) : CpuM ω Unit := do
  onBus fun bus => ((), ControlBus.send readLocation bus)
  onBus fun bus => ((), AddressBus.send addr bus)
  process

def writeToAddress (writeLocation : Signal) (addr : Word) (value : Byte) : CpuM ω Unit := do
  onBus fun bus => ((), ControlBus.send writeLocation bus)
  onBus fun bus => ((), AddressBus.send addr bus)
  onBus fun bus => ((), DataBus.send value bus)
  process

/-- The three argument `Add`: flags, program counter and result, but no destination. -/
def add (lhs rhs : Byte) (carry : Byte) (setCarryFlag : Bool) : CpuM ω Byte := do
  if setCarryFlag then
    modifyCpu (assign .carryFlag (lhs.toNat + rhs.toNat + carry.toNat > 0xFF))
  modifyCpu (assign .auxCarryFlag ((lhs &&& 0x0F).toNat + (rhs &&& 0x0F).toNat + carry.toNat > 0x0F))
  let r := BitVec.ofNat 8 (lhs.toNat + rhs.toNat + carry.toNat)
  modifyCpu (assign .zeroFlag (zero r))
  modifyCpu (assign .signFlag (sign r))
  modifyCpu (assign .parityFlag (parity r))
  nextPc
  return r

def inr (r : Register) : CpuM ω Byte := do
  setReg r (← add ((← cpu).get r) 0x01 0 false)
  return 5

def inrM : CpuM ω Byte := do
  let addr := (← cpu).hl
  readFromAddress .memoryRead addr
  let r ← receive
  let r ← add r 0x01 0 false
  writeToAddress .memoryWrite addr r
  return 10

/-- Using twos complement add for subtraction. -/
def dcr (r : Register) : CpuM ω Byte := do
  setReg r (← add ((← cpu).get r) 0xFF 0 false)
  return 5

def dcrM (addr : Word) : CpuM ω Byte := do
  readFromAddress .memoryRead addr
  let r ← receive
  let r ← add r 0xFF 0 false
  writeToAddress .memoryWrite addr r
  return 10

def mvi (reg : Register) : CpuM ω Byte := do
  readFromAddress .memoryRead (← incPc)
  setReg reg (← receive)
  nextPc
  return 7

def mviM : CpuM ω Byte := do
  readFromAddress .memoryRead (← incPc)
  let data ← receive
  let addr := (← cpu).hl
  writeToAddress .memoryWrite addr data
  nextPc
  return 10

def daa : CpuM ω Byte := do
  let self ← cpu
  let highNibble := self.a >>> 4
  let lowNibble := self.a &&& 0x0F
  let low := decide (lowNibble > 0x09) || self.test .auxCarryFlag
  let high := decide (highNibble > 0x09) || self.test .carryFlag || (decide (highNibble ≥ 9) && decide (lowNibble > 9))
  let adjustment : Byte := (if low then 6 else 0) + (if high then 0x60 else 0)
  if high then modifyCpu (assign .carryFlag true)
  setReg .a (← add self.a adjustment 0 false)
  return 4

def rlc : CpuM ω Byte := do
  modifyCpu fun cpu => assign .carryFlag (Bits.test cpu.a 7) cpu
  modifyCpu fun cpu => { cpu with a := cpu.a <<< 1 }
  modifyCpu fun cpu => { cpu with a := Bits.assign cpu.a 0 (cpu.test .carryFlag) }
  nextPc
  return 4

def rrc : CpuM ω Byte := do
  modifyCpu fun cpu => assign .carryFlag (Bits.test cpu.a 0) cpu
  modifyCpu fun cpu => { cpu with a := cpu.a >>> 1 }
  modifyCpu fun cpu => { cpu with a := Bits.assign cpu.a 7 (cpu.test .carryFlag) }
  nextPc
  return 4

def ral : CpuM ω Byte := do
  let tmp := (← cpu).test .carryFlag
  modifyCpu fun cpu => assign .carryFlag (Bits.test cpu.a 7) cpu
  modifyCpu fun cpu => { cpu with a := cpu.a <<< 1 }
  modifyCpu fun cpu => { cpu with a := Bits.assign cpu.a 0 tmp }
  nextPc
  return 4

def rar : CpuM ω Byte := do
  let tmp := (← cpu).test .carryFlag
  modifyCpu fun cpu => assign .carryFlag (Bits.test cpu.a 0) cpu
  modifyCpu fun cpu => { cpu with a := cpu.a >>> 1 }
  modifyCpu fun cpu => { cpu with a := Bits.assign cpu.a 7 tmp }
  nextPc
  return 4

def lxi (regHi regLow : Register) : CpuM ω Byte := do
  readFromAddress .memoryRead (← incPc)
  setReg regLow (← receive)
  readFromAddress .memoryRead (← incPc)
  setReg regHi (← receive)
  nextPc
  return 10

def lxiSp : CpuM ω Byte := do
  readFromAddress .memoryRead (← incPc)
  let spLow ← receive
  readFromAddress .memoryRead (← incPc)
  let spHi ← receive
  modifyCpu fun cpu => { cpu with sp := uint16 spHi spLow }
  nextPc
  return 10

/-- The two operand bytes after the opcode, low byte first, leaving `pc` at the second. -/
def operandAddress : CpuM ω Word := do
  readFromAddress .memoryRead (← incPc)
  let addrLow ← receive
  readFromAddress .memoryRead (← incPc)
  return uint16 (← receive) addrLow

def shld : CpuM ω Byte := do
  let addr ← operandAddress
  writeToAddress .memoryWrite addr (← cpu).l
  writeToAddress .memoryWrite (addr + 1) (← cpu).h
  nextPc
  return 16

def stax (hi low : Byte) : CpuM ω Byte := do
  writeToAddress .memoryWrite (uint16 hi low) (← cpu).a
  nextPc
  return 7

def inx (hi low : Register) : CpuM ω Byte := do
  let self ← cpu
  let val := uint16 (self.get hi) (self.get low) + 1
  setReg hi ((val >>> 8).setWidth 8)
  setReg low (val.setWidth 8)
  nextPc
  return 5

def inxSp : CpuM ω Byte := do
  modifyCpu fun cpu => { cpu with sp := cpu.sp + 1 }
  nextPc
  return 5

def dad (hi low : Byte) : CpuM ω Byte := do
  let val := (uint16 hi low).setWidth 32 + (← cpu).hl.setWidth 32
  setReg .h ((val >>> 8).setWidth 8)
  setReg .l (val.setWidth 8)
  modifyCpu (assign .carryFlag (val > 0xFFFF))
  nextPc
  return 10

def dadSp : CpuM ω Byte := do
  let sp := (← cpu).sp
  dad ((sp >>> 8).setWidth 8) (sp.setWidth 8)

def lhld : CpuM ω Byte := do
  let addr ← operandAddress
  readFromAddress .memoryRead addr
  setReg .l (← receive)
  readFromAddress .memoryRead (addr + 1)
  setReg .h (← receive)
  nextPc
  return 16

def ldax (hi low : Byte) : CpuM ω Byte := do
  readFromAddress .memoryRead (uint16 hi low)
  setReg .a (← receive)
  nextPc
  return 7

def dcx (hi low : Register) : CpuM ω Byte := do
  let self ← cpu
  let val := uint16 (self.get hi) (self.get low) + 0xFFFF
  setReg hi ((val >>> 8).setWidth 8)
  setReg low (val.setWidth 8)
  nextPc
  return 5

def dcxSp : CpuM ω Byte := do
  modifyCpu fun cpu => { cpu with sp := cpu.sp + 0xFFFF }
  nextPc
  return 5

def cma : CpuM ω Byte := do
  modifyCpu fun cpu => { cpu with a := ~~~cpu.a }
  nextPc
  return 4

def sta : CpuM ω Byte := do
  let addr ← operandAddress
  writeToAddress .memoryWrite addr (← cpu).a
  nextPc
  return 13

def stc : CpuM ω Byte := do
  modifyCpu (assign .carryFlag true)
  nextPc
  return 4

def lda : CpuM ω Byte := do
  let addr ← operandAddress
  readFromAddress .memoryRead addr
  setReg .a (← receive)
  nextPc
  return 13

def cmc : CpuM ω Byte := do
  modifyCpu fun cpu => assign .carryFlag (!cpu.test .carryFlag) cpu
  nextPc
  return 4

def mov (lhs rhs : Register) : CpuM ω Byte := do
  setReg lhs ((← cpu).get rhs)
  nextPc
  return 5

def movFromM (lhs : Register) : CpuM ω Byte := do
  readFromAddress .memoryRead (← cpu).hl
  setReg lhs (← receive)
  nextPc
  return 7

def movToM (value : Byte) : CpuM ω Byte := do
  writeToAddress .memoryWrite (← cpu).hl value
  nextPc
  return 7

def nop : CpuM ω Byte := do
  nextPc
  return 4

def hlt : CpuM ω Byte := do
  assert0
  nextPc
  return 7

def addR (r : Register) : CpuM ω Byte := do
  let self ← cpu
  setReg .a (← add self.a (self.get r) 0 true)
  return 4

def addM (addr : Word) : CpuM ω Byte := do
  readFromAddress .memoryRead addr
  setReg .a (← add (← cpu).a (← receive) 0 true)
  return 7

/-- A `bool` passed where a `uint8_t` is expected. -/
def carryValue (carry : Bool) : Byte := if carry then 1 else 0

def adcR (r : Register) : CpuM ω Byte := do
  let self ← cpu
  setReg .a (← add self.a (self.get r) (carryValue (self.test .carryFlag)) true)
  return 4

def adcM (addr : Word) : CpuM ω Byte := do
  readFromAddress .memoryRead addr
  let self ← cpu
  setReg .a (← add self.a (← receive) (carryValue (self.test .carryFlag)) true)
  return 7

/-- The `Sub` the other subtractions share: adds the complement and inverts the carry. -/
def sub (r : Byte) (withCarry : Byte) : CpuM ω Byte := do
  let reg ← add (← cpu).a (~~~r) (carryValue (withCarry == 0)) true
  modifyCpu fun cpu => assign .carryFlag (!cpu.test .carryFlag) cpu
  return reg

def subR (r : Register) : CpuM ω Byte := do
  setReg .a (← sub ((← cpu).get r) 0)
  return 4

def subM (addr : Word) : CpuM ω Byte := do
  readFromAddress .memoryRead addr
  setReg .a (← sub (← receive) 0)
  return 7

def sbbR (r : Register) : CpuM ω Byte := do
  let self ← cpu
  setReg .a (← sub (self.get r) (carryValue (self.test .carryFlag)))
  return 4

def sbbM (addr : Word) : CpuM ω Byte := do
  readFromAddress .memoryRead addr
  let r ← receive
  setReg .a (← sub r (carryValue ((← cpu).test .carryFlag)))
  return 7

/-- The flag updates `Ana`, `Xra` and `Ora` end with. -/
def logicFlags : CpuM ω Unit := do
  modifyCpu (assign .carryFlag false)
  modifyCpu fun cpu => assign .zeroFlag (zero cpu.a) cpu
  modifyCpu fun cpu => assign .signFlag (sign cpu.a) cpu
  modifyCpu fun cpu => assign .parityFlag (parity cpu.a) cpu
  nextPc

def ana (r : Byte) : CpuM ω Unit := do
  modifyCpu fun cpu => assign .auxCarryFlag ((cpu.a ||| r) &&& 0x08 != 0) cpu
  modifyCpu fun cpu => { cpu with a := cpu.a &&& r }
  logicFlags

def anaR (r : Register) : CpuM ω Byte := do
  ana ((← cpu).get r)
  return 4

def anaM (addr : Word) : CpuM ω Byte := do
  readFromAddress .memoryRead addr
  ana (← receive)
  return 7

def xra (r : Byte) : CpuM ω Unit := do
  modifyCpu fun cpu => { cpu with a := cpu.a ^^^ r }
  modifyCpu (assign .auxCarryFlag false)
  logicFlags

def xraR (r : Register) : CpuM ω Byte := do
  xra ((← cpu).get r)
  return 4

def xraM (addr : Word) : CpuM ω Byte := do
  readFromAddress .memoryRead addr
  xra (← receive)
  return 7

def ora (r : Byte) : CpuM ω Unit := do
  modifyCpu fun cpu => { cpu with a := cpu.a ||| r }
  modifyCpu (assign .auxCarryFlag false)
  logicFlags

def oraR (r : Register) : CpuM ω Byte := do
  ora ((← cpu).get r)
  return 4

def oraM (addr : Word) : CpuM ω Byte := do
  readFromAddress .memoryRead addr
  ora (← receive)
  return 7

def cmpR (r : Register) : CpuM ω Byte := do
  let _ ← sub ((← cpu).get r) 0
  return 4

def cmpM (addr : Word) : CpuM ω Byte := do
  readFromAddress .memoryRead addr
  let r ← receive
  let _ ← sub r 0
  return 7

def notImplemented : CpuM ω Byte := do
  let opcode := (← cpu).opcode
  if opcode == 0xED || opcode == 0xFD || opcode == 0xDD then
    nextPc
  else
    assert0
  nextPc
  return 0

def retOnFlag (status : Bool) (instructionName : String) : CpuM ω Byte := do
  nextPc
  if status then
    readFromAddress .memoryRead (← postIncSp)
    let pcLow ← receive
    readFromAddress .memoryRead (← postIncSp)
    let pcHi ← receive
    modifyCpu fun cpu => { cpu with pc := uint16 pcHi pcLow }
    return if instructionName == "RET" then 10 else 11
  else
    return 5

def pop (hi low : Register) : CpuM ω Byte := do
  readFromAddress .memoryRead (← postIncSp)
  setReg low (← receive)
  readFromAddress .memoryRead (← postIncSp)
  setReg hi (← receive)
  nextPc
  return 10

def jmpOnFlag (status : Bool) : CpuM ω Byte := do
  let addr ← operandAddress
  if status then modifyCpu fun cpu => { cpu with pc := addr } else nextPc
  return 10

/-- Push the program counter, high byte first, and continue at `addr`. -/
def pushPcAndJump (addr : Word) : CpuM ω Unit := do
  writeToAddress .memoryWrite (← decSp) (((← cpu).pc >>> 8).setWidth 8)
  writeToAddress .memoryWrite (← decSp) ((← cpu).pc.setWidth 8)
  modifyCpu fun cpu => { cpu with pc := addr }

def callOnFlag (status : Bool) : CpuM ω Byte := do
  let addr ← operandAddress
  nextPc
  if status then
    pushPcAndJump addr
    return 17
  else
    return 11

def push (hi low : Register) : CpuM ω Byte := do
  writeToAddress .memoryWrite (← decSp) ((← cpu).get hi)
  writeToAddress .memoryWrite (← decSp) ((← cpu).get low)
  nextPc
  return 11

/-- `Rst(uint8_t)`, the entry of an acknowledged interrupt. -/
def rstInterrupt (restart : Byte) : CpuM ω Byte := do
  pushPcAndJump ((restart &&& 0x38).setWidth 16)
  return 11

/-- `Rst()`, the instruction: the address of the next one is pushed. -/
def rst : CpuM ω Byte := do
  let addr := ((← cpu).opcode &&& 0x38).setWidth 16
  nextPc
  pushPcAndJump addr
  return 11

def out : CpuM ω Byte := do
  readFromAddress .memoryRead (← incPc)
  let out ← receive
  writeToAddress .ioWrite (out.setWidth 16) (← cpu).a
  nextPc
  return 10

def in_ : CpuM ω Byte := do
  readFromAddress .memoryRead (← incPc)
  let port ← receive
  readFromAddress .ioRead (port.setWidth 16)
  setReg .a (← receive)
  nextPc
  return 10

def xthl : CpuM ω Byte := do
  readFromAddress .memoryRead (← cpu).sp
  let spl ← receive
  readFromAddress .memoryRead ((← cpu).sp + 1)
  let sph ← receive
  let self ← cpu
  setReg .l spl
  setReg .h sph
  writeToAddress .memoryWrite (← cpu).sp self.l
  writeToAddress .memoryWrite ((← cpu).sp + 1) self.h
  nextPc
  return 18

def pchl : CpuM ω Byte := do
  modifyCpu fun cpu => { cpu with pc := cpu.hl }
  return 5

def xchg : CpuM ω Byte := do
  modifyCpu fun cpu => { cpu with h := cpu.d, d := cpu.h }
  modifyCpu fun cpu => { cpu with l := cpu.e, e := cpu.l }
  nextPc
  return 4

def di : CpuM ω Byte := do
  modifyCpu fun cpu => { cpu with iff := false }
  nextPc
  return 4

def sphl : CpuM ω Byte := do
  modifyCpu fun cpu => { cpu with sp := cpu.hl }
  nextPc
  return 5

def ei : CpuM ω Byte := do
  modifyCpu fun cpu => { cpu with iff := true }
  nextPc
  return 4

def fetch : CpuM ω Unit := do
  readFromAddress .memoryRead (← cpu).pc
  let opcode ← receive
  modifyCpu fun cpu => { cpu with opcode }

/-- The `switch` of `Execute`, with the registers as they are after the fetch. -/
def switch (self : Intel8080) : CpuM ω Byte :=
  match self.opcode.toNat with
  | 0x00 => nop
  | 0x01 => lxi .b .c
  | 0x02 => stax self.b self.c
  | 0x03 => inx .b .c
  | 0x04 => inr .b
  | 0x05 => dcr .b
  | 0x06 => mvi .b
  | 0x07 => rlc
  | 0x08 => notImplemented
  | 0x09 => dad self.b self.c
  | 0x0A => ldax self.b self.c
  | 0x0B => dcx .b .c
  | 0x0C => inr .c
  | 0x0D => dcr .c
  | 0x0E => mvi .c
  | 0x0F => rrc
  | 0x10 => notImplemented
  | 0x11 => lxi .d .e
  | 0x12 => stax self.d self.e
  | 0x13 => inx .d .e
  | 0x14 => inr .d
  | 0x15 => dcr .d
  | 0x16 => mvi .d
  | 0x17 => ral
  | 0x18 => notImplemented
  | 0x19 => dad self.d self.e
  | 0x1A => ldax self.d self.e
  | 0x1B => dcx .d .e
  | 0x1C => inr .e
  | 0x1D => dcr .e
  | 0x1E => mvi .e
  | 0x1F => rar
  | 0x20 => notImplemented
  | 0x21 => lxi .h .l
  | 0x22 => shld
  | 0x23 => inx .h .l
  | 0x24 => inr .h
  | 0x25 => dcr .h
  | 0x26 => mvi .h
  | 0x27 => daa
  | 0x28 => notImplemented
  | 0x29 => dad self.h self.l
  | 0x2A => lhld
  | 0x2B => dcx .h .l
  | 0x2C => inr .l
  | 0x2D => dcr .l
  | 0x2E => mvi .l
  | 0x2F => cma
  | 0x30 => notImplemented
  | 0x31 => lxiSp
  | 0x32 => sta
  | 0x33 => inxSp
  | 0x34 => inrM
  | 0x35 => dcrM self.hl
  | 0x36 => mviM
  | 0x37 => stc
  | 0x38 => notImplemented
  | 0x39 => dadSp
  | 0x3A => lda
  | 0x3B => dcxSp
  | 0x3C => inr .a
  | 0x3D => dcr .a
  | 0x3E => mvi .a
  | 0x3F => cmc
  | 0x40 => nop
  | 0x41 => mov .b .c
  | 0x42 => mov .b .d
  | 0x43 => mov .b .e
  | 0x44 => mov .b .h
  | 0x45 => mov .b .l
  | 0x46 => movFromM .b
  | 0x47 => mov .b .a
  | 0x48 => mov .c .b
  | 0x49 => nop
  | 0x4A => mov .c .d
  | 0x4B => mov .c .e
  | 0x4C => mov .c .h
  | 0x4D => mov .c .l
  | 0x4E => movFromM .c
  | 0x4F => mov .c .a
  | 0x50 => mov .d .b
  | 0x51 => mov .d .c
  | 0x52 => nop
  | 0x53 => mov .d .e
  | 0x54 => mov .d .h
  | 0x55 => mov .d .l
  | 0x56 => movFromM .d
  | 0x57 => mov .d .a
  | 0x58 => mov .e .b
  | 0x59 => mov .e .c
  | 0x5A => mov .e .d
  | 0x5B => nop
  | 0x5C => mov .e .h
  | 0x5D => mov .e .l
  | 0x5E => movFromM .e
  | 0x5F => mov .e .a
  | 0x60 => mov .h .b
  | 0x61 => mov .h .c
  | 0x62 => mov .h .d
  | 0x63 => mov .h .e
  | 0x64 => nop
  | 0x65 => mov .h .l
  | 0x66 => movFromM .h
  | 0x67 => mov .h .a
  | 0x68 => mov .l .b
  | 0x69 => mov .l .c
  | 0x6A => mov .l .d
  | 0x6B => mov .l .e
  | 0x6C => mov .l .h
  | 0x6D => nop
  | 0x6E => movFromM .l
  | 0x6F => mov .l .a
  | 0x70 => movToM self.b
  | 0x71 => movToM self.c
  | 0x72 => movToM self.d
  | 0x73 => movToM self.e
  | 0x74 => movToM self.h
  | 0x75 => movToM self.l
  | 0x76 => hlt
  | 0x77 => movToM self.a
  | 0x78 => mov .a .b
  | 0x79 => mov .a .c
  | 0x7A => mov .a .d
  | 0x7B => mov .a .e
  | 0x7C => mov .a .h
  | 0x7D => mov .a .l
  | 0x7E => movFromM .a
  | 0x7F => nop
  | 0x80 => addR .b
  | 0x81 => addR .c
  | 0x82 => addR .d
  | 0x83 => addR .e
  | 0x84 => addR .h
  | 0x85 => addR .l
  | 0x86 => addM self.hl
  | 0x87 => addR .a
  | 0x88 => adcR .b
  | 0x89 => adcR .c
  | 0x8A => adcR .d
  | 0x8B => adcR .e
  | 0x8C => adcR .h
  | 0x8D => adcR .l
  | 0x8E => adcM self.hl
  | 0x8F => adcR .a
  | 0x90 => subR .b
  | 0x91 => subR .c
  | 0x92 => subR .d
  | 0x93 => subR .e
  | 0x94 => subR .h
  | 0x95 => subR .l
  | 0x96 => subM self.hl
  | 0x97 => subR .a
  | 0x98 => sbbR .b
  | 0x99 => sbbR .c
  | 0x9A => sbbR .d
  | 0x9B => sbbR .e
  | 0x9C => sbbR .h
  | 0x9D => sbbR .l
  | 0x9E => sbbM self.hl
  | 0x9F => sbbR .a
  | 0xA0 => anaR .b
  | 0xA1 => anaR .c
  | 0xA2 => anaR .d
  | 0xA3 => anaR .e
  | 0xA4 => anaR .h
  | 0xA5 => anaR .l
  | 0xA6 => anaM self.hl
  | 0xA7 => anaR .a
  | 0xA8 => xraR .b
  | 0xA9 => xraR .c
  | 0xAA => xraR .d
  | 0xAB => xraR .e
  | 0xAC => xraR .h
  | 0xAD => xraR .l
  | 0xAE => xraM self.hl
  | 0xAF => xraR .a
  | 0xB0 => oraR .b
  | 0xB1 => oraR .c
  | 0xB2 => oraR .d
  | 0xB3 => oraR .e
  | 0xB4 => oraR .h
  | 0xB5 => oraR .l
  | 0xB6 => oraM self.hl
  | 0xB7 => oraR .a
  | 0xB8 => cmpR .b
  | 0xB9 => cmpR .c
  | 0xBA => cmpR .d
  | 0xBB => cmpR .e
  | 0xBC => cmpR .h
  | 0xBD => cmpR .l
  | 0xBE => cmpM self.hl
  | 0xBF => cmpR .a
  | 0xC0 => retOnFlag (self.test .zeroFlag == false) "RNZ"
  | 0xC1 => pop .b .c
  | 0xC2 => jmpOnFlag (self.test .zeroFlag == false)
  | 0xC3 => jmpOnFlag true
  | 0xC4 => callOnFlag (self.test .zeroFlag == false)
  | 0xC5 => push .b .c
  | 0xC6 => do addM (← incPc)
  | 0xC7 => rst
  | 0xC8 => retOnFlag (self.test .zeroFlag == true) "RZ"
  | 0xC9 => retOnFlag true "RET"
  | 0xCA => jmpOnFlag (self.test .zeroFlag == true)
  | 0xCB => notImplemented
  | 0xCC => callOnFlag (self.test .zeroFlag == true)
  | 0xCD => callOnFlag true
  | 0xCE => do adcM (← incPc)
  | 0xCF => rst
  | 0xD0 => retOnFlag (self.test .carryFlag == false) "RNC"
  | 0xD1 => pop .d .e
  | 0xD2 => jmpOnFlag (self.test .carryFlag == false)
  | 0xD3 => out
  | 0xD4 => callOnFlag (self.test .carryFlag == false)
  | 0xD5 => push .d .e
  | 0xD6 => do subM (← incPc)
  | 0xD7 => rst
  | 0xD8 => retOnFlag (self.test .carryFlag == true) "RC"
  | 0xD9 => notImplemented
  | 0xDA => jmpOnFlag (self.test .carryFlag == true)
  | 0xDB => in_
  | 0xDC => callOnFlag (self.test .carryFlag == true)
  | 0xDD => notImplemented
  | 0xDE => do sbbM (← incPc)
  | 0xDF => rst
  | 0xE0 => retOnFlag (self.test .parityFlag == false) "RPO"
  | 0xE1 => pop .h .l
  | 0xE2 => jmpOnFlag (self.test .parityFlag == false)
  | 0xE3 => xthl
  | 0xE4 => callOnFlag (self.test .parityFlag == false)
  | 0xE5 => push .h .l
  | 0xE6 => do anaM (← incPc)
  | 0xE7 => rst
  | 0xE8 => retOnFlag (self.test .parityFlag == true) "RPE"
  | 0xE9 => pchl
  | 0xEA => jmpOnFlag (self.test .parityFlag == true)
  | 0xEB => xchg
  | 0xEC => callOnFlag (self.test .parityFlag == true)
  | 0xED => notImplemented
  | 0xEE => do xraM (← incPc)
  | 0xEF => rst
  | 0xF0 => retOnFlag (self.test .signFlag == false) "RP"
  | 0xF1 => do
    let timePeriods ← pop .a .status
    modifyCpu fun cpu => { cpu with status := cpu.status &&& 0xD7 ||| 0x02 }
    return timePeriods
  | 0xF2 => jmpOnFlag (self.test .signFlag == false)
  | 0xF3 => di
  | 0xF4 => callOnFlag (self.test .signFlag == false)
  | 0xF5 => push .a .status
  | 0xF6 => do oraM (← incPc)
  | 0xF7 => rst
  | 0xF8 => retOnFlag (self.test .signFlag == true) "RM"
  | 0xF9 => sphl
  | 0xFA => jmpOnFlag (self.test .signFlag == true)
  | 0xFB => ei
  | 0xFC => callOnFlag (self.test .signFlag == true)
  | 0xFD => notImplemented
  | 0xFE => do cmpM (← incPc)
  | 0xFF => rst
  | _ => do
    assert0
    return 0

/-- Acknowledge a pending interrupt when the flip-flop is set, else fetch and run the next instruction. -/
def execute : CpuM ω Byte := do
  let pending ← onBus (ControlBus.receive .interrupt)
  let isr ← if pending then acknowledge else pure none
  match isr with
  | none =>
    fetch
    switch (← cpu)
  | some isr =>
    modifyCpu fun cpu => { cpu with opcode := 0xC7 ||| isr <<< 3 }
    rstInterrupt (← cpu).opcode
where
  -- The interrupt number leaves the data bus even when interrupts are disabled.
  acknowledge : CpuM ω (Option Byte) := do
    let interrupt ← receive
    if (← cpu).iff then
      modifyCpu fun cpu => { cpu with iff := false }
      return some interrupt
    else
      return none

/-- Powers on the cpu. -/
def reset (pc : Word) (cpu : Intel8080) : Intel8080 :=
  { a := 0, b := 0, c := 0, d := 0, e := 0, h := 0, l := 0,
    pc := pc, sp := 0, status := 0b00000010, iff := false, opcode := cpu.opcode }

end Intel8080
end MachEmu
