import Mathlib.Logic.Function.Basic

/-! The 8080 instruction set, decoded through the bit fields of the opcode. The
semantics is independent of any implementation: a state, a decoder, and the
effect of each instruction over an arbitrary io device. -/

namespace Isa8080

abbrev Byte := BitVec 8

abbrev Word := BitVec 16

structure Flags where
  s : Bool
  z : Bool
  ac : Bool
  p : Bool
  cy : Bool
deriving DecidableEq, Repr

namespace Flags

/-- The flag byte `S Z 0 AC 0 P 1 C` stored by `PUSH PSW`. -/
def toByte (flags : Flags) : Byte :=
  BitVec.ofBool flags.s ++ BitVec.ofBool flags.z ++ 0#1 ++ BitVec.ofBool flags.ac ++ 0#1 ++
    BitVec.ofBool flags.p ++ 1#1 ++ BitVec.ofBool flags.cy

/-- `POP PSW` ignores the three fixed bits. -/
def ofByte (byte : Byte) : Flags where
  s := byte.getLsbD 7
  z := byte.getLsbD 6
  ac := byte.getLsbD 4
  p := byte.getLsbD 2
  cy := byte.getLsbD 0

end Flags

/-- Even parity: the bits of the result sum to zero modulo two. -/
def parity (x : Byte) : Bool :=
  !(x.getLsbD 0 ^^ x.getLsbD 1 ^^ x.getLsbD 2 ^^ x.getLsbD 3 ^^
    x.getLsbD 4 ^^ x.getLsbD 5 ^^ x.getLsbD 6 ^^ x.getLsbD 7)

/-- Sign, zero and parity are those of the result. -/
def Flags.ofResult (result : Byte) (ac cy : Bool) : Flags where
  s := result.msb
  z := result == 0
  ac := ac
  p := parity result
  cy := cy

/-- An io device with state `δ`, addressed by port number. -/
structure Device (δ : Type) where
  input : Byte → δ → Byte × δ
  output : Byte → Byte → δ → δ

structure State (δ : Type) where
  b : Byte
  c : Byte
  d : Byte
  e : Byte
  h : Byte
  l : Byte
  a : Byte
  flags : Flags
  pc : Word
  sp : Word
  inte : Bool
  mem : Word → Byte
  device : δ

/-- The 3-bit register field: `110` is the memory byte addressed by HL. -/
inductive Operand where
  | b | c | d | e | h | l | m | a
deriving DecidableEq, Repr

def Operand.ofField (field : BitVec 3) : Operand :=
  match field with
  | 0b000#3 => b
  | 0b001#3 => c
  | 0b010#3 => d
  | 0b011#3 => e
  | 0b100#3 => h
  | 0b101#3 => l
  | 0b110#3 => m
  | 0b111#3 => a

/-- The 2-bit register pair field. The fourth pair is SP, except that PUSH and
POP transfer the program status word. -/
inductive Pair where
  | bc | de | hl | fourth
deriving DecidableEq, Repr

def Pair.ofField (field : BitVec 2) : Pair :=
  match field with
  | 0b00#2 => bc
  | 0b01#2 => de
  | 0b10#2 => hl
  | 0b11#2 => fourth

inductive Alu where
  | add | adc | sub | sbb | ana | xra | ora | cmp
deriving DecidableEq, Repr

def Alu.ofField (field : BitVec 3) : Alu :=
  match field with
  | 0b000#3 => add
  | 0b001#3 => adc
  | 0b010#3 => sub
  | 0b011#3 => sbb
  | 0b100#3 => ana
  | 0b101#3 => xra
  | 0b110#3 => ora
  | 0b111#3 => cmp

/-- A condition: a flag and the value it is required to have. -/
inductive Cond where
  | nz | z | nc | c | po | pe | p | m
deriving DecidableEq, Repr

def Cond.ofField (field : BitVec 3) : Cond :=
  match field with
  | 0b000#3 => nz
  | 0b001#3 => z
  | 0b010#3 => nc
  | 0b011#3 => c
  | 0b100#3 => po
  | 0b101#3 => pe
  | 0b110#3 => p
  | 0b111#3 => m

def Cond.holds (cond : Cond) (flags : Flags) : Bool :=
  match cond with
  | nz => !flags.z
  | z => flags.z
  | nc => !flags.cy
  | c => flags.cy
  | po => !flags.p
  | pe => flags.p
  | p => !flags.s
  | m => flags.s

inductive Instr where
  | nop
  | lxi (rp : Pair)
  | dad (rp : Pair)
  | stax (rp : Pair)
  | ldax (rp : Pair)
  | shld | lhld | sta | lda
  | inx (rp : Pair)
  | dcx (rp : Pair)
  | inr (r : Operand)
  | dcr (r : Operand)
  | mvi (r : Operand)
  | rlc | rrc | ral | rar | daa | cma | stc | cmc
  | mov (dst src : Operand)
  | hlt
  | alu (op : Alu) (r : Operand)
  | aluImm (op : Alu)
  | ret | retIf (cond : Cond)
  | jmp | jmpIf (cond : Cond)
  | call | callIf (cond : Cond)
  | push (rp : Pair)
  | pop (rp : Pair)
  | rst (n : BitVec 3)
  | out | in
  | xthl | pchl | sphl | xchg | di | ei
deriving DecidableEq, Repr

/-- Decode `xx yyy zzz`. The twelve encodings the manual leaves unassigned have no instruction. -/
def decode (opcode : Byte) : Option Instr :=
  let y := opcode.extractLsb' 3 3
  let rp := Pair.ofField (opcode.extractLsb' 4 2)
  match opcode.extractLsb' 6 2, opcode.extractLsb' 3 1, opcode.extractLsb' 0 3 with
  | 0b00#2, _, 0b000#3 => if y = 0 then some .nop else none
  | 0b00#2, 0#1, 0b001#3 => some (.lxi rp)
  | 0b00#2, 1#1, 0b001#3 => some (.dad rp)
  | 0b00#2, _, 0b010#3 =>
    match y with
    | 0b000#3 | 0b010#3 => some (.stax rp)
    | 0b001#3 | 0b011#3 => some (.ldax rp)
    | 0b100#3 => some .shld
    | 0b101#3 => some .lhld
    | 0b110#3 => some .sta
    | 0b111#3 => some .lda
  | 0b00#2, 0#1, 0b011#3 => some (.inx rp)
  | 0b00#2, 1#1, 0b011#3 => some (.dcx rp)
  | 0b00#2, _, 0b100#3 => some (.inr (.ofField y))
  | 0b00#2, _, 0b101#3 => some (.dcr (.ofField y))
  | 0b00#2, _, 0b110#3 => some (.mvi (.ofField y))
  | 0b00#2, _, 0b111#3 =>
    match y with
    | 0b000#3 => some .rlc
    | 0b001#3 => some .rrc
    | 0b010#3 => some .ral
    | 0b011#3 => some .rar
    | 0b100#3 => some .daa
    | 0b101#3 => some .cma
    | 0b110#3 => some .stc
    | 0b111#3 => some .cmc
  | 0b01#2, _, z =>
    match Operand.ofField y, Operand.ofField z with
    | .m, .m => some .hlt
    | dst, src => some (.mov dst src)
  | 0b10#2, _, z => some (.alu (.ofField y) (.ofField z))
  | 0b11#2, _, 0b000#3 => some (.retIf (.ofField y))
  | 0b11#2, 0#1, 0b001#3 => some (.pop rp)
  | 0b11#2, 1#1, 0b001#3 =>
    match rp with
    | .bc => some .ret
    | .de => none
    | .hl => some .pchl
    | .fourth => some .sphl
  | 0b11#2, _, 0b010#3 => some (.jmpIf (.ofField y))
  | 0b11#2, _, 0b011#3 =>
    match y with
    | 0b000#3 => some .jmp
    | 0b001#3 => none
    | 0b010#3 => some .out
    | 0b011#3 => some .in
    | 0b100#3 => some .xthl
    | 0b101#3 => some .xchg
    | 0b110#3 => some .di
    | 0b111#3 => some .ei
  | 0b11#2, _, 0b100#3 => some (.callIf (.ofField y))
  | 0b11#2, 0#1, 0b101#3 => some (.push rp)
  | 0b11#2, 1#1, 0b101#3 => if rp = .bc then some .call else none
  | 0b11#2, _, 0b110#3 => some (.aluImm (.ofField y))
  | 0b11#2, _, 0b111#3 => some (.rst y)

/-- The clock periods of an instruction. A transfer to or from memory waits for the memory;
calls and returns wait for the stack, if their condition holds. -/
def clockPeriods (flags : Flags) : Instr → Nat
  | .mov dst src => if dst = .m ∨ src = .m then 7 else 5
  | .mvi r => if r = .m then 10 else 7
  | .inr r | .dcr r => if r = .m then 10 else 5
  | .alu _ r => if r = .m then 7 else 4
  | .aluImm _ | .ldax _ | .stax _ | .hlt => 7
  | .lxi _ | .dad _ | .pop _ | .ret | .jmp | .jmpIf _ | .in | .out => 10
  | .retIf cond => if cond.holds flags then 11 else 5
  | .call => 17
  | .callIf cond => if cond.holds flags then 17 else 11
  | .push _ | .rst _ => 11
  | .lda | .sta => 13
  | .lhld | .shld => 16
  | .xthl => 18
  | .inx _ | .dcx _ | .pchl | .sphl => 5
  | .nop | .rlc | .rrc | .ral | .rar | .daa | .cma | .stc | .cmc | .xchg | .di | .ei => 4

/-- The clock periods of the entry of an interrupt, which is a restart. -/
def interruptPeriods : Nat := 11

namespace State

variable {δ : Type} (s : State δ)

def hl : Word := s.h ++ s.l

def get (r : Operand) : Byte :=
  match r with
  | .b => s.b
  | .c => s.c
  | .d => s.d
  | .e => s.e
  | .h => s.h
  | .l => s.l
  | .m => s.mem s.hl
  | .a => s.a

def store (addr : Word) (value : Byte) : State δ := { s with mem := Function.update s.mem addr value }

def set (r : Operand) (value : Byte) : State δ :=
  match r with
  | .b => { s with b := value }
  | .c => { s with c := value }
  | .d => { s with d := value }
  | .e => { s with e := value }
  | .h => { s with h := value }
  | .l => { s with l := value }
  | .m => s.store s.hl value
  | .a => { s with a := value }

def getPair (rp : Pair) : Word :=
  match rp with
  | .bc => s.b ++ s.c
  | .de => s.d ++ s.e
  | .hl => s.hl
  | .fourth => s.sp

def setPair (rp : Pair) (value : Word) : State δ :=
  let hi := value.extractLsb' 8 8
  let lo := value.extractLsb' 0 8
  match rp with
  | .bc => { s with b := hi, c := lo }
  | .de => { s with d := hi, e := lo }
  | .hl => { s with h := hi, l := lo }
  | .fourth => { s with sp := value }

/-- The pair as PUSH reads it: the fourth is the accumulator over the flag byte. -/
def getPushed (rp : Pair) : Word :=
  match rp with
  | .fourth => s.a ++ s.flags.toByte
  | rp => s.getPair rp

def setPopped (rp : Pair) (value : Word) : State δ :=
  match rp with
  | .fourth => { s with a := value.extractLsb' 8 8, flags := Flags.ofByte (value.extractLsb' 0 8) }
  | rp => s.setPair rp value

/-- Continue `n` bytes further on. -/
def next (n : Word) : State δ := { s with pc := s.pc + n }

def imm8 : Byte := s.mem (s.pc + 1)

def imm16 : Word := s.mem (s.pc + 2) ++ s.mem (s.pc + 1)

/-- The high byte goes to `sp - 1`, the low byte to `sp - 2`. -/
def pushWord (value : Word) : State δ :=
  { (s.store (s.sp - 1) (value.extractLsb' 8 8)).store (s.sp - 2) (value.extractLsb' 0 8) with sp := s.sp - 2 }

def poppedWord : Word := s.mem (s.sp + 1) ++ s.mem s.sp

def alu (op : Alu) (y : Byte) : State δ :=
  let x := s.a
  let cy := s.flags.cy
  let additive (carry : Bool) : State δ :=
    let result := x + y + (BitVec.ofBool carry).setWidth 8
    { s with a := result, flags := .ofResult result (BitVec.carry 4 x y carry) (BitVec.carry 8 x y carry) }
  -- AC is the carry of the complement addition, CY the borrow of the subtraction.
  let difference (borrow : Bool) : Byte × Flags :=
    let result := x - y - (BitVec.ofBool borrow).setWidth 8
    (result, .ofResult result (BitVec.carry 4 x (~~~y) (!borrow)) (decide (x.toNat < y.toNat + borrow.toNat)))
  match op with
  | .add => additive false
  | .adc => additive cy
  | .sub => { s with a := (difference false).1, flags := (difference false).2 }
  | .sbb => { s with a := (difference cy).1, flags := (difference cy).2 }
  | .ana => { s with a := x &&& y, flags := .ofResult (x &&& y) (x.getLsbD 3 || y.getLsbD 3) false }
  | .xra => { s with a := x ^^^ y, flags := .ofResult (x ^^^ y) false false }
  | .ora => { s with a := x ||| y, flags := .ofResult (x ||| y) false false }
  | .cmp => { s with flags := (difference false).2 }

/-- Decimal adjust: first the low digit, then the high digit as it is after that. -/
def daa : State δ :=
  let low := s.a.extractLsb' 0 4
  let adjustLow := decide (9 < low.toNat) || s.flags.ac
  let carried := if adjustLow then s.a.toNat + 6 else s.a.toNat
  let adjustHigh := decide (9 < carried / 16) || s.flags.cy
  let adjustment : Byte := (if adjustLow then 0x06 else 0) + (if adjustHigh then 0x60 else 0)
  let result := s.a + adjustment
  { s with a := result, flags := .ofResult result (BitVec.carry 4 s.a adjustment false) adjustHigh }

end State

open State in
/-- One instruction. Every instruction first steps over its own bytes; transfers then replace `pc`. -/
def exec {δ : Type} (device : Device δ) (instr : Instr) (s : State δ) : State δ :=
  match instr with
  | .nop => s.next 1
  | .lxi rp => (s.setPair rp s.imm16).next 3
  | .dad rp =>
    let sum := s.hl + s.getPair rp
    ({ s.setPair .hl sum with flags := { s.flags with cy := BitVec.carry 16 s.hl (s.getPair rp) false } }).next 1
  | .stax rp => (s.store (s.getPair rp) s.a).next 1
  | .ldax rp => ({ s with a := s.mem (s.getPair rp) }).next 1
  | .shld => ((s.store s.imm16 s.l).store (s.imm16 + 1) s.h).next 3
  | .lhld => ({ s with l := s.mem s.imm16, h := s.mem (s.imm16 + 1) }).next 3
  | .sta => (s.store s.imm16 s.a).next 3
  | .lda => ({ s with a := s.mem s.imm16 }).next 3
  | .inx rp => (s.setPair rp (s.getPair rp + 1)).next 1
  | .dcx rp => (s.setPair rp (s.getPair rp - 1)).next 1
  | .inr r =>
    let result := s.get r + 1
    ({ s.set r result with flags := .ofResult result (BitVec.carry 4 (s.get r) 1 false) s.flags.cy }).next 1
  | .dcr r =>
    let result := s.get r - 1
    ({ s.set r result with flags := .ofResult result (BitVec.carry 4 (s.get r) (~~~1) true) s.flags.cy }).next 1
  | .mvi r => (s.set r s.imm8).next 2
  | .rlc => ({ s with a := s.a.rotateLeft 1, flags := { s.flags with cy := s.a.msb } }).next 1
  | .rrc => ({ s with a := s.a.rotateRight 1, flags := { s.flags with cy := s.a.getLsbD 0 } }).next 1
  | .ral =>
    ({ s with
      a := (s.a.extractLsb' 0 7 ++ BitVec.ofBool s.flags.cy : BitVec 8)
      flags := { s.flags with cy := s.a.msb } }).next 1
  | .rar =>
    ({ s with
      a := (BitVec.ofBool s.flags.cy ++ s.a.extractLsb' 1 7 : BitVec 8)
      flags := { s.flags with cy := s.a.getLsbD 0 } }).next 1
  | .daa => s.daa.next 1
  | .cma => ({ s with a := ~~~s.a }).next 1
  | .stc => ({ s with flags := { s.flags with cy := true } }).next 1
  | .cmc => ({ s with flags := { s.flags with cy := !s.flags.cy } }).next 1
  | .mov dst src => (s.set dst (s.get src)).next 1
  | .hlt => s.next 1
  | .alu op r => (s.alu op (s.get r)).next 1
  | .aluImm op => (s.alu op s.imm8).next 2
  | .ret => { s with pc := s.poppedWord, sp := s.sp + 2 }
  | .retIf cond =>
    if cond.holds s.flags then { s with pc := s.poppedWord, sp := s.sp + 2 } else s.next 1
  | .jmp => { s with pc := s.imm16 }
  | .jmpIf cond => if cond.holds s.flags then { s with pc := s.imm16 } else s.next 3
  | .call => { s.pushWord (s.pc + 3) with pc := s.imm16 }
  | .callIf cond => if cond.holds s.flags then { s.pushWord (s.pc + 3) with pc := s.imm16 } else s.next 3
  | .push rp => (s.pushWord (s.getPushed rp)).next 1
  | .pop rp => ({ s.setPopped rp s.poppedWord with sp := s.sp + 2 }).next 1
  | .rst n => { s.pushWord (s.pc + 1) with pc := (0#10 ++ n ++ 0#3 : BitVec 16) }
  | .out => ({ s with device := device.output s.imm8 s.a s.device }).next 2
  | .in =>
    let (value, after) := device.input s.imm8 s.device
    ({ s with a := value, device := after }).next 2
  | .xthl =>
    ({ (s.store s.sp s.l).store (s.sp + 1) s.h with l := s.mem s.sp, h := s.mem (s.sp + 1) }).next 1
  | .pchl => { s with pc := s.hl }
  | .sphl => ({ s with sp := s.hl }).next 1
  | .xchg => ({ s with h := s.d, d := s.h, l := s.e, e := s.l }).next 1
  | .di => ({ s with inte := false }).next 1
  | .ei => ({ s with inte := true }).next 1

/-- One fetch, decode, execute cycle. An unassigned encoding has no reference behaviour. -/
def step {δ : Type} (device : Device δ) (s : State δ) : Option (State δ) :=
  (decode (s.mem s.pc)).map (exec device · s)

end Isa8080
