/-! The vocabulary shared by every component: machine words, interrupt service
routines, error codes, and the ways in which a C++ call can fail. -/

namespace MachEmu

abbrev Byte := BitVec 8

abbrev Word := BitVec 16

/-- `std::array<uint8_t, 16>`. -/
abbrev Uuid := Vector Byte 16

/-- The results of `IController::ServiceInterrupts`. The enumeration has an `int`
underneath, so a controller can also return a value without an enumerator. -/
inductive ISR where
  | zero | one | two | three | four | five | six | seven
  | save | load | quit | noInterrupt
  | unknown (value : Int)
deriving DecidableEq, Repr

namespace ISR

/-- The number of a cpu level interrupt, the value `static_cast<uint8_t>(isr)` has there. -/
def cpuLevel : ISR → Option Byte
  | zero => some 0
  | one => some 1
  | two => some 2
  | three => some 3
  | four => some 4
  | five => some 5
  | six => some 6
  | seven => some 7
  | _ => none

end ISR

inductive ErrorCode where
  | noError | clockResolution | notImplemented | unknownOption
deriving DecidableEq, Repr

/-- How a call can end without returning. `exception` is anything derived from
`std::exception`, `foreign` any other thrown object, `assertion` a failed
`assert`, and `undefined` an operation the language gives no meaning to. -/
inductive Fault where
  | exception (what : String)
  | foreign
  | assertion
  | undefined
deriving DecidableEq, Repr

/-- Compile time switches: `NDEBUG` removes assertions, `ENABLE_ZLIB` adds the compressor. -/
structure Build where
  ndebug : Bool
  zlib : Bool
deriving DecidableEq, Repr

end MachEmu
