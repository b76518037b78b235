import MachEmu.Base
import Mathlib.Data.Rat.Floor

/-! JSON documents as the program reads them: element access, and the
conversions of its typed getters. Texts are parsed and printed elsewhere. -/

namespace MachEmu

inductive Json where
  | null
  | bool (value : Bool)
  | integer (value : Int)
  | float (value : Rat)
  | string (value : String)
  | array (elements : List Json)
  | object (members : List (String × Json))
deriving BEq, Repr

namespace Json

/-- A getter was used on a value of another type. -/
def typeError {α : Type} : Except Fault α := .error (.exception "type_error")

/-- `operator[]` of a mutable document: null is an empty object, and an absent member is null. -/
def index (json : Json) (key : String) : Except Fault Json :=
  match json with
  | .null => .ok .null
  | .object members => .ok ((members.lookup key).getD .null)
  | _ => typeError

/-- `operator[]` of a constant document, where an absent member is no value at all. -/
def constAt (json : Json) (key : String) : Except Fault Json :=
  match json with
  | .object members =>
    match members.lookup key with
    | some value => .ok value
    | none => .error .undefined
  | _ => typeError

def contains (json : Json) (key : String) : Bool :=
  match json with
  | .object members => (members.lookup key).isSome
  | _ => false

/-- What a range-based `for` visits. -/
def items : Json → List Json
  | .null => []
  | .array elements => elements
  | .object members => members.map Prod.snd
  | primitive => [primitive]

/-- `operator=` on the member `key`. Members are kept sorted by key. -/
def insert (key : String) (value : Json) : List (String × Json) → List (String × Json)
  | [] => [(key, value)]
  | (other, present) :: members =>
    if key < other then (key, value) :: (other, present) :: members
    else if key = other then (key, value) :: members
    else (other, present) :: insert key value members

/-- `update`: members of `other` replace or join those of an object. -/
def update (json other : Json) : Except Fault Json :=
  match json, other with
  | .null, .object others => .ok (.object (others.foldl (fun members (key, value) => insert key value members) []))
  | .object members, .object others =>
    .ok (.object (others.foldl (fun members (key, value) => insert key value members) members))
  | _, _ => typeError

/-- A conversion from `double`, which drops the fraction. -/
def truncate (value : Rat) : Int := if value < 0 then -⌊-value⌋ else ⌊value⌋

/-- `get<uintN_t>` for the narrow types: every arithmetic value and also a boolean is converted. -/
def getUint (width : Nat) : Json → Except Fault (BitVec width)
  | .integer value => .ok (BitVec.ofInt width value)
  | .float value => .ok (BitVec.ofInt width (truncate value))
  | .bool value => .ok (BitVec.ofNat width value.toNat)
  | _ => typeError

/-- `get<int64_t>` -/
def getInt64 : Json → Except Fault Int
  | .integer value => .ok (BitVec.ofInt 64 value).toInt
  | .float value => .ok (BitVec.ofInt 64 (truncate value)).toInt
  | _ => typeError

/-- `get<double>`, without the rounding. -/
def getDouble : Json → Except Fault Rat
  | .integer value => .ok value
  | .float value => .ok value
  | _ => typeError

def getBool : Json → Except Fault Bool
  | .bool value => .ok value
  | _ => typeError

def getString : Json → Except Fault String
  | .string value => .ok value
  | _ => typeError

end Json
end MachEmu
