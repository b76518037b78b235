import MachEmu.Utils

/-! The option store: a document that later option texts update. -/

namespace MachEmu

/-- Offset and size of a block of memory. -/
abbrev Block := Word × Word

structure Opt where
  json : Json
deriving BEq, Repr

namespace Opt

def layout (ramOffset ramSize romOffset romSize : Int) : List (String × Json) :=
  let block (offset size : Int) := Json.object [("offset", .integer offset), ("size", .integer size)]
  [("ram", .object [("block", .array [block ramOffset ramSize])]),
    ("rom", .object [("file", .array [block romOffset romSize])])]

def defaultOpts (build : Build) : Json :=
  .object ([("clockResolution", .integer (-1)), ("compressor", .string (if build.zlib then "zlib" else "none")),
    ("encoder", .string "base64"), ("isrFreq", .integer 0), ("loadAsync", .bool false)] ++ layout 0 0 0 0 ++
    [("runAsync", .bool false), ("saveAsync", .bool false)])

def init (build : Build) : Opt := ⟨defaultOpts build⟩

/-- Convert the properties that `ram` and `rom` replace, unless one of these is given. -/
def convertDeprecated (json : Json) : Except Fault Json := do
  if json.contains "ram" || json.contains "rom" then return json
  let uint16 (key : String) : Except Fault (Option Word) := do return some (← (← json.index key).getUint 16)
  let ramOffset ← if json.contains "ramOffset" then uint16 "ramOffset" else pure none
  let ramSize ← if json.contains "ramSize" && !json.contains "ram" then uint16 "ramSize" else pure none
  let romOffset ← if json.contains "romOffset" && !json.contains "ram" then uint16 "romOffset" else pure none
  -- The size of the rom is looked up when the size of the ram is given.
  let romSize ← if json.contains "ramSize" then uint16 "romSize" else pure none
  if ramOffset.isSome || ramSize.isSome || romOffset.isSome || romSize.isSome then
    let value (size : Option Word) : Int := (size.getD 0).toNat
    json.update (.object (layout (value ramOffset) (value ramSize) (value romOffset) (value romSize)))
  else return json

/-- The options are given as they are or as the name of a file. -/
def read (lib : Libraries) (opts : String) : Except Fault Json :=
  if "file://".toList.isPrefixOf opts.toList then
    match lib.parseFile (String.ofList (opts.toList.drop 7)) with
    | some json => .ok json
    | none => .error (.exception "parse_error")
  else parse lib opts

/-- Update the options; a null pointer restores the defaults. -/
def setOptions (lib : Libraries) (build : Build) (opts : Option String) (self : Opt) : Except Fault Opt := do
  let json ← match opts with
    | none => pure (defaultOpts build)
    | some opts => do
      let json ← read lib opts
      if self.json.contains "cpu" && json.contains "cpu" then
        throw (.exception "cpu type has already been set")
      if json.contains "isrFreq" then
        if (← (← json.index "isrFreq").getDouble) < 0 then throw (.exception "isrFreq must be >= 0")
      if !build.zlib && json.contains "compressor" then
        if (← (← json.index "compressor").getString) == "zlib" then
          throw (.exception "mach-emu has been compiled with no zlib support")
      convertDeprecated json
  return ⟨← self.json.update json⟩

variable (self : Opt)

def clockResolution : Except Fault Int := do (← self.json.index "clockResolution").getInt64

def compressor : Except Fault String := do (← self.json.index "compressor").getString

def cpuType : Except Fault String :=
  if self.json.contains "cpu" then do (← self.json.index "cpu").getString else .ok ""

def encoder : Except Fault String := do (← self.json.index "encoder").getString

def isrFreq : Except Fault Rat := do (← self.json.index "isrFreq").getDouble

def loadAsync : Except Fault Bool := do (← self.json.index "loadAsync").getBool

/-- A block of memory as the getters read it from a constant element. -/
def readBlock (json : Json) : Except Fault Block := do
  return (← (← json.constAt "offset").getUint 16, ← (← json.constAt "size").getUint 16)

def ram : Except Fault (List Block) := do
  (← (← self.json.index "ram").index "block").items.mapM readBlock

def rom : Except Fault (List Block) := do
  (← (← self.json.index "rom").index "file").items.mapM readBlock

def runAsync : Except Fault Bool := do (← self.json.index "runAsync").getBool

def saveAsync : Except Fault Bool := do (← self.json.index "saveAsync").getBool

end Opt
end MachEmu
