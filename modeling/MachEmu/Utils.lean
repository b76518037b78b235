import MachEmu.Json

/-! Conversion between bytes and text, over the libraries the program links
against. These appear as functions, with no assumption on what they compute. -/

namespace MachEmu

/-- The third-party functions. Those that report failure, by a thrown
`parse_error` or by a result other than `Z_OK`, return `none`. -/
structure Libraries where
  parse : String → Option Json
  parseFile : String → Option Json
  dump : Json → String
  base64Encode : List Byte → String
  base64Decode : String → List Byte
  compressBound : Nat → Nat
  compress : (capacity : Nat) → List Byte → Option (List Byte)
  uncompress : (capacity : Nat) → List Byte → Option (List Byte)
  md5 : List Byte → Vector Byte 16

/-- `nlohmann::json::parse` -/
def parse (lib : Libraries) (text : String) : Except Fault Json :=
  match lib.parse text with
  | some json => .ok json
  | none => .error (.exception "parse_error")

/-- What is left of a string that is passed on by `c_str()`. -/
def cStr (text : String) : String := String.ofList (text.toList.takeWhile (· != Char.ofNat 0))

namespace Utils

variable (lib : Libraries) (build : Build)

/-- What a `uint32_t` length lets through of the bytes behind a pointer. -/
def clip (bin : List Byte) : List Byte := bin.take (BitVec.ofNat 32 bin.length).toNat

/-- The buffer of `encode`, `srcLen * 1.5` characters. -/
def bufferSize (srcLen : Nat) : Nat := srcLen * 3 / 2

/-- The encoder writes at the address of the buffer whatever its size; resizing
to the length it reports then appends NULs for what the buffer did not hold. -/
def encode (src : List Byte) : String :=
  let written := (lib.base64Encode src).toList
  let buffer := bufferSize src.length
  String.ofList (written.take buffer ++ List.replicate (written.length - buffer) (Char.ofNat 0))

def binToTxt (encoder compressor : String) (bin : List Byte) : Except Fault String :=
  let bin := clip bin
  if encoder ≠ "base64" then .error (.exception "Invalid binary to text encoder parameter")
  else if compressor ≠ "none" then
    if build.zlib ∧ compressor = "zlib" then
      match lib.compress (lib.compressBound bin.length) bin with
      | some dst => .ok (encode lib dst)
      | none => .error (.exception "Failed to compress binary data")
    else .error (.exception "Invalid compressor parameter")
  else .ok (encode lib bin)

def txtToBin (decoder decompressor : String) (dstSize : BitVec 32) (src : String) : Except Fault (List Byte) :=
  if decoder ≠ "base64" then .error (.exception "Invalid binary to text decoder parameter")
  else
    let bin := lib.base64Decode src
    if decompressor ≠ "none" then
      if build.zlib ∧ decompressor = "zlib" then
        match lib.uncompress dstSize.toNat bin with
        | some dst => .ok dst
        | none => .error (.exception "Failed to decompress binary data")
      else .error (.exception "Invalid compressor parameter")
    else .ok bin

def md5 (input : List Byte) : List Byte := (lib.md5 (clip input)).toList

end Utils
end MachEmu
