import MachEmu.Utils

/-! Round trips through `BinToTxt` and `TxtToBin`. The estimate of 1.5
characters a byte is large enough for all but a few short inputs, and exactly
these lose the end of their text. -/

namespace MachEmu.Proofs.Codec
open Utils

def isBase64 (c : Char) : Bool := c.isAlphanum || c == '+' || c == '/' || c == '='

/-- The base64 library keeps its contract on `src`. -/
structure Base64 (lib : Libraries) (src : List Byte) : Prop where
  length : (lib.base64Encode src).length = 4 * ((src.length + 2) / 3)
  alphabet : ∀ c ∈ (lib.base64Encode src).toList, isBase64 c
  inverse : lib.base64Decode (lib.base64Encode src) = src

/-- The bytes `src` that a compressor setting hands to the encoder for `bin`,
with the compression library keeping its contract on them. -/
inductive Encodes (lib : Libraries) (build : Build) (bin : List Byte) : String → List Byte → Prop where
  | none : Encodes lib build bin "none" (clip bin)
  | zlib (src : List Byte) (enabled : build.zlib = true)
      (compressed : lib.compress (lib.compressBound (clip bin).length) (clip bin) = some src)
      (inverse : lib.uncompress (clip bin).length src = some (clip bin)) : Encodes lib build bin "zlib" src

theorem length_clip (bin : List Byte) : (clip bin).length = (BitVec.ofNat 32 bin.length).toNat := by
  simp only [clip, List.length_take, BitVec.toNat_ofNat]
  exact Nat.min_eq_left (Nat.mod_le _ _)

theorem clip_eq_iff (bin : List Byte) : clip bin = bin ↔ bin.length < 2 ^ 32 := by
  constructor
  · intro whole
    have length := length_clip bin
    rw [whole] at length
    rw [length]
    exact (BitVec.ofNat 32 bin.length).isLt
  · intro short
    rw [clip, BitVec.toNat_ofNat, Nat.mod_eq_of_lt short, List.take_length]

theorem buffer_fits_iff (m : Nat) : 4 * ((m + 2) / 3) ≤ bufferSize m ↔ m ∉ [1, 2, 4, 5, 7, 10, 13] := by
  simp only [bufferSize, List.mem_cons, List.not_mem_nil, or_false, not_or]
  constructor
  · intro fits
    omega
  · intro apart
    omega

variable {lib : Libraries} {build : Build} {bin src : List Byte} {compressor : String}

theorem encode_eq (fits : (lib.base64Encode src).length ≤ bufferSize src.length) :
    encode lib src = lib.base64Encode src := by
  have covered : (lib.base64Encode src).toList.length ≤ bufferSize src.length := by rwa [String.length_toList]
  rw [encode, List.take_of_length_le covered, Nat.sub_eq_zero_of_le covered]
  simp

theorem binToTxt_encodes (encodes : Encodes lib build bin compressor src) :
    binToTxt lib build "base64" compressor bin = .ok (encode lib src) := by
  cases encodes with
  | none => simp [binToTxt]
  | zlib src enabled compressed inverse => simp [binToTxt, enabled, compressed]

theorem txtToBin_encodes (encodes : Encodes lib build bin compressor src) (text : String)
    (decoded : lib.base64Decode text = src) :
    txtToBin lib build "base64" compressor (BitVec.ofNat 32 bin.length) text = .ok (clip bin) := by
  cases encodes with
  | none => simp [txtToBin, decoded]
  | zlib src enabled compressed inverse =>
    rw [length_clip] at inverse
    simp only [txtToBin, decoded, enabled, inverse]
    simp

/-- Without compression, a text that fits the buffer is the encoder's. -/
theorem binToTxt_none {txt : String} (short : bin.length < 2 ^ 32) (encoded : lib.base64Encode bin = txt)
    (fits : txt.length ≤ bufferSize bin.length) : binToTxt lib build "base64" "none" bin = .ok txt := by
  have written : binToTxt lib build "base64" "none" bin = .ok (encode lib (clip bin)) := binToTxt_encodes .none
  subst encoded
  rwa [(clip_eq_iff bin).mpr short, encode_eq fits] at written

/-- For every input, the text reads back as the input and is the encoder's text
in full exactly when the length fits the parameter and the encoded length is
not one of the seven the estimate is too small for. -/
theorem round_trip_iff (encodes : Encodes lib build bin compressor src) (base64 : Base64 lib src) :
    (∃ text, binToTxt lib build "base64" compressor bin = .ok text ∧
      txtToBin lib build "base64" compressor (BitVec.ofNat 32 bin.length) text = .ok bin ∧
      text.length = 4 * ((src.length + 2) / 3) ∧ (∀ c ∈ text.toList, isBase64 c) ∧
      (lib.base64Encode src).length ≤ bufferSize src.length) ↔
    bin.length < 2 ^ 32 ∧ src.length ∉ [1, 2, 4, 5, 7, 10, 13] := by
  rw [← buffer_fits_iff, ← base64.length, ← clip_eq_iff]
  constructor
  · rintro ⟨text, written, readBack, -, -, fits⟩
    rw [binToTxt_encodes encodes, encode_eq fits] at written
    obtain rfl := Except.ok.inj written
    rw [txtToBin_encodes encodes _ base64.inverse] at readBack
    exact ⟨Except.ok.inj readBack, fits⟩
  · rintro ⟨whole, fits⟩
    refine ⟨lib.base64Encode src, ?_, ?_, rfl, base64.alphabet, fits⟩
    · rw [binToTxt_encodes encodes, encode_eq fits]
    · rw [txtToBin_encodes encodes _ base64.inverse, whole]

def tabulated (documents : List (String × Json)) (base64 : List (List Byte × String))
    (zlib : List (List Byte × List Byte)) (hash : Uuid) : Libraries where
  parse text := documents.lookup text
  parseFile _ := none
  dump json := ((documents.find? (·.2 == json)).map Prod.fst).getD ""
  base64Encode bin := (base64.lookup bin).getD ""
  base64Decode text := ((base64.find? (·.2 == text)).map Prod.fst).getD []
  compressBound n := n + n / 4096 + n / 16384 + 13
  compress _ bin := zlib.lookup bin
  uncompress _ bin := (zlib.find? (·.2 == bin)).map Prod.fst
  md5 _ := hash

theorem round_trip_three_bytes :
    (∃ text, binToTxt (tabulated [] [([0x4D, 0x61, 0x6E], "TWFu")] [] default) ⟨true, true⟩ "base64" "none"
        [0x4D, 0x61, 0x6E] = .ok text ∧
      txtToBin (tabulated [] [([0x4D, 0x61, 0x6E], "TWFu")] [] default) ⟨true, true⟩ "base64" "none"
        (BitVec.ofNat 32 3) text = .ok [0x4D, 0x61, 0x6E] ∧
      text.length = 4 * ((3 + 2) / 3) ∧ (∀ c ∈ text.toList, isBase64 c) ∧
      "TWFu".length ≤ bufferSize 3) ↔
    3 < 2 ^ 32 ∧ 3 ∉ [1, 2, 4, 5, 7, 10, 13] :=
  have base64 : Base64 (tabulated [] [([0x4D, 0x61, 0x6E], "TWFu")] [] default) [0x4D, 0x61, 0x6E] :=
    ⟨by decide, List.all_eq_true.mp (by decide), by decide⟩
  round_trip_iff .none base64

/-- One byte: the buffer has one character for the four that `TQ==` takes. -/
theorem round_trip_one_byte :
    binToTxt (tabulated [] [([0x4D], "TQ==")] [] default) ⟨true, true⟩ "base64" "none" [0x4D] =
      .ok (String.ofList ('T' :: List.replicate 3 (Char.ofNat 0))) ∧
    ¬ ∃ text, binToTxt (tabulated [] [([0x4D], "TQ==")] [] default) ⟨true, true⟩ "base64" "none" [0x4D] = .ok text ∧
      text.length = 4 * ((1 + 2) / 3) ∧ (∀ c ∈ text.toList, isBase64 c) ∧ "TQ==".length ≤ bufferSize 1 := by
  refine ⟨by decide, ?_⟩
  rintro ⟨text, -, -, -, fits⟩
  exact absurd fits (by decide)

end MachEmu.Proofs.Codec
