import TboxFramework.Library.SecureHash
import TboxFramework.Library.Hexadecimal

/-!
# The hash context

`Sha256Context` keeps the bytes that do not fill a block yet in a buffer of 64 bytes,
which the constructor leaves as it finds it. A read or a write outside of the bytes that
are there is none. The length of the buffered bytes is below 64 wherever the code
subtracts it, so that the difference is that of `std::size_t`.
-/

namespace TboxFramework.Hash

open SecureHash (Words)

set_option autoImplicit false

abbrev Bytes := List UInt8

/-! ## Functions of words -/

def rotr (x n : UInt32) : UInt32 := (x >>> n) ||| (x <<< (32 - n))

def ch (x y z : UInt32) : UInt32 := (x &&& y) ^^^ (~~~x &&& z)

def maj (x y z : UInt32) : UInt32 := (x &&& y) ^^^ (x &&& z) ^^^ (y &&& z)

def bigSigma0 (x : UInt32) : UInt32 := rotr x 2 ^^^ rotr x 13 ^^^ rotr x 22

def bigSigma1 (x : UInt32) : UInt32 := rotr x 6 ^^^ rotr x 11 ^^^ rotr x 25

def smallSigma0 (x : UInt32) : UInt32 := rotr x 7 ^^^ rotr x 18 ^^^ (x >>> 3)

def smallSigma1 (x : UInt32) : UInt32 := rotr x 17 ^^^ rotr x 19 ^^^ (x >>> 10)

def loadBe32 : Bytes → Option UInt32
  | first :: second :: third :: fourth :: _ =>
      some ((first.toUInt32 <<< 24) ||| (second.toUInt32 <<< 16) ||| (third.toUInt32 <<< 8) |||
        fourth.toUInt32)
  | _ => none

def storeBe32 (v : UInt32) : Bytes :=
  [(v >>> 24).toUInt8, (v >>> 16).toUInt8, (v >>> 8).toUInt8, v.toUInt8]

def storeBe64 (v : UInt64) : Bytes :=
  [(v >>> 56).toUInt8, (v >>> 48).toUInt8, (v >>> 40).toUInt8, (v >>> 32).toUInt8,
    (v >>> 24).toUInt8, (v >>> 16).toUInt8, (v >>> 8).toUInt8, v.toUInt8]

def sha256K : List UInt32 :=
  [0x428a2f98, 0x71374491, 0xb5c0fbcf, 0xe9b5dba5,
    0x3956c25b, 0x59f111f1, 0x923f82a4, 0xab1c5ed5,
    0xd807aa98, 0x12835b01, 0x243185be, 0x550c7dc3,
    0x72be5d74, 0x80deb1fe, 0x9bdc06a7, 0xc19bf174,
    0xe49b69c1, 0xefbe4786, 0x0fc19dc6, 0x240ca1cc,
    0x2de92c6f, 0x4a7484aa, 0x5cb0a9dc, 0x76f988da,
    0x983e5152, 0xa831c66d, 0xb00327c8, 0xbf597fc7,
    0xc6e00bf3, 0xd5a79147, 0x06ca6351, 0x14292967,
    0x27b70a85, 0x2e1b2138, 0x4d2c6dfc, 0x53380d13,
    0x650a7354, 0x766a0abb, 0x81c2c92e, 0x92722c85,
    0xa2bfe8a1, 0xa81a664b, 0xc24b8b70, 0xc76c51a3,
    0xd192e819, 0xd6990624, 0xf40e3585, 0x106aa070,
    0x19a4c116, 0x1e376c08, 0x2748774c, 0x34b0bcb5,
    0x391c0cb3, 0x4ed8aa4a, 0x5b9cca4f, 0x682e6ff3,
    0x748f82ee, 0x78a5636f, 0x84c87814, 0x8cc70208,
    0x90befffa, 0xa4506ceb, 0xbef9a3f7, 0xc67178f2]

/-! ## One block -/

/-- The loop that extends `w` from 16 words to 64. -/
def extend (w : List UInt32) (t : Nat) : List UInt32 :=
  w ++ [smallSigma1 (w.getD (t - 2) 0) + w.getD (t - 7) 0 + smallSigma0 (w.getD (t - 15) 0) +
    w.getD (t - 16) 0]

/-- One pass of the compression loop over the variables a to h. -/
def compression (w : List UInt32) (words : Words) (t : Nat) : Words :=
  let t1 := words.h + bigSigma1 words.e + ch words.e words.f words.g + sha256K.getD t 0 + w.getD t 0
  let t2 := bigSigma0 words.a + maj words.a words.b words.c
  { a := t1 + t2, b := words.a, c := words.b, d := words.c,
    e := words.d + t1, f := words.e, g := words.f, h := words.g }

def processBlock (state : Words) (block : Bytes) : Option Words := do
  let loaded ← (List.range 16).mapM fun t => loadBe32 (block.drop (t * 4))
  let w := (List.range' 16 48).foldl extend loaded
  let words := (List.range 64).foldl (compression w) state
  return { a := state.a + words.a, b := state.b + words.b, c := state.c + words.c,
           d := state.d + words.d, e := state.e + words.e, f := state.f + words.f,
           g := state.g + words.g, h := state.h + words.h }

/-! ## The context -/

/-- `m_buffer`. -/
abbrev Buffer := { bytes : Bytes // bytes.length = 64 }

structure Sha256Context where
  state : Words
  buffer : Buffer
  bitlen : UInt64
  bufferLen : Nat

def Sha256Context.new (buffer : Buffer) : Sha256Context where
  state := { a := 0x6a09e667, b := 0xbb67ae85, c := 0x3c6ef372, d := 0xa54ff53a,
             e := 0x510e527f, f := 0x9b05688c, g := 0x1f83d9ab, h := 0x5be0cd19 }
  buffer := buffer
  bitlen := 0
  bufferLen := 0

/-- A copy of bytes into the buffer from an offset on. -/
def memcpy (buffer : Buffer) (offset : Nat) (data : Bytes) : Option Buffer :=
  if fits : offset + data.length ≤ 64 then
    some ⟨buffer.val.take offset ++ data ++ buffer.val.drop (offset + data.length), by
      rw [List.length_append, List.length_append, List.length_take, List.length_drop,
        buffer.property]
      omega⟩
  else none

/-- The whole blocks of the input, and what is left of it. -/
def wholeBlocks (state : Words) (data : Bytes) : Option (Words × Bytes) :=
  if 64 ≤ data.length then do
    let next ← processBlock state data
    wholeBlocks next (data.drop 64)
  else some (state, data)
termination_by data.length
decreasing_by
  rw [List.length_drop]
  omega

/-- The part of `update` that completes a block in the buffer. -/
def completeBlock (context : Sha256Context) (data : Bytes) :
    Option (Sha256Context × Bytes) :=
  if 0 < context.bufferLen then do
    let need := 64 - context.bufferLen
    let take := if data.length < need then data.length else need
    let buffer ← memcpy context.buffer context.bufferLen (data.take take)
    let filled := { context with buffer := buffer, bufferLen := context.bufferLen + take }
    if filled.bufferLen = 64 then do
      let state ← processBlock filled.state filled.buffer
      return ({ filled with state := state, bufferLen := 0 }, data.drop take)
    else return (filled, data.drop take)
  else some (context, data)

def update (context : Sha256Context) (data : Bytes) : Option Sha256Context :=
  if data.length = 0 then some context
  else do
    let counted :=
      { context with bitlen := context.bitlen + UInt64.ofNat data.length * 8 }
    let (completed, rest) ← completeBlock counted data
    let (state, left) ← wholeBlocks completed.state rest
    let hashed := { completed with state := state }
    if 0 < left.length then do
      let buffer ← memcpy hashed.buffer 0 left
      return { hashed with buffer := buffer, bufferLen := left.length }
    else return hashed

/-- `while (m_buffer_len < limit) m_buffer[m_buffer_len++] = 0` -/
def fillZeros (limit : Nat) (buffer : Buffer) (bufferLen : Nat) : Option (Buffer × Nat) :=
  if bufferLen < limit then do
    let written ← memcpy buffer bufferLen [0]
    fillZeros limit written (bufferLen + 1)
  else some (buffer, bufferLen)
termination_by limit - bufferLen
decreasing_by omega

/-- The tail block that has no room for the length. -/
def flushTail (context : Sha256Context) : Option Sha256Context :=
  if context.bufferLen > 56 then do
    let (buffer, _) ← fillZeros 64 context.buffer context.bufferLen
    let state ← processBlock context.state buffer
    return { context with state := state, buffer := buffer, bufferLen := 0 }
  else some context

def finalize (context : Sha256Context) : Option Bytes := do
  let marked ← memcpy context.buffer context.bufferLen [0x80]
  let flushed ← flushTail { context with buffer := marked, bufferLen := context.bufferLen + 1 }
  let (zeroed, _) ← fillZeros 56 flushed.buffer flushed.bufferLen
  let last ← memcpy zeroed 56 (storeBe64 flushed.bitlen)
  let state ← processBlock flushed.state last
  return state.list.flatMap storeBe32

/-! ## The public functions -/

inductive HashError
  | kOk
  | kInvalidInput
  | kInternalFailure
  deriving DecidableEq, Repr

def HashError.code : HashError → UInt32
  | .kOk => 0
  | .kInvalidInput => 401
  | .kInternalFailure => 402

structure HashErrorInfo where
  code : HashError
  message : String
  detail : String
  deriving DecidableEq

/-- A pointer and a size; the null pointer is none. -/
structure ByteView where
  data : Option Bytes
  size : Nat
  covers : ∀ bytes ∈ data, bytes.length = size

def sizeDetail (size : Nat) : String := "size=" ++ toString size

/-- The context lives in memory with the content `stack`. -/
def sha256 (stack : Buffer) (input : ByteView) : Except HashErrorInfo (Option Bytes) :=
  if input.size > 0 ∧ input.data = none then
    .error ⟨.kInvalidInput, "non-zero size with null data pointer", sizeDetail input.size⟩
  else if input.size > (2 ^ 64 - 1) / 8 then
    .error ⟨.kInvalidInput, "input length overflows 64-bit bit length", sizeDetail input.size⟩
  else .ok ((update (Sha256Context.new stack) (input.data.getD [])).bind finalize)

def hexTable : Bytes := "0123456789abcdef".toUTF8.data.toList

def toHex (digest : Bytes) : Bytes :=
  digest.flatMap fun (byte : UInt8) =>
    [hexTable.getD ((byte >>> 4) &&& 0x0f).toNat 0, hexTable.getD (byte &&& 0x0f).toNat 0]

def sha256Hex (stack : Buffer) (input : ByteView) : Except HashErrorInfo (Option Bytes) :=
  (sha256 stack input).map (Option.map toHex)

end TboxFramework.Hash
