/-!
# The BLAKE3 hash function

A message is cut into chunks of 1024 bytes and each chunk into blocks of 64 bytes. The blocks of a
chunk are compressed one after the other, which gives the chunk's chaining value; the chaining
values are joined in pairs in a tree whose left part at every joint holds the largest possible
power of two of whole chunks. The last compression of all is marked as the root and gives 32 bytes.
-/
namespace StorageLayout.Digest

/-- Sixteen words: a state under compression, or a block of the message. -/
structure Words where
  w0 : UInt32
  w1 : UInt32
  w2 : UInt32
  w3 : UInt32
  w4 : UInt32
  w5 : UInt32
  w6 : UInt32
  w7 : UInt32
  w8 : UInt32
  w9 : UInt32
  w10 : UInt32
  w11 : UInt32
  w12 : UInt32
  w13 : UInt32
  w14 : UInt32
  w15 : UInt32
  deriving DecidableEq, Repr

/-- Eight words: the chaining value of a chunk or of a part of the tree. -/
structure Chaining where
  c0 : UInt32
  c1 : UInt32
  c2 : UInt32
  c3 : UInt32
  c4 : UInt32
  c5 : UInt32
  c6 : UInt32
  c7 : UInt32
  deriving DecidableEq, Repr

namespace Blake3

/-- The chaining value from which every chunk and every joint starts. -/
def initial : Chaining :=
  ⟨0x6a09e667, 0xbb67ae85, 0x3c6ef372, 0xa54ff53a, 0x510e527f, 0x9b05688c, 0x1f83d9ab, 0x5be0cd19⟩

/-- Marks the first block of a chunk. -/
def chunkStart : UInt32 := 1

/-- Marks the last block of a chunk. -/
def chunkEnd : UInt32 := 2

/-- Marks a joint of the tree. -/
def parent : UInt32 := 4

/-- Marks the last compression of all. -/
def root : UInt32 := 8

@[inline] def rotateRight (w n : UInt32) : UInt32 := (w >>> n) ||| (w <<< (32 - n))

/-- Mixes four words of the state with two words of the message. -/
@[inline] def mix (a b c d x y : UInt32) : UInt32 × UInt32 × UInt32 × UInt32 :=
  let a := a + b + x
  let d := rotateRight (d ^^^ a) 16
  let c := c + d
  let b := rotateRight (b ^^^ c) 12
  let a := a + b + y
  let d := rotateRight (d ^^^ a) 8
  let c := c + d
  let b := rotateRight (b ^^^ c) 7
  (a, b, c, d)

/-- One round: the columns of the state are mixed, then its diagonals. -/
def round (v m : Words) : Words :=
  let (v0, v4, v8, v12) := mix v.w0 v.w4 v.w8 v.w12 m.w0 m.w1
  let (v1, v5, v9, v13) := mix v.w1 v.w5 v.w9 v.w13 m.w2 m.w3
  let (v2, v6, v10, v14) := mix v.w2 v.w6 v.w10 v.w14 m.w4 m.w5
  let (v3, v7, v11, v15) := mix v.w3 v.w7 v.w11 v.w15 m.w6 m.w7
  let (v0, v5, v10, v15) := mix v0 v5 v10 v15 m.w8 m.w9
  let (v1, v6, v11, v12) := mix v1 v6 v11 v12 m.w10 m.w11
  let (v2, v7, v8, v13) := mix v2 v7 v8 v13 m.w12 m.w13
  let (v3, v4, v9, v14) := mix v3 v4 v9 v14 m.w14 m.w15
  ⟨v0, v1, v2, v3, v4, v5, v6, v7, v8, v9, v10, v11, v12, v13, v14, v15⟩

def permute (m : Words) : Words :=
  ⟨m.w2, m.w6, m.w3, m.w10, m.w7, m.w0, m.w4, m.w13, m.w1, m.w11, m.w12, m.w5, m.w9, m.w14, m.w15,
    m.w8⟩

def rounds : Nat → Words → Words → Words
  | 0, v, _ => v
  | n + 1, v, m => rounds n (round v m) (permute m)

/-- What remains to be compressed at the end of a chunk or at a joint of the tree. -/
structure Output where
  input : Chaining
  block : Words
  counter : UInt64
  length : UInt32
  flags : UInt32

/-- Compresses one block into a chaining value. -/
def Output.compress (o : Output) (flags : UInt32) : Chaining :=
  let v := rounds 7
    ⟨o.input.c0, o.input.c1, o.input.c2, o.input.c3, o.input.c4, o.input.c5, o.input.c6,
      o.input.c7, initial.c0, initial.c1, initial.c2, initial.c3, o.counter.toUInt32,
      (o.counter >>> 32).toUInt32, o.length, o.flags ||| flags⟩ o.block
  ⟨v.w0 ^^^ v.w8, v.w1 ^^^ v.w9, v.w2 ^^^ v.w10, v.w3 ^^^ v.w11, v.w4 ^^^ v.w12, v.w5 ^^^ v.w13,
    v.w6 ^^^ v.w14, v.w7 ^^^ v.w15⟩

def Output.chaining (o : Output) : Chaining := o.compress 0

/-- The byte at a place, and zero from the end of the message on. -/
def byteAt (data : ByteArray) (place : Nat) : UInt32 :=
  if h : place < data.size then data[place].toUInt32 else 0

@[inline] def littleEndian (a b c d : UInt32) : UInt32 :=
  a ||| (b <<< 8) ||| (c <<< 16) ||| (d <<< 24)

/-- The little-endian word at a place. -/
def wordAt (data : ByteArray) (place : Nat) : UInt32 :=
  if h : place + 3 < data.size then
    littleEndian data[place].toUInt32 data[place + 1].toUInt32 data[place + 2].toUInt32
      data[place + 3].toUInt32
  else
    littleEndian (byteAt data place) (byteAt data (place + 1)) (byteAt data (place + 2))
      (byteAt data (place + 3))

/-- The block at a place, filled up with zeros at the end of the message. -/
def blockAt (data : ByteArray) (place : Nat) : Words :=
  ⟨wordAt data place, wordAt data (place + 4), wordAt data (place + 8), wordAt data (place + 12),
    wordAt data (place + 16), wordAt data (place + 20), wordAt data (place + 24),
    wordAt data (place + 28), wordAt data (place + 32), wordAt data (place + 36),
    wordAt data (place + 40), wordAt data (place + 44), wordAt data (place + 48),
    wordAt data (place + 52), wordAt data (place + 56), wordAt data (place + 60)⟩

/-- Compresses the blocks of a chunk up to the last, which is left to be compressed. -/
def chunkBlocks (data : ByteArray) (chunk : UInt64) (stop : Nat) :
    Nat → Chaining → UInt32 → Nat → Output
  | 0, input, start, place =>
    ⟨input, blockAt data place, chunk, UInt32.ofNat (stop - place), start ||| chunkEnd⟩
  | more + 1, input, start, place =>
    let output : Output := ⟨input, blockAt data place, chunk, 64, start⟩
    chunkBlocks data chunk stop more output.chaining 0 (place + 64)

/-- A chunk that starts at a place and holds `length` bytes; only the last chunk of a message may
be shorter than the others. -/
def chunkOutput (data : ByteArray) (place length : Nat) : Output :=
  chunkBlocks data (UInt64.ofNat (place / 1024)) (place + length) ((length - 1) / 64) initial
    chunkStart place

def joint (left right : Chaining) : Output :=
  ⟨initial,
    ⟨left.c0, left.c1, left.c2, left.c3, left.c4, left.c5, left.c6, left.c7, right.c0, right.c1,
      right.c2, right.c3, right.c4, right.c5, right.c6, right.c7⟩, 0, 64, parent⟩

/-- The bytes of the left part under a joint over more than one chunk: the largest power of two of
whole chunks that leaves something to the right. -/
def leftLength (length : Nat) : Nat := Nat.pow 2 ((length - 1) / 1024).log2 * 1024

theorem leftLength_pos (length : Nat) : 0 < leftLength length :=
  Nat.mul_pos (Nat.two_pow_pos _) (by decide)

theorem leftLength_lt {length : Nat} (h : 1024 < length) : leftLength length < length := by
  have hq : (length - 1) / 1024 ≠ 0 := by omega
  have := Nat.log2_self_le hq
  have := Nat.div_mul_le_self (length - 1) 1024
  simp only [leftLength, Nat.pow_eq]
  omega

/-- The tree over the bytes from a place on. -/
def output (data : ByteArray) (place length : Nat) : Output :=
  if length ≤ 1024 then chunkOutput data place length
  else
    let left := leftLength length
    joint (output data place left).chaining (output data (place + left) (length - left)).chaining
termination_by length
decreasing_by
  · exact leftLength_lt (by omega)
  · have := leftLength_pos length
    omega

/-- The eight words of the hash of a message. -/
def hash (data : ByteArray) : Chaining :=
  (output data 0 data.size).compress root

/-- The hexadecimal digits of a word's bytes, least significant byte first. -/
def wordHex (w : UInt32) : List Char :=
  [4, 0, 12, 8, 20, 16, 28, 24].map fun (shift : UInt32) =>
    Nat.digitChar ((w >>> shift) &&& 0xf).toNat

end Blake3

/-- The hash of a text's UTF-8 bytes in 64 lower-case hexadecimal digits. -/
def blake3 (text : String) : String :=
  let h := Blake3.hash text.toUTF8
  String.ofList ([h.c0, h.c1, h.c2, h.c3, h.c4, h.c5, h.c6, h.c7].flatMap Blake3.wordHex)

end StorageLayout.Digest
