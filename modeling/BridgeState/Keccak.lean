/-!
# Keccak-256

The 256-bit digest of the permutation on 25 lanes of 64 bits: blocks of 136 bytes are absorbed,
a message is filled up by the bit pattern that begins with the byte 1 and ends with the byte 128,
and the first four lanes are the digest. A state lists its lanes row by row, and a byte string
enters each lane with its least significant byte first.
-/

namespace BridgeState.Keccak

set_option autoImplicit false

abbrev Lane : Type := UInt64

def laneCount : Nat := 25

def blockSize : Nat := 136

def lane (state : List Lane) (index : Nat) : Lane :=
  state.getD index 0

def rotateLeft (word : Lane) (amount : Nat) : Lane :=
  if amount % 64 = 0 then word
  else (word <<< UInt64.ofNat (amount % 64)) ||| (word >>> UInt64.ofNat (64 - amount % 64))

def roundConstants : List Lane :=
  [0x0000000000000001, 0x0000000000008082, 0x800000000000808A, 0x8000000080008000,
   0x000000000000808B, 0x0000000080000001, 0x8000000080008081, 0x8000000000008009,
   0x000000000000008A, 0x0000000000000088, 0x0000000080008009, 0x000000008000000A,
   0x000000008000808B, 0x800000000000008B, 0x8000000000008089, 0x8000000000008003,
   0x8000000000008002, 0x8000000000000080, 0x000000000000800A, 0x800000008000000A,
   0x8000000080008081, 0x8000000000008080, 0x0000000080000001, 0x8000000080008008]

/-- How far each lane is rotated, lane `x + 5 * y` at that index. -/
def rotations : List Nat :=
  [0, 1, 62, 28, 27, 36, 44, 6, 55, 20, 3, 10, 43, 25, 39, 41, 45, 15, 21, 8, 18, 2, 61, 56, 14]

/-- The parity of each column. -/
def columns (state : List Lane) : List Lane :=
  (List.range 5).map fun x =>
    lane state x ^^^ lane state (x + 5) ^^^ lane state (x + 10) ^^^ lane state (x + 15)
      ^^^ lane state (x + 20)

/-- Adds to every lane the parities of two neighbouring columns. -/
def mixColumns (state : List Lane) : List Lane :=
  let parity := columns state
  let effect := (List.range 5).map fun x =>
    lane parity ((x + 4) % 5) ^^^ rotateLeft (lane parity ((x + 1) % 5)) 1
  (List.range laneCount).map fun i => lane state i ^^^ lane effect (i % 5)

/-- Rotates every lane and moves lane `(x, y)` to `(y, 2 x + 3 y)`. -/
def rotateAndMove (state : List Lane) : List Lane :=
  (List.range laneCount).map fun i =>
    let source := (i % 5 + 3 * (i / 5)) % 5 + 5 * (i % 5)
    rotateLeft (lane state source) (rotations.getD source 0)

/-- Combines every lane with its two right neighbours in the row. -/
def combineRows (state : List Lane) : List Lane :=
  (List.range laneCount).map fun i =>
    let row := 5 * (i / 5)
    lane state i ^^^
      ((lane state (row + (i + 1) % 5) ^^^ 0xFFFFFFFFFFFFFFFF) &&& lane state (row + (i + 2) % 5))

def addConstant (constant : Lane) : List Lane → List Lane
  | [] => []
  | first :: rest => (first ^^^ constant) :: rest

def round (state : List Lane) (constant : Lane) : List Lane :=
  addConstant constant (combineRows (rotateAndMove (mixColumns state)))

def permute (state : List Lane) : List Lane :=
  roundConstants.foldl round state

def laneOfBytes (bytes : List UInt8) : Lane :=
  bytes.foldr (fun byte word => (word <<< 8) ||| byte.toUInt64) 0

/-- Splits bytes into pieces of the given size; `fuel` bounds the number of pieces. -/
def pieces (size : Nat) : Nat → List UInt8 → List (List UInt8)
  | 0, _ => []
  | fuel + 1, bytes =>
    if bytes.isEmpty then [] else bytes.take size :: pieces size fuel (bytes.drop size)

def pad (message : List UInt8) : List UInt8 :=
  let missing := blockSize - message.length % blockSize
  message ++
    if missing = 1 then [0x81] else 0x01 :: (List.replicate (missing - 2) 0x00 ++ [0x80])

theorem pad_length (message : List UInt8) : (pad message).length % blockSize = 0 := by
  have bound : message.length % 136 < 136 := Nat.mod_lt _ (by decide)
  by_cases one : 136 - message.length % 136 = 1
  · simp [pad, blockSize, one]; omega
  · simp [pad, blockSize, one]; omega

def absorb (state : List Lane) (block : List UInt8) : List Lane :=
  let words := (pieces 8 17 block).map laneOfBytes
  permute ((List.range laneCount).map fun i => lane state i ^^^ lane words i)

def laneBytes (word : Lane) : List UInt8 :=
  (List.range 8).map fun i => (word >>> UInt64.ofNat (8 * i)).toUInt8

def digest (message : List UInt8) : List UInt8 :=
  let padded := pad message
  let final := (pieces blockSize (padded.length / blockSize) padded).foldl absorb
    (List.replicate laneCount 0)
  (List.range 4).flatMap fun i => laneBytes (lane final i)

theorem digest_length (message : List UInt8) : (digest message).length = 32 := by
  simp only [digest, laneBytes, List.length_flatMap, List.length_map, List.length_range]
  rfl

end BridgeState.Keccak
