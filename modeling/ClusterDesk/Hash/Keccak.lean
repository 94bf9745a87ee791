import ClusterDesk.Bytes.Word

/-!
# Keccak-256

The sponge of 25 lanes of 64 bits with a rate of 136 bytes and the padding `0x01 … 0x80`.
-/

namespace ClusterDesk.Keccak

def lanes : Nat := 25

/-- Bytes absorbed by one permutation. -/
def rate : Nat := 136

def roundConstants : List UInt64 := [
  0x0000000000000001, 0x0000000000008082, 0x800000000000808a, 0x8000000080008000,
  0x000000000000808b, 0x0000000080000001, 0x8000000080008081, 0x8000000000008009,
  0x000000000000008a, 0x0000000000000088, 0x0000000080008009, 0x000000008000000a,
  0x000000008000808b, 0x800000000000008b, 0x8000000000008089, 0x8000000000008003,
  0x8000000000008002, 0x8000000000000080, 0x000000000000800a, 0x800000008000000a,
  0x8000000080008081, 0x8000000000008080, 0x0000000080000001, 0x8000000080008008]

/-- How far lane `x + 5 * y` is turned, in that order. -/
def rotations : Array UInt64 := #[
  0, 1, 62, 28, 27, 36, 44, 6, 55, 20, 3, 10, 43, 25, 39, 41, 45, 15, 21, 8, 18, 2, 61, 56, 14]

def rotateLeft (x : UInt64) (n : UInt64) : UInt64 :=
  if n == 0 then x else (x <<< n) ||| (x >>> (64 - n))

def lane (a : Array UInt64) (x y : Nat) : UInt64 :=
  a.getD (x % 5 + 5 * (y % 5)) 0

def theta (a : Array UInt64) : Array UInt64 :=
  let column := fun x => lane a x 0 ^^^ lane a x 1 ^^^ lane a x 2 ^^^ lane a x 3 ^^^ lane a x 4
  let columns := (Array.range 5).map column
  let spread := (Array.range 5).map fun x =>
    columns.getD ((x + 4) % 5) 0 ^^^ rotateLeft (columns.getD ((x + 1) % 5) 0) 1
  (Array.range lanes).map fun i => a.getD i 0 ^^^ spread.getD (i % 5) 0

/-- Turns every lane and moves lane `(x, y)` to `(y, 2 * x + 3 * y)`. -/
def rhoPi (a : Array UInt64) : Array UInt64 :=
  (Array.range lanes).map fun i =>
    let x := i % 5
    let y := i / 5
    let source := (x + 3 * y) % 5 + 5 * x
    rotateLeft (a.getD source 0) (rotations.getD source 0)

def chi (a : Array UInt64) : Array UInt64 :=
  (Array.range lanes).map fun i =>
    let x := i % 5
    let y := i / 5
    lane a x y ^^^ (~~~ lane a (x + 1) y &&& lane a (x + 2) y)

def round (a : Array UInt64) (constant : UInt64) : Array UInt64 :=
  let b := chi (rhoPi (theta a))
  b.modify 0 (· ^^^ constant)

def permute (a : Array UInt64) : Array UInt64 :=
  roundConstants.foldl round a

/-- Fills the last block up. -/
def pad (bytes : List UInt8) : List UInt8 :=
  let free := rate - bytes.length % rate
  if free == 1 then bytes ++ [0x81]
  else bytes ++ 0x01 :: List.replicate (free - 2) 0x00 ++ [0x80]

/-- Eight bytes from the least significant one. -/
def laneOf (bytes : List UInt8) : UInt64 :=
  bytes.foldr (fun b n => n * 256 + b.toUInt64) 0

def bytesOfLane (x : UInt64) : List UInt8 :=
  (List.range 8).map fun i => (x >>> (8 * i).toUInt64).toUInt8

def absorb (a : Array UInt64) (block : List UInt8) : Array UInt64 :=
  permute ((Array.range lanes).map fun i =>
    a.getD i 0 ^^^ laneOf ((block.drop (8 * i)).take 8))

/-- Absorbs a number of blocks. -/
def sponge (a : Array UInt64) : Nat → List UInt8 → Array UInt64
  | 0, _ => a
  | n + 1, bytes => sponge (absorb a (bytes.take rate)) n (bytes.drop rate)

def hash (bytes : List UInt8) : Digest :=
  let padded := pad bytes
  let final := sponge (Array.replicate lanes 0) (padded.length / rate) padded
  Word.ofNat 32 (numberOf ((List.range 4).flatMap fun i => bytesOfLane (final.getD i 0)))

end ClusterDesk.Keccak
