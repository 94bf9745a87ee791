import ClusterDesk.Bytes.Hex

/-!
# Words of fixed size

Addresses and digests are words of 20 and 32 bytes; the number of a word reads its bytes from the
most significant one.
-/

namespace ClusterDesk

structure Word (size : Nat) where
  bytes : List UInt8
  length_bytes : bytes.length = size
deriving DecidableEq, Repr

abbrev Address := Word 20

/-- A hash: a transaction, a Merkle root or a proof element. -/
abbrev Digest := Word 32

def numberOf (bytes : List UInt8) : Nat :=
  bytes.foldl (fun n b => n * 256 + b.toNat) 0

theorem numberOf_concat (front : List UInt8) (last : UInt8) :
    numberOf (front ++ [last]) = numberOf front * 256 + last.toNat := by
  simp [numberOf]

theorem numberOf_lt (bytes : List UInt8) : numberOf bytes < Nat.pow 256 bytes.length := by
  induction size : bytes.length generalizing bytes with
  | zero => simp [List.eq_nil_of_length_eq_zero size, numberOf]
  | succ shorter ih =>
    rcases bytes.eq_nil_or_concat with rfl | ⟨front, last, rfl⟩
    · simp at size
    · have before := ih front (by simpa using size)
      have := last.toNat_lt
      rw [Nat.pow_eq] at before
      rw [List.concat_eq_append, numberOf_concat, Nat.pow_eq, Nat.pow_succ]
      omega

/-- The `size` lowest bytes of a number. -/
def bytesOf : Nat → Nat → List UInt8
  | 0, _ => []
  | size + 1, n => bytesOf size (n / 256) ++ [(n % 256).toUInt8]

theorem length_bytesOf (size n : Nat) : (bytesOf size n).length = size := by
  induction size generalizing n with
  | zero => rfl
  | succ size ih => simp [bytesOf, ih]

/-- The bytes of a number without leading zeros; zero has none. -/
def minimalBytes (n : Nat) : List UInt8 :=
  if n = 0 then [] else bytesOf (n.log2 / 8 + 1) n

namespace Word

def ofNat (size n : Nat) : Word size :=
  ⟨bytesOf size n, length_bytesOf size n⟩

def toNat (w : Word size) : Nat :=
  numberOf w.bytes

instance : Inhabited (Word size) := ⟨ofNat size 0⟩

/-- `0x` and the lower-case digits. -/
def text (w : Word size) : String :=
  Hex.text w.bytes

/-- Reads a word from its digits, in either case. -/
def parse (size : Nat) (s : String) : Except Hex.Fault (Word size) :=
  match Hex.decode size s with
  | .error e => .error e
  | .ok bytes => if h : bytes.length = size then .ok ⟨bytes, h⟩ else .error .wrongLength

end Word

def Address.parse (s : String) : Except Hex.Fault Address := Word.parse 20 s

def Digest.parse (s : String) : Except Hex.Fault Digest := Word.parse 32 s

end ClusterDesk
