import ClusterDesk.Text.Quoted

/-!
# Bytes in hexadecimal

Bytes are written with two lower-case digits each. A text is read by its UTF-8 bytes, with or
without `0x` in front, and only at its exact length.
-/

namespace ClusterDesk

def utf8 (s : String) : List UInt8 :=
  s.toList.flatMap String.utf8EncodeChar

namespace Hex

/-- The value of a hexadecimal digit, given by its byte. -/
def value? (b : UInt8) : Option UInt8 :=
  if 0x30 ≤ b && b ≤ 0x39 then some (b - 0x30)
  else if 0x61 ≤ b && b ≤ 0x66 then some (b - 0x57)
  else if 0x41 ≤ b && b ≤ 0x46 then some (b - 0x37)
  else none

def digit (n : UInt8) : Char :=
  Nat.digitChar n.toNat

def ofByte (b : UInt8) : List Char :=
  [digit (b / 16), digit (b % 16)]

def encode (bytes : List UInt8) : List Char :=
  bytes.flatMap ofByte

/-- Bytes with `0x` in front. -/
def text (bytes : List UInt8) : String :=
  String.ofList ('0' :: 'x' :: encode bytes)

inductive Fault where
  | oddLength
  | wrongLength
  /-- A byte that is no digit, and its place behind the `0x`. -/
  | badDigit (byte : UInt8) (position : Nat)
deriving BEq, DecidableEq, Repr

def Fault.message : Fault → String
  | .oddLength => "odd number of digits"
  | .wrongLength => "invalid string length"
  | .badDigit byte position =>
    "invalid character " ++ Text.quotedLetter (Char.ofNat byte.toNat) ++ " at position " ++
      toString position

/-- Removes `0x` in front. -/
def bare : List UInt8 → List UInt8
  | 0x30 :: 0x78 :: rest => rest
  | bytes => bytes

/-- Reads pairs of digits, the first of them at a position. -/
def pairs (position : Nat) : List UInt8 → Except Fault (List UInt8)
  | [] => .ok []
  | [_] => .error .oddLength
  | h :: l :: rest =>
    match value? h, value? l with
    | none, _ => .error (.badDigit h position)
    | some _, none => .error (.badDigit l (position + 1))
    | some x, some y => (pairs (position + 2) rest).map ((x * 16 + y) :: ·)

def parse (s : String) : Except Fault (List UInt8) :=
  pairs 0 (bare (utf8 s))

def decode (size : Nat) (s : String) : Except Fault (List UInt8) :=
  let bytes := utf8 s
  if bytes.length % 2 == 1 then .error .oddLength
  else if (bare bytes).length / 2 != size then .error .wrongLength
  else pairs 0 (bare bytes)

end Hex

end ClusterDesk
