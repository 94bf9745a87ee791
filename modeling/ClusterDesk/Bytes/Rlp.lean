import ClusterDesk.Bytes.Word

/-!
# Length-prefixed lists

Trees of byte strings with the length in front of every string and list. A single byte below
`0x80` stands for itself, and a number is its bytes without leading zeros.
-/

namespace ClusterDesk

inductive Rlp where
  | bytes (data : List UInt8)
  | list (items : List Rlp)

namespace Rlp

def number (n : Nat) : Rlp :=
  .bytes (minimalBytes n)

/-- Lengths from here on are written in bytes of their own. -/
def longLength : Nat := 56

def header (mark : UInt8) (length : Nat) : List UInt8 :=
  if length < longLength then [mark + length.toUInt8]
  else
    let digits := minimalBytes length
    (mark + (longLength - 1 + digits.length).toUInt8) :: digits

def ofBytes (data : List UInt8) : List UInt8 :=
  match data with
  | [b] => if b < 0x80 then [b] else header 0x80 1 ++ [b]
  | _ => header 0x80 data.length ++ data

mutual

def encode : Rlp → List UInt8
  | .bytes data => ofBytes data
  | .list items =>
    let inner := encodeAll items
    header 0xc0 inner.length ++ inner

def encodeAll : List Rlp → List UInt8
  | [] => []
  | item :: rest => encode item ++ encodeAll rest

end

end Rlp

end ClusterDesk
