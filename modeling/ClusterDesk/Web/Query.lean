import ClusterDesk.Bytes.Hex

/-!
# Query strings

Parameters as they stand behind the question mark of an address: letters, digits and `*-._` stand
for themselves, a space is written `+`, and every other byte `%` with two capital digits. Reading a
query gives the bytes of its names and values.
-/

namespace ClusterDesk.Web

/-- Names with their values, in the order of the text. -/
abbrev Query := List (String × String)

def isAlphanumeric (b : UInt8) : Bool :=
  (0x30 ≤ b && b ≤ 0x39) || (0x41 ≤ b && b ≤ 0x5A) || (0x61 ≤ b && b ≤ 0x7A)

/-- A byte as `%` and two capital digits. -/
def percent (b : UInt8) : List Char :=
  ['%', (Hex.digit (b / 16)).toUpper, (Hex.digit (b % 16)).toUpper]

def digitOf? (c : Char) : Option UInt8 :=
  if c.toNat < 0x80 then Hex.value? c.toNat.toUInt8 else none

/-- The bytes of a text in which `%` and two digits stand for one byte. -/
def unpercent : List Char → List UInt8
  | '%' :: h :: l :: rest =>
    match digitOf? h, digitOf? l with
    | some x, some y => (x * 16 + y) :: unpercent rest
    | _, _ => 0x25 :: unpercent (h :: l :: rest)
  | c :: rest => String.utf8EncodeChar c ++ unpercent rest
  | [] => []

def splitAt (separator : Char) : List Char → List (List Char)
  | [] => [[]]
  | c :: rest =>
    if c == separator then [] :: splitAt separator rest
    else
      match splitAt separator rest with
      | first :: more => (c :: first) :: more
      | [] => [[c]]

namespace Query

/-- Whether a byte stands for itself. -/
def isPlain (b : UInt8) : Bool :=
  isAlphanumeric b || b == 0x2A || b == 0x2D || b == 0x2E || b == 0x5F

def encodeByte (b : UInt8) : List Char :=
  if isPlain b then [Char.ofNat b.toNat]
  else if b == 0x20 then ['+']
  else percent b

def encodeText (s : String) : List Char :=
  (utf8 s).flatMap encodeByte

def encodePair (p : String × String) : List Char :=
  encodeText p.1 ++ '=' :: encodeText p.2

def encode : Query → List Char
  | [] => []
  | [p] => encodePair p
  | p :: rest => encodePair p ++ '&' :: encode rest

def decodeText (cs : List Char) : List UInt8 :=
  unpercent (cs.map fun c => if c == '+' then ' ' else c)

def decodePair (cs : List Char) : List UInt8 × List UInt8 :=
  (decodeText (cs.takeWhile (· != '=')), decodeText ((cs.dropWhile (· != '=')).drop 1))

/-- The names and values of a query string, as bytes. -/
def decode (cs : List Char) : List (List UInt8 × List UInt8) :=
  ((splitAt '&' cs).filter fun part => !part.isEmpty).map decodePair

end Query

end ClusterDesk.Web
