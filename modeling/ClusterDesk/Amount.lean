import ClusterDesk.Bytes.Word
import ClusterDesk.Json.Decoder
import ClusterDesk.Text.Basic

/-!
# Token amounts

Natural numbers below `2 ^ 256`, counted in the smallest unit of a token. Texts are read digit by
digit from the left, and the first fault ends the reading.
-/

namespace ClusterDesk

/-- Amounts stay below this bound. -/
def amountBound : Nat := Nat.pow 2 256

structure Amount where
  wei : Nat
  wei_lt : wei < amountBound
deriving DecidableEq

namespace Amount

instance : Inhabited Amount := ⟨⟨0, by decide⟩⟩

instance : Repr Amount := ⟨fun a _ => repr a.wei⟩

def zero : Amount := ⟨0, by decide⟩

def ofNat? (n : Nat) : Option Amount :=
  if h : n < amountBound then some ⟨n, h⟩ else none

def ofWord (w : Digest) : Amount :=
  ⟨w.toNat, by
    have bound := numberOf_lt w.bytes
    rw [w.length_bytes] at bound
    exact bound⟩

/-- The difference, zero where it would be negative. -/
def minus (a b : Amount) : Amount :=
  ⟨a.wei - b.wei, Nat.lt_of_le_of_lt (Nat.sub_le _ _) a.wei_lt⟩

inductive Fault where
  | tooLarge
  | badDigit (digit base : Nat)
  | badCharacter (c : Char)
deriving DecidableEq, Repr

def Fault.message : Fault → String
  | .tooLarge => "the value is too large to fit the target type"
  | .badDigit digit base =>
    "digit " ++ toString digit ++ " is out of range for base " ++ toString base
  | .badCharacter c => "invalid digit: " ++ String.ofList [c]

/-- Reads more digits behind a value; underscores are skipped. -/
def readFrom (base value : Nat) : List Char → Except Fault Nat
  | [] => .ok value
  | c :: rest =>
    if c == '_' then readFrom base value rest
    else
      match Text.digitValue? c with
      | none => .error (.badCharacter c)
      | some d =>
        if base ≤ d then .error (.badDigit d base)
        else if value * base + d < amountBound then readFrom base (value * base + d) rest
        else .error .tooLarge

/-- Reads an amount in a base; no digits make zero. -/
def read (base : Nat) (cs : List Char) : Except Fault Amount :=
  match readFrom base 0 cs with
  | .error e => .error e
  | .ok n => if h : n < amountBound then .ok ⟨n, h⟩ else .error .tooLarge

/-- The base a text names by its first two characters, and the rest. -/
def splitBase : List Char → Nat × List Char
  | '0' :: 'x' :: rest => (16, rest)
  | '0' :: 'X' :: rest => (16, rest)
  | '0' :: 'o' :: rest => (8, rest)
  | '0' :: 'O' :: rest => (8, rest)
  | '0' :: 'b' :: rest => (2, rest)
  | '0' :: 'B' :: rest => (2, rest)
  | cs => (10, cs)

def parse (s : String) : Except Fault Amount :=
  let (base, cs) := splitBase s.toList
  read base cs

/-- Lower-case hexadecimal digits without leading zeros. -/
def hex (a : Amount) : String :=
  String.ofList ('0' :: 'x' :: Nat.toDigits 16 a.wei)

def decimal (a : Amount) : String :=
  toString a.wei

/-- Reads a number of 64 bits or the text of an amount. -/
def decoder : Json.Decoder Amount
  | .num (.natural n) =>
    match ofNat? n.toNat with
    | some a => .ok a
    | none => .error (.invalid Fault.tooLarge.message)
  | .str s =>
    match parse s with
    | .ok a => .ok a
    | .error e => .error (.invalid e.message)
  | j => .error (.wrongType j .text)

def decimals : Nat := 18

def shownDecimals : Nat := 3

/-- Smallest units in one shown unit. -/
def shownUnit : Nat := Nat.pow 10 (decimals - shownDecimals)

/-- Shown units in one token. -/
def shownScale : Nat := Nat.pow 10 shownDecimals

/-- A sum of amounts; past the largest amount it stops there. -/
def saturated (sum : Nat) : Nat :=
  min sum (amountBound - 1)

/-- The lowest 64 bits of a number. -/
def limb (n : Nat) : UInt64 :=
  n.toUInt64

/-- The number of shown units, a half rounded up. -/
def shownUnits (a : Amount) : Nat :=
  saturated (a.wei + shownUnit / 2) / shownUnit

/-- Whole tokens with three decimals. -/
def shown (a : Amount) : String :=
  let fraction := Nat.toDigits 10 (limb (a.shownUnits % shownScale)).toNat
  toString (a.shownUnits / shownScale) ++ "." ++
    String.ofList (List.replicate (shownDecimals - fraction.length) '0' ++ fraction)

end Amount

end ClusterDesk
