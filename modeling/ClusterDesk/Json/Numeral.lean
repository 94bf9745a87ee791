import ClusterDesk.Json.Basic

/-!
# Numerals

The grammar of a JSON number and its value. Whole numerals of at most 64 bits are exact; any other
numeral becomes a float: its leading digits as far as they fit in 64 bits, scaled by one power of
ten.
-/

namespace ClusterDesk.Json

structure Numeral where
  minus : Bool
  whole : List Char
  fraction : Option (List Char)
  /-- Whether the exponent is below zero, and its digits. -/
  exponent : Option (Bool × List Char)
deriving Repr

namespace Numeral

def isPart (c : Char) : Bool :=
  c.isDigit || c == '-' || c == '+' || c == '.' || c == 'e' || c == 'E'

/-- At least one digit. -/
def digits? (cs : List Char) : Option (List Char × List Char) :=
  match cs.takeWhile Char.isDigit with
  | [] => none
  | ds => some (ds, cs.dropWhile Char.isDigit)

def exponent? : List Char → Option (Option (Bool × List Char))
  | [] => some none
  | c :: rest =>
    if c == 'e' || c == 'E' then
      let (below, rest) := match rest with
        | '-' :: r => (true, r)
        | '+' :: r => (false, r)
        | r => (false, r)
      match digits? rest with
      | some (ds, []) => some (some (below, ds))
      | _ => none
    else none

def afterWhole (minus : Bool) (whole : List Char) : List Char → Option Numeral
  | '.' :: rest => do
    let (ds, rest) ← digits? rest
    let exponent ← exponent? rest
    return ⟨minus, whole, some ds, exponent⟩
  | rest => do
    let exponent ← exponent? rest
    return ⟨minus, whole, none, exponent⟩

def unsigned? (minus : Bool) : List Char → Option Numeral
  | '0' :: rest => afterWhole minus ['0'] rest
  | rest => do
    let (ds, rest) ← digits? rest
    afterWhole minus ds rest

/-- Takes a numeral apart; a leading zero stands alone. -/
def ofChars? : List Char → Option Numeral
  | '-' :: rest => unsigned? true rest
  | rest => unsigned? false rest

/-- Appends digits to a significand as long as it stays below `2 ^ 64`; the digits left over. -/
def absorb : Nat → List Char → Nat × List Char
  | s, [] => (s, [])
  | s, d :: ds =>
    let s' := s * 10 + (d.toNat - '0'.toNat)
    if s' < UInt64.size then absorb s' ds else (s, d :: ds)

/-- The largest power of ten that one multiplication uses. -/
def maxPower : Nat := 308

/-- Divides by the largest power while the exponent is out of reach below. -/
def lowerScale : Nat → Float → Int → Float × Int
  | 0, x, e => (x, e)
  | n + 1, x, e => if e < -maxPower && x != 0 then lowerScale n (x / 1e308) (e + maxPower) else (x, e)

/-- `significand * 10 ^ e`, none when that is past every float. -/
def scale (significand : Nat) (e : Int) : Option Float :=
  let x := significand.toUInt64.toFloat
  -- two divisions take any 64-bit significand to zero
  let (x, e) := lowerScale 3 x e
  if x == 0 then some x
  else if e > maxPower then none
  else if e < 0 then some (x / Float.ofScientific 1 false e.natAbs)
  else
    let y := x * Float.ofScientific 1 false e.natAbs
    if y.isInf then none else some y

def maxExponent : Nat := Nat.pow 2 31 - 1

/-- The unsigned float of a numeral. -/
def magnitude (n : Numeral) : Option Float :=
  let (s, spare) := absorb 0 n.whole
  let (s, after) := match n.fraction with
    | none => (s, 0)
    | some ds =>
      let (s, rest) := absorb s ds
      (s, ds.length - rest.length)
  let e : Int := (spare.length : Int) - after
  match n.exponent with
  | none => scale s e
  | some (below, ds) =>
    let k := Nat.ofDigitChars 10 ds 0
    if k > maxExponent then if s ≠ 0 && !below then none else some 0
    else scale s (if below then e - k else e + k)

/-- The value of a numeral, none when it is past every float. -/
def value (n : Numeral) : Option Number :=
  let whole := Nat.ofDigitChars 10 n.whole 0
  let isWhole := n.fraction.isNone && n.exponent.isNone
  if isWhole && !n.minus && whole < UInt64.size then some (.natural whole.toUInt64)
  else if isWhole && n.minus && 0 < whole && whole ≤ Nat.pow 2 63 then
    some (.negative (Int64.ofInt (-whole)))
  else n.magnitude.map fun x => .float (if n.minus then -x else x)

end Numeral

end ClusterDesk.Json
