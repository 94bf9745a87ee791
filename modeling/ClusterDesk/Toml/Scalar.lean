import ClusterDesk.Toml.Basic
import ClusterDesk.Toml.Quoted

/-!
# Scalars of TOML

Numbers, moments and truth values. A scalar is one run of the characters that scalars are made of;
only a moment may have a space between its date and its time.
-/

namespace ClusterDesk.Toml

def isScalarChar (c : Char) : Bool :=
  c.isAlphanum || c == '+' || c == '-' || c == '_' || c == '.' || c == ':'

/-- A sign in front, true for minus, and what stands behind it. -/
def splitSign : List Char → Option Bool × List Char
  | '+' :: rest => (some false, rest)
  | '-' :: rest => (some true, rest)
  | cs => (none, cs)

/-- The digits behind a digit, or behind something else. -/
def digitsBehind? (base : Nat) (behindDigit : Bool) : List Char → Option (List Char)
  | [] => if behindDigit then some [] else none
  | c :: rest =>
    if c == '_' then if behindDigit then digitsBehind? base false rest else none
    else if (Text.digitBelow? base c).isSome then (digitsBehind? base true rest).map (c :: ·)
    else none

/-- Digits of a base without the underscores between them; an underscore has a digit on either
side. -/
def digits? (base : Nat) (cs : List Char) : Option (List Char) :=
  digitsBehind? base false cs

/-- Decimal digits; only a zero alone starts with zero. -/
def decimal? (cs : List Char) : Option (List Char) :=
  match cs with
  | '0' :: _ :: _ => none
  | _ => digits? 10 cs

/-- A number of the range of integers. -/
def integerOf? (minus : Bool) (n : Nat) : Option Toml :=
  if minus then if n ≤ Nat.pow 2 63 then some (.integer (Int64.ofInt (-n))) else none
  else if n < Nat.pow 2 63 then some (.integer (Int64.ofNat n)) else none

def integer? (cs : List Char) : Option Toml :=
  let inBase := fun base rest =>
    (digits? base rest).bind fun ds => (Text.number? base ds).bind (integerOf? false)
  match cs with
  | '0' :: 'x' :: rest => inBase 16 rest
  | '0' :: 'o' :: rest => inBase 8 rest
  | '0' :: 'b' :: rest => inBase 2 rest
  | cs =>
    let (sign, rest) := splitSign cs
    (decimal? rest).bind fun ds =>
      (Text.number? 10 ds).bind (integerOf? (sign.getD false))

/-- The first number that rounds to no float: the largest one and half a step. -/
def floatBound : Nat := Nat.pow 2 1024 - Nat.pow 2 970

/-- Whether `n * 10 ^ e` is past every float; `n` has `count` digits. -/
def isPastFloats (n count : Nat) (e : Int) : Bool :=
  if n == 0 then false
  else if (count : Int) + e > 400 then true
  else if (count : Int) + e < 300 then false
  else if 0 ≤ e then floatBound ≤ n * Nat.pow 10 e.toNat
  else floatBound * Nat.pow 10 e.natAbs ≤ n

def exponent? (cs : List Char) : Option Int :=
  let (sign, rest) := splitSign cs
  (digits? 10 rest).bind fun ds =>
    (Text.number? 10 ds).map fun n => if sign.getD false then -(n : Int) else n

def finite? (cs : List Char) : Option Toml := do
  let (sign, rest) := splitSign cs
  let isLetter := fun c : Char => c == 'e' || c == 'E'
  let significand := rest.takeWhile fun c => !isLetter c
  let whole := significand.takeWhile (· != '.')
  let wholeDigits ← decimal? whole
  let fractionDigits ← match significand.drop whole.length with
    | _ :: fraction => digits? 10 fraction
    | [] => some []
  let e ← match rest.drop significand.length with
    | _ :: behind => exponent? behind
    | [] => some 0
  if rest.any fun c => c == '.' || isLetter c then
    let all := wholeDigits ++ fractionDigits
    let n ← Text.number? 10 all
    if !sign.getD false && isPastFloats n (Nat.toDigits 10 n).length (e - fractionDigits.length)
    then none
    else some (.float (String.ofList cs))
  else none

/-- A float, the special ones included. Below zero no float is too far. -/
def float? (cs : List Char) : Option Toml :=
  let name := String.ofList (splitSign cs).2
  if name == "inf" || name == "nan" then some (.float (String.ofList cs)) else finite? cs

/-- The number of exactly some digits within bounds. -/
def part? (digits low high : Nat) (cs : List Char) : Option (Nat × List Char) :=
  let ds := cs.take digits
  if ds.length == digits && ds.all Char.isDigit then
    match Text.number? 10 ds with
    | some n => if low ≤ n && n ≤ high then some (n, cs.drop digits) else none
    | none => none
  else none

/-- What stands behind a character that has to be in front. -/
def behind? (c : Char) : List Char → Option (List Char)
  | d :: rest => if c == d then some rest else none
  | [] => none

def daysOf (year month : Nat) : Nat :=
  let isLeap := year % 4 == 0 && (year % 100 != 0 || year % 400 == 0)
  if month == 2 then if isLeap then 29 else 28
  else if month == 4 || month == 6 || month == 9 || month == 11 then 30
  else 31

def date? (cs : List Char) : Option (List Char) := do
  let (year, cs) ← part? 4 0 9999 cs
  let cs ← behind? '-' cs
  let (month, cs) ← part? 2 1 12 cs
  let cs ← behind? '-' cs
  let (_, cs) ← part? 2 1 (daysOf year month) cs
  return cs

def time? (cs : List Char) : Option (List Char) := do
  let (_, cs) ← part? 2 0 23 cs
  let cs ← behind? ':' cs
  let (_, cs) ← part? 2 0 59 cs
  let cs ← behind? ':' cs
  let (_, cs) ← part? 2 0 60 cs
  match cs with
  | '.' :: d :: rest => if d.isDigit then some (rest.dropWhile Char.isDigit) else none
  | '.' :: [] => none
  | _ => some cs

/-- Whether a text is the offset of a time. -/
def isOffset : List Char → Bool
  | [] => true
  | ['Z'] => true
  | ['z'] => true
  | c :: rest =>
    if c == '+' || c == '-' then
      let read := do
        let (_, cs) ← part? 2 0 23 rest
        let cs ← behind? ':' cs
        let (_, cs) ← part? 2 0 59 cs
        return cs.isEmpty
      read.getD false
    else false

def isTime (cs : List Char) : Bool :=
  (time? cs).any List.isEmpty

/-- Whether a text is a time with or without an offset. -/
def isOffsetTime (cs : List Char) : Bool :=
  (time? cs).any isOffset

/-- Whether a text is a date, alone or with a time behind a letter. -/
def isDated (cs : List Char) : Bool :=
  match date? cs with
  | some [] => true
  | some (c :: rest) => (c == 'T' || c == 't') && isOffsetTime rest
  | none => false

def isMoment (cs : List Char) : Bool :=
  isDated cs || isTime cs

def scalarOf? (cs : List Char) : Option Toml :=
  if cs == "true".toList then some (.boolean true)
  else if cs == "false".toList then some (.boolean false)
  else if isMoment cs then some (.moment (String.ofList cs))
  else
    match float? cs with
    | some v => some v
    | none => integer? cs

/-- Reads a scalar. A date with a digit behind one space has its time there. -/
def scalar : Reader Toml := fun cs =>
  let run := cs.takeWhile isScalarChar
  let rest := cs.drop run.length
  match date? run, rest with
  | some [], ' ' :: d :: more =>
    if d.isDigit then
      let time := (d :: more).takeWhile isScalarChar
      if isOffsetTime time then
        some (.moment (String.ofList (run ++ ' ' :: time)), (d :: more).drop time.length)
      else none
    else some (.moment (String.ofList run), rest)
  | _, _ => (scalarOf? run).map (·, rest)

end ClusterDesk.Toml
