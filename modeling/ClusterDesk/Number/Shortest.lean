/-!
# Shortest decimal of a float

The fewest digits that read back as the same float, the nearest of those. With `n` digits, the only
candidates are the two neighbours of the value on the grid of `n`-digit decimals.
-/

namespace ClusterDesk.Shortest

/-- A positive float as `m * 2 ^ q`, with the half gaps to its neighbours in quarter units:
every real strictly between `4 * m - below` and `4 * m + 2` rounds to it. -/
structure Binary where
  m : Nat
  q : Int
  below : Nat
deriving Repr

namespace Binary

/-- Taken from the bits of a finite float; the sign is dropped. -/
def ofBits (bits : UInt64) : Binary :=
  let fraction := (bits &&& 0xFFFFFFFFFFFFF).toNat
  let exponent := ((bits >>> 52) &&& 0x7FF).toNat
  if exponent == 0 then ⟨fraction, -1074, 2⟩
  else
    ⟨fraction + Nat.pow 2 52, (exponent : Int) - 1075, if fraction == 0 && exponent > 1 then 1 else 2⟩

/-- Factors `a`, `b` with `u = a / b` quarter units of `x` per unit `10 ^ k`. -/
def ratio (x : Binary) (k : Int) : Nat × Nat :=
  let twos := x.q - 2
  (Nat.pow 2 twos.toNat * Nat.pow 10 (-k).toNat, Nat.pow 2 (-twos).toNat * Nat.pow 10 k.toNat)

/-- Whether `c * 10 ^ k` rounds to `x`. -/
def covers (x : Binary) (k : Int) (c : Nat) : Bool :=
  let (a, b) := x.ratio k
  let low := (4 * x.m - x.below) * a
  let high := (4 * x.m + 2) * a
  if x.m % 2 == 0 then low ≤ c * b && c * b ≤ high else low < c * b && c * b < high

/-- The better of the two neighbours of `x` on the grid of multiples of `10 ^ k`; on a tie the
even one. -/
def candidate? (x : Binary) (k : Int) : Option Nat :=
  let (a, b) := x.ratio k
  let exact := 4 * x.m * a
  let floor := exact / b
  let downGap := exact - floor * b
  let upGap := (floor + 1) * b - exact
  let downFirst := downGap < upGap || (downGap == upGap && floor % 2 == 0)
  match x.covers k floor, x.covers k (floor + 1) with
  | true, true => some (if downFirst then floor else floor + 1)
  | true, false => some floor
  | false, true => some (floor + 1)
  | false, false => none

def leading (x : Binary) : Int :=
  let num := x.m * Nat.pow 2 x.q.toNat
  let den := Nat.pow 2 (-x.q).toNat
  if den ≤ num then ((Nat.toDigits 10 (num / den)).length : Int) - 1
  else
    let len := (Nat.toDigits 10 (den / num)).length
    if num * Nat.pow 10 (len - 1) == den then -((len : Int) - 1) else -(len : Int)

/-- Seventeen digits always suffice. -/
def search (x : Binary) : Nat → Nat → Nat × Int
  | 0, _ => (0, 0)
  | fuel + 1, n =>
    let k := x.leading + 1 - n
    match x.candidate? k with
    | some c => if c == Nat.pow 10 n then (1, k + n) else (c, k)
    | none => x.search fuel (n + 1)

/-- Digits and exponent `(c, k)` of the shortest decimal `c * 10 ^ k`. -/
def shortest (x : Binary) : Nat × Int :=
  x.search 17 1

end Binary

/-- Positional notation ends where the first digit stands for `10 ^ 16`. -/
def positionalEnd : Int := 16

/-- The least place of the point that is written with leading zeros. -/
def positionalStart : Int := -5

/-- The text of `c * 10 ^ k`: positional with a point, or one digit before the point and a bare
exponent. -/
def layout (c : Nat) (k : Int) : String :=
  let digits := Nat.toDigits 10 c
  let len : Int := digits.length
  let point := len + k
  if 0 ≤ k && point ≤ positionalEnd then
    String.ofList (digits ++ List.replicate k.toNat '0' ++ ['.', '0'])
  else if 0 < point && point ≤ positionalEnd then
    String.ofList (digits.take point.toNat ++ '.' :: digits.drop point.toNat)
  else if positionalStart < point && point ≤ 0 then
    String.ofList ('0' :: '.' :: List.replicate (-point).toNat '0' ++ digits)
  else
    let exponent := toString (point - 1)
    match digits with
    | [d] => String.ofList [d] ++ "e" ++ exponent
    | d :: ds => String.ofList (d :: '.' :: ds) ++ "e" ++ exponent
    | [] => exponent

def text (x : Float) : String :=
  let bits := x.toBits
  let sign := if bits >>> 63 == 1 then "-" else ""
  let binary := Binary.ofBits bits
  if binary.m == 0 then sign ++ "0.0"
  else
    let (c, k) := binary.shortest
    sign ++ layout c k

end ClusterDesk.Shortest
