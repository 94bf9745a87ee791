/-!
# Characters of texts

The characters that count as blank at the ends of a typed text, the cuts that remove them, and the
values of digits in any base up to thirty-six.
-/

namespace ClusterDesk.Text

/-- The Unicode property `White_Space`. -/
def isBlank (c : Char) : Bool :=
  let n := c.toNat
  (0x09 ≤ n && n ≤ 0x0D) || n == 0x20 || n == 0x85 || n == 0xA0 || n == 0x1680 ||
    (0x2000 ≤ n && n ≤ 0x200A) || n == 0x2028 || n == 0x2029 || n == 0x202F || n == 0x205F ||
    n == 0x3000

/-- Drops a matching run at the end of a list. -/
def dropEnd (p : Char → Bool) (cs : List Char) : List Char :=
  (cs.reverse.dropWhile p).reverse

/-- Cuts the blank characters off both ends. -/
def strip (cs : List Char) : List Char :=
  dropEnd isBlank (cs.dropWhile isBlank)

def trim (s : String) : String :=
  String.ofList (strip s.toList)

def trimSlashes (s : String) : String :=
  String.ofList (dropEnd (· == '/') s.toList)

def allBlank (s : String) : Bool :=
  s.toList.all isBlank

/-- The ASCII letters of a text in lower case; every other character is kept. -/
def lower (s : String) : String :=
  String.ofList (s.toList.map Char.toLower)

/-! ### Digits -/

/-- Letters follow the ten digits in either case. -/
def digitValue? (c : Char) : Option Nat :=
  if '0' ≤ c && c ≤ '9' then some (c.toNat - '0'.toNat)
  else if 'a' ≤ c && c ≤ 'z' then some (c.toNat - 'a'.toNat + 10)
  else if 'A' ≤ c && c ≤ 'Z' then some (c.toNat - 'A'.toNat + 10)
  else none

def digitBelow? (base : Nat) (c : Char) : Option Nat :=
  match digitValue? c with
  | some d => if d < base then some d else none
  | none => none

/-- The number behind a value and some more digits. -/
def numberFrom? (base value : Nat) : List Char → Option Nat
  | [] => some value
  | c :: rest =>
    match digitBelow? base c with
    | some d => numberFrom? base (value * base + d) rest
    | none => none

/-- The number of some digits; no digits make zero. -/
def number? (base : Nat) (cs : List Char) : Option Nat :=
  numberFrom? base 0 cs

end ClusterDesk.Text
