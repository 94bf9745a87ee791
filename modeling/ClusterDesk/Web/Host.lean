import ClusterDesk.Bytes.Word
import ClusterDesk.Text.Basic
import ClusterDesk.Web.Query

/-!
# Hosts

The canonical text of the host of an address: a domain in small letters, four decimal numbers, or
eight hexadecimal words between brackets. A host outside ASCII is refused.
-/

namespace ClusterDesk.Web.Host

def isForbidden (c : Char) : Bool :=
  c.toNat ≤ 0x20 || c.toNat == 0x7F || "#/:<>?@[\\]^|%".toList.contains c

/-- Four bytes of a number behind one another, with points between. -/
def dotted (n : Nat) : List Char :=
  (".".intercalate ((bytesOf 4 n).map fun b => toString b.toNat)).toList

namespace V4

/-- One number, in the base that its start names. -/
def part? : List Char → Option Nat
  | [] => none
  | '0' :: 'x' :: rest => Text.number? 16 rest
  | '0' :: 'X' :: rest => Text.number? 16 rest
  | '0' :: d :: rest => Text.number? 8 (d :: rest)
  | cs => Text.number? 10 cs

/-- The parts between points; a point at the end counts for nothing. -/
def parts (cs : List Char) : List (List Char) :=
  match (splitAt '.' cs).reverse with
  | [] :: last :: rest => (last :: rest).reverse
  | all => all.reverse

/-- Whether a host can only be four numbers. -/
def isMeant (cs : List Char) : Bool :=
  match (parts cs).getLast? with
  | some [] => false
  | some last => last.all Char.isDigit || (part? last).isSome
  | none => false

/-- All but the last number are one byte each; the last fills the bytes that are left. -/
def combine : Nat → List Nat → Option Nat
  | _, [] => none
  | room, [last] => if last < Nat.pow 256 room then some last else none
  | room, first :: rest =>
    if first < 256 then (combine (room - 1) rest).map (first * Nat.pow 256 (room - 1) + ·) else none

def parse? (cs : List Char) : Option Nat := do
  let numbers ← (parts cs).mapM part?
  if numbers.length ≤ 4 then combine 4 numbers else none

def strict? (cs : List Char) : Option Nat := do
  let parts := splitAt '.' cs
  if parts.length == 4 && parts.all (fun p => p.length ≤ 3 && (p.length == 1 || p.head? != some '0'))
  then
    let numbers ← parts.mapM fun p => if p.isEmpty then none else Text.number? 10 p
    combine 4 numbers
  else none

end V4

namespace V6

/-- Words between single colons; the last may be four decimal numbers. -/
def words? : List (List Char) → Option (List Nat)
  | [] => some []
  | [last] =>
    if last.contains '.' then (V4.strict? last).map fun n => [n / 0x10000, n % 0x10000]
    else if 1 ≤ last.length && last.length ≤ 4 then (Text.number? 16 last).map ([·])
    else none
  | first :: rest => do
    let word ← if 1 ≤ first.length && first.length ≤ 4 then Text.number? 16 first else none
    return word :: (← words? rest)

def side? (cs : List Char) : Option (List Nat) :=
  if cs.isEmpty then some [] else words? (splitAt ':' cs)

/-- What stands before and behind the first double colon. -/
def splitDouble? : List Char → Option (List Char × List Char)
  | ':' :: ':' :: rest => some ([], rest)
  | c :: rest => (splitDouble? rest).map fun (before, behind) => (c :: before, behind)
  | [] => none

def parse? (cs : List Char) : Option (List Nat) :=
  match splitDouble? cs with
  | none => do
    let words ← side? cs
    if words.length == 8 then some words else none
  | some (before, behind) => do
    let left ← if before.contains '.' then none else side? before
    let right ← side? behind
    let zeros := 8 - left.length - right.length
    if 1 ≤ zeros then some (left ++ List.replicate zeros 0 ++ right) else none

def zeros (words : List Nat) : Nat :=
  (words.takeWhile (· == 0)).length

/-- The place and the length of the longest run of zeros, the first of several. -/
def longest : Nat → List Nat → Nat × Nat
  | _, [] => (0, 0)
  | place, w :: rest =>
    let here := zeros (w :: rest)
    let later := longest (place + 1) rest
    if later.2 ≤ here then (place, here) else later

def joined (words : List Nat) : List Char :=
  (":".intercalate (words.map fun w => String.ofList (Nat.toDigits 16 w))).toList

/-- The words, with a double colon for the longest run of at least two zeros. -/
def text (words : List Nat) : List Char :=
  let (place, length) := longest 0 words
  if length < 2 then joined words
  else joined (words.take place) ++ [':', ':'] ++ joined (words.drop (place + length))

end V6

def ofName? (cs : List Char) : Option (List Char) :=
  let bytes := unpercent cs
  if bytes.isEmpty || bytes.any (0x80 ≤ ·) then none
  else
    let name := bytes.map fun b => (Char.ofNat b.toNat).toLower
    if name.any isForbidden then none
    else if V4.isMeant name then (V4.parse? name).map dotted
    else some name

def parse? : List Char → Option (List Char)
  | '[' :: rest =>
    match rest.reverse with
    | ']' :: inner => (V6.parse? inner.reverse).map fun words => '[' :: V6.text words ++ [']']
    | _ => none
  | cs => ofName? cs

end ClusterDesk.Web.Host
