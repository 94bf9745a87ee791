import ClusterDesk.Json.Numeral

/-!
# Tokens

A JSON text as a list of tokens, read character by character. Whether a numeral or a quoted text
has a value is part of its token; whether it is well formed decides if there are tokens at all.
-/

namespace ClusterDesk.Json

inductive Token where
  | openList
  | closeList
  | openRecord
  | closeRecord
  | comma
  | colon
  | null
  | bool (b : Bool)
  /-- A numeral; none when it is past every float. -/
  | num (n : Option Number)
  /-- A quoted text; none when half of a surrogate pair stands in it. -/
  | str (s : Option String)
deriving BEq, Repr

/-- A part of a quoted text: a character, or a code unit written as an escape. -/
inductive Piece where
  | char (c : Char)
  | unit (n : Nat)
deriving BEq, Repr

namespace Piece

def isHigh (n : Nat) : Bool := 0xD800 ≤ n && n ≤ 0xDBFF

def isLow (n : Nat) : Bool := 0xDC00 ≤ n && n ≤ 0xDFFF

/-- The characters of a quoted text; none when a surrogate has no partner right behind it. -/
def join? : List Piece → Option (List Char)
  | [] => some []
  | .char c :: rest => (join? rest).map (c :: ·)
  | .unit h :: .unit l :: rest =>
    if isHigh h then
      if isLow l then
        (join? rest).map (Char.ofNat (0x10000 + (h - 0xD800) * 0x400 + (l - 0xDC00)) :: ·)
      else none
    else if isLow h then none
    else (join? (.unit l :: rest)).map (Char.ofNat h :: ·)
  | .unit n :: rest =>
    if isHigh n || isLow n then none else (join? rest).map (Char.ofNat n :: ·)

end Piece

/-- The part of a token read so far; lists hold the latest character first. -/
inductive Unfinished where
  | nothing
  | text (pieces : List Piece)
  | escape (pieces : List Piece)
  | unit (pieces : List Piece) (digits : Nat) (value : Nat)
  | numeral (cs : List Char)
  | word (cs : List Char)
deriving Repr

def isSpace (c : Char) : Bool :=
  c == ' ' || c == '\n' || c == '\t' || c == '\r'

/-- The value of a hexadecimal digit. -/
def hexValue? (c : Char) : Option Nat :=
  if '0' ≤ c && c ≤ '9' then some (c.toNat - '0'.toNat)
  else if 'a' ≤ c && c ≤ 'f' then some (c.toNat - 'a'.toNat + 10)
  else if 'A' ≤ c && c ≤ 'F' then some (c.toNat - 'A'.toNat + 10)
  else none

/-- The character a one-letter escape stands for. -/
def escaped? : Char → Option Char
  | '"' => some '"'
  | '\\' => some '\\'
  | '/' => some '/'
  | 'b' => some '\x08'
  | 'f' => some '\x0c'
  | 'n' => some '\n'
  | 'r' => some '\r'
  | 't' => some '\t'
  | _ => none

namespace Token

def ofWord? : List Char → Option Token
  | ['n', 'u', 'l', 'l'] => some .null
  | ['t', 'r', 'u', 'e'] => some (.bool true)
  | ['f', 'a', 'l', 's', 'e'] => some (.bool false)
  | _ => none

def ofNumeral? (cs : List Char) : Option Token :=
  (Numeral.ofChars? cs).map fun n => .num n.value

def ofPieces (pieces : List Piece) : Token :=
  .str ((Piece.join? pieces).map String.ofList)

/-- A character between two tokens. -/
def start (c : Char) : Option (Unfinished × List Token) :=
  if isSpace c then some (.nothing, [])
  else if c == '[' then some (.nothing, [.openList])
  else if c == ']' then some (.nothing, [.closeList])
  else if c == '\x7b' then some (.nothing, [.openRecord])
  else if c == '\x7d' then some (.nothing, [.closeRecord])
  else if c == ',' then some (.nothing, [.comma])
  else if c == ':' then some (.nothing, [.colon])
  else if c == '"' then some (.text [], [])
  else if Numeral.isPart c && c != 'e' && c != 'E' then some (.numeral [c], [])
  else if c.isLower then some (.word [c], [])
  else none

/-- One more character. -/
def step (u : Unfinished) (c : Char) : Option (Unfinished × List Token) :=
  match u with
  | .nothing => start c
  | .text pieces =>
    if c == '"' then some (.nothing, [ofPieces pieces.reverse])
    else if c == '\\' then some (.escape pieces, [])
    else if c.toNat < 0x20 then none
    else some (.text (.char c :: pieces), [])
  | .escape pieces =>
    if c == 'u' then some (.unit pieces 4 0, [])
    else (escaped? c).map fun e => (.text (.char e :: pieces), [])
  | .unit pieces digits value =>
    (hexValue? c).map fun d =>
      if digits ≤ 1 then (.text (.unit (value * 16 + d) :: pieces), [])
      else (.unit pieces (digits - 1) (value * 16 + d), [])
  | .numeral cs =>
    if Numeral.isPart c then some (.numeral (c :: cs), [])
    else do
      let t ← ofNumeral? cs.reverse
      let (u, ts) ← start c
      return (u, t :: ts)
  | .word cs =>
    if c.isLower then some (.word (c :: cs), [])
    else do
      let t ← ofWord? cs.reverse
      let (u, ts) ← start c
      return (u, t :: ts)

/-- The end of the text. -/
def finish : Unfinished → Option (List Token)
  | .nothing => some []
  | .numeral cs => (ofNumeral? cs.reverse).map ([·])
  | .word cs => (ofWord? cs.reverse).map ([·])
  | _ => none

/-- The tokens of the rest of a text, a token being read. -/
def scanFrom (u : Unfinished) : List Char → Option (List Token)
  | [] => finish u
  | c :: rest => do
    let (u, ts) ← step u c
    let more ← scanFrom u rest
    return ts ++ more

def scan (cs : List Char) : Option (List Token) :=
  scanFrom .nothing cs

end Token

end ClusterDesk.Json
