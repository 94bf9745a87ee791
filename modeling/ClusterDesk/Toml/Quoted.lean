import ClusterDesk.Text.Basic

/-!
# Quoted texts of TOML

Texts between double quotes have escapes, those between single quotes have none. Behind three
quotes a text may run over several lines: a line break right behind them is dropped, and up to two
quotes may stand in front of the three that close it.
-/

namespace ClusterDesk.Toml

/-- A reader takes a value from the front of a text. -/
abbrev Reader (α : Type) := List Char → Option (α × List Char)

def isSpace (c : Char) : Bool :=
  c == ' ' || c == '\t'

/-- Whether a character may stand in a text on one line. -/
def isTextChar (c : Char) : Bool :=
  c == '\t' || (0x20 ≤ c.toNat && c.toNat ≤ 0x7E) || 0x80 ≤ c.toNat

def character? (digits : List Char) : Option Char :=
  match Text.number? 16 digits with
  | some n => if n.isValidChar then some (Char.ofNat n) else none
  | none => none

def escaped? : Char → Option Char
  | 'b' => some '\x08'
  | 't' => some '\t'
  | 'n' => some '\n'
  | 'f' => some '\x0c'
  | 'r' => some '\r'
  | '"' => some '"'
  | '\\' => some '\\'
  | _ => none

/-- Reads what stands behind the backslash of an escape. -/
def escape? : Reader Char
  | 'u' :: a :: b :: c :: d :: rest => (character? [a, b, c, d]).map (·, rest)
  | 'U' :: a :: b :: c :: d :: e :: f :: g :: h :: rest =>
    (character? [a, b, c, d, e, f, g, h]).map (·, rest)
  | c :: rest => (escaped? c).map (·, rest)
  | [] => none

/-- Puts a character in front of what is read. -/
def before (c : Char) (read : Option (List Char × List Char)) : Option (List Char × List Char) :=
  read.map fun (cs, rest) => (c :: cs, rest)

/-- Reads up to a double quote. `fuel` bounds the characters of the text. -/
def shortText (fuel : Nat) : Reader (List Char) := fun cs =>
  match fuel, cs with
  | 0, _ => none
  | _, [] => none
  | fuel + 1, c :: rest =>
    if c == '"' then some ([], rest)
    else if c == '\\' then
      match escape? rest with
      | some (e, rest) => before e (shortText fuel rest)
      | none => none
    else if isTextChar c then before c (shortText fuel rest)
    else none

def shortLiteral : Reader (List Char)
  | [] => none
  | c :: rest =>
    if c == '\'' then some ([], rest)
    else if isTextChar c then before c (shortLiteral rest)
    else none

/-- A line break in front, and what stands behind it. -/
def lineBreak? : List Char → Option (List Char)
  | '\n' :: rest => some rest
  | '\r' :: '\n' :: rest => some rest
  | _ => none

/-- Three to five quotes in front: those that belong to the text, and what stands behind. -/
def closing? (quote : Char) (cs : List Char) : Option (List Char × List Char) :=
  let n := min 5 (cs.takeWhile (· == quote)).length
  if 3 ≤ n then some (List.replicate (n - 3) quote, cs.drop n) else none

def dropLines : List Char → List Char
  | '\r' :: '\n' :: rest => dropLines rest
  | c :: rest => if isSpace c || c == '\n' then dropLines rest else c :: rest
  | [] => []

/-- What stands behind an escaped line break and the blanks that follow it. -/
def continued? (cs : List Char) : Option (List Char) :=
  (lineBreak? (cs.dropWhile isSpace)).map dropLines

/-- Reads up to three double quotes. `fuel` bounds the characters of the text. -/
def longText (fuel : Nat) : Reader (List Char) := fun cs =>
  match fuel with
  | 0 => none
  | fuel + 1 =>
    match closing? '"' cs with
    | some found => some found
    | none =>
      match lineBreak? cs with
      | some rest => before '\n' (longText fuel rest)
      | none =>
        match cs with
        | [] => none
        | c :: rest =>
          if c == '\\' then
            match continued? rest with
            | some rest => longText fuel rest
            | none =>
              match escape? rest with
              | some (e, rest) => before e (longText fuel rest)
              | none => none
          else if isTextChar c then before c (longText fuel rest)
          else none

/-- Reads up to three single quotes. `fuel` bounds the characters of the text. -/
def longLiteral (fuel : Nat) : Reader (List Char) := fun cs =>
  match fuel with
  | 0 => none
  | fuel + 1 =>
    match closing? '\'' cs with
    | some found => some found
    | none =>
      match lineBreak? cs with
      | some rest => before '\n' (longLiteral fuel rest)
      | none =>
        match cs with
        | [] => none
        | c :: rest => if isTextChar c then before c (longLiteral fuel rest) else none

def dropBreak (cs : List Char) : List Char :=
  (lineBreak? cs).getD cs

def quotedLine : Reader String
  | '"' :: rest => (shortText rest.length rest).map fun (cs, rest) => (String.ofList cs, rest)
  | '\'' :: rest => (shortLiteral rest).map fun (cs, rest) => (String.ofList cs, rest)
  | _ => none

def quotedText : Reader String
  | '"' :: '"' :: '"' :: rest =>
    (longText rest.length (dropBreak rest)).map fun (cs, rest) => (String.ofList cs, rest)
  | '\'' :: '\'' :: '\'' :: rest =>
    (longLiteral rest.length (dropBreak rest)).map fun (cs, rest) => (String.ofList cs, rest)
  | cs => quotedLine cs

end ClusterDesk.Toml
