import ClusterDesk.Json.Basic
import ClusterDesk.Number.Shortest

/-!
# Written JSON

The compact form, without any space, and the form indented by two spaces a level.
-/

namespace ClusterDesk.Json

/-- A hexadecimal digit in lower case. -/
def hexDigit (n : Nat) : Char :=
  Nat.digitChar n

/-- One character of a quoted text. Only the quote, the backslash and control characters are
escaped. -/
def escape (c : Char) : List Char :=
  if c == '"' then ['\\', '"']
  else if c == '\\' then ['\\', '\\']
  else if c == '\x08' then ['\\', 'b']
  else if c == '\t' then ['\\', 't']
  else if c == '\n' then ['\\', 'n']
  else if c == '\x0c' then ['\\', 'f']
  else if c == '\r' then ['\\', 'r']
  else if c.toNat < 0x20 then ['\\', 'u', '0', '0', hexDigit (c.toNat / 16), hexDigit (c.toNat % 16)]
  else [c]

def quote (s : String) : List Char :=
  '"' :: s.toList.flatMap escape ++ ['"']

def Number.chars : Number → List Char
  | .natural n => Nat.toDigits 10 n.toNat
  | .negative n => (toString n.toInt).toList
  | .float x => (Shortest.text x).toList

/-- The text of a value without parts. -/
def leafChars : Json → List Char
  | .null => "null".toList
  | .bool b => (if b then "true" else "false").toList
  | .num n => n.chars
  | .str s => quote s
  | _ => "null".toList

mutual

def compactChars : Json → List Char
  | .arr items => '[' :: compactItems items ++ [']']
  | .obj members => '\x7b' :: compactMembers members ++ ['\x7d']
  | j => leafChars j

def compactItems : List Json → List Char
  | [] => []
  | [item] => compactChars item
  | item :: rest => compactChars item ++ ',' :: compactItems rest

def compactMembers : List (String × Json) → List Char
  | [] => []
  | [(key, value)] => quote key ++ ':' :: compactChars value
  | (key, value) :: rest => quote key ++ ':' :: compactChars value ++ ',' :: compactMembers rest

end

/-- The text without any space. -/
def compact (j : Json) : String :=
  String.ofList (compactChars j)

/-- A new line at a level. -/
def indent (level : Nat) : List Char :=
  '\n' :: List.replicate (2 * level) ' '

mutual

def indentedChars (level : Nat) : Json → List Char
  | .arr [] => ['[', ']']
  | .arr items => '[' :: indentedItems (level + 1) items ++ indent level ++ [']']
  | .obj [] => ['\x7b', '\x7d']
  | .obj members => '\x7b' :: indentedMembers (level + 1) members ++ indent level ++ ['\x7d']
  | j => leafChars j

def indentedItems (level : Nat) : List Json → List Char
  | [] => []
  | [item] => indent level ++ indentedChars level item
  | item :: rest => indent level ++ indentedChars level item ++ ',' :: indentedItems level rest

def indentedMembers (level : Nat) : List (String × Json) → List Char
  | [] => []
  | [(key, value)] => indent level ++ quote key ++ ':' :: ' ' :: indentedChars level value
  | (key, value) :: rest =>
    indent level ++ quote key ++ ':' :: ' ' :: indentedChars level value ++
      ',' :: indentedMembers level rest

end

/-- The text with one part a line. -/
def indented (j : Json) : String :=
  String.ofList (indentedChars 0 j)

end ClusterDesk.Json
