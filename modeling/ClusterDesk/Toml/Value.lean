import ClusterDesk.Toml.Scalar
import ClusterDesk.Toml.Table

/-!
# Values of TOML

Texts, scalars, and the lists and tables written inside a line. Values stand inside each other less
than eighty deep, and a key has less than eighty parts.
-/

namespace ClusterDesk.Toml

/-- One more than the lists and tables that may stand inside each other, and than the parts of a
key. -/
def limit : Nat := 80

def isCommentChar (c : Char) : Bool :=
  isTextChar c || c.toNat == 0x7F

def dropGaps (inComment : Bool) : List Char → List Char
  | '\r' :: '\n' :: rest => dropGaps false rest
  | '\n' :: rest => dropGaps false rest
  | c :: rest =>
    if inComment then if isCommentChar c then dropGaps true rest else c :: rest
    else if isSpace c then dropGaps false rest
    else if c == '#' then dropGaps true rest
    else c :: rest
  | [] => []

def dropSpaces (cs : List Char) : List Char :=
  cs.dropWhile isSpace

def isBareChar (c : Char) : Bool :=
  c.isAlphanum || c == '_' || c == '-'

/-- Reads one part of a key, with the spaces around it. -/
def keyPart : Reader String := fun cs =>
  let cs := dropSpaces cs
  let found := match cs with
    | '"' :: _ => quotedLine cs
    | '\'' :: _ => quotedLine cs
    | _ =>
      match cs.takeWhile isBareChar with
      | [] => none
      | bare => some (String.ofList bare, cs.drop bare.length)
  found.map fun (key, rest) => (key, dropSpaces rest)

/-- Reads a key of at most some parts, with points between them. -/
def keyOf : Nat → Reader Path
  | 0, _ => none
  | parts + 1, cs =>
    match keyPart cs with
    | none => none
    | some (key, '.' :: rest) =>
      (keyOf parts rest).map fun (path, rest) => (path.under key, rest)
    | some (key, rest) => some (⟨[], key⟩, rest)

def key : Reader Path :=
  keyOf (limit - 1)

/-- Reads a key, an equals sign and a value. -/
def pair (value : Reader Toml) : Reader (Path × Toml) := fun cs =>
  match key cs with
  | some (path, '=' :: rest) =>
    (value (dropSpaces rest)).map fun (v, rest) => ((path, v), rest)
  | _ => none

/-- Reads the items of a list up to its end. `fuel` bounds the items. -/
def items (value : Reader Toml) : Nat → Reader (List Toml)
  | 0, _ => none
  | fuel + 1, cs =>
    match dropGaps false cs with
    | ']' :: rest => some ([], rest)
    | cs =>
      match value cs with
      | none => none
      | some (v, rest) =>
        match dropGaps false rest with
        | ',' :: rest => (items value fuel rest).map fun (vs, rest) => (v :: vs, rest)
        | ']' :: rest => some ([v], rest)
        | _ => none

/-- Reads the members of a table on one line up to its end. `fuel` bounds the members. -/
def members (value : Reader Toml) : Nat → Reader (List (Path × Toml))
  | 0, _ => none
  | fuel + 1, cs =>
    match pair value cs with
    | none => none
    | some (p, rest) =>
      match dropSpaces rest with
      | ',' :: rest => (members value fuel rest).map fun (ps, rest) => (p :: ps, rest)
      | '\x7d' :: rest => some ([p], rest)
      | _ => none

/-- Reads a table on one line behind its opening brace. -/
def inlineTable (value : Reader Toml) : Reader Toml := fun cs =>
  match dropSpaces cs with
  | '\x7d' :: rest => some (.table [], rest)
  | cs =>
    match members value cs.length cs with
    | none => none
    | some (ps, rest) => (Table.ofPairs? ps).map fun t => (t.value, rest)

/-- Reads a value inside of which at most some lists and tables stand. -/
def valueOf : Nat → Reader Toml
  | room, cs =>
    match room, cs with
    | _, '"' :: _ => (quotedText cs).map fun (s, rest) => (.text s, rest)
    | _, '\'' :: _ => (quotedText cs).map fun (s, rest) => (.text s, rest)
    | 0, '[' :: _ => none
    | 0, '\x7b' :: _ => none
    | room + 1, '[' :: rest =>
      (items (valueOf room) cs.length rest).map fun (vs, rest) => (.list vs, rest)
    | room + 1, '\x7b' :: rest => inlineTable (valueOf room) rest
    | _, _ => scalar cs

def value : Reader Toml :=
  valueOf (limit - 1)

end ClusterDesk.Toml
