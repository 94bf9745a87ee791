import ClusterDesk.Toml.Value

/-!
# TOML documents

A document is a row of statements, one a line: assignments, and headers that name the table the
next assignments go to.
-/

namespace ClusterDesk.Toml

inductive Statement where
  | assign (path : Path) (v : Toml)
  | table (path : Path)
  | element (path : Path)
deriving BEq, Repr

/-- What stands behind the end of a line; a comment may come before it. -/
def lineEnd? (cs : List Char) : Option (List Char) :=
  let cs := dropSpaces cs
  let cs := match cs with
    | '#' :: rest => rest.dropWhile isCommentChar
    | _ => cs
  match cs with
  | [] => some []
  | _ => lineBreak? cs

def statement : Reader Statement
  | '[' :: '[' :: rest =>
    match key rest with
    | some (path, ']' :: ']' :: rest) => some (.element path, rest)
    | _ => none
  | '[' :: rest =>
    match key rest with
    | some (path, ']' :: rest) => some (.table path, rest)
    | _ => none
  | cs => (pair value cs).map fun ((path, v), rest) => (.assign path v, rest)

/-- Reads the statements of a document. `fuel` bounds its lines. -/
def statements : Nat → List Char → Option (List Statement)
  | 0, _ => none
  | fuel + 1, cs =>
    match dropSpaces cs with
    | [] => some []
    | cs =>
      match lineEnd? cs with
      | some rest => statements fuel rest
      | none =>
        match statement cs with
        | none => none
        | some (s, rest) =>
          match lineEnd? rest with
          | none => none
          | some rest => (statements fuel rest).map (s :: ·)

/-- A document as far as it was built: the root, and the way to the table that assignments go to. -/
structure Draft where
  root : Table := []
  way : List String := []

namespace Draft

def add (d : Draft) : Statement → Option Draft
  | .assign path v =>
    (Table.edit .implied (Table.assign path v) d.way .named d.root).map fun root =>
      { d with root := root }
  | .table path =>
    (Table.startTable path d.root).map fun root => { root := root, way := path.above ++ [path.last] }
  | .element path =>
    (Table.startElement path d.root).map fun root => { root := root, way := path.above ++ [path.last] }

end Draft

def ofStatements? (ss : List Statement) : Option Toml :=
  (ss.foldlM Draft.add {}).map fun d => d.root.value

/-- Reads a document; a byte order mark in front is skipped. -/
def parse? (s : String) : Option Toml :=
  let cs := match s.toList with
    | '\uFEFF' :: rest => rest
    | cs => cs
  (statements (cs.length + 1) cs).bind ofStatements?

end ClusterDesk.Toml
