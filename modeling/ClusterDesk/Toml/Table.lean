import ClusterDesk.Toml.Basic

/-!
# Tables of TOML

How statements build tables. A header names a table once; deeper headers and dotted keys make the
tables on their way; what was made one way cannot be continued the other way, and nothing is
defined twice.
-/

namespace ClusterDesk.Toml

/-- A key of one or more parts: the last one, and those in front of it. -/
structure Path where
  above : List String
  last : String
deriving BEq, DecidableEq, Repr

namespace Path

def under (p : Path) (key : String) : Path :=
  ⟨key :: p.above, p.last⟩

end Path

/-- How a table came to be. -/
inductive Origin where
  /-- Named by a header, or an element of a list of tables. -/
  | named
  /-- On the way to a table that a header names. -/
  | implied
  /-- On the way of a dotted key. -/
  | dotted
deriving BEq, DecidableEq, Repr

inductive Node where
  | value (v : Toml)
  | table (origin : Origin) (members : List (String × Node))
  /-- A list of tables that headers name, the latest first. -/
  | series (tables : List (List (String × Node)))
deriving Inhabited

namespace Node

mutual

def finish : Node → Toml
  | .value v => v
  | .table _ members => .table (finishMembers members)
  | .series tables => .list (finishTables [] tables)

def finishMembers : List (String × Node) → List (String × Toml)
  | [] => []
  | (key, node) :: rest => (key, node.finish) :: finishMembers rest

/-- The tables in front of others, the latest last. -/
def finishTables (done : List Toml) : List (List (String × Node)) → List Toml
  | [] => done
  | members :: rest => finishTables (.table (finishMembers members) :: done) rest

end

end Node

abbrev Table := List (String × Node)

namespace Table

def replace (t : Table) (key : String) (node : Node) : Table :=
  t.map fun (k, n) => if k = key then (k, node) else (k, n)

/-- Edits the table at the end of a way. Tables that are missing on it are made with an origin; a
dotted way does not go through a table that a header names. -/
def edit (made : Origin) (change : Origin → Table → Option Table) :
    List String → Origin → Table → Option Table
  | [], origin, t => change origin t
  | key :: way, _, t =>
    match t.lookup key with
    | none => (edit made change way made []).map fun inner => t ++ [(key, .table made inner)]
    | some (.value _) => none
    | some (.table origin inner) =>
      if made = .dotted ∧ origin = .named then none
      else (edit made change way origin inner).map fun inner => t.replace key (.table origin inner)
    | some (.series []) => none
    | some (.series (latest :: others)) =>
      (edit made change way .named latest).map fun latest =>
        t.replace key (.series (latest :: others))

/-- Adds a value under a key that is free. A dotted key ends in a table that dotted keys made, a
plain key in any other. -/
def put (isDotted : Bool) (key : String) (v : Toml) (origin : Origin) (t : Table) : Option Table :=
  if (origin == .dotted) != isDotted then none
  else
    match t.lookup key with
    | none => some (t ++ [(key, .value v)])
    | some _ => none

def assign (p : Path) (v : Toml) (origin : Origin) (t : Table) : Option Table :=
  edit .dotted (put (!p.above.isEmpty) p.last v) p.above origin t

/-- Starts the table that a header names. -/
def startTable (p : Path) (t : Table) : Option Table :=
  edit .implied (fun _ t =>
    match t.lookup p.last with
    | none => some (t ++ [(p.last, .table .named [])])
    | some (.table .implied inner) => some (replace t p.last (.table .named inner))
    | some _ => none) p.above .named t

def startElement (p : Path) (t : Table) : Option Table :=
  edit .implied (fun _ t =>
    match t.lookup p.last with
    | none => some (t ++ [(p.last, .series [[]])])
    | some (.series tables) => some (replace t p.last (.series ([] :: tables)))
    | some _ => none) p.above .named t

def ofPairs? (pairs : List (Path × Toml)) : Option Table :=
  pairs.foldlM (fun t (p, v) => assign p v .named t) []

def value (t : Table) : Toml :=
  (Node.table .named t).finish

end Table

end ClusterDesk.Toml
