import ClusterDesk.Json.Basic

/-!
# TOML trees

The tree of a TOML text. Floats and moments are kept as they are written.
-/

namespace ClusterDesk

inductive Toml where
  | text (s : String)
  | integer (n : Int64)
  | float (written : String)
  | boolean (b : Bool)
  /-- A date, a time, or both. -/
  | moment (written : String)
  | list (items : List Toml)
  | table (members : List (String × Toml))
deriving BEq, Repr, Inhabited

namespace Toml

mutual

/-- The tree that decoders read. No decoder takes a float, and a moment is a record whose key no
record has. -/
def tree : Toml → Json
  | .text s => .str s
  | .integer n => .int n
  | .float _ => .unreadable
  | .boolean b => .bool b
  | .moment written => .obj [("", .str written)]
  | .list items => .arr (treeItems items)
  | .table members => .obj (treeMembers members)

def treeItems : List Toml → List Json
  | [] => []
  | item :: rest => item.tree :: treeItems rest

def treeMembers : List (String × Toml) → List (String × Json)
  | [] => []
  | (key, value) :: rest => (key, value.tree) :: treeMembers rest

end

end Toml

end ClusterDesk
