import ClusterDesk.Json.Token

/-!
# Trees of tokens

A text is read with a stack of the lists and records that are still open. Every JSON text has one
tree, and `Json.parse?` is none exactly on the others.
-/

namespace ClusterDesk.Json

/-- A list or record that is still open, its parts latest first. -/
inductive Frame where
  | list (items : List Json)
  | record (members : List (Option String × Json)) (key : Option String)

/-- What has been read, and so what may follow. -/
inductive Progress where
  | value (stack : List Frame)
  | firstItem (stack : List Frame)
  | afterItem (items : List Json) (stack : List Frame)
  | firstKey (stack : List Frame)
  | nextKey (members : List (Option String × Json)) (stack : List Frame)
  | afterKey (members : List (Option String × Json)) (key : Option String) (stack : List Frame)
  | afterMember (members : List (Option String × Json)) (stack : List Frame)
  | complete (tree : Json)

namespace Progress

def deliver (j : Json) : List Frame → Progress
  | [] => .complete j
  | .list items :: stack => .afterItem (j :: items) stack
  | .record members key :: stack => .afterMember ((key, j) :: members) stack

/-- The record of some members; it has no value if a key has none. -/
def closeRecord (members : List (Option String × Json)) : Json :=
  match members.mapM fun (key, j) => key.map (·, j) with
  | some members => .obj members
  | none => .unreadable

def startValue (t : Token) (stack : List Frame) : Option Progress :=
  match t with
  | .null => some (deliver .null stack)
  | .bool b => some (deliver (.bool b) stack)
  | .num (some n) => some (deliver (.num n) stack)
  | .num none => some (deliver .unreadable stack)
  | .str (some s) => some (deliver (.str s) stack)
  | .str none => some (deliver .unreadable stack)
  | .openList => some (.firstItem stack)
  | .openRecord => some (.firstKey stack)
  | _ => none

def step : Progress → Token → Option Progress
  | .value stack, t => startValue t stack
  | .firstItem stack, .closeList => some (deliver (.arr []) stack)
  | .firstItem stack, t => startValue t (.list [] :: stack)
  | .afterItem items stack, .comma => some (.value (.list items :: stack))
  | .afterItem items stack, .closeList => some (deliver (.arr items.reverse) stack)
  | .firstKey stack, .closeRecord => some (deliver (.obj []) stack)
  | .firstKey stack, .str key => some (.afterKey [] key stack)
  | .nextKey members stack, .str key => some (.afterKey members key stack)
  | .afterKey members key stack, .colon => some (.value (.record members key :: stack))
  | .afterMember members stack, .comma => some (.nextKey members stack)
  | .afterMember members stack, .closeRecord => some (deliver (closeRecord members.reverse) stack)
  | _, _ => none

def run : Progress → List Token → Option Progress
  | p, [] => some p
  | p, t :: ts => (step p t).bind (run · ts)

def tree? : Progress → Option Json
  | .complete j => some j
  | _ => none

end Progress

/-- The tree of a JSON text, its members in the order of the text. -/
def parse? (text : String) : Option Json := do
  let tokens ← Token.scan text.toList
  let final ← (Progress.value []).run tokens
  final.tree?

/-- How deep lists and records may stand in each other in a text that is kept whole. -/
def maxDepth : Nat := 127

/-- The tree of a text that is kept whole: every part has a value, and a repeated key keeps its
last value. -/
def parseWhole? (text : String) : Option Json := do
  let j ← parse? text
  if j.readable && j.depth ≤ maxDepth then some j.sorted else none

end ClusterDesk.Json
