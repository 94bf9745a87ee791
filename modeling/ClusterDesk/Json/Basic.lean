/-!
# JSON trees

The tree of a JSON text. A whole number keeps its exact value as long as it fits in 64 bits, and
members of a record keep the order of the text.
-/

namespace ClusterDesk

inductive Json.Number where
  | natural (n : UInt64)
  | negative (n : Int64)
  | float (x : Float)
deriving BEq, Repr, Inhabited

inductive Json where
  | null
  | bool (b : Bool)
  | num (n : Json.Number)
  | str (s : String)
  | arr (items : List Json)
  | obj (members : List (String × Json))
  /-- Well formed but without a value: a number past every float, or a text with half of a
  surrogate pair. It can be skipped and never read. -/
  | unreadable
deriving BEq, Repr, Inhabited

namespace Json

def nat (n : Nat) : Json :=
  .num (.natural n.toUInt64)

def int (n : Int64) : Json :=
  if n < 0 then .num (.negative n) else .num (.natural n.toUInt64)

def member? (key : String) : Json → Option Json
  | .obj members => members.lookup key
  | _ => none

mutual

/-- How many lists and records stand around the innermost value. -/
def depth : Json → Nat
  | .arr items => depthItems items + 1
  | .obj members => depthMembers members + 1
  | _ => 0

def depthItems : List Json → Nat
  | [] => 0
  | item :: rest => max (depth item) (depthItems rest)

def depthMembers : List (String × Json) → Nat
  | [] => 0
  | (_, value) :: rest => max (depth value) (depthMembers rest)

end

mutual

def readable : Json → Bool
  | .arr items => readableItems items
  | .obj members => readableMembers members
  | .unreadable => false
  | _ => true

def readableItems : List Json → Bool
  | [] => true
  | item :: rest => readable item && readableItems rest

def readableMembers : List (String × Json) → Bool
  | [] => true
  | (_, value) :: rest => readable value && readableMembers rest

end

/-- Puts a member at its place in key order; it takes the place of one with the same key. -/
def insertMember (key : String) (value : Json) : List (String × Json) → List (String × Json)
  | [] => [(key, value)]
  | (k, v) :: rest =>
    if key < k then (key, value) :: (k, v) :: rest
    else if key = k then (key, value) :: rest
    else (k, v) :: insertMember key value rest

mutual

/-- Members in key order, the last of several with one key. -/
def sorted : Json → Json
  | .arr items => .arr (sortedItems items)
  | .obj members => .obj (sortedMembers [] members)
  | j => j

def sortedItems : List Json → List Json
  | [] => []
  | item :: rest => sorted item :: sortedItems rest

def sortedMembers (done : List (String × Json)) : List (String × Json) → List (String × Json)
  | [] => done
  | (key, value) :: rest => sortedMembers (insertMember key (sorted value) done) rest

end

end Json

end ClusterDesk
