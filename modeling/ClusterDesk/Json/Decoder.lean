import ClusterDesk.Json.Parser
import ClusterDesk.Number.Shortest
import ClusterDesk.Text.Quoted

/-!
# Decoding trees

A decoder takes a value from a tree or refuses it with a cause. Records are read from members, in
their order, or from a list that holds the fields in declaration order.
-/

namespace ClusterDesk.Json

inductive Expected where
  | text
  | boolean
  /-- A whole number, with the name of its range. -/
  | whole (range : String)
  | list
  | record (name : String)
deriving BEq, DecidableEq, Repr

inductive Refusal where
  | wrongType (found : Json) (expected : Expected)
  | outOfRange (found : Json) (expected : Expected)
  /-- A list that ends before a field without a default. -/
  | tooShort (length : Nat) (name : String) (fields : Nat)
  /-- A list with something behind the last field. -/
  | tooLong (length : Nat)
  | missing (key : String)
  | repeated (key : String)
  /-- A well-formed text that does not denote a value of the type. -/
  | invalid (reason : String)
deriving BEq, Repr

abbrev Decoder (α : Type) := Json → Except Refusal α

def describeInteger (digits : String) : String :=
  "integer `" ++ digits ++ "`"

def describe : Json → String
  | .null => "null"
  | .bool b => "boolean `" ++ (if b then "true" else "false") ++ "`"
  | .num (.natural n) => describeInteger (toString n.toNat)
  | .num (.negative n) => describeInteger (toString n.toInt)
  | .num (.float x) => "floating point `" ++ Shortest.text x ++ "`"
  | .str s => "string " ++ Text.quoted s
  | .arr _ => "sequence"
  | .obj _ => "map"
  | .unreadable => "null"

def Expected.describe : Expected → String
  | .text => "a string"
  | .boolean => "a boolean"
  | .whole range => range
  | .list => "a sequence"
  | .record name => "struct " ++ name

def Refusal.message : Refusal → String
  | .wrongType found expected =>
    "invalid type: " ++ Json.describe found ++ ", expected " ++ expected.describe
  | .outOfRange found expected =>
    "invalid value: " ++ Json.describe found ++ ", expected " ++ expected.describe
  | .tooShort length name fields =>
    "invalid length " ++ toString length ++ ", expected struct " ++ name ++ " with " ++
      toString fields ++ (if fields == 1 then " element" else " elements")
  | .tooLong length =>
    "invalid length " ++ toString length ++ ", expected fewer elements in array"
  | .missing key => "missing field `" ++ key ++ "`"
  | .repeated key => "duplicate field `" ++ key ++ "`"
  | .invalid reason => reason

namespace Decoder

def text : Decoder String
  | .str s => .ok s
  | j => .error (.wrongType j .text)

def boolean : Decoder Bool
  | .bool b => .ok b
  | j => .error (.wrongType j .boolean)

/-- A natural number below `bound`. -/
def naturalBelow (bound : Nat) (range : String) : Decoder Nat
  | .num (.natural n) =>
    if n.toNat < bound then .ok n.toNat
    else .error (.outOfRange (.num (.natural n)) (.whole range))
  | .num (.negative n) => .error (.outOfRange (.num (.negative n)) (.whole range))
  | j => .error (.wrongType j (.whole range))

def natural8 : Decoder UInt8 :=
  fun j => (naturalBelow UInt8.size "u8" j).map Nat.toUInt8

def natural32 : Decoder UInt32 :=
  fun j => (naturalBelow UInt32.size "u32" j).map Nat.toUInt32

def natural64 : Decoder UInt64 :=
  fun j => (naturalBelow UInt64.size "u64" j).map Nat.toUInt64

def integer64 : Decoder Int64
  | .num (.natural n) =>
    if n.toNat < Nat.pow 2 63 then .ok (Int64.ofNat n.toNat)
    else .error (.outOfRange (.num (.natural n)) (.whole "i64"))
  | .num (.negative n) => .ok n
  | j => .error (.wrongType j (.whole "i64"))

def listOf (item : Decoder α) : Decoder (List α)
  | .arr items => items.mapM item
  | j => .error (.wrongType j .list)

/-- Null stands for no value. -/
def nullable (d : Decoder α) : Decoder (Option α)
  | .null => .ok none
  | j => (d j).map some

/-- Null stands for the empty list. -/
def listOrNull (item : Decoder α) : Decoder (List α)
  | .null => .ok []
  | j => listOf item j

end Decoder

/-- The fields of a record type, in declaration order. -/
structure Record (α : Type) where
  size : Nat
  /-- Reads the value under a key of the record; none for any other key. -/
  check : String → Json → Option (Except Refusal Unit)
  /-- Takes the fields from members. -/
  ofMembers : List (String × Json) → Except Refusal α
  /-- Takes the fields from the front of a list, given how a list of some length is refused. -/
  ofItems : (Nat → Refusal) → List Json → Except Refusal (α × List Json)

namespace Record

def of (a : α) : Record α where
  size := 0
  check _ _ := none
  ofMembers _ := .ok a
  ofItems _ items := .ok (a, items)

/-- One more field, with the value that stands for its absence. -/
def fieldWith (r : Record (α → β)) (key : String) (d : Decoder α) (absent : Option α) : Record β where
  size := r.size + 1
  check k j := if k = key then some ((d j).map fun _ => ()) else r.check k j
  ofMembers members :=
    match r.ofMembers members with
    | .error e => .error e
    | .ok f =>
      match members.lookup key with
      | some j => (d j).map f
      | none =>
        match absent with
        | some a => .ok (f a)
        | none => .error (.missing key)
  ofItems refuse items :=
    match r.ofItems refuse items with
    | .error e => .error e
    | .ok (f, j :: rest) => (d j).map fun a => (f a, rest)
    | .ok (f, []) =>
      match absent with
      | some a => .ok (f a, [])
      | none => .error (refuse r.size)

def field (r : Record (α → β)) (key : String) (d : Decoder α) : Record β :=
  r.fieldWith key d none

def optional (r : Record (α → β)) (key : String) (d : Decoder α) (absent : α) : Record β :=
  r.fieldWith key d (some absent)

/-- Reads the known members in their order; none may come twice. -/
def visit (r : Record α) (seen : List String) : List (String × Json) → Except Refusal Unit
  | [] => .ok ()
  | (key, j) :: rest =>
    match r.check key j with
    | none => r.visit seen rest
    | some result =>
      if key ∈ seen then .error (.repeated key)
      else
        match result with
        | .error e => .error e
        | .ok () => r.visit (key :: seen) rest

/-- Decodes a record: the first bad member is reported, else the first missing field. -/
def decode (r : Record α) (name : String) : Decoder α
  | .obj members =>
    match r.visit [] members with
    | .error e => .error e
    | .ok () => r.ofMembers members
  | .arr items =>
    match r.ofItems (fun length => .tooShort length name r.size) items with
    | .error e => .error e
    | .ok (a, []) => .ok a
    | .ok (_, _ :: _) => .error (.tooLong items.length)
  | j => .error (.wrongType j (.record name))

/-- Decodes a record like `decode`, but lets a list go on behind the last field. -/
def decodeFront (r : Record α) (name : String) : Decoder α
  | .arr items => (r.ofItems (fun length => .tooShort length name r.size) items).map Prod.fst
  | j => r.decode name j

end Record

/-- Decodes a text whose unknown parts need no value. -/
def read? (d : Decoder α) (text : String) : Option α :=
  (parse? text).bind fun j => (d j).toOption

end ClusterDesk.Json
