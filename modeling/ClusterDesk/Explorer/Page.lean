import ClusterDesk.Explorer.Rows

/-!
# Pages

A page of a listing. The rows are taken out of the body first, and the paging numbers are read
from what is left.
-/

namespace ClusterDesk

structure Page (α : Type) where
  items : List α
  totalItems : UInt64
  totalPages : UInt64
  current : UInt64
deriving DecidableEq, Repr

structure PageQuery where
  page : UInt64 := 1
  limit : UInt64 := 10
  search : Option String := none
deriving DecidableEq, Repr

namespace Page

def empty (current : UInt64) : Page α :=
  ⟨[], 0, 0, current⟩

def toJson (row : α → Json) (p : Page α) : Json :=
  .obj [
    ("items", .arr (p.items.map row)),
    ("total_items", .num (.natural p.totalItems)),
    ("total_pages", .num (.natural p.totalPages)),
    ("current_page", .num (.natural p.current))]

/-- The paging numbers of a body; an absent one is zero. -/
def numbers : Json.Decoder (UInt64 × UInt64 × UInt64) :=
  ((Json.Record.of fun items pages current => (items, pages, current))
    |>.optional "totalItems" Json.Decoder.natural64 0
    |>.optional "totalPages" Json.Decoder.natural64 0
    |>.optional "currentPage" Json.Decoder.natural64 0).decode "PageMeta"

/-- Puts null in the place of every member under a key. -/
def takeOut (key : String) : Json → Json
  | .obj members => .obj (members.map fun (k, v) => if k = key then (k, .null) else (k, v))
  | j => j

/-- The rows under a key of a body; an absent list and null have none. -/
def rows (row : Json.Decoder α) (key : String) (body : Json) : Except Json.Refusal (List α) :=
  match body.member? key with
  | none => .ok []
  | some .null => .ok []
  | some list => Json.Decoder.listOf row list

/-- Decodes a page whose rows stand under a key. -/
def decode (row : Json.Decoder α) (key : String) (body : Json) : Except Json.Refusal (Page α) :=
  match rows row key body with
  | .error e => .error e
  | .ok items =>
    match numbers (takeOut key body) with
    | .error e => .error e
    | .ok (totalItems, totalPages, current) => .ok ⟨items, totalItems, totalPages, current⟩

end Page

end ClusterDesk
