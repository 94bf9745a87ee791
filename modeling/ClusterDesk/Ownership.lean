import ClusterDesk.Chain.Account
import ClusterDesk.Json.Printer

/-!
# Ownership proofs

The message an owner signs names a block, and the exact payload where one is written.
-/

namespace ClusterDesk

def ownershipPreamble : String :=
  "Signature required for cluster ownership. Block: "

def ownershipMessage (block : UInt64) (payload : Option String) : String :=
  let head := ownershipPreamble ++ toString block.toNat
  match payload with
  | some text => head ++ "\n" ++ text
  | none => head

structure OwnershipProof where
  owner : Address
  block : UInt64
  signature : String
deriving DecidableEq

namespace OwnershipProof

def toJson (p : OwnershipProof) : Json :=
  .obj [
    ("owner", .str p.owner.text),
    ("block", .num (.natural p.block)),
    ("signature", .str p.signature)]

/-- The text for logs, which leaves the signature out. -/
def redacted (p : OwnershipProof) : String :=
  "OwnershipProof \x7b owner: " ++ p.owner.text ++ ", block: " ++ toString p.block.toNat ++ ", .. \x7d"

end OwnershipProof

end ClusterDesk
