import ClusterDesk.Amount
import ClusterDesk.Chain.Account
import ClusterDesk.Json.Printer

/-!
# Entitlements and snapshots

The amount ever allocated to an account, with its Merkle proof, and what is left of it once the
claimed amount is known.
-/

namespace ClusterDesk

structure Entitlement where
  account : Address
  /-- Everything ever allocated to the account. -/
  cumulative : Amount
  root : Digest
  /-- Sibling hashes from the leaf to the root. -/
  proof : List Digest
deriving DecidableEq, Inhabited

namespace Entitlement

def isEmpty (e : Entitlement) : Bool :=
  e.cumulative.wei == 0

def record : Json.Record Entitlement :=
  (Json.Record.of Entitlement.mk)
    |>.field "account" (Word.decoder 20)
    |>.field "cumulative_amount" Amount.decoder
    |>.field "merkle_root" (Word.decoder 32)
    |>.field "merkle_proof" (Json.Decoder.listOf (Word.decoder 32))

def decoder : Json.Decoder Entitlement :=
  record.decode "entitlement"

def toJson (e : Entitlement) : Json :=
  .obj [
    ("account", .str e.account.text),
    ("cumulative_amount", .str e.cumulative.hex),
    ("merkle_root", .str e.root.text),
    ("merkle_proof", .arr (e.proof.map fun h => .str h.text))]

end Entitlement

/-- What can still be claimed; a claimed amount above the cumulative one leaves nothing. -/
def claimableDelta (cumulative claimed : Amount) : Amount :=
  cumulative.minus claimed

structure Snapshot where
  entitlement : Entitlement
  claimed : Amount
  claimable : Amount
deriving DecidableEq, Inhabited

namespace Snapshot

def of (entitlement : Entitlement) (claimed : Amount) : Snapshot :=
  ⟨entitlement, claimed, claimableDelta entitlement.cumulative claimed⟩

def eligible (s : Snapshot) : Amount :=
  s.entitlement.cumulative

def hasClaimable (s : Snapshot) : Bool :=
  s.claimable.wei != 0

def settle (s : Snapshot) : Snapshot :=
  { s with claimed := s.entitlement.cumulative, claimable := .zero }

end Snapshot

end ClusterDesk
