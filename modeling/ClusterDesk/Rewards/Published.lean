import ClusterDesk.Rewards.Entitlement
import ClusterDesk.Text.Basic

/-!
# Published rewards

An entitlement as the backend publishes it, with texts for the amount and the hashes. A blank
amount is zero, a blank root the zero hash, blank proof elements are skipped and an absent proof is
empty; one malformed part makes the whole entitlement malformed.
-/

namespace ClusterDesk

structure PublishedReward where
  account : String
  cumulative : String
  root : String
  proof : Option (List String)
deriving DecidableEq, Repr

namespace PublishedReward

def decoder : Json.Decoder PublishedReward :=
  ((Json.Record.of PublishedReward.mk)
    |>.field "account" Json.Decoder.text
    |>.field "cumulativeAmount" Json.Decoder.text
    |>.optional "expectedMerkleRoot" Json.Decoder.text ""
    |>.optional "merkleProof" (Json.Decoder.nullable (Json.Decoder.listOf Json.Decoder.text)) none)
    |>.decode "RewardInfoDto"

inductive Fault where
  | account (text : String) (fault : Hex.Fault)
  | amount (text : String) (fault : Amount.Fault)
  | root (text : String) (fault : Hex.Fault)
  | element (text : String) (fault : Hex.Fault)
deriving DecidableEq, Repr

def Fault.message : Fault → String
  | .account text fault => "invalid account " ++ Text.quoted text ++ ": " ++ fault.message
  | .amount text fault => "invalid cumulativeAmount " ++ Text.quoted text ++ ": " ++ fault.message
  | .root text fault => "invalid merkle root " ++ Text.quoted text ++ ": " ++ fault.message
  | .element text fault => "invalid proof element " ++ Text.quoted text ++ ": " ++ fault.message

def readAmount (s : String) : Except Fault Amount :=
  match Amount.read 10 (Text.trim s).toList with
  | .ok amount => .ok amount
  | .error fault => .error (.amount s fault)

/-- Reads a hash, the zero hash from a blank text. -/
def readRoot (s : String) : Except Fault Digest :=
  let s := Text.trim s
  if s.isEmpty then .ok default
  else
    match Digest.parse s with
    | .ok root => .ok root
    | .error fault => .error (.root s fault)

def readElement (s : String) : Except Fault Digest :=
  match Digest.parse s with
  | .ok element => .ok element
  | .error fault => .error (.element s fault)

/-- The trimmed elements of the proof that are not blank; an absent proof has none. -/
def elements (r : PublishedReward) : List String :=
  ((r.proof.getD []).map Text.trim).filter fun s => !s.isEmpty

def entitlement (r : PublishedReward) : Except Fault Entitlement :=
  match Address.parse r.account with
  | .error fault => .error (.account r.account fault)
  | .ok account =>
    match readAmount r.cumulative with
    | .error fault => .error fault
    | .ok cumulative =>
      match readRoot r.root with
      | .error fault => .error fault
      | .ok root =>
        match r.elements.mapM readElement with
        | .error fault => .error fault
        | .ok proof => .ok ⟨account, cumulative, root, proof⟩

end PublishedReward

end ClusterDesk
