import ClusterDesk.Config.Basic
import ClusterDesk.Failure
import ClusterDesk.Node.Reading

/-!
# The claim contract

The contract of a chain, read through a node that is on that chain.
-/

namespace ClusterDesk

structure ClaimContract where
  node : Web.Url
  /-- The chain that the node named. -/
  chainId : UInt64
  address : Address

namespace ClaimContract

inductive ConnectFault where
  | noEndpoint
  /-- The node does not name its chain. -/
  | unnamedChain
  | foreignChain (network : Network) (named expected : UInt64)
deriving DecidableEq, Repr

def ConnectFault.message : ConnectFault → String
  | .noEndpoint => "Failed to connect to RPC endpoint"
  | .unnamedChain => "Failed to query chain ID"
  | .foreignChain network named expected =>
    "RPC endpoint for " ++ network.name ++ " reports chain_id=" ++ toString named.toNat ++
      ", expected " ++ toString expected.toNat

/-- Connects to the node of a chain, which has to name that chain. -/
def connect (c : Chain) : Node.Talk (Except ConnectFault ClaimContract) :=
  match Node.endpoint? c.rpcUrl with
  | none => .done (.error .noEndpoint)
  | some node =>
    (Node.chainId node).bind fun
      | .error _ => .done (.error .unnamedChain)
      | .ok chainId =>
        if chainId ≠ c.chainId then
          .done (.error (.foreignChain c.network chainId c.chainId))
        else .done (.ok ⟨node, chainId, c.contract⟩)

/-- The word that a call of the contract returns. -/
def word (c : ClaimContract) (name : String) (data : List UInt8) :
    Node.Talk (Except Failure Digest) :=
  (Node.call c.node c.address data).bind fun
    | .error fault => .done (.error (.chainRead fault.message))
    | .ok bytes =>
      match Calldata.decodeWord bytes with
      | .error fault =>
        .done (.error (.chainRead ("undecodable " ++ name ++ ": " ++ fault.message)))
      | .ok word => .done (.ok word)

/-- The root that the contract accepts now. -/
def root (c : ClaimContract) : Node.Talk (Except Failure Digest) :=
  c.word "merkleRoot" Calldata.root

/-- Everything an account has claimed. -/
def claimed (c : ClaimContract) (account : Address) : Node.Talk (Except Failure Amount) :=
  (c.word "cumulativeClaimed" (Calldata.claimed account)).andThen fun word =>
    .done (.ok (.ofWord word))

def isContract (c : ClaimContract) (account : Address) : Node.Talk Bool :=
  Node.isContract c.node account

def isHealthy (c : ClaimContract) : Node.Talk Bool :=
  Node.isHealthy c.node

end ClaimContract

end ClusterDesk
