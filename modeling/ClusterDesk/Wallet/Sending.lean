import ClusterDesk.Claim.Operations
import ClusterDesk.Node.Fees
import ClusterDesk.Node.Receipt
import ClusterDesk.Wallet.Session

/-!
# Sending claims

A claim is sent as a transaction to the contract of the wallet's chain. The node names its chain
once in a session, and everything else anew for each transaction; a wallet of another chain does
not sign.
-/

namespace ClusterDesk.Wallet

open Node (Talk)

namespace Session

def address (s : Session) : Address :=
  s.key.address

/-- Asks the node for its chain, unless it has named it. -/
def learnChain (s : Session) : Talk (Except Node.Fault UInt64 × Session) :=
  match s.chainId with
  | some chainId => .done (.ok chainId, s)
  | none =>
    (Node.chainId s.node).bind fun
      | .error fault => .done (.error fault, s)
      | .ok chainId => .done (.ok chainId, { s with chainId := some chainId })

def draft (s : Session) (chainId : UInt64) (contract : Address) (data : List UInt8) :
    Talk (Except Node.Fault Transaction) :=
  (Node.transactionCount s.node s.address).andThen fun nonce =>
  (Node.gas s.node s.address contract data).andThen fun gas =>
  (Node.fees s.node).andThen fun fees =>
    .done (.ok {
      chainId := chainId
      nonce := nonce
      priorityFee := fees.priority
      maxFee := fees.limit
      gas := gas
      contract := contract
      data := data })

end Session

/-- A refusal to sign for a chain that is not the wallet's. -/
def foreignChainMessage (named own : UInt64) : String :=
  "local usage error: transaction-provided chain ID (" ++ toString named.toNat ++
    ") does not match the signer's chain ID (" ++ toString own.toNat ++ ")"

def chainWrite : Except Node.Fault α → Except Failure α
  | .ok a => .ok a
  | .error fault => .error (.chainWrite fault.message)

def submit (w : Wallet) (s : Session) (transaction : Transaction) :
    Talk (Except Failure Digest) :=
  if transaction.chainId ≠ w.chain.chainId then
    .done (.error (.chainWrite (foreignChainMessage transaction.chainId w.chain.chainId)))
  else (Node.submit s.node (transaction.sign s.key)).bind fun result => .done (chainWrite result)

/-- Sends a claim; the hash that the node gives the transaction. -/
def send (w : Wallet) (call : ClaimCall) : Talk (Except Failure Digest × Wallet) :=
  match w.session with
  | none => .done (.error .walletNotConnected, w)
  | some session =>
    session.learnChain.bind fun (result, session) =>
      let w := { w with session := some session }
      match result with
      | .error fault => .done (.error (.chainWrite fault.message), w)
      | .ok chainId =>
        ((session.draft chainId w.chain.contract (Calldata.claim call)).bind fun result =>
          Dialogue.done (chainWrite result)).andThen (w.submit session) |>.bind fun result =>
            .done (result, w)

def timeoutFailure : Failure :=
  .chainWrite "timed out waiting for confirmation"

def revertedFailure : Failure :=
  .chainWrite "transaction reverted"

/-- What a receipt, or its absence, tells of a transaction. -/
def judge (transaction : Digest) : Option Node.MinedReceipt → Except Failure Claim.Receipt
  | none => .error timeoutFailure
  | some receipt =>
    if receipt.succeeded then .ok ⟨transaction, receipt.block⟩ else .error revertedFailure

def confirm (w : Wallet) (transaction : Digest) : Talk (Except Failure Claim.Receipt) :=
  match w.session with
  | none => .done (.error .walletNotConnected)
  | some session =>
    let looks := Node.looks w.chain.pollMilliseconds.toNat w.chain.confirmationSeconds.toNat
    (Node.awaitReceipt session.node transaction looks).bind fun receipt =>
      .done (judge transaction receipt)

end ClusterDesk.Wallet
