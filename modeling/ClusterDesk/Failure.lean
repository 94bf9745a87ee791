/-!
# Failures

Why an operation did not succeed, and the text a user is shown. A shown text has at most
`displayLimit` characters of the message.
-/

namespace ClusterDesk

inductive Failure where
  /-- The backend gave no usable answer about a resource. -/
  | remoteFetch (resource reason : String)
  /-- A value could not be read from the chain. -/
  | chainRead (reason : String)
  | walletNotConnected
  | signatureRejected (reason : String)
  /-- A transaction was refused or reverted. -/
  | chainWrite (reason : String)
  /-- The operation is not allowed now. -/
  | invalidState (reason : String)
  | nothingToClaim
  | notClusterOwner
  /-- The backend has not named a block to sign yet. -/
  | missingBlock
  | invalidInput (reason : String)
deriving DecidableEq, Repr

/-- How many characters of a message are shown. -/
def displayLimit : Nat := 100

/-- A message cut behind the last shown character. -/
def shorten (message : String) : String :=
  let cs := message.toList
  if cs.length ≤ displayLimit then message
  else String.ofList (cs.take displayLimit ++ ['.', '.', '.'])

namespace Failure

def message : Failure → String
  | .remoteFetch resource reason => "failed to fetch " ++ resource ++ ": " ++ reason
  | .chainRead reason => "chain read failed: " ++ reason
  | .walletNotConnected => "wallet not connected"
  | .signatureRejected reason => "signature rejected: " ++ reason
  | .chainWrite reason => reason
  | .invalidState reason => "invalid workflow state: " ++ reason
  | .nothingToClaim => "no rewards to claim"
  | .notClusterOwner => "connected address is not an active cluster owner"
  | .missingBlock => "no block number available from the backend yet"
  | .invalidInput reason => "invalid input: " ++ reason

/-- The message as shown. -/
def shown (failure : Failure) : String :=
  shorten failure.message

/-- Whether the user can mend it in the wallet. -/
def isWalletRelated : Failure → Bool
  | .walletNotConnected => true
  | .signatureRejected _ => true
  | _ => false

end Failure

end ClusterDesk
