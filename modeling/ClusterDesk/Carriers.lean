import ClusterDesk.Alerts.Operations
import ClusterDesk.Claim.Contract
import ClusterDesk.Surroundings
import ClusterDesk.Wallet.Sending
import ClusterDesk.Wallet.Session

/-!
# Carriers

What a desk asks for is carried out by the backend, the wallet and, for claims, the contract. A
proposal is handed in when it is started, and the claim desk learns how it ended when it settles. At
the alert desk time stands still, since no notice has to expire during a single run.
-/

namespace ClusterDesk.Claim

open Surroundings (atNode performAt)

structure Carrier where
  /-- The base address of the backend. -/
  backend : String
  contract : ClaimContract
  wallet : Wallet
  /-- How the proposals so far ended. -/
  endings : List Ending := []

/-- How sending a proposal ended. -/
def Ending.ofSent : Except Failure Digest → Ending
  | .ok transaction => .submitted transaction
  | .error failure => .failed failure

namespace Carrier

/-- A reply while no proposal has ended. -/
def quiet {q : Question} (reply : Reply q) : Answer q :=
  ⟨reply, []⟩

def answer (c : Carrier) : (q : Question) → Surroundings.Talk (Answer q × Carrier)
  | .entitlement account =>
    (performAt c.backend (.entitlement account)).bind fun r => .done (quiet r, c)
  | .claimed account => (atNode (c.contract.claimed account)).bind fun r => .done (quiet r, c)
  | .signer => .done (quiet c.wallet.address, c)
  | .isContract account =>
    (atNode (c.contract.isContract account)).bind fun r => .done (quiet r, c)
  | .send call =>
    (atNode (c.wallet.send call)).bind fun (r, wallet) =>
      .done (quiet r, { c with wallet := wallet })
  | .confirm transaction =>
    (atNode (c.wallet.confirm transaction)).bind fun r => .done (quiet r, c)
  | .propose call =>
    (atNode (c.wallet.send call)).bind fun (r, wallet) =>
      .done (quiet (), { c with wallet := wallet, endings := c.endings ++ [.ofSent r] })
  | .wait milliseconds =>
    .ask (.wait milliseconds) fun _ => .done (quiet (), c)
  | .settle number => .done (quiet (c.endings.getD number .aborted), c)

/-- Carries out all that a dialogue of the desk asks for. -/
def carry (c : Carrier) (talk : Talk α) : Surroundings.Talk (α × Carrier) :=
  talk.relayWith (fun q c => c.answer q) c

end Carrier

end ClusterDesk.Claim

namespace ClusterDesk.Alerts

open Surroundings (performAt)

structure Carrier where
  backend : String
  wallet : Wallet

namespace Carrier

def answer (c : Carrier) : (q : Question) → Surroundings.Talk (Reply q)
  | .summary owner => performAt c.backend (.summary owner)
  | .config proof => performAt c.backend (.config proof)
  | .save request => performAt c.backend (.save request)
  | .delete proof => performAt c.backend (.delete proof)
  | .test channel => performAt c.backend (.test channel)
  | .signer => .done c.wallet.address
  | .sign message => .done (c.wallet.sign message)
  | .clock => .done 0

/-- Carries out all that a dialogue of the desk asks for. -/
def carry (c : Carrier) (talk : Talk α) : Surroundings.Talk α :=
  talk.relay c.answer

end Carrier

end ClusterDesk.Alerts
