import ClusterDesk.Claim.Desk
import ClusterDesk.Dialogue

/-!
# Claim operations

What the desk does, as dialogues with the backend, the chain and the wallet. Every answer comes
with the proposals that ended while it was awaited.
-/

namespace ClusterDesk.Claim

structure Receipt where
  transaction : Digest
  block : Option UInt64
deriving DecidableEq, Repr

inductive Question where
  | entitlement (account : Address)
  | claimed (account : Address)
  | signer
  | isContract (account : Address)
  | send (call : ClaimCall)
  | confirm (transaction : Digest)
  /-- Starts to send a call in the background. -/
  | propose (call : ClaimCall)
  | wait (milliseconds : Nat)
  /-- Waits until a proposal has ended. -/
  | settle (number : Nat)
deriving DecidableEq

abbrev Reply : Question → Type
  | .entitlement _ => Except Failure Entitlement
  | .claimed _ => Except Failure Amount
  | .signer => Option Address
  | .isContract _ => Bool
  | .send _ => Except Failure Digest
  | .confirm _ => Except Failure Receipt
  | .propose _ => Unit
  | .wait _ => Unit
  | .settle _ => Ending

/-- A reply, and the proposals that ended in the meantime. -/
structure Answer (q : Question) where
  reply : Reply q
  ended : List (Nat × Ending)

abbrev Talk := Dialogue Question Answer

/-- How long a proposal has to spread before its queue is shown. -/
def graceMilliseconds : Nat := 5000

def disposedFailure : Failure :=
  .invalidState "workflow disposed"

def unsearchedFailure : Failure :=
  .invalidState "claim requires a completed search"

namespace Desk

/-- Looks an account up. An account that was never allocated anything is not read from the chain,
and a failed read leaves no snapshot. -/
def search (d : Desk) (account : Address) : Talk (Except Failure Snapshot × Desk) :=
  if d.disposed then .done (.error disposedFailure, d)
  else
    .ask (.entitlement account) fun answer =>
      let d := d.beginSearch.finishAll answer.ended
      match answer.reply with
      | .error failure => .done (.error failure, d.searchFailed failure)
      | .ok entitlement =>
        if entitlement.isEmpty then
          let snapshot := Snapshot.of entitlement .zero
          .done (.ok snapshot, d.found snapshot)
        else
          .ask (.claimed entitlement.account) fun answer =>
            let d := d.finishAll answer.ended
            match answer.reply with
            | .error failure => .done (.error failure, d.searchFailed failure)
            | .ok claimed =>
              let snapshot := Snapshot.of entitlement claimed
              .done (.ok snapshot, d.found snapshot)

/-- Sends a call in the background and shows the queue after the grace period. -/
def proposeToSafe (d : Desk) (safe : Address) (call : ClaimCall) :
    Talk (Except Failure State × Desk) :=
  .ask (.propose call) fun answer =>
    let d := d.startProposal.finishAll answer.ended
    .ask (.wait graceMilliseconds) fun answer =>
      let d := (d.finishAll answer.ended).proposed safe
      .done (.ok d.state, d)

/-- Sends a call and awaits its receipt. -/
def claimDirectly (d : Desk) (call : ClaimCall) : Talk (Except Failure State × Desk) :=
  .ask (.send call) fun answer =>
    let d := d.finishAll answer.ended
    match answer.reply with
    | .error failure => .done (.error failure, d.claimFailed failure)
    | .ok transaction =>
      .ask (.confirm transaction) fun answer =>
        let d := d.finishAll answer.ended
        match answer.reply with
        | .error failure => .done (.error failure, d.claimFailed failure)
        | .ok receipt =>
          let d := d.confirmed receipt.transaction
          .done (.ok d.state, d)

/-- Claims what the snapshot leaves to claim, directly or through the Safe that signs. -/
def claim (d : Desk) : Talk (Except Failure State × Desk) :=
  if d.disposed then .done (.error disposedFailure, d)
  else if !d.state.mayClaim then .done (.error unsearchedFailure, d)
  else
    match d.snapshot with
    | none => .done (.error unsearchedFailure, d)
    | some snapshot =>
      if !snapshot.hasClaimable then .done (.error .nothingToClaim, d)
      else
        .ask .signer fun answer =>
          let d := d.finishAll answer.ended
          match answer.reply with
          | none =>
            .done (.error .walletNotConnected, d.publish (some Failure.walletNotConnected.shown))
          | some signer =>
            let d := d.beginClaim
            let call := snapshot.entitlement.claimCall
            .ask (.isContract signer) fun answer =>
              let d := d.finishAll answer.ended
              if answer.reply then d.proposeToSafe signer call else d.claimDirectly call

/-- Waits for the latest proposal; the error shown then. -/
def settleBackground (d : Desk) : Talk (Option String × Desk) :=
  match d.latest with
  | none => .done (d.lastError, d)
  | some number =>
    let d := { d with latest := none }
    if d.inFlight.any (·.number == number) then
      .ask (.settle number) fun answer =>
        let d := (d.finishAll answer.ended).finish number answer.reply
        .done (d.lastError, d)
    else .done (d.lastError, d)

def pause (d : Desk) (milliseconds : Nat) : Talk Desk :=
  .ask (.wait milliseconds) fun answer => .done (d.finishAll answer.ended)

end Desk

/-- What a user of the desk does. -/
inductive Action where
  | search (account : Address)
  | claim
  | applyConfirmed
  | settle
  | dispose
  | pause (milliseconds : Nat)
deriving DecidableEq, Repr

inductive Outcome where
  | snapshot (result : Except Failure Snapshot)
  | state (result : Except Failure State)
  | error (shown : Option String)
  | nothing

namespace Action

def perform (d : Desk) : Action → Talk (Outcome × Desk)
  | .search account => (d.search account).bind fun (r, d) => .done (.snapshot r, d)
  | .claim => d.claim.bind fun (r, d) => .done (.state r, d)
  | .applyConfirmed => .done (.nothing, d.settleSnapshot)
  | .settle => d.settleBackground.bind fun (r, d) => .done (.error r, d)
  | .dispose => .done (.nothing, d.dispose)
  | .pause ms => (d.pause ms).bind fun d => .done (.nothing, d)

end Action

end ClusterDesk.Claim
