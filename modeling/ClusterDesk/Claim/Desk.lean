import ClusterDesk.Chain.Calldata
import ClusterDesk.Chain.Account
import ClusterDesk.Failure

/-!
# The claim desk

What is known while rewards are looked up and claimed. Claims proposed to a Safe go on in the
background; what becomes of them is shown only as long as the desk has not moved on to another
search.
-/

namespace ClusterDesk.Claim

inductive State where
  /-- Nothing searched, or the last search failed. -/
  | idle
  | searching
  /-- A snapshot can be claimed. -/
  | ready
  | claiming
  /-- Mined, with the page of the transaction. -/
  | confirmed (transaction : Digest) (link : String)
  /-- Waiting for the other signers, with the page of the queue. -/
  | proposed (link : String)
  /-- Failed before it was mined; it can be tried again. -/
  | failed (message : String)
deriving DecidableEq, Repr

namespace State

def mayClaim : State → Bool
  | .ready => true
  | .failed _ => true
  | _ => false

end State

/-- How a proposal in the background ended. -/
inductive Ending where
  | submitted (transaction : Digest)
  | failed (failure : Failure)
  /-- It broke off without a result. -/
  | aborted
deriving DecidableEq, Repr

/-- A proposal in flight and the epoch it was started in. -/
structure Proposal where
  number : Nat
  epoch : Nat
deriving DecidableEq, Repr

structure Desk where
  links : ClaimLinks
  state : State := .idle
  /-- The result of the last successful search. -/
  snapshot : Option Snapshot := none
  /-- Counts searches, and the disposal. -/
  epoch : Nat := 0
  lastError : Option String := none
  /-- How often an error, or that there is none, was published. -/
  published : Nat := 0
  inFlight : List Proposal := []
  started : Nat := 0
  /-- The proposal that settling waits for. -/
  latest : Option Nat := none
  disposed : Bool := false

namespace Desk

def publish (d : Desk) (error : Option String) : Desk :=
  { d with lastError := error, published := d.published + 1 }

/-- A proposal has ended. Its failure is published in the epoch it was started in only. -/
def finish (d : Desk) (number : Nat) (ending : Ending) : Desk :=
  match d.inFlight.find? (·.number == number) with
  | none => d
  | some proposal =>
    let d := { d with inFlight := d.inFlight.filter (·.number != number) }
    match ending with
    | .failed failure => if proposal.epoch = d.epoch then d.publish (some failure.shown) else d
    | .submitted _ => d
    | .aborted => d

def finishAll (d : Desk) (endings : List (Nat × Ending)) : Desk :=
  endings.foldl (fun d (number, ending) => d.finish number ending) d

/-- A search starts a new epoch with nothing known. -/
def beginSearch (d : Desk) : Desk :=
  { d.publish none with epoch := d.epoch + 1, snapshot := none, state := .searching }

def searchFailed (d : Desk) (failure : Failure) : Desk :=
  { d.publish (some failure.shown) with state := .idle }

def found (d : Desk) (snapshot : Snapshot) : Desk :=
  { d with snapshot := some snapshot, state := .ready }

def beginClaim (d : Desk) : Desk :=
  { d.publish none with state := .claiming }

def startProposal (d : Desk) : Desk :=
  { d with
    inFlight := d.inFlight ++ [⟨d.started, d.epoch⟩]
    latest := some d.started
    started := d.started + 1 }

def proposed (d : Desk) (safe : Address) : Desk :=
  { d with state := .proposed (d.links.safeQueue safe) }

/-- The snapshot counts as paid out. -/
def settleSnapshot (d : Desk) : Desk :=
  { d with snapshot := d.snapshot.map Snapshot.settle }

def confirmed (d : Desk) (transaction : Digest) : Desk :=
  { d.settleSnapshot with state := .confirmed transaction (d.links.transaction transaction) }

def claimFailed (d : Desk) (failure : Failure) : Desk :=
  { d.publish (some failure.shown) with state := .failed failure.shown }

/-- Nothing is published from here on. -/
def dispose (d : Desk) : Desk :=
  { d with disposed := true, epoch := d.epoch + 1 }

end Desk

end ClusterDesk.Claim
