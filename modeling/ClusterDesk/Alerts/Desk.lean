import ClusterDesk.Alerts.Draft
import ClusterDesk.Failure
import ClusterDesk.Ownership

/-!
# The alert desk

What is known about the connected owner: the summary of its clusters, the stored configuration as
far as it was fetched, and the form.
-/

namespace ClusterDesk.Alerts

/-- What the backend knows about an address. -/
structure Summary where
  clusters : UInt64
  activeClusters : UInt64
  monitored : Bool
  /-- The latest block; the next proof signs it. -/
  block : UInt64
deriving DecidableEq, Repr

namespace Summary

def hasClusters (s : Summary) : Bool :=
  0 < s.clusters

/-- Only owners of an active cluster may store a configuration. -/
def hasActiveClusters (s : Summary) : Bool :=
  0 < s.activeClusters

end Summary

/-- A stored configuration with a fresh block. -/
structure Envelope where
  payload : Payload
  block : UInt64
deriving DecidableEq, Repr

/-- A proof and the text it was signed over. -/
structure SaveRequest where
  proof : OwnershipProof
  text : String
deriving DecidableEq

/-- The text for logs, which leaves signature and payload out. -/
def SaveRequest.redacted (r : SaveRequest) : String :=
  "SaveConfigRequest \x7b proof: " ++ r.proof.redacted ++ ", payload_len: " ++
    toString r.text.utf8ByteSize ++ " \x7d"

inductive State where
  /-- Nobody is connected. -/
  | unknown
  /-- The address never had a cluster. -/
  | notOwner
  /-- Nothing is stored; the form may be open. -/
  | nothingStored (editing : Bool)
  /-- A configuration is stored and was not fetched. -/
  | storedHidden
  | storedVisible
deriving DecidableEq, Repr

namespace State

def isOwner : State → Bool
  | .unknown => false
  | .notOwner => false
  | _ => true

def hasStored : State → Bool
  | .storedHidden => true
  | .storedVisible => true
  | _ => false

def formOpen : State → Bool
  | .nothingStored editing => editing
  | .storedVisible => true
  | _ => false

end State

inductive Errand where
  | viewing
  | saving
  | deleting
  | testing
deriving DecidableEq, Repr

/-- A message that is shown for a while. -/
structure Notice where
  success : Bool
  text : String
  /-- When it was raised, in milliseconds. -/
  raised : Nat
deriving DecidableEq, Repr

/-- How long a notice is shown, in milliseconds. -/
def noticeLife : Nat := 5000

def Notice.isExpired (notice : Notice) (now : Nat) : Bool :=
  noticeLife ≤ now - notice.raised

structure Desk where
  owner : Option Address := none
  summary : Option Summary := none
  state : State := .unknown
  errand : Option Errand := none
  /-- The block that the backend named last. -/
  block : Option UInt64 := none
  draft : Draft := {}
  notice : Option Notice := none
deriving DecidableEq

def closedFormFailure : Failure :=
  .invalidState "configuration form is not open"

def nothingStoredFailure : Failure :=
  .invalidState "no stored configuration"

def alreadyStoredFailure : Failure :=
  .invalidState "a configuration is already stored"

def incompleteChannelFailure : Failure :=
  .invalidInput "alert channel is incomplete"

def foreignWalletFailure (wallet owner : Address) : Failure :=
  .invalidInput ("wallet " ++ wallet.checksummed ++ " is not the connected owner " ++
    owner.checksummed)

def unavailableReportFailure (report : Report) (network : Network) : Failure :=
  .invalidInput (report.label ++ " reports are not available on " ++ network.name)

namespace Desk

def noticeAt (d : Desk) (now : Nat) : Option Notice :=
  d.notice.filter fun notice => !notice.isExpired now

def raiseError (d : Desk) (now : Nat) (failure : Failure) : Desk :=
  { d with notice := some ⟨false, failure.shown, now⟩ }

def raiseSuccess (d : Desk) (now : Nat) (text : String) : Desk :=
  { d with notice := some ⟨true, text, now⟩ }

def disconnect (_ : Desk) : Desk :=
  {}

def connected (d : Desk) (owner : Address) (summary : Summary) : Desk :=
  { d with
    owner := some owner
    summary := some summary
    block := some summary.block
    state :=
      if !summary.hasClusters then .notOwner
      else if summary.monitored then .storedHidden
      else .nothingStored false }

def requireOwner (d : Desk) : Except Failure Address :=
  match d.owner with
  | none => .error .walletNotConnected
  | some owner => if d.state.isOwner then .ok owner else .error .notClusterOwner

/-- The owner, at a desk in a state that lets something be done. -/
def requireState (d : Desk) (lets : State → Bool) (refusal : Failure) : Except Failure Address :=
  match d.requireOwner with
  | .error failure => .error failure
  | .ok owner => if lets d.state then .ok owner else .error refusal

def requireForm (d : Desk) : Except Failure Address :=
  d.requireState State.formOpen closedFormFailure

def requireStored (d : Desk) : Except Failure Address :=
  d.requireState State.hasStored nothingStoredFailure

def hasActiveClusters (d : Desk) : Bool :=
  match d.summary with
  | some summary => summary.hasActiveClusters
  | none => false

def viewed (d : Desk) (network : Network) (envelope : Envelope) : Desk :=
  { d with
    draft := .load (.ofPayload envelope.payload network)
    block := some envelope.block
    state := .storedVisible }

def saved (d : Desk) (envelope : Envelope) : Desk :=
  { d with
    block := some envelope.block
    summary := d.summary.map fun s => { s with monitored := true }
    state := .storedVisible }

def deleted (d : Desk) : Desk :=
  { d with
    draft := {}
    summary := d.summary.map fun s => { s with monitored := false }
    state := .nothingStored false }

/-- Opens an empty form. -/
def startConfiguration (d : Desk) : Except Failure Unit × Desk :=
  match d.requireOwner with
  | .error failure => (.error failure, d)
  | .ok _ =>
    if !d.hasActiveClusters then (.error .notClusterOwner, d)
    else
      match d.state with
      | .nothingStored _ => (.ok (), { d with state := .nothingStored true })
      | _ => (.error alreadyStoredFailure, d)

def edit (d : Desk) (change : Draft → Draft) : Except Failure Unit × Desk :=
  match d.requireForm with
  | .error failure => (.error failure, d)
  | .ok _ => (.ok (), { d with draft := change d.draft })

def setMethod (d : Desk) (method : Method) : Except Failure Unit × Desk :=
  d.edit fun draft => { draft with method := method }

def setWebhook (d : Desk) (text : String) : Except Failure Unit × Desk :=
  d.edit fun draft => { draft with webhook := text }

def setToken (d : Desk) (text : String) : Except Failure Unit × Desk :=
  d.edit fun draft => { draft with token := text }

def setChat (d : Desk) (text : String) : Except Failure Unit × Desk :=
  d.edit fun draft => { draft with chat := text }

def typeDays (d : Desk) (text : String) : Except Failure Unit × Desk :=
  d.edit fun draft => { draft with typedDays := text }

/-- Commits the typed threshold; the committed days. -/
def commitDays (d : Desk) : Except Failure Nat × Desk :=
  match d.requireForm with
  | .error failure => (.error failure, d)
  | .ok _ =>
    let draft := d.draft.commitDays
    (.ok draft.days, { d with draft := draft })

/-- Switches a report that the network offers; whether it is on now. -/
def toggleReport (d : Desk) (network : Network) (report : Report) : Except Failure Bool × Desk :=
  match d.requireForm with
  | .error failure => (.error failure, d)
  | .ok _ =>
    if !report.availableOn network then (.error (unavailableReportFailure report network), d)
    else
      let reports := d.draft.reports.toggle report
      (.ok (reports.get report), { d with draft := { d.draft with reports := reports } })

end Desk

end ClusterDesk.Alerts
