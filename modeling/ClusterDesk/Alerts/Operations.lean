import ClusterDesk.Alerts.Desk
import ClusterDesk.Dialogue

/-!
# Alert operations

What the desk does with the backend and the wallet. Every view, save and deletion signs a proof of
its own over the block named last; a save signs its exact payload too.
-/

namespace ClusterDesk.Alerts

inductive Question where
  | summary (owner : Address)
  | config (proof : OwnershipProof)
  | save (request : SaveRequest)
  | delete (proof : OwnershipProof)
  | test (channel : Channel)
  | signer
  | sign (message : String)
  | clock
deriving DecidableEq

abbrev Reply : Question → Type
  | .summary _ => Except Failure Summary
  | .config _ => Except Failure Envelope
  | .save _ => Except Failure Envelope
  | .delete _ => Except Failure Unit
  | .test _ => Except Failure Unit
  | .signer => Option Address
  | .sign _ => Except Failure String
  | .clock => Nat

abbrev Talk := Dialogue Question Reply

/-- Signs the ownership message of a block with the connected wallet. -/
def prove (block : UInt64) (payload : Option String) : Talk (Except Failure OwnershipProof) :=
  .ask .signer fun
    | none => .done (.error .walletNotConnected)
    | some owner =>
      .ask (.sign (ownershipMessage block payload)) fun
        | .error failure => .done (.error failure)
        | .ok signature => .done (.ok ⟨owner, block, signature⟩)

namespace Desk

/-- Raises the notice of an operation that came to an end. -/
def conclude (d : Desk) (result : Except Failure Unit) (success : Option String) :
    Talk (Except Failure Unit × Desk) :=
  match result, success with
  | .error failure, _ => .ask .clock fun now => .done (.error failure, d.raiseError now failure)
  | .ok (), some text => .ask .clock fun now => .done (.ok (), d.raiseSuccess now text)
  | .ok (), none => .done (.ok (), d)

/-- Loads the summary of an owner; everything known before is forgotten. -/
def connect (d : Desk) (owner : Address) : Talk (Except Failure Summary × Desk) :=
  let d := d.disconnect
  .ask (.summary owner) fun
    | .error failure => .ask .clock fun now => .done (.error failure, d.raiseError now failure)
    | .ok summary => .done (.ok summary, d.connected owner summary)

/-- A proof over the latest block by the connected owner and nobody else. -/
def proveOwner (d : Desk) (owner : Address) (payload : Option String) :
    Talk (Except Failure OwnershipProof) :=
  match d.block with
  | none => .done (.error .missingBlock)
  | some block =>
    (prove block payload).bind fun
      | .error failure => .done (.error failure)
      | .ok proof =>
        if proof.owner ≠ owner then .done (.error (foreignWalletFailure proof.owner owner))
        else .done (.ok proof)

def fetch (d : Desk) (network : Network) (owner : Address) :
    Talk (Except Failure Unit × Desk) :=
  (d.proveOwner owner none).bind fun
    | .error failure => .done (.error failure, d)
    | .ok proof =>
      .ask (.config proof) fun
        | .error failure => .done (.error failure, d)
        | .ok envelope => .done (.ok (), d.viewed network envelope)

def view (d : Desk) (network : Network) : Talk (Except Failure Unit × Desk) :=
  match d.requireStored with
  | .error failure => .done (.error failure, d)
  | .ok owner =>
    (fetch { d with errand := some .viewing } network owner).bind fun (result, d) =>
      conclude { d with errand := none } result none

def store (d : Desk) (network : Network) (owner : Address) :
    Talk (Except Failure Unit × Desk) :=
  let text := (d.draft.config.toPayload network).text
  (d.proveOwner owner (some text)).bind fun
    | .error failure => .done (.error failure, d)
    | .ok proof =>
      .ask (.save ⟨proof, text⟩) fun
        | .error failure => .done (.error failure, d)
        | .ok envelope => .done (.ok (), d.saved envelope)

def save (d : Desk) (network : Network) : Talk (Except Failure Unit × Desk) :=
  match d.requireForm with
  | .error failure => .done (.error failure, d)
  | .ok owner =>
    if !d.hasActiveClusters then d.conclude (.error .notClusterOwner) none
    else
      let d := { d with draft := d.draft.commitDays }
      if !d.draft.channelComplete then d.conclude (.error incompleteChannelFailure) none
      else
        (store { d with errand := some .saving } network owner).bind fun (result, d) =>
          conclude { d with errand := none } result (some "Monitor configuration saved")

def erase (d : Desk) (owner : Address) : Talk (Except Failure Unit × Desk) :=
  (d.proveOwner owner none).bind fun
    | .error failure => .done (.error failure, d)
    | .ok proof =>
      .ask (.delete proof) fun
        | .error failure => .done (.error failure, d)
        | .ok () => .done (.ok (), d.deleted)

def delete (d : Desk) : Talk (Except Failure Unit × Desk) :=
  match d.requireStored with
  | .error failure => .done (.error failure, d)
  | .ok owner =>
    (erase { d with errand := some .deleting } owner).bind fun (result, d) =>
      conclude { d with errand := none } result (some "Monitor configuration deleted")

/-- Sends a test alert, without a signature. -/
def test (d : Desk) (channel : Channel) : Talk (Except Failure Unit × Desk) :=
  match d.requireOwner with
  | .error failure => .done (.error failure, d)
  | .ok _ =>
    if !channel.isComplete then d.conclude (.error incompleteChannelFailure) none
    else
      .ask (.test channel) fun result => d.conclude result (some "Test alert sent")

def testDrafted (d : Desk) : Talk (Except Failure Unit × Desk) :=
  d.test d.draft.channel

end Desk

/-- What a user of the desk does; the network is the one selected at that moment. -/
inductive Action where
  | connect (owner : Address)
  | disconnect
  | start
  | view
  | save
  | delete
  | test (channel : Channel)
  | testDrafted
  | setMethod (method : Method)
  | setWebhook (text : String)
  | setToken (text : String)
  | setChat (text : String)
  | typeDays (text : String)
  | commitDays
  | toggleReport (report : Report)
deriving DecidableEq, Repr

inductive Outcome where
  | summary (result : Except Failure Summary)
  | unit (result : Except Failure Unit)
  | days (result : Except Failure Nat)
  | switched (result : Except Failure Bool)
  | nothing

namespace Action

def perform (d : Desk) (network : Network) : Action → Talk (Outcome × Desk)
  | .connect owner => (d.connect owner).bind fun (r, d) => .done (.summary r, d)
  | .disconnect => .done (.nothing, d.disconnect)
  | .start => let (r, d) := d.startConfiguration; .done (.unit r, d)
  | .view => (d.view network).bind fun (r, d) => .done (.unit r, d)
  | .save => (d.save network).bind fun (r, d) => .done (.unit r, d)
  | .delete => d.delete.bind fun (r, d) => .done (.unit r, d)
  | .test channel => (d.test channel).bind fun (r, d) => .done (.unit r, d)
  | .testDrafted => d.testDrafted.bind fun (r, d) => .done (.unit r, d)
  | .setMethod method => let (r, d) := d.setMethod method; .done (.unit r, d)
  | .setWebhook text => let (r, d) := d.setWebhook text; .done (.unit r, d)
  | .setToken text => let (r, d) := d.setToken text; .done (.unit r, d)
  | .setChat text => let (r, d) := d.setChat text; .done (.unit r, d)
  | .typeDays text => let (r, d) := d.typeDays text; .done (.unit r, d)
  | .commitDays => let (r, d) := d.commitDays; .done (.days r, d)
  | .toggleReport report => let (r, d) := d.toggleReport network report; .done (.switched r, d)

end Action

/-- A whole run of the desk, each action under the network selected then. -/
def performAll (d : Desk) : List (Network × Action) → Talk (List (Outcome × Desk))
  | [] => .done []
  | (network, action) :: rest =>
    (action.perform d network).bind fun (outcome, d) =>
      (performAll d rest).bind fun more => .done ((outcome, d) :: more)

end ClusterDesk.Alerts
