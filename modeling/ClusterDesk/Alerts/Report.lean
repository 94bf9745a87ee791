import ClusterDesk.Network

/-!
# Reports

The event reports an owner can switch on. Three of them need validator telemetry and stay off on a
network without it.
-/

namespace ClusterDesk

inductive Report where
  | operatorFee
  | networkFee
  | blockProposals
  | missedBlocks
  | balanceDecrease
  | exitedNotRemoved
  | weekly
deriving DecidableEq, Repr, Inhabited

namespace Report

def all : List Report :=
  [.operatorFee, .networkFee, .blockProposals, .missedBlocks, .balanceDecrease, .exitedNotRemoved,
    .weekly]

def needsTelemetry : Report → Bool
  | .blockProposals => true
  | .missedBlocks => true
  | .balanceDecrease => true
  | _ => false

def availableOn (report : Report) (network : Network) : Bool :=
  !report.needsTelemetry || network.hasTelemetry

def label : Report → String
  | .operatorFee => "Report operator fee changes"
  | .networkFee => "Report network fee changes"
  | .blockProposals => "Report block proposals"
  | .missedBlocks => "Report missed blocks"
  | .balanceDecrease => "Report balance decrease"
  | .exitedNotRemoved => "Report exited but not removed validators"
  | .weekly => "Weekly report"

def ofName? : String → Option Report
  | "operator-fee-change" => some .operatorFee
  | "network-fee-change" => some .networkFee
  | "block-proposals" => some .blockProposals
  | "missed-blocks" => some .missedBlocks
  | "balance-decrease" => some .balanceDecrease
  | "exited-not-removed" => some .exitedNotRemoved
  | "weekly-report" => some .weekly
  | _ => none

def parse (s : String) : Except String Report :=
  match ofName? s with
  | some report => .ok report
  | none => .error ("unknown report flag: " ++ s)

end Report

structure Reports where
  operatorFee : Bool := false
  networkFee : Bool := false
  blockProposals : Bool := false
  missedBlocks : Bool := false
  balanceDecrease : Bool := false
  exitedNotRemoved : Bool := false
  weekly : Bool := false
deriving DecidableEq, Repr, Inhabited

namespace Reports

def get (r : Reports) : Report → Bool
  | .operatorFee => r.operatorFee
  | .networkFee => r.networkFee
  | .blockProposals => r.blockProposals
  | .missedBlocks => r.missedBlocks
  | .balanceDecrease => r.balanceDecrease
  | .exitedNotRemoved => r.exitedNotRemoved
  | .weekly => r.weekly

def set (r : Reports) (report : Report) (on : Bool) : Reports :=
  match report with
  | .operatorFee => { r with operatorFee := on }
  | .networkFee => { r with networkFee := on }
  | .blockProposals => { r with blockProposals := on }
  | .missedBlocks => { r with missedBlocks := on }
  | .balanceDecrease => { r with balanceDecrease := on }
  | .exitedNotRemoved => { r with exitedNotRemoved := on }
  | .weekly => { r with weekly := on }

def toggle (r : Reports) (report : Report) : Reports :=
  r.set report (!r.get report)

/-- Switches every report off that the network does not offer. -/
def restrict (r : Reports) (network : Network) : Reports :=
  Report.all.foldl (fun r report => if report.availableOn network then r else r.set report false) r

end Reports

end ClusterDesk
