import ClusterDesk.Json.Decoder
import ClusterDesk.Network

/-!
# Explorer rows

What the listing and detail pages show, with the keys the backend uses. Lists may be null or
absent and are then empty.
-/

namespace ClusterDesk

open Json (Decoder Record)

/-- An operator as it is named inside other rows. -/
structure OperatorLabel where
  name : String
  id : UInt64
deriving DecidableEq, Repr

namespace OperatorLabel

def decoder : Decoder OperatorLabel :=
  ((Record.of OperatorLabel.mk)
    |>.field "name" Decoder.text
    |>.field "id" Decoder.natural64).decode "OperatorIntro"

def toJson (o : OperatorLabel) : Json :=
  .obj [("name", .str o.name), ("id", .num (.natural o.id))]

end OperatorLabel

structure Operator where
  id : UInt64
  name : String
  owner : String
  validators : UInt32
  fee : String
  earnings : String
  isPrivate : Bool
  removed : Bool
  whitelisted : List String
deriving DecidableEq, Repr

namespace Operator

def decoder : Decoder Operator :=
  ((Record.of Operator.mk)
    |>.field "id" Decoder.natural64
    |>.field "name" Decoder.text
    |>.field "owner" Decoder.text
    |>.field "validators" Decoder.natural32
    |>.field "operatorFee" Decoder.text
    |>.field "operatorEarnings" Decoder.text
    |>.field "privacy" Decoder.boolean
    |>.field "removed" Decoder.boolean
    |>.optional "whitelistedAddress" (Decoder.listOrNull Decoder.text) []).decode "Operator"

def toJson (o : Operator) : Json :=
  .obj [
    ("id", .num (.natural o.id)),
    ("name", .str o.name),
    ("owner", .str o.owner),
    ("validators", .nat o.validators.toNat),
    ("operatorFee", .str o.fee),
    ("operatorEarnings", .str o.earnings),
    ("privacy", .bool o.isPrivate),
    ("removed", .bool o.removed),
    ("whitelistedAddress", .arr (o.whitelisted.map .str))]

end Operator

structure Cluster where
  id : String
  owner : String
  operators : List OperatorLabel
  validators : UInt32
  active : Bool
deriving DecidableEq, Repr

namespace Cluster

def decoder : Decoder Cluster :=
  ((Record.of Cluster.mk)
    |>.field "id" Decoder.text
    |>.field "owner" Decoder.text
    |>.optional "operators" (Decoder.listOrNull OperatorLabel.decoder) []
    |>.field "validators" Decoder.natural32
    |>.field "status" Decoder.boolean).decode "Cluster"

def toJson (c : Cluster) : Json :=
  .obj [
    ("id", .str c.id),
    ("owner", .str c.owner),
    ("operators", .arr (c.operators.map OperatorLabel.toJson)),
    ("validators", .nat c.validators.toNat),
    ("status", .bool c.active)]

end Cluster

structure ClusterDetails where
  id : String
  owner : String
  feeRecipient : String
  active : Bool
  balance : String
  burnFee : String
  /-- Blocks until liquidation. -/
  runway : UInt64
  validators : UInt32
  operators : List OperatorLabel
deriving DecidableEq, Repr

namespace ClusterDetails

def decoder : Decoder ClusterDetails :=
  ((Record.of ClusterDetails.mk)
    |>.field "id" Decoder.text
    |>.field "owner" Decoder.text
    |>.field "feeRecipientAddress" Decoder.text
    |>.field "active" Decoder.boolean
    |>.field "onChainBalance" Decoder.text
    |>.field "burnFee" Decoder.text
    |>.field "operationalRunaway" Decoder.natural64
    |>.field "validatorCount" Decoder.natural32
    |>.optional "operators" (Decoder.listOrNull OperatorLabel.decoder) []).decode "ClusterDetails"

def toJson (c : ClusterDetails) : Json :=
  .obj [
    ("id", .str c.id),
    ("owner", .str c.owner),
    ("feeRecipientAddress", .str c.feeRecipient),
    ("active", .bool c.active),
    ("onChainBalance", .str c.balance),
    ("burnFee", .str c.burnFee),
    ("operationalRunaway", .num (.natural c.runway)),
    ("validatorCount", .nat c.validators.toNat),
    ("operators", .arr (c.operators.map OperatorLabel.toJson))]

def runwayText (c : ClusterDetails) : String :=
  ClusterDesk.runwayText c.runway.toNat

end ClusterDetails

structure ClusterStats where
  proposedBlocks : Int64
  missedBlocks : Int64
  offline : Int64
  pendingRemoval : Int64
deriving DecidableEq, Repr

namespace ClusterStats

def decoder : Decoder ClusterStats :=
  ((Record.of ClusterStats.mk)
    |>.field "totalProposedBlocks" Decoder.integer64
    |>.field "totalMissedBlocks" Decoder.integer64
    |>.field "totalOfflineCount" Decoder.integer64
    |>.field "pendingRemovalCount" Decoder.integer64).decode "ClusterPosStats"

def toJson (s : ClusterStats) : Json :=
  .obj [
    ("totalProposedBlocks", .int s.proposedBlocks),
    ("totalMissedBlocks", .int s.missedBlocks),
    ("totalOfflineCount", .int s.offline),
    ("pendingRemovalCount", .int s.pendingRemoval)]

end ClusterStats

structure Validator where
  publicKey : String
  owner : String
  operators : List OperatorLabel
  cluster : String
  status : String
  online : Bool
deriving DecidableEq, Repr

namespace Validator

def decoder : Decoder Validator :=
  ((Record.of Validator.mk)
    |>.field "publicKey" Decoder.text
    |>.field "owner" Decoder.text
    |>.optional "operators" (Decoder.listOrNull OperatorLabel.decoder) []
    |>.field "clusterId" Decoder.text
    |>.field "status" Decoder.text
    |>.field "online" Decoder.boolean).decode "Validator"

def toJson (v : Validator) : Json :=
  .obj [
    ("publicKey", .str v.publicKey),
    ("owner", .str v.owner),
    ("operators", .arr (v.operators.map OperatorLabel.toJson)),
    ("clusterId", .str v.cluster),
    ("status", .str v.status),
    ("online", .bool v.online)]

end Validator

/-- A contract event that touches an account or cluster. -/
structure Event where
  block : UInt64
  transaction : String
  action : String
deriving DecidableEq, Repr

namespace Event

def decoder : Decoder Event :=
  ((Record.of Event.mk)
    |>.field "block" Decoder.natural64
    |>.field "transactionHash" Decoder.text
    |>.field "action" Decoder.text).decode "Event"

def toJson (e : Event) : Json :=
  .obj [
    ("block", .num (.natural e.block)),
    ("transactionHash", .str e.transaction),
    ("action", .str e.action)]

end Event

/-- A block proposed by a validator of a cluster. -/
structure ProposedBlock where
  proposer : UInt64
  epoch : UInt64
  slot : UInt64
  number : UInt64
deriving DecidableEq, Repr

namespace ProposedBlock

def decoder : Decoder ProposedBlock :=
  ((Record.of ProposedBlock.mk)
    |>.field "proposer" Decoder.natural64
    |>.field "epoch" Decoder.natural64
    |>.field "slot" Decoder.natural64
    |>.field "blockNumber" Decoder.natural64).decode "ProposedBlock"

def toJson (b : ProposedBlock) : Json :=
  .obj [
    ("proposer", .num (.natural b.proposer)),
    ("epoch", .num (.natural b.epoch)),
    ("slot", .num (.natural b.slot)),
    ("blockNumber", .num (.natural b.number))]

end ProposedBlock

structure ChartPoint where
  name : String
  validators : Int64
  operators : Int64
deriving DecidableEq, Repr

namespace ChartPoint

def decoder : Decoder ChartPoint :=
  ((Record.of ChartPoint.mk)
    |>.field "name" Decoder.text
    |>.field "validators" Decoder.integer64
    |>.field "operators" Decoder.integer64).decode "ChartPoint"

def toJson (c : ChartPoint) : Json :=
  .obj [("name", .str c.name), ("validators", .int c.validators), ("operators", .int c.operators)]

end ChartPoint

/-- How far the indexers of the backend have come. -/
structure IndexerStatus where
  executionBlock : UInt64
  proposalEpoch : UInt64
  validatorEpoch : UInt64
deriving DecidableEq, Repr

namespace IndexerStatus

def decoder : Decoder IndexerStatus :=
  ((Record.of IndexerStatus.mk)
    |>.field "el_last_monitoring_block" Decoder.natural64
    |>.field "cl_last_proposal_monitoring_epoch" Decoder.natural64
    |>.field "cl_last_validator_monitoring_epoch" Decoder.natural64).decode "IndexerStatus"

def toJson (s : IndexerStatus) : Json :=
  .obj [
    ("el_last_monitoring_block", .num (.natural s.executionBlock)),
    ("cl_last_proposal_monitoring_epoch", .num (.natural s.proposalEpoch)),
    ("cl_last_validator_monitoring_epoch", .num (.natural s.validatorEpoch))]

end IndexerStatus

structure Dashboard where
  activeOperators : Int64
  activeValidators : Int64
  activeClusters : Int64
  staked : Int64
  proposedBlocks : Int64
  networkFee : String
  validatorLimit : Int64
  liquidationThreshold : Int64
  minimumCollateral : String
  events : List Event
  blocks : List ProposedBlock
  validators : List Validator
  charts : List ChartPoint
deriving DecidableEq, Repr

namespace Dashboard

def decoder : Decoder Dashboard :=
  ((Record.of Dashboard.mk)
    |>.field "activeOperators" Decoder.integer64
    |>.field "activeValidators" Decoder.integer64
    |>.field "activeClusters" Decoder.integer64
    |>.field "stakedETH" Decoder.integer64
    |>.field "proposedBlocks" Decoder.integer64
    |>.field "networkFee" Decoder.text
    |>.field "operatorValidatorLimit" Decoder.integer64
    |>.field "liquidationThreshold" Decoder.integer64
    |>.field "minimumCollateral" Decoder.text
    |>.optional "events" (Decoder.listOrNull Event.decoder) []
    |>.optional "blocks" (Decoder.listOrNull ProposedBlock.decoder) []
    |>.optional "validators" (Decoder.listOrNull Validator.decoder) []
    |>.optional "charts" (Decoder.listOrNull ChartPoint.decoder) []).decode "Dashboard"

def toJson (d : Dashboard) : Json :=
  .obj [
    ("activeOperators", .int d.activeOperators),
    ("activeValidators", .int d.activeValidators),
    ("activeClusters", .int d.activeClusters),
    ("stakedETH", .int d.staked),
    ("proposedBlocks", .int d.proposedBlocks),
    ("networkFee", .str d.networkFee),
    ("operatorValidatorLimit", .int d.validatorLimit),
    ("liquidationThreshold", .int d.liquidationThreshold),
    ("minimumCollateral", .str d.minimumCollateral),
    ("events", .arr (d.events.map Event.toJson)),
    ("blocks", .arr (d.blocks.map ProposedBlock.toJson)),
    ("validators", .arr (d.validators.map Validator.toJson)),
    ("charts", .arr (d.charts.map ChartPoint.toJson))]

end Dashboard

end ClusterDesk
