import ClusterDesk.Alerts.Channel
import ClusterDesk.Alerts.Report
import ClusterDesk.Alerts.Threshold
import ClusterDesk.Json.Printer

/-!
# Alert configurations

A configuration as it is edited and as it travels. Both directions clamp the threshold and switch
off the reports that a network does not offer.
-/

namespace ClusterDesk

/-- A configuration as it travels; its compact text is what an owner signs. -/
structure Payload where
  method : UInt8
  channel : String
  threshold : UInt64
  operatorFee : Bool
  networkFee : Bool
  proposedBlock : Bool
  missedBlock : Bool
  balanceDecrease : Bool
  exitedNotRemoved : Bool
  weekly : Bool
deriving DecidableEq, Repr, Inhabited

namespace Payload

def record : Json.Record Payload :=
  (Json.Record.of Payload.mk)
    |>.field "alarm_type" Json.Decoder.natural8
    |>.field "alarm_channel" Json.Decoder.text
    |>.field "report_liquidation_threshold" Json.Decoder.natural64
    |>.field "report_operator_fee_change" Json.Decoder.boolean
    |>.field "report_network_fee_change" Json.Decoder.boolean
    |>.field "report_propose_block" Json.Decoder.boolean
    |>.field "report_missed_block" Json.Decoder.boolean
    |>.field "report_balance_decrease" Json.Decoder.boolean
    |>.field "report_exited_but_not_removed" Json.Decoder.boolean
    |>.field "report_weekly" Json.Decoder.boolean

def decoder : Json.Decoder Payload :=
  record.decode "MonitorConfigPayload"

def toJson (p : Payload) : Json :=
  .obj [
    ("alarm_type", .nat p.method.toNat),
    ("alarm_channel", .str p.channel),
    ("report_liquidation_threshold", .num (.natural p.threshold)),
    ("report_operator_fee_change", .bool p.operatorFee),
    ("report_network_fee_change", .bool p.networkFee),
    ("report_propose_block", .bool p.proposedBlock),
    ("report_missed_block", .bool p.missedBlock),
    ("report_balance_decrease", .bool p.balanceDecrease),
    ("report_exited_but_not_removed", .bool p.exitedNotRemoved),
    ("report_weekly", .bool p.weekly)]

def text (p : Payload) : String :=
  p.toJson.compact

/-- The text for logs, which leaves the channel out. -/
def redacted (p : Payload) : String :=
  "MonitorConfigPayload \x7b alarm_type: " ++ toString p.method.toNat ++
    ", alarm_channel: \"<redacted>\", report_liquidation_threshold: " ++ toString p.threshold.toNat ++
    ", report_operator_fee_change: " ++ toString p.operatorFee ++
    ", report_network_fee_change: " ++ toString p.networkFee ++
    ", report_propose_block: " ++ toString p.proposedBlock ++
    ", report_missed_block: " ++ toString p.missedBlock ++
    ", report_balance_decrease: " ++ toString p.balanceDecrease ++
    ", report_exited_but_not_removed: " ++ toString p.exitedNotRemoved ++
    ", report_weekly: " ++ toString p.weekly ++ " \x7d"

def reports (p : Payload) : Reports where
  operatorFee := p.operatorFee
  networkFee := p.networkFee
  blockProposals := p.proposedBlock
  missedBlocks := p.missedBlock
  balanceDecrease := p.balanceDecrease
  exitedNotRemoved := p.exitedNotRemoved
  weekly := p.weekly

end Payload

structure AlertConfig where
  channel : Channel := .discord ""
  days : Nat := Threshold.initial
  reports : Reports := {}
deriving DecidableEq, Repr

namespace AlertConfig

def ofPayload (p : Payload) (network : Network) : AlertConfig where
  channel := .ofWire (.ofCode p.method) p.channel
  days := Threshold.clamp p.threshold.toNat
  reports := p.reports.restrict network

def toPayload (c : AlertConfig) (network : Network) : Payload :=
  let reports := c.reports.restrict network
  { method := c.channel.method.code
    channel := c.channel.wire
    threshold := (Threshold.clamp c.days).toUInt64
    operatorFee := reports.operatorFee
    networkFee := reports.networkFee
    proposedBlock := reports.blockProposals
    missedBlock := reports.missedBlocks
    balanceDecrease := reports.balanceDecrease
    exitedNotRemoved := reports.exitedNotRemoved
    weekly := reports.weekly }

end AlertConfig

end ClusterDesk
