import ClusterDesk.Node.Reading

/-!
# Fees

What a transaction offers: the median of the rewards that recent blocks paid, and a limit that
leaves room for the base fee to double. Fees are counted modulo their bound.
-/

namespace ClusterDesk.Node

open Json (Decoder Record)

structure FeeHistory where
  /-- The base fee of each block and of the next one. -/
  baseFees : List Nat
  /-- The rewards that were asked for, block by block. -/
  rewards : List (List Nat)
deriving DecidableEq, Repr

structure Fees where
  priority : Nat
  limit : Nat
deriving DecidableEq, Repr

namespace FeeHistory

/-- A share, which is not looked at. -/
def share : Decoder Unit
  | .num _ => .ok ()
  | j => .error (.wrongType j (.whole "f64"))

def decoder : Decoder FeeHistory :=
  ((Record.of fun baseFees (_ : List Unit) (_ : List Nat) (_ : List Unit) (_ : UInt64) rewards =>
      (⟨baseFees, rewards.getD []⟩ : FeeHistory))
    |>.optional "baseFeePerGas" (Decoder.listOf fee) []
    |>.optional "gasUsedRatio" (Decoder.listOf share) []
    |>.optional "baseFeePerBlobGas" (Decoder.listOf fee) []
    |>.optional "blobGasUsedRatio" (Decoder.listOf share) []
    |>.optional "oldestBlock" quantity64 0
    |>.optional "reward" (orNull (Decoder.listOf (Decoder.listOf fee))) none).decode "fees"

/-- The base fee of the latest block: the last one but one. -/
def baseFee? (h : FeeHistory) : Option Nat :=
  h.baseFees.reverse[1]?

end FeeHistory

namespace Fees

/-- The least priority fee that is offered. -/
def leastPriority : Nat := 1

/-- The median, the rounded-down mean of the middle two of an even number. -/
def median (sorted : List Nat) : Nat :=
  let half := sorted.length / 2
  let upper := sorted.getD half 0
  if sorted.length % 2 == 1 then upper
  else (sorted.getD (half - 1) 0 + upper) % feeBound / 2

/-- The median of the first rewards that are not zero. -/
def priorityOf (rewards : List (List Nat)) : Nat :=
  let paid := (rewards.filterMap List.head?).filter (· != 0)
  max (median (paid.mergeSort fun a b => a ≤ b)) leastPriority

def of (baseFee : Nat) (rewards : List (List Nat)) : Fees :=
  let priority := priorityOf rewards
  ⟨priority, (baseFee * 2 + priority) % feeBound⟩

end Fees

/-- The base fee of a block, none where it has none. -/
def blockFee : Decoder (Option Nat) :=
  ((Record.of fun baseFee => baseFee)
    |>.optional "baseFeePerGas" (orNull fee) none).decode "block"

/-- The base fee of the latest block, from the block itself. -/
def latestFee (node : Web.Url) : Talk (Except Fault Nat) :=
  .ask ⟨node, .latestBlock⟩ fun reply =>
    match read node (orNull blockFee) reply with
    | .error fault => .done (.error fault)
    | .ok none => .done (.error .nothing)
    | .ok (some none) => .done (.error .noBaseFee)
    | .ok (some (some baseFee)) => .done (.ok baseFee)

/-- What to offer now. -/
def fees (node : Web.Url) : Talk (Except Fault Fees) :=
  .ask ⟨node, .feeHistory⟩ fun reply =>
    match read node FeeHistory.decoder reply with
    | .error fault => .done (.error fault)
    | .ok history =>
      match history.baseFee? with
      | some (baseFee + 1) => .done (.ok (.of (baseFee + 1) history.rewards))
      | _ =>
        (latestFee node).andThen fun baseFee => .done (.ok (.of baseFee history.rewards))

end ClusterDesk.Node
