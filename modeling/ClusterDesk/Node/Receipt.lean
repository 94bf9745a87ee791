import ClusterDesk.Node.Reading

/-!
# Receipts

A transaction is looked for again and again until a receipt is found or the wait is over. The
first receipt decides; an answer without one, of whatever kind, is passed over.
-/

namespace ClusterDesk.Node

open Json (Decoder Record)

/-- What a receipt tells of a mined transaction. -/
structure MinedReceipt where
  succeeded : Bool
  block : Option UInt64
deriving DecidableEq, Repr

namespace MinedReceipt

/-- The types of transactions. -/
def kinds : List String :=
  ["0x0", "0x1", "0x2", "0x3", "0x4", "0x00", "0x01", "0x02", "0x03", "0x04"]

def kind : Decoder Unit
  | .str s => if s ∈ kinds then .ok () else .error (.invalid "unknown variant")
  | j => .error (.wrongType j .text)

/-- A status is one for success and zero for a revert. -/
def status : Decoder Bool := fun j =>
  (quantity 2 j).map (· == 1)

/-- Receipts of old blocks have a root in the place of the status. -/
def outcome (status : Option Bool) (root : Option Digest) : Option Bool :=
  match status, root with
  | some succeeded, _ => some succeeded
  | none, some _ => some true
  | none, none => none

def record : Record (Option MinedReceipt) :=
  (Record.of fun (_ : Unit) status root (_ : Nat) (_ : List Json) (_ : List UInt8) (_ : Digest)
      (_ : Nat) (_ : Nat) (_ : Address) block =>
        (outcome status root).map fun succeeded => (⟨succeeded, block⟩ : MinedReceipt))
    |>.field "type" kind
    |>.optional "status" (orNull status) none
    |>.optional "root" (orNull (Word.decoder 32)) none
    |>.field "cumulativeGasUsed" fee
    |>.field "logs" (Decoder.listOf Except.ok)
    |>.field "logsBloom" byteString
    |>.field "transactionHash" (Word.decoder 32)
    |>.field "gasUsed" fee
    |>.field "effectiveGasPrice" fee
    |>.field "from" (Word.decoder 20)
    |>.optional "blockNumber" (orNull quantity64) none

def decoder : Decoder MinedReceipt
  | .obj members =>
    match record.decode "receipt" (.obj members) with
    | .error e => .error e
    | .ok (some receipt) => .ok receipt
    | .ok none => .error (.missing "status")
  | j => .error (.wrongType j (.record "receipt"))

end MinedReceipt

/-- How many looks start before a wait is over, the first of them at once. -/
def looks (pollMilliseconds timeoutSeconds : Nat) : Nat :=
  (timeoutSeconds * 1000 + pollMilliseconds - 1) / pollMilliseconds

/-- The receipt in an answer, if there is one. -/
def receiptOf? (node : Web.Url) (reply : Web.Reply) : Option MinedReceipt :=
  match read node (orNull MinedReceipt.decoder) reply with
  | .ok receipt => receipt
  | .error _ => none

/-- Looks for a receipt at most some number of times. -/
def awaitReceipt (node : Web.Url) (transaction : Digest) : Nat → Talk (Option MinedReceipt)
  | 0 => .done none
  | left + 1 =>
    .ask ⟨node, .receipt transaction⟩ fun
      | none => .done none
      | some reply =>
        match receiptOf? node reply with
        | some receipt => .done (some receipt)
        | none => awaitReceipt node transaction left

end ClusterDesk.Node
