import ClusterDesk.Amount
import ClusterDesk.Bytes.Hex
import ClusterDesk.Json.Printer
import ClusterDesk.Node.Request

/-!
# Reading answers of a node

An answer needs a status of success and a record with either a result or an error. A result that
does not have the expected form is malformed. Numbers and byte strings are read as a node writes
them.
-/

namespace ClusterDesk.Node

open Json (Decoder Record)

/-- Reads a number below a bound, from a number or from a text that may name its base. -/
def quantity (bound : Nat) : Decoder Nat := fun j =>
  match Amount.decoder j with
  | .error e => .error e
  | .ok a => if a.wei < bound then .ok a.wei else .error (.invalid Amount.Fault.tooLarge.message)

def quantity64 : Decoder UInt64 := fun j =>
  (quantity UInt64.size j).map Nat.toUInt64

/-- Fees stay below this bound. -/
def feeBound : Nat := Nat.pow 2 128

def fee : Decoder Nat :=
  quantity feeBound

/-- Reads bytes from the text of their digits or from the list of them. -/
def byteString : Decoder (List UInt8)
  | .str s =>
    match Hex.parse s with
    | .ok bytes => .ok bytes
    | .error e => .error (.invalid e.message)
  | .arr items => items.mapM Decoder.natural8
  | j => .error (.wrongType j .text)

/-- Null stands for nothing. -/
def orNull (d : Decoder α) : Decoder (Option α)
  | .null => .ok none
  | j => (d j).map some

/-- An error that a node reports. -/
structure Complaint where
  code : Int64
  message : String
  data : Option Json
deriving BEq, Repr

namespace Complaint

def decoder : Decoder Complaint
  | .obj members =>
    ((Record.of Complaint.mk)
      |>.field "code" Decoder.integer64
      |>.optional "message" Decoder.text ""
      |>.optional "data" (fun j => .ok (some j)) none).decode "error" (.obj members)
  | j => .error (.wrongType j (.record "error"))

def text (c : Complaint) : String :=
  let data := match c.data with
    | some j => ", data: " ++ j.compact
    | none => ""
  "error code " ++ toString c.code.toInt ++ ": " ++ c.message ++ data

end Complaint

/-- Why a node gave no usable value. -/
inductive Fault where
  | dropped (url : String)
  | status (code : Nat) (body : String)
  | reported (complaint : Complaint)
  | malformed
  /-- Nothing where there has to be something. -/
  | nothing
  /-- The latest block has no base fee. -/
  | noBaseFee
deriving BEq, Repr

def Fault.message : Fault → String
  | .dropped url => "error sending request for url (" ++ url ++ ")"
  | .status code body => "HTTP error " ++ toString code ++ " with body: " ++ body
  | .reported complaint => "server returned an error response: " ++ complaint.text
  | .malformed => "deserialization error"
  | .nothing => "server returned a null response when a non-null response was expected"
  | .noBaseFee => "unsupported feature: eip1559"

/-- The record of an answer. -/
structure Envelope where
  result : Option Json
  complaint : Option Complaint

namespace Envelope

/-- The number or text that tells answers apart. -/
def identity : Decoder Unit
  | .null => .ok ()
  | .str _ => .ok ()
  | .num (.natural _) => .ok ()
  | j => .error (.wrongType j .text)

def decoder : Decoder Envelope
  | .obj members =>
    ((Record.of fun result complaint (_ : Unit) => (⟨result, complaint⟩ : Envelope))
      |>.optional "result" (fun j => .ok (some j)) none
      |>.optional "error" (fun j => (Complaint.decoder j).map some) none
      |>.optional "id" identity ()).decode "answer" (.obj members)
  | j => .error (.wrongType j (.record "answer"))

end Envelope

/-- Reads the text of an answer. -/
def readBody (d : Decoder α) (body : String) : Except Fault α :=
  match Json.read? Envelope.decoder body with
  | some ⟨some result, none⟩ =>
    match d result with
    | .ok a => .ok a
    | .error _ => .error .malformed
  | some ⟨none, some complaint⟩ => .error (.reported complaint)
  | _ => .error .malformed

/-- Reads what came back from an endpoint. -/
def read (node : Web.Url) (d : Decoder α) : Web.Reply → Except Fault α
  | .dropped => .error (.dropped node.text)
  | .answered status body =>
    if Web.isSuccess status then readBody d body else .error (.status status body)

def chainId (node : Web.Url) : Talk (Except Fault UInt64) :=
  .ask ⟨node, .chainId⟩ fun reply => .done (read node quantity64 reply)

/-- Whether the node names a block number at all. -/
def isHealthy (node : Web.Url) : Talk Bool :=
  .ask ⟨node, .blockNumber⟩ fun reply => .done (read node quantity64 reply).isOk

/-- The bytes that a contract returns. -/
def call (node : Web.Url) (contract : Address) (data : List UInt8) :
    Talk (Except Fault (List UInt8)) :=
  .ask ⟨node, .call contract data⟩ fun reply => .done (read node byteString reply)

/-- Whether an account has code; one that cannot be looked up counts as having none. -/
def isContract (node : Web.Url) (account : Address) : Talk Bool :=
  .ask ⟨node, .code account⟩ fun reply =>
    match read node byteString reply with
    | .ok code => .done !code.isEmpty
    | .error _ => .done false

def transactionCount (node : Web.Url) (account : Address) : Talk (Except Fault UInt64) :=
  .ask ⟨node, .transactionCount account⟩ fun reply => .done (read node quantity64 reply)

def gas (node : Web.Url) (sender contract : Address) (data : List UInt8) :
    Talk (Except Fault UInt64) :=
  .ask ⟨node, .gas sender contract data⟩ fun reply => .done (read node quantity64 reply)

/-- Hands a transaction in; the hash that the node gives it. -/
def submit (node : Web.Url) (transaction : SignedTransaction) : Talk (Except Fault Digest) :=
  .ask ⟨node, .submit transaction⟩ fun reply => .done (read node (Word.decoder 32) reply)

end ClusterDesk.Node
