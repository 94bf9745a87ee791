import ClusterDesk.Bytes.Hex
import ClusterDesk.Chain.Transaction
import ClusterDesk.Dialogue
import ClusterDesk.Json.Basic
import ClusterDesk.Web.Reply
import ClusterDesk.Web.Url

/-!
# Requests to a node

What a node is asked, and how each request is spelled as a method with parameters.
-/

namespace ClusterDesk.Node

inductive Request where
  | chainId
  | blockNumber
  | latestBlock
  /-- Calls a contract without a transaction. -/
  | call (contract : Address) (data : List UInt8)
  | code (account : Address)
  /-- Counts the transactions of an account, those that are still pending included. -/
  | transactionCount (account : Address)
  /-- Estimates the gas of a call. -/
  | gas (sender contract : Address) (data : List UInt8)
  | feeHistory
  | submit (transaction : SignedTransaction)
  /-- Looks for a receipt while a wait goes on. -/
  | receipt (transaction : Digest)

/-- What comes back for a request. A look for a receipt has no answer when the wait ends first. -/
abbrev Request.Answer : Request → Type
  | .receipt _ => Option Web.Reply
  | _ => Web.Reply

/-- A reply as the answer to a request. -/
def Request.answered : (r : Request) → Web.Reply → r.Answer
  | .chainId, reply => reply
  | .blockNumber, reply => reply
  | .latestBlock, reply => reply
  | .call _ _, reply => reply
  | .code _, reply => reply
  | .transactionCount _, reply => reply
  | .gas _ _ _, reply => reply
  | .feeHistory, reply => reply
  | .submit _, reply => reply
  | .receipt _, reply => some reply

/-- A request and the node it goes to. -/
structure Question where
  node : Web.Url
  request : Request

abbrev Answer (q : Question) : Type := q.request.Answer

abbrev Talk := Dialogue Question Answer

namespace Request

def method : Request → String
  | .chainId => "eth_chainId"
  | .blockNumber => "eth_blockNumber"
  | .latestBlock => "eth_getBlockByNumber"
  | .call _ _ => "eth_call"
  | .code _ => "eth_getCode"
  | .transactionCount _ => "eth_getTransactionCount"
  | .gas _ _ _ => "eth_estimateGas"
  | .feeHistory => "eth_feeHistory"
  | .submit _ => "eth_sendRawTransaction"
  | .receipt _ => "eth_getTransactionReceipt"

/-- How many blocks of fees are looked at. -/
def feeBlocks : Nat := 10

/-- Which reward of a block is looked at, in percent of its transactions. -/
def rewardPercentile : Float := 20

def bytesJson (data : List UInt8) : Json :=
  .str (Hex.text data)

/-- The parameters; none where a method has none. -/
def parameters : Request → Option (List Json)
  | .chainId => none
  | .blockNumber => none
  | .latestBlock => some [.str "latest", .bool false]
  | .call contract data =>
    some [.obj [("input", bytesJson data), ("to", .str contract.text)], .str "pending"]
  | .code account => some [.str account.text, .str "latest"]
  | .transactionCount account => some [.str account.text, .str "pending"]
  | .gas sender contract data =>
    some [.obj [("from", .str sender.text), ("input", bytesJson data), ("to", .str contract.text)],
      .str "pending"]
  | .feeHistory =>
    some [.str ("0x" ++ String.ofList (Nat.toDigits 16 feeBlocks)), .str "latest",
      .arr [.num (.float rewardPercentile)]]
  | .submit transaction => some [bytesJson transaction.encode]
  | .receipt transaction => some [.str transaction.text]

end Request

/-- Whether a text is a network address with a port and nothing else. -/
def isSocket (s : String) : Bool :=
  let (host, port) := Web.Url.splitPort s.toList
  let isHost := match host with
    | '[' :: rest => (Web.Host.V6.parse? rest.dropLast).isSome
    | cs => (Web.Host.V4.strict? cs).isSome
  isHost && ((Web.Url.port? port).bind id).isSome

/-- The endpoint that a text names; its scheme may be left out in front of a network address. -/
def endpoint? (s : String) : Option Web.Url := do
  let s := if s.startsWith "localhost:" || isSocket s then "http://" ++ s else s
  let url ← Web.Url.parse? s
  if Web.Url.isServed url.scheme then some url else none

end ClusterDesk.Node
