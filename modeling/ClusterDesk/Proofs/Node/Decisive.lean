import ClusterDesk.Claim.Contract
import ClusterDesk.Node.Fees
import ClusterDesk.Node.Receipt
import ClusterDesk.Proofs.Dialogue.Questions
import ClusterDesk.Proofs.Node.Readings
import ClusterDesk.Surroundings

/-!
# Requests that a claim turns on

A claim turns on the chain that the node names and on what the contract returns. All else that the
node is asked before a transaction is handed in, and behind it, is by the way.
-/

namespace ClusterDesk

namespace Node

def Request.isSubmission : Request → Bool
  | .submit _ => true
  | _ => false

/-- Whether a claim turns on the request, or is made with it. -/
def Request.isDecisive : Request → Bool
  | .chainId => true
  | .call _ _ => true
  | .submit _ => true
  | _ => false

theorem Request.isSubmission_of_aside {r : Request} (h : r.isDecisive = false) :
    r.isSubmission = false := by
  cases r <;> simp_all [isDecisive, isSubmission]

def Question.IsAside (q : Question) : Prop :=
  q.request.isDecisive = false

theorem asks_isHealthy (node : Web.Url) : (isHealthy node).Asks Question.IsAside :=
  ⟨rfl, fun _ => trivial⟩

theorem asks_isContract (node : Web.Url) (account : Address) :
    (isContract node account).Asks Question.IsAside := by
  refine ⟨rfl, fun reply => ?_⟩
  dsimp only
  split
  · trivial
  · trivial

theorem asks_transactionCount (node : Web.Url) (account : Address) :
    (transactionCount node account).Asks Question.IsAside :=
  ⟨rfl, fun _ => trivial⟩

theorem asks_gas (node : Web.Url) (sender contract : Address) (data : List UInt8) :
    (gas node sender contract data).Asks Question.IsAside :=
  ⟨rfl, fun _ => trivial⟩

theorem asks_latestFee (node : Web.Url) : (latestFee node).Asks Question.IsAside := by
  refine ⟨rfl, fun reply => ?_⟩
  dsimp only
  split <;> trivial

theorem asks_fees (node : Web.Url) : (fees node).Asks Question.IsAside := by
  refine ⟨rfl, fun reply => ?_⟩
  dsimp only
  split
  · trivial
  · split
    · trivial
    · exact (asks_latestFee node).andThen fun _ => trivial

theorem asks_awaitReceipt (node : Web.Url) (transaction : Digest) (looks : Nat) :
    (awaitReceipt node transaction looks).Asks Question.IsAside := by
  induction looks with
  | zero => trivial
  | succ left ih =>
    refine ⟨rfl, fun reply => ?_⟩
    dsimp only
    split
    · trivial
    · split
      · trivial
      · exact ih

/-- A reply whose result is exactly the identity of a chain. -/
def NamesChain (reply : Web.Reply) (chainId : UInt64) : Prop :=
  ∃ status text result, reply = .answered status text ∧ 200 ≤ status ∧ status < 300 ∧
    Json.read? Envelope.decoder text = some ⟨some result, none⟩ ∧
    quantity64 result = .ok chainId

theorem read_quantity64_eq_ok (node : Web.Url) (reply : Web.Reply) (chainId : UInt64) :
    read node quantity64 reply = .ok chainId ↔ NamesChain reply chainId :=
  read_eq_ok node quantity64 reply chainId

end Node

namespace ClaimContract

/-- How a chain is connected to. -/
inductive ConnectCourse (c : Chain) :
    List (Exchange Node.Question Node.Answer) → Except ConnectFault ClaimContract → Prop where
  | failed {log : List (Exchange Node.Question Node.Answer)} {fault : ConnectFault}
      (h : ∀ x ∈ log, x.1.request.isSubmission = false) : ConnectCourse c log (.error fault)
  | connected {node : Web.Url} {named : Web.Reply} (hnode : Node.endpoint? c.rpcUrl = some node)
      (hnamed : Node.NamesChain named c.chainId) :
      ConnectCourse c [⟨⟨node, .chainId⟩, named⟩] (.ok ⟨node, c.chainId, c.contract⟩)

theorem connect_course (c : Chain) : (connect c).Ensures (ConnectCourse c) := by
  unfold connect
  split
  case h_1 hnode => simpa using ConnectCourse.failed (by simp)
  case h_2 node hnode =>
    simp only [Node.chainId, Dialogue.bind, Dialogue.ensures_ask]
    intro reply
    have hasked : ∀ x ∈ [(⟨⟨node, .chainId⟩, reply⟩ : Exchange Node.Question Node.Answer)],
        x.1.request.isSubmission = false := by
      simp [Node.Request.isSubmission]
    cases hread : Node.read node Node.quantity64 reply with
    | error fault => simpa using ConnectCourse.failed hasked
    | ok chainId =>
      dsimp only
      split
      case isTrue hforeign => simpa using ConnectCourse.failed hasked
      case isFalse hsame =>
        obtain rfl : chainId = c.chainId := by simpa using hsame
        have hnamed := (Node.read_quantity64_eq_ok node reply _).mp hread
        simpa using ConnectCourse.connected hnode hnamed

theorem word_course (c : ClaimContract) (name : String) (data : List UInt8) :
    (c.word name data).Ensures fun log result => ∃ reply,
      log = [⟨⟨c.node, .call c.address data⟩, reply⟩] ∧
        ∀ word, result = .ok word → Node.HoldsWord reply word := by
  simp only [word, Node.call, Dialogue.bind, Dialogue.ensures_ask]
  intro reply
  cases hread : Node.read c.node Node.byteString reply with
  | error fault =>
    rw [Dialogue.ensures_done]
    exact ⟨reply, rfl, by simp⟩
  | ok bytes =>
    dsimp only
    split
    case h_1 fault hword =>
      rw [Dialogue.ensures_done]
      exact ⟨reply, rfl, by simp⟩
    case h_2 word hword =>
      rw [Dialogue.ensures_done]
      refine ⟨reply, rfl, ?_⟩
      rintro _ ⟨rfl⟩
      refine (Node.read_byteString_eq_ok c.node reply word).mp ?_
      unfold Calldata.decodeWord at hword
      split at hword
      case isTrue hlength =>
        obtain rfl := Except.ok.inj hword
        exact hread
      case isFalse => split at hword <;> simp at hword

end ClaimContract

namespace Surroundings

def Question.isSubmission : Question → Bool
  | .node question => question.request.isSubmission
  | _ => false

def Question.isDecisive : Question → Bool
  | .node question => question.request.isDecisive
  | _ => false

def decisive (transcript : List (Exchange Question Answer)) : List (Exchange Question Answer) :=
  transcript.filter fun x => x.1.isDecisive

theorem decisive_append (first rest : List (Exchange Question Answer)) :
    decisive (first ++ rest) = decisive first ++ decisive rest :=
  List.filter_append first rest

theorem decisive_eq_nil {transcript : List (Exchange Question Answer)} :
    decisive transcript = [] ↔ ∀ x ∈ transcript, x.1.isDecisive = false := by
  simp [decisive, List.filter_eq_nil_iff]

theorem Question.isSubmission_of_aside {q : Question} (h : q.isDecisive = false) :
    q.isSubmission = false := by
  cases q with
  | node question => exact Node.Request.isSubmission_of_aside h
  | _ => rfl

def ofNode (x : Exchange Node.Question Node.Answer) : Exchange Question Answer :=
  ⟨.node x.1, x.2⟩

theorem ensures_atNode {α : Type} (talk : Node.Talk α)
    (P : List (Exchange Question Answer) → α → Prop) :
    (atNode talk).Ensures P ↔ talk.Ensures fun log a => P (log.map ofNode) a := by
  induction talk generalizing P with
  | done a => simp [atNode, Dialogue.relay]
  | ask q next ih =>
    change (Dialogue.ask (.node q) fun r => atNode (next r)).Ensures P ↔ _
    simp only [Dialogue.ensures_ask]
    exact forall_congr' fun r => ih r _

theorem asks_atNode {α : Type} {talk : Node.Talk α} (h : talk.Asks Node.Question.IsAside) :
    (atNode talk).Asks fun q => q.isDecisive = false :=
  h.relay fun _ haside => ⟨haside, fun _ => trivial⟩

theorem asks_atBackend {α : Type} (talk : Backend.Talk α) :
    (atBackend talk).Asks fun q => q.isDecisive = false := by
  induction talk with
  | done a => trivial
  | ask request next ih => exact ⟨rfl, ih⟩

end Surroundings

end ClusterDesk
