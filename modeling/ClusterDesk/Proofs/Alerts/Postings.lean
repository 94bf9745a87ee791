import ClusterDesk.Backend.Exchange
import ClusterDesk.Proofs.Alerts.Authority
import ClusterDesk.Proofs.Alerts.Messages
import ClusterDesk.Proofs.Backend.Uniform
import ClusterDesk.Proofs.Bytes.Hex
import ClusterDesk.Proofs.Dialogue.Questions
import ClusterDesk.Proofs.Json.RoundTrip

/-!
# Posted saves

The text that an owner signed stands in the posted record as a quoted text, and is read back from
it character for character. So whoever receives the record can put together the message that was
signed.
-/

namespace ClusterDesk

namespace Backend.Operation

theorem body_of_request {base : String} {op : Operation} {sent : Backend.Request}
    (h : op.request base = .ok sent) : sent.body = op.posted.map Json.compact := by
  obtain ⟨url, -, -, rfl⟩ := address_of_request h
  rfl

theorem asks_perform (base : String) (op : Operation) :
    (op.perform base).Asks fun sent => sent.body = op.posted.map Json.compact := by
  unfold perform
  cases h : op.request base with
  | error fault => trivial
  | ok sent => exact ⟨body_of_request h, fun _ => trivial⟩

end Backend.Operation

namespace Alerts

open Backend (Operation)

/-- A body is the text of a record with four members and no others: what was signed, and the proof
of it. -/
def Conveys (body : String) (request : SaveRequest) : Prop :=
  ∃ owner : String, Address.parse owner = .ok request.proof.owner ∧
    Json.parse? body = some (.obj [
      ("monitorConfig", .str request.text),
      ("owner", .str owner),
      ("signature", .str request.proof.signature),
      ("block", .num (.natural request.proof.block))])

theorem Conveys.unique {body : String} {request received : SaveRequest} (h : Conveys body request)
    (hreceived : Conveys body received) : received = request := by
  -- One text has one tree, and the text of the owner in it names one address.
  obtain ⟨owner, howner, hbody⟩ := h
  obtain ⟨named, hnamed, hread⟩ := hreceived
  obtain ⟨htext, rfl, hsignature, hblock⟩ :
      received.text = request.text ∧ named = owner ∧
        received.proof.signature = request.proof.signature ∧
        received.proof.block = request.proof.block := by
    simpa using hread.symm.trans hbody
  have hsame : received.proof.owner = request.proof.owner :=
    Except.ok.inj (hnamed.symm.trans howner)
  obtain ⟨⟨wallet, block, signature⟩, text⟩ := received
  obtain rfl : text = request.text := htext
  obtain rfl : wallet = request.proof.owner := hsame
  obtain rfl : block = request.proof.block := hblock
  obtain rfl : signature = request.proof.signature := hsignature
  rfl

theorem conveys_posted (request : SaveRequest) :
    ∃ body, (Operation.save request).posted.map Json.compact = some body ∧
      Conveys body request := by
  refine ⟨_, rfl, request.proof.owner.checksummed, request.proof.owner.parse_checksummed, ?_⟩
  exact Json.parse?_compact (by simp [Operation.proofMembers, Json.isExact, Json.isExactMembers])

-- Without this, asking for the form of what is asked takes addresses apart and hashes them.
attribute [local irreducible] Operation.request

/-- What the owner saves who looked at a hook with the least threshold. -/
def resaved : SaveRequest where
  proof := ⟨Word.ofNat 20 1, 8, "second"⟩
  text := ({ (default : Payload) with channel := "hook", threshold := 10 } : Payload).text

end Alerts

end ClusterDesk
