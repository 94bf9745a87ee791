import ClusterDesk.Carriers
import ClusterDesk.Proofs.Dialogue.Relays

/-!
# Carried claims

A carrier waits for the proposals that it started, so none of them ends behind its back. Here they
do: with every answer another batch of proposals has ended, and no batch at all is the carrier.
-/

namespace ClusterDesk.Claim

open Surroundings (atNode performAt)

namespace Carrier

/-- An answer, and the next batch of proposals that ended while it was awaited. -/
def answerAmid (q : Question) (s : Carrier × List (List (Nat × Ending))) :
    Surroundings.Talk (Answer q × Carrier × List (List (Nat × Ending))) :=
  (s.1.answer q).bind fun (answer, c) => .done (⟨answer.reply, s.2.headD []⟩, c, s.2.tail)

/-- Carries out a dialogue of the desk while proposals end in the background, batch by batch. -/
def carryAmid {α : Type} (c : Carrier) (ended : List (List (Nat × Ending))) (talk : Talk α) :
    Surroundings.Talk (α × Carrier × List (List (Nat × Ending))) :=
  talk.relayWith answerAmid (c, ended)

-- Without this, comparing what is carried takes the address of the backend apart.
attribute [local irreducible] Backend.Operation.request

private theorem exists_quiet {β : Type} (q : Question) (talk : Surroundings.Talk β)
    (f : β → Reply q × Carrier) :
    ∃ told : Surroundings.Talk (Reply q × Carrier),
      (talk.bind fun b => .done (quiet (f b).1, (f b).2)) =
        told.bind fun (reply, c) => .done (quiet reply, c) := by
  refine ⟨talk.bind fun b => .done (f b), ?_⟩
  rw [Dialogue.bind_assoc]
  rfl

/-- A carrier never tells that a proposal has ended, unless that is what it was asked. -/
theorem answer_quiet (c : Carrier) (q : Question) :
    ∃ told : Surroundings.Talk (Reply q × Carrier),
      c.answer q = told.bind fun (reply, c) => .done (quiet reply, c) := by
  cases q with
  | entitlement account =>
    exact exists_quiet (.entitlement account) (performAt c.backend (.entitlement account))
      fun r => (r, c)
  | claimed account =>
    exact exists_quiet (.claimed account) (atNode (c.contract.claimed account)) fun r => (r, c)
  | signer => exact exists_quiet .signer (.done c.wallet.address) fun r => (r, c)
  | isContract account =>
    exact exists_quiet (.isContract account) (atNode (c.contract.isContract account))
      fun r => (r, c)
  | send call =>
    exact exists_quiet (.send call) (atNode (c.wallet.send call))
      fun r => (r.1, { c with wallet := r.2 })
  | confirm transaction =>
    exact exists_quiet (.confirm transaction) (atNode (c.wallet.confirm transaction))
      fun r => (r, c)
  | propose call =>
    exact exists_quiet (.propose call) (atNode (c.wallet.send call)) fun r =>
      ((), { c with wallet := r.2, endings := c.endings ++ [.ofSent r.1] })
  | wait milliseconds =>
    exact exists_quiet (.wait milliseconds) (.ask (.wait milliseconds) .done) fun _ => ((), c)
  | settle number =>
    exact exists_quiet (.settle number) (.done (c.endings.getD number .aborted)) fun r => (r, c)

theorem carryAmid_nil {α : Type} (c : Carrier) (talk : Talk α) :
    ((c.carryAmid [] talk).bind fun (a, c, _) => .done (a, c)) = c.carry talk := by
  induction talk generalizing c with
  | done a => rfl
  | ask q next ih =>
    obtain ⟨talk, htalk⟩ := c.answer_quiet q
    simp only [carryAmid, carry, Dialogue.relayWith, answerAmid, htalk, Dialogue.bind_assoc]
    refine congrArg talk.bind ?_
    funext told
    exact ih (quiet told.1) told.2

end Carrier

end ClusterDesk.Claim
