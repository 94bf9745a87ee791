import ClusterDesk.Proofs.Node.Decisive
import ClusterDesk.Wallet.Sending

/-!
# What a wallet sends

A wallet hands in at most one transaction for a claim, signed with its own key for its own chain,
and behind the node's word that it is on that chain.
-/

namespace ClusterDesk.Wallet

-- Without this, comparing what is asked takes the key of the wallet apart.
attribute [local irreducible] Secp256k1.Key.address

theorem Session.asks_draft (s : Session) (chainId : UInt64) (contract : Address)
    (data : List UInt8) : (s.draft chainId contract data).Asks Node.Question.IsAside :=
  (Node.asks_transactionCount s.node s.address).andThen fun _ =>
    (Node.asks_gas s.node s.address contract data).andThen fun _ =>
      (Node.asks_fees s.node).andThen fun _ => trivial

/-- The transaction makes this call on this chain. -/
structure Makes (t : Transaction) (chainId : UInt64) (contract : Address) (data : List UInt8) :
    Prop where
  chainId : t.chainId = chainId
  contract : t.contract = contract
  data : t.data = data

theorem Session.draft_makes (s : Session) (chainId : UInt64) (contract : Address)
    (data : List UInt8) :
    (s.draft chainId contract data).Ensures fun _ result =>
      ∀ t, result = .ok t → Makes t chainId contract data := by
  refine Dialogue.ensures_andThen_ok fun nonce => ?_
  refine Dialogue.ensures_andThen_ok fun gas => ?_
  refine Dialogue.ensures_andThen_ok fun fees => ?_
  rw [Dialogue.ensures_done]
  rintro t ⟨rfl⟩
  exact ⟨rfl, rfl, rfl⟩

theorem submit_course (w : Wallet) (s : Session) (t : Transaction) :
    (w.submit s t).Ensures fun log _ => log = [] ∨
      t.chainId = w.chain.chainId ∧ ∃ reply, log = [⟨⟨s.node, .submit (t.sign s.key)⟩, reply⟩] := by
  unfold submit
  split
  case isTrue hforeign =>
    rw [Dialogue.ensures_done]
    exact Or.inl rfl
  case isFalse hsame =>
    simp only [Node.submit, Dialogue.bind, Dialogue.ensures_ask, Dialogue.ensures_done]
    intro reply
    exact Or.inr ⟨by simpa using hsame, reply, rfl⟩

/-- How a claim is handed in with a session of a wallet. -/
structure HandsIn (w : Wallet) (s : Session) (call : ClaimCall)
    (asked : List (Exchange Node.Question Node.Answer)) (x : Exchange Node.Question Node.Answer) :
    Prop where
  named : ∃ reply, asked.filter (fun x => x.1.request.isDecisive) =
    [⟨⟨s.node, .chainId⟩, reply⟩] ∧ Node.NamesChain reply w.chain.chainId
  signed : ∃ t, x.1 = ⟨s.node, .submit (t.sign s.key)⟩ ∧
    Makes t w.chain.chainId w.chain.contract (Calldata.claim call)

variable {w : Wallet} {s : Session}

theorem send_course (hsession : w.session = some s) (hunnamed : s.chainId = none)
    (call : ClaimCall) :
    (w.send call).Ensures fun log _ =>
      Dialogue.Once (fun q => q.request.isSubmission) (HandsIn w s call) log := by
  simp only [send, hsession, Session.learnChain, hunnamed, Node.chainId, Dialogue.bind,
    Dialogue.ensures_ask]
  intro reply
  cases hread : Node.read s.node Node.quantity64 reply with
  | error fault =>
    simp only [Dialogue.bind, Dialogue.ensures_done]
    exact .never (by simp [Node.Request.isSubmission])
  | ok chainId =>
    have hnamed := (Node.read_quantity64_eq_ok s.node reply chainId).mp hread
    simp only [Dialogue.bind, Dialogue.andThen, Dialogue.ensures_bind]
    intro drafting drafted hdrafted _ _ hconverted
    obtain ⟨rfl, rfl⟩ := hconverted
    have haside := (Session.asks_draft _ _ _ _).of_yields hdrafted
    have hquiet : ∀ x ∈ (⟨⟨s.node, .chainId⟩, reply⟩ :: drafting :
        List (Exchange Node.Question Node.Answer)), x.1.request.isSubmission = false :=
      List.forall_mem_cons.mpr ⟨rfl, fun x hx => Node.Request.isSubmission_of_aside (haside x hx)⟩
    cases drafted with
    | error fault =>
      simp only [chainWrite, Dialogue.ensures_done, List.append_nil]
      exact .never hquiet
    | ok t =>
      have hmakes := Session.draft_makes _ _ _ _ _ _ hdrafted t rfl
      simp only [chainWrite, Dialogue.ensures_done, List.append_nil]
      refine (submit_course _ _ t).mono ?_
      rintro log result (rfl | ⟨hchain, handed, rfl⟩)
      · rw [List.append_nil]
        exact .never hquiet
      · obtain rfl : chainId = w.chain.chainId := hmakes.chainId.symm.trans hchain
        have hdraft : drafting.filter (fun x => x.1.request.isDecisive) = [] := by
          refine List.filter_eq_nil_iff.mpr fun x hx => ?_
          rw [show x.1.request.isDecisive = false from haside x hx]
          simp
        rw [← List.cons_append]
        refine .once hquiet (by simp) ⟨⟨reply, ?_, hnamed⟩, t, rfl, hmakes⟩
        rw [List.filter_cons_of_pos (by rfl), hdraft]

theorem asks_confirm (w : Wallet) (transaction : Digest) :
    (w.confirm transaction).Asks Node.Question.IsAside := by
  unfold confirm
  split
  · trivial
  · exact (Node.asks_awaitReceipt _ _ _).bind fun _ => trivial

end ClusterDesk.Wallet
