import ClusterDesk.Proofs.Claim.Lookup
import ClusterDesk.Proofs.Wallet.Sending

/-!
# How a carried claim reaches the node

A desk that is carried hands in one transaction at most, for the call of the snapshot that it knows.
What a search was told by the node is one word, if anything is left to claim.
-/

namespace ClusterDesk.Claim

open Surroundings (atNode decisive performAt)

namespace Question

/-- The call that a question has sent. -/
def submission? : Question → Option ClaimCall
  | .send call => some call
  | .propose call => some call
  | _ => none

/-- Nothing that a claim turns on is asked in the place of the question. -/
def IsAside : Question → Prop
  | .signer => True
  | .isContract _ => True
  | .confirm _ => True
  | .wait _ => True
  | .settle _ => True
  | _ => False

theorem IsAside.submission? {q : Question} (h : q.IsAside) : q.submission? = none := by
  cases q <;> first | rfl | exact h.elim

end Question

-- Without this, comparing what is asked takes the addresses of the backend and the key apart.
attribute [local irreducible] Backend.Operation.request Secp256k1.Key.address

namespace Carrier

theorem asks_answer (c : Carrier) {q : Question} (h : q.IsAside) :
    (c.answer q).Asks fun q => q.isDecisive = false := by
  cases q with
  | signer => trivial
  | isContract account =>
    exact (Surroundings.asks_atNode (Node.asks_isContract _ account)).bind fun _ => trivial
  | confirm transaction =>
    exact (Surroundings.asks_atNode (c.wallet.asks_confirm transaction)).bind fun _ => trivial
  | wait milliseconds => exact ⟨rfl, fun _ => trivial⟩
  | settle number => trivial
  | _ => exact h.elim

private theorem ensures_carrier {β : Type} {q : Question} {c : Carrier}
    (talk : Surroundings.Talk β) (f : β → Answer q) :
    (talk.bind fun b => .done (f b, c)).Ensures fun _ told => told.2 = c := by
  simp only [Dialogue.ensures_bind, Dialogue.ensures_done]
  exact fun _ _ _ => trivial

theorem answer_carrier (c : Carrier) {q : Question} (h : q.submission? = none) :
    (c.answer q).Ensures fun _ told => told.2 = c := by
  cases q with
  | send call => simp [Question.submission?] at h
  | propose call => simp [Question.submission?] at h
  | entitlement account => exact ensures_carrier _ quiet
  | claimed account => exact ensures_carrier _ quiet
  | isContract account => exact ensures_carrier _ quiet
  | confirm transaction => exact ensures_carrier _ quiet
  | wait milliseconds =>
    exact ensures_carrier (.ask (.wait milliseconds) .done)
      fun _ => (quiet () : Answer (.wait milliseconds))
  | signer => exact (Dialogue.ensures_done _ _).mpr rfl
  | settle number => exact (Dialogue.ensures_done _ _).mpr rfl

theorem answer_unsubmitted (c : Carrier) {q : Question} (h : q.submission? = none) :
    (c.answer q).Asks fun q => q.isSubmission = false := by
  cases q with
  | send call => simp [Question.submission?] at h
  | propose call => simp [Question.submission?] at h
  | entitlement account =>
    refine Dialogue.Asks.bind ?_ fun _ => trivial
    exact (Surroundings.asks_atBackend _).mono fun _ =>
      Surroundings.Question.isSubmission_of_aside
  | claimed account =>
    rw [answer, c.contract.atNode_claimed]
    exact ⟨rfl, fun _ => trivial⟩
  | _ =>
    exact (c.asks_answer (by trivial)).mono fun _ => Surroundings.Question.isSubmission_of_aside

/-- The wallet was not told yet which chain its node is on. -/
def Unnamed (c : Carrier) : Prop :=
  ∀ s, c.wallet.session = some s → s.chainId = none

/-- How the carrier hands a claim in to a node. -/
structure HandsIn (c : Carrier) (call : ClaimCall)
    (asked : List (Exchange Surroundings.Question Surroundings.Answer))
    (x : Exchange Surroundings.Question Surroundings.Answer) (s : Wallet.Session) : Prop where
  session : c.wallet.session = some s
  named : ∃ reply, decisive asked = [⟨.node ⟨s.node, .chainId⟩, reply⟩] ∧
    Node.NamesChain reply c.wallet.chain.chainId
  signed : ∃ t, x.1 = .node ⟨s.node, .submit (t.sign s.key)⟩ ∧
    Wallet.Makes t c.wallet.chain.chainId c.wallet.chain.contract (Calldata.claim call)

theorem decisive_ofNode (log : List (Exchange Node.Question Node.Answer)) :
    decisive (log.map Surroundings.ofNode) =
      (log.filter fun x => x.1.request.isDecisive).map Surroundings.ofNode := by
  rw [decisive, List.filter_map]
  rfl

theorem sent_once (c : Carrier) (hunnamed : c.Unnamed) (call : ClaimCall) :
    (atNode (c.wallet.send call)).Ensures fun asked _ =>
      Dialogue.Once Surroundings.Question.isSubmission
        (fun asked x => ∃ s, c.HandsIn call asked x s) asked := by
  rw [Surroundings.ensures_atNode]
  cases hsession : c.wallet.session with
  | none =>
    simp only [Wallet.send, hsession, Dialogue.ensures_done]
    exact .never (by simp)
  | some s =>
    refine (Wallet.send_course hsession (hunnamed s hsession) call).mono ?_
    rintro log told (h | @⟨front, back, x, hfront, hback, ⟨reply, hasked, hnamed⟩, t, hx, hmakes⟩)
    · exact .never (List.forall_mem_map.mpr h)
    · rw [List.map_append, List.map_cons]
      refine .once (List.forall_mem_map.mpr hfront) (List.forall_mem_map.mpr hback)
        ⟨s, hsession, ⟨reply, ?_, hnamed⟩, t, congrArg _ hx, hmakes⟩
      rw [decisive_ofNode, hasked]
      rfl

theorem answer_once (c : Carrier) (hunnamed : c.Unnamed) {q : Question} {call : ClaimCall}
    (h : q.submission? = some call) :
    (c.answer q).Ensures fun asked _ =>
      Dialogue.Once Surroundings.Question.isSubmission
        (fun asked x => ∃ s, c.HandsIn call asked x s) asked := by
  cases q with
  | send sent =>
    obtain rfl : sent = call := by simpa [Question.submission?] using h
    simp only [answer, Dialogue.ensures_bind, Dialogue.ensures_done, List.append_nil]
    exact c.sent_once hunnamed sent
  | propose sent =>
    obtain rfl : sent = call := by simpa [Question.submission?] using h
    simp only [answer, Dialogue.ensures_bind, Dialogue.ensures_done, List.append_nil]
    exact c.sent_once hunnamed sent
  | _ => simp [Question.submission?] at h

theorem relayed_asides {c t : Carrier} {inner : List (Exchange Question Answer)}
    {outer : List (Exchange Surroundings.Question Surroundings.Answer)}
    (h : Dialogue.RelayedWith (fun q c => Carrier.answer c q) c inner outer t)
    (hasides : ∀ x ∈ inner, x.1.IsAside) : (∀ x ∈ outer, x.1.isDecisive = false) ∧ t = c := by
  induction h with
  | nil => exact ⟨by simp, rfl⟩
  | @cons q r s t u inner first outer hasked hrest ih =>
    obtain ⟨haside, hasides⟩ := List.forall_mem_cons.mp hasides
    obtain rfl : t = s := s.answer_carrier haside.submission? _ _ hasked
    obtain ⟨hlater, rfl⟩ := ih hasides
    have hfirst := (Carrier.asks_answer _ haside).of_yields hasked
    exact ⟨List.forall_mem_append.mpr ⟨hfirst, hlater⟩, rfl⟩

end Carrier

/-- A claim asks nothing that counts, or it sends the call of the snapshot among what does not. -/
theorem ClaimCourse.asks {d : Desk} {inner : List (Exchange Question Answer)}
    {told : Except Failure State × Desk} (h : ClaimCourse d inner told) :
    (∀ x ∈ inner, x.1.IsAside) ∨ ∃ snapshot before x after,
      inner = before ++ x :: after ∧ d.MayClaim snapshot ∧
        x.1.submission? = some snapshot.entitlement.claimCall ∧
        (∀ y ∈ before, y.1.IsAside) ∧ ∀ y ∈ after, y.1.IsAside := by
  cases h with
  | disposed h => exact Or.inl (by simp)
  | unsearched h hready => exact Or.inl (by simp)
  | exhausted h hready hknown hnone => exact Or.inl (by simp)
  | walletless h => exact Or.inl (by simp [Question.IsAside])
  | @proposed snapshot signer first second _ _ _ h hleft =>
    exact Or.inr ⟨snapshot, [⟨.signer, ⟨some signer, first⟩⟩, ⟨.isContract signer, ⟨true, second⟩⟩],
      _, _, rfl, h, rfl, by simp [Question.IsAside], by simp [Question.IsAside]⟩
  | @unsent snapshot signer _ first second _ h =>
    exact Or.inr ⟨snapshot, [⟨.signer, ⟨some signer, first⟩⟩, ⟨.isContract signer, ⟨false, second⟩⟩],
      _, _, rfl, h, rfl, by simp [Question.IsAside], by simp⟩
  | @unconfirmed snapshot signer _ _ first second _ _ h =>
    exact Or.inr ⟨snapshot, [⟨.signer, ⟨some signer, first⟩⟩, ⟨.isContract signer, ⟨false, second⟩⟩],
      _, _, rfl, h, rfl, by simp [Question.IsAside], by simp [Question.IsAside]⟩
  | @confirmed snapshot signer _ _ first second _ _ _ h hleft =>
    exact Or.inr ⟨snapshot, [⟨.signer, ⟨some signer, first⟩⟩, ⟨.isContract signer, ⟨false, second⟩⟩],
      _, _, rfl, h, rfl, by simp [Question.IsAside], by simp [Question.IsAside]⟩

theorem Desk.asks_settleBackground (d : Desk) : d.settleBackground.Asks Question.IsAside := by
  unfold settleBackground
  split
  · trivial
  · dsimp only
    split
    · exact ⟨trivial, fun _ => trivial⟩
    · trivial

theorem Desk.asks_search (d : Desk) (account : Address) :
    (d.search account).Asks fun q => q.submission? = none := by
  unfold search
  split
  · trivial
  · refine ⟨rfl, fun answer => ?_⟩
    dsimp only
    split
    · trivial
    · split
      · trivial
      · refine ⟨rfl, fun answer => ?_⟩
        dsimp only
        split
        · trivial
        · trivial

theorem Snapshot.hasClaimable_of {entitlement : Entitlement} {claimed : Amount}
    (h : (Snapshot.of entitlement claimed).hasClaimable = true) :
    claimed.wei < entitlement.cumulative.wei := by
  simpa [Snapshot.hasClaimable, Snapshot.of, claimableDelta, Amount.minus, Nat.sub_ne_zero_iff_lt]
    using h

theorem decoded_ofNode (account : Address) (log : List (Exchange Node.Question Node.Answer)) :
    decoded account (log.map Surroundings.ofNode) = none := by
  rw [decoded, List.findSome?_map]
  exact List.findSome?_eq_none_iff.mpr fun _ _ => rfl

theorem decisive_of_unasked {asked : List (Exchange Surroundings.Question Surroundings.Answer)}
    (hnode : nodeQuestions asked = []) : decisive asked = [] := by
  refine Surroundings.decisive_eq_nil.mpr ?_
  rintro ⟨question, reply⟩ hx
  have hnone := List.filterMap_eq_nil_iff.mp hnode _ hx
  cases question with
  | node question => simp at hnone
  | _ => rfl

theorem decisive_of_nodeQuestions {node : Web.Url} {contract : Address} {data : List UInt8}
    {reply : Web.Reply} {asked : List (Exchange Surroundings.Question Surroundings.Answer)}
    (hnode : nodeQuestions asked = [⟨node, .call contract data⟩])
    (hreplies : callReplies asked = [reply]) :
    decisive asked = [⟨.node ⟨node, .call contract data⟩, reply⟩] := by
  induction asked with
  | nil => simp [nodeQuestions] at hnode
  | cons x rest ih =>
    obtain ⟨question, told⟩ := x
    cases question with
    | node question =>
      obtain ⟨rfl, hrest⟩ : question = ⟨node, .call contract data⟩ ∧ nodeQuestions rest = [] :=
        List.cons.inj hnode
      obtain ⟨rfl, -⟩ : told = reply ∧ callReplies rest = [] := List.cons.inj hreplies
      rw [decisive, List.filter_cons_of_pos rfl]
      exact congrArg _ (decisive_of_unasked hrest)
    | _ => exact ih hnode hreplies

theorem Lookup.of_claimable {c : Carrier} {account : Address} {snapshot : Snapshot}
    {asked : List (Exchange Surroundings.Question Surroundings.Answer)}
    (h : Lookup c account asked (.ok snapshot)) (hclaimable : snapshot.hasClaimable = true) :
    decoded account asked = some snapshot.entitlement ∧ ∃ reply word,
      decisive asked = [⟨.node ⟨c.contract.node, .call c.contract.address
          (Calldata.claimed snapshot.entitlement.account)⟩, reply⟩] ∧
        Node.HoldsWord reply word ∧
          (Amount.ofWord word).wei < snapshot.entitlement.cumulative.wei := by
  obtain ⟨entitlement, claimed, hdecoded, htold, rfl⟩ := h.eq_ok_iff.mp rfl
  have hless := Snapshot.hasClaimable_of hclaimable
  refine ⟨hdecoded, ?_⟩
  rcases htold with ⟨hzero, rfl⟩ | ⟨hsome, reply, word, hreplies, hword, rfl⟩
  · simp [hzero, Amount.zero] at hless
  · exact ⟨reply, word, decisive_of_nodeQuestions (h.nodeQuestions_eq hdecoded hsome) hreplies,
      hword, hless⟩

namespace Carrier

/-- What a carried search comes to: it sends nothing, and its snapshot is the one left behind. -/
structure SearchedAs (c : Carrier) (account : Address)
    (asked : List (Exchange Surroundings.Question Surroundings.Answer))
    (result : Except Failure Snapshot) (left : Desk) (t : Carrier) : Prop where
  carrier : t = c
  unsubmitted : ∀ x ∈ asked, x.1.isSubmission = false
  lookup : Lookup c account asked result
  found : ∀ snapshot, result = .ok snapshot → left.snapshot = some snapshot

theorem carry_search (c : Carrier) (d : Desk) (account : Address) :
    (c.carry (d.search account)).Ensures fun asked told =>
      SearchedAs c account asked told.1.1 told.1.2 told.2 := by
  have hasks := d.asks_search account
  rintro asked ⟨⟨result, left⟩, t⟩ hyields
  have hcarrier := hasks.relayWith_state (fun _ c h => c.answer_carrier h) c _ _ hyields
  have hunsubmitted := (hasks.relayWith (fun _ c h => c.answer_unsubmitted h) c).of_yields hyields
  -- What a search reads was shown for carriers amid background work, of which there is none here.
  rw [← c.carryAmid_nil] at hyields
  obtain ⟨first, ⟨told, u, ended⟩, _, rfl, hamid, rfl, htold⟩ :=
    (Dialogue.yields_bind _ _ _ _).mp hyields
  obtain ⟨rfl, rfl⟩ := Prod.mk.inj htold
  obtain ⟨inner, hinner, hrelayed⟩ := (Dialogue.yields_relayWith _ _ _ _ _ _).mp hamid
  have hcourse := search_course d account _ _ hinner
  rw [List.append_nil] at hunsubmitted ⊢
  refine ⟨hcarrier, hunsubmitted, lookup_of_relayed hcourse hrelayed, ?_⟩
  rintro snapshot rfl
  cases hcourse with
  | empty h hempty => rfl
  | read h hempty => rfl

theorem carry_settle (c : Carrier) (d : Desk) :
    (c.carry d.settleBackground).Asks fun q => q.isDecisive = false :=
  d.asks_settleBackground.relayWith (fun _ c haside => c.asks_answer haside) c

theorem carry_claim (c : Carrier) (hunnamed : c.Unnamed) (d : Desk) :
    (c.carry d.claim).Ensures fun asked _ =>
      Dialogue.Once Surroundings.Question.isSubmission (fun asked x => ∃ snapshot s,
        d.MayClaim snapshot ∧ c.HandsIn snapshot.entitlement.claimCall asked x s) asked := by
  refine (claim_course d).relayWith ?_
  intro inner outer told t hcourse hrelayed
  have haside : ∀ {asked : List (Exchange Surroundings.Question Surroundings.Answer)},
      (∀ x ∈ asked, x.1.isDecisive = false) → ∀ x ∈ asked, x.1.isSubmission = false :=
    fun h x hx => Surroundings.Question.isSubmission_of_aside (h x hx)
  rcases hcourse.asks with hasides | ⟨snapshot, before, x, after, rfl, hmay, hx, hbefore, hafter⟩
  · exact .never (haside (relayed_asides hrelayed hasides).1)
  · obtain ⟨front, _, u, rfl, hfront, hrest⟩ := Dialogue.relayedWith_append.mp hrelayed
    obtain ⟨sent, back, v, rfl, hsent, hback⟩ := Dialogue.relayedWith_cons.mp hrest
    obtain ⟨hquiet, rfl⟩ := relayed_asides hfront hbefore
    obtain ⟨hlater, -⟩ := relayed_asides hback hafter
    refine .behind (haside hquiet) (.ahead ?_ (haside hlater))
    refine (answer_once _ hunnamed hx _ _ hsent).mono ?_
    rintro asked y ⟨s, hsession, ⟨reply, hasked, hnamed⟩, hsigned⟩
    refine ⟨snapshot, s, hmay, hsession, ⟨reply, ?_, hnamed⟩, hsigned⟩
    rw [Surroundings.decisive_append, Surroundings.decisive_eq_nil.mpr hquiet, List.nil_append,
      hasked]

end Carrier

end ClusterDesk.Claim
