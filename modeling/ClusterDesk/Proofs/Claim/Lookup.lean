import ClusterDesk.Proofs.Backend.Performed
import ClusterDesk.Proofs.Claim.Carried
import ClusterDesk.Proofs.Claim.Epochs
import ClusterDesk.Proofs.Node.Readings

/-!
# Looking rewards up

A search that is carried out asks the backend once and the node at most once. Every snapshot stands
on what they answered, and a search that failed leaves nothing to claim.
-/

namespace ClusterDesk

open Surroundings (atNode performAt)

namespace Entitlement

theorem isEmpty_iff {e : Entitlement} : e.isEmpty = true ↔ e.cumulative = .zero := by
  obtain ⟨account, ⟨wei, hwei⟩, root, proof⟩ := e
  simp [isEmpty, Amount.zero]

end Entitlement

namespace ClaimContract

/-- What the claimed amount is read as. -/
def readClaimed (node : Web.Url) (reply : Web.Reply) : Except Failure Amount :=
  match Node.read node Node.byteString reply with
  | .error fault => .error (.chainRead fault.message)
  | .ok bytes =>
    match Calldata.decodeWord bytes with
    | .error fault =>
      .error (.chainRead ("undecodable " ++ "cumulativeClaimed" ++ ": " ++ fault.message))
    | .ok word => .ok (.ofWord word)

theorem atNode_claimed (c : ClaimContract) (account : Address) :
    atNode (c.claimed account) =
      .ask (.node ⟨c.node, .call c.address (Calldata.claimed account)⟩) fun reply =>
        .done (readClaimed c.node reply) := by
  refine congrArg (Dialogue.ask _) ?_
  funext reply
  unfold readClaimed
  cases hread : Node.read c.node Node.byteString reply with
  | error fault => simp [hread, Dialogue.bind, Dialogue.relay]
  | ok bytes =>
    cases hword : Calldata.decodeWord bytes with
    | error fault => simp [hread, hword, Dialogue.bind, Dialogue.relay]
    | ok word => simp [hread, hword, Dialogue.bind, Dialogue.relay]

theorem readClaimed_eq_ok (node : Web.Url) (reply : Web.Reply) (amount : Amount) :
    readClaimed node reply = .ok amount ↔
      ∃ word, Node.HoldsWord reply word ∧ amount = .ofWord word := by
  simp only [← Node.read_byteString_eq_ok node]
  unfold readClaimed
  cases hread : Node.read node Node.byteString reply with
  | error fault => simp
  | ok bytes =>
    by_cases hlength : bytes.length = 32
    · constructor
      · intro hread
        exact ⟨⟨bytes, hlength⟩, rfl, by simpa [Calldata.decodeWord, hlength, eq_comm] using hread⟩
      · rintro ⟨word, hsame, rfl⟩
        obtain rfl : bytes = word.bytes := Except.ok.inj hsame
        simp [Calldata.decodeWord, hlength]
    · constructor
      · by_cases hshort : bytes.length < Calldata.wordSize
        · simp [Calldata.decodeWord, hlength, hshort]
        · simp [Calldata.decodeWord, hlength, hshort]
      · rintro ⟨word, hsame, -⟩
        obtain rfl : bytes = word.bytes := Except.ok.inj hsame
        exact absurd word.length_bytes hlength

theorem readClaimed_eq_error {node : Web.Url} {reply : Web.Reply} {failure : Failure}
    (h : readClaimed node reply = .error failure) : ∃ reason, failure = .chainRead reason := by
  unfold readClaimed at h
  cases hread : Node.read node Node.byteString reply with
  | error fault => exact ⟨_, by simpa [hread, eq_comm] using h⟩
  | ok bytes =>
    cases hword : Calldata.decodeWord bytes with
    | error fault => exact ⟨_, by simpa [hread, hword, eq_comm] using h⟩
    | ok word => simp [hread, hword] at h

end ClaimContract

namespace Claim

/-- The entitlement that the answer of the backend is read as. -/
def decoded (account : Address)
    (transcript : List (Exchange Surroundings.Question Surroundings.Answer)) :
    Option Entitlement :=
  transcript.findSome? fun
    | ⟨.backend request, reply⟩ =>
      ((Backend.Operation.entitlement account).read request.url reply).toOption
    | _ => none

/-- What the node was asked. -/
def nodeQuestions (transcript : List (Exchange Surroundings.Question Surroundings.Answer)) :
    List Node.Question :=
  transcript.filterMap fun
    | ⟨.node question, _⟩ => some question
    | _ => none

/-- What the calls of contracts were answered with. -/
def callReplies (transcript : List (Exchange Surroundings.Question Surroundings.Answer)) :
    List Web.Reply :=
  transcript.filterMap fun
    | ⟨.node ⟨_, .call _ _⟩, reply⟩ => some reply
    | _ => none

-- Without this, asking for the form of a yield takes the address of the backend apart.
attribute [local irreducible] Backend.Operation.request

namespace Carrier

variable {s t : Carrier × List (List (Nat × Ending))} {account : Address}
  {transcript : List (Exchange Surroundings.Question Surroundings.Answer)}

theorem answerAmid_entitlement {answer : Answer (.entitlement account)}
    (h : (answerAmid (.entitlement account) s).Yields transcript (answer, t)) :
    nodeQuestions transcript = [] ∧ callReplies transcript = [] ∧
      decoded account transcript = Except.toOption answer.reply ∧ t.1 = s.1 := by
  obtain ⟨first, ⟨told, c⟩, second, rfl, hfirst, rfl, hanswer⟩ :=
    (Dialogue.yields_bind _ _ _ _).mp h
  obtain ⟨asked, result, silent, rfl, hasked, rfl, htold⟩ :=
    (Dialogue.yields_bind (performAt s.1.backend (.entitlement account)) _ _ _).mp hfirst
  obtain ⟨rfl, rfl⟩ := Prod.mk.inj htold
  obtain ⟨rfl, rfl⟩ := Prod.mk.inj hanswer
  rcases (Surroundings.yields_performAt _ _ _ _).mp hasked with
    ⟨fault, -, rfl, rfl⟩ | ⟨request, reply, -, rfl, rfl⟩
  · exact ⟨rfl, rfl, rfl, rfl⟩
  · refine ⟨rfl, rfl, ?_, rfl⟩
    cases hread : (Backend.Operation.entitlement account).read request.url reply with
    | error fault => simp [decoded, hread, quiet, Backend.Operation.conclude, Except.toOption]
    | ok entitlement => simp [decoded, hread, quiet, Backend.Operation.conclude, Except.toOption]

theorem answerAmid_claimed {answer : Answer (.claimed account)}
    (h : (answerAmid (.claimed account) s).Yields transcript (answer, t)) :
    ∃ reply, transcript =
        [⟨.node ⟨s.1.contract.node, .call s.1.contract.address (Calldata.claimed account)⟩,
          reply⟩] ∧
      answer.reply = ClaimContract.readClaimed s.1.contract.node reply := by
  obtain ⟨first, ⟨told, c⟩, second, rfl, hfirst, rfl, hanswer⟩ :=
    (Dialogue.yields_bind _ _ _ _).mp h
  obtain ⟨asked, result, silent, rfl, hasked, rfl, htold⟩ :=
    (Dialogue.yields_bind (atNode (s.1.contract.claimed account)) _ _ _).mp hfirst
  obtain ⟨rfl, rfl⟩ := Prod.mk.inj htold
  obtain ⟨rfl, rfl⟩ := Prod.mk.inj hanswer
  rw [ClaimContract.atNode_claimed, Dialogue.yields_single] at hasked
  obtain ⟨reply, rfl, rfl⟩ := hasked
  exact ⟨reply, rfl, rfl⟩

end Carrier

namespace Desk

variable {d left : Desk} {snapshot : Snapshot}

/-- Nothing can be claimed before another search. -/
def Barred (d : Desk) : Prop :=
  d.disposed = true ∨ d.snapshot = none

theorem Barred.not_mayClaim (h : d.Barred) : ¬d.MayClaim snapshot := by
  intro hmay
  rcases h with hdisposed | hunknown
  · simp [hmay.undisposed] at hdisposed
  · simp [hmay.known] at hunknown

theorem Barred.claim_eq (h : d.Barred) :
    ∃ reason, d.claim = .done (.error (.invalidState reason), d) := by
  unfold claim
  by_cases hdisposed : d.disposed = true
  · exact ⟨_, if_pos hdisposed⟩
  · obtain hunknown : d.snapshot = none := h.resolve_left hdisposed
    refine ⟨"claim requires a completed search", ?_⟩
    rw [if_neg hdisposed]
    split
    · rfl
    · rw [hunknown]
      rfl

end Desk

/-- Only a search ends that nothing can be claimed. -/
theorem Course.barred {d left : Desk} {action : Action} {outcome : Outcome}
    {transcript : List (Exchange Question Answer)}
    (h : Course d action transcript outcome left) (hbarred : d.Barred)
    (hother : ∀ account, action ≠ .search account) : left.Barred := by
  by_cases hdisposed : d.disposed = true
  · exact Or.inl (h.disposed.mpr (Or.inl hdisposed))
  · obtain hunknown : d.snapshot = none := hbarred.resolve_left hdisposed
    cases h with
    | search h => exact absurd rfl (hother _)
    | claim h =>
      cases h with
      | disposed h => exact hbarred
      | unsearched h hready => exact hbarred
      | exhausted h hready hknown hnone => exact hbarred
      | walletless h => exact absurd h hbarred.not_mayClaim
      | proposed h hleft => exact absurd h hbarred.not_mayClaim
      | unsent h => exact absurd h hbarred.not_mayClaim
      | unconfirmed h => exact absurd h hbarred.not_mayClaim
      | confirmed h hleft => exact absurd h hbarred.not_mayClaim
    | applyConfirmed => exact Or.inr (by simp [Desk.settleSnapshot, hunknown])
    | settle h =>
      cases h with
      | nothing h => exact hbarred
      | ended h hended => exact Or.inr hunknown
      | awaited h hflight hleft => exact Or.inr (by simp [hleft, hunknown])
    | dispose => exact Or.inl rfl
    | pause => exact Or.inr (by simp [hunknown])

theorem barred_of_leads {d left : Desk} {past : List Episode} (hbarred : d.Barred)
    (h : Dialogue.Leads Action.perform d past left)
    (hother : ∀ e ∈ past, ∀ account, e.action ≠ .search account) : left.Barred := by
  refine h.keeps (fun past left =>
    (∀ e ∈ past, ∀ account, e.action ≠ .search account) → left.Barred) (fun _ => hbarred) ?_ hother
  intro past e hbefore he hother
  have hpast := hbefore fun x hx => hother x (List.mem_append_left _ hx)
  exact (course_of_possible he).barred hpast (hother e (by simp))

theorem SearchCourse.failed {d left : Desk} {account : Address} {failure : Failure}
    {transcript : List (Exchange Question Answer)}
    (h : SearchCourse d account transcript (.error failure, left)) (hopen : d.disposed = false) :
    left.state = .idle ∧ left.snapshot = none ∧ left.lastError = some failure.shown := by
  cases h with
  | disposed h => simp [hopen] at h
  | unpublished h => simp [Desk.searchFailed, Desk.publish, Desk.beginSearch]
  | unread h hempty => simp [Desk.searchFailed, Desk.publish, Desk.beginSearch]

theorem SearchCourse.barred {d left : Desk} {account : Address} {failure : Failure}
    {transcript : List (Exchange Question Answer)}
    (h : SearchCourse d account transcript (.error failure, left)) : left.Barred := by
  cases hdisposed : d.disposed with
  | true => exact Or.inl (h.frame.2.trans hdisposed)
  | false => exact Or.inr (h.failed hdisposed).2.1

theorem decoded_append (account : Address)
    (first rest : List (Exchange Surroundings.Question Surroundings.Answer)) :
    decoded account (first ++ rest) = (decoded account first).or (decoded account rest) :=
  List.findSome?_append

theorem nodeQuestions_append
    (first rest : List (Exchange Surroundings.Question Surroundings.Answer)) :
    nodeQuestions (first ++ rest) = nodeQuestions first ++ nodeQuestions rest :=
  List.filterMap_append

theorem callReplies_append
    (first rest : List (Exchange Surroundings.Question Surroundings.Answer)) :
    callReplies (first ++ rest) = callReplies first ++ callReplies rest :=
  List.filterMap_append

/-- What was asked and told, and what a search makes of it. -/
inductive Lookup (c : Carrier) (account : Address) :
    List (Exchange Surroundings.Question Surroundings.Answer) → Except Failure Snapshot → Prop where
  | unpublished {transcript failure} (hdecoded : decoded account transcript = none)
      (hnode : nodeQuestions transcript = []) : Lookup c account transcript (.error failure)
  | empty {transcript entitlement} (hdecoded : decoded account transcript = some entitlement)
      (hnode : nodeQuestions transcript = []) (hempty : entitlement.cumulative = .zero) :
      Lookup c account transcript (.ok (.of entitlement .zero))
  | read {transcript entitlement reply}
      (hdecoded : decoded account transcript = some entitlement)
      (hnode : nodeQuestions transcript =
        [⟨c.contract.node, .call c.contract.address (Calldata.claimed entitlement.account)⟩])
      (hreplies : callReplies transcript = [reply])
      (hsome : entitlement.cumulative ≠ .zero) :
      Lookup c account transcript
        ((ClaimContract.readClaimed c.contract.node reply).map (.of entitlement))

private theorem lookup_read {c : Carrier} {account : Address}
    {s t u : Carrier × List (List (Nat × Ending))} {first second : List (Nat × Ending)}
    {asked read : List (Exchange Surroundings.Question Surroundings.Answer)}
    {entitlement : Entitlement} {reply : Except Failure Amount} (hcarrier : s.1 = c)
    (hasked : (Carrier.answerAmid (.entitlement account) s).Yields asked
      (⟨.ok entitlement, first⟩, t))
    (hread : (Carrier.answerAmid (.claimed entitlement.account) t).Yields read
      (⟨reply, second⟩, u)) (hempty : entitlement.isEmpty = false) :
    Lookup c account (asked ++ read) (reply.map (.of entitlement)) := by
  obtain ⟨hnode, hreplies, hdecoded, hsame⟩ := Carrier.answerAmid_entitlement hasked
  obtain ⟨answer, rfl, hreply⟩ := Carrier.answerAmid_claimed hread
  obtain rfl : reply = _ := hreply
  rw [hsame, hcarrier]
  refine .read ?_ ?_ ?_ ?_
  · rw [decoded_append, hdecoded]
    rfl
  · rw [nodeQuestions_append, hnode]
    rfl
  · rw [callReplies_append, hreplies]
    rfl
  · intro hzero
    simp [Entitlement.isEmpty_iff.mpr hzero] at hempty

theorem lookup_of_relayed {c : Carrier} {d left : Desk} {account : Address}
    {ended : List (List (Nat × Ending))} {s : Carrier × List (List (Nat × Ending))}
    {inner : List (Exchange Question Answer)}
    {outer : List (Exchange Surroundings.Question Surroundings.Answer)}
    {result : Except Failure Snapshot} (h : SearchCourse d account inner (result, left))
    (hrelayed : Dialogue.RelayedWith Carrier.answerAmid (c, ended) inner outer s) :
    Lookup c account outer result := by
  cases h with
  | disposed h =>
    cases hrelayed
    exact .unpublished rfl rfl
  | unpublished h =>
    obtain ⟨asked, _, _, rfl, hasked, hrest⟩ := Dialogue.relayedWith_cons.mp hrelayed
    obtain ⟨hnode, -, hdecoded, -⟩ := Carrier.answerAmid_entitlement hasked
    cases hrest
    rw [List.append_nil]
    exact .unpublished hdecoded hnode
  | empty h hempty =>
    obtain ⟨asked, _, _, rfl, hasked, hrest⟩ := Dialogue.relayedWith_cons.mp hrelayed
    obtain ⟨hnode, -, hdecoded, -⟩ := Carrier.answerAmid_entitlement hasked
    cases hrest
    rw [List.append_nil]
    exact .empty hdecoded hnode (Entitlement.isEmpty_iff.mp hempty)
  | unread h hempty =>
    obtain ⟨asked, _, _, rfl, hasked, hrest⟩ := Dialogue.relayedWith_cons.mp hrelayed
    obtain ⟨read, _, _, rfl, hread, hrest⟩ := Dialogue.relayedWith_cons.mp hrest
    cases hrest
    rw [List.append_nil]
    exact lookup_read rfl hasked hread hempty
  | read h hempty =>
    obtain ⟨asked, _, _, rfl, hasked, hrest⟩ := Dialogue.relayedWith_cons.mp hrelayed
    obtain ⟨read, _, _, rfl, hread, hrest⟩ := Dialogue.relayedWith_cons.mp hrest
    cases hrest
    rw [List.append_nil]
    exact lookup_read rfl hasked hread hempty

/-- The claimed amount that the answers of the node leave no choice about. -/
def Told (transcript : List (Exchange Surroundings.Question Surroundings.Answer))
    (entitlement : Entitlement) (claimed : Amount) : Prop :=
  (entitlement.cumulative = .zero ∧ claimed = .zero) ∨
    (entitlement.cumulative ≠ .zero ∧
      ∃ reply word, callReplies transcript = [reply] ∧ Node.HoldsWord reply word ∧
        claimed = .ofWord word)

namespace Lookup

variable {c : Carrier} {account : Address} {result : Except Failure Snapshot}
  {transcript : List (Exchange Surroundings.Question Surroundings.Answer)}
  {entitlement : Entitlement}

theorem nodeQuestions_eq_nil (h : Lookup c account transcript result)
    (hempty : ∀ entitlement, decoded account transcript = some entitlement →
      entitlement.cumulative = .zero) : nodeQuestions transcript = [] := by
  cases h with
  | unpublished hdecoded hnode => exact hnode
  | empty hdecoded hnode hzero => exact hnode
  | read hdecoded hnode hreplies hsome => exact absurd (hempty _ hdecoded) hsome

theorem nodeQuestions_eq (h : Lookup c account transcript result)
    (hdecoded : decoded account transcript = some entitlement)
    (hsome : entitlement.cumulative ≠ .zero) :
    nodeQuestions transcript =
      [⟨c.contract.node, .call c.contract.address (Calldata.claimed entitlement.account)⟩] := by
  cases h with
  | unpublished hnone hnode => simp [hdecoded] at hnone
  | empty hother hnode hzero =>
    obtain rfl := Option.some.inj (hdecoded.symm.trans hother)
    exact absurd hzero hsome
  | read hother hnode hreplies hmore =>
    obtain rfl := Option.some.inj (hdecoded.symm.trans hother)
    exact hnode

theorem eq_ok_iff (h : Lookup c account transcript result) {snapshot : Snapshot} :
    result = .ok snapshot ↔
      ∃ entitlement claimed, decoded account transcript = some entitlement ∧
        Told transcript entitlement claimed ∧ snapshot = .of entitlement claimed := by
  cases h with
  | unpublished hdecoded hnode => simp [hdecoded]
  | empty hdecoded hnode hzero =>
    simp [hdecoded, Told, hzero, eq_comm]
  | @read entitlement reply hdecoded hnode hreplies hsome =>
    have htold : ∀ claimed, Told transcript entitlement claimed ↔
        ClaimContract.readClaimed c.contract.node reply = .ok claimed := by
      intro claimed
      rw [ClaimContract.readClaimed_eq_ok]
      simp [Told, hsome, hreplies]
    constructor
    · intro hok
      cases hclaimed : ClaimContract.readClaimed c.contract.node reply with
      | error failure => simp [hclaimed, Except.map] at hok
      | ok claimed =>
        obtain rfl : Snapshot.of entitlement claimed = snapshot := by
          simpa [hclaimed, Except.map] using hok
        exact ⟨entitlement, claimed, hdecoded, (htold claimed).mpr hclaimed, rfl⟩
    · rintro ⟨other, claimed, hother, hclaimed, rfl⟩
      obtain rfl := Option.some.inj (hdecoded.symm.trans hother)
      rw [(htold claimed).mp hclaimed]
      rfl

theorem eq_chainRead (h : Lookup c account transcript result)
    (hdecoded : decoded account transcript = some entitlement)
    (hsome : entitlement.cumulative ≠ .zero)
    (hmisread : ∀ reply ∈ callReplies transcript, ∀ word, ¬Node.HoldsWord reply word) :
    ∃ reason, result = .error (.chainRead reason) := by
  cases h with
  | unpublished hnone hnode => simp [hdecoded] at hnone
  | empty hother hnode hzero =>
    obtain rfl := Option.some.inj (hdecoded.symm.trans hother)
    exact absurd hzero hsome
  | @read _ reply hother hnode hreplies hmore =>
    cases hclaimed : ClaimContract.readClaimed c.contract.node reply with
    | error failure =>
      obtain ⟨reason, rfl⟩ := ClaimContract.readClaimed_eq_error hclaimed
      exact ⟨reason, rfl⟩
    | ok claimed =>
      obtain ⟨word, hword, -⟩ := (ClaimContract.readClaimed_eq_ok _ _ _).mp hclaimed
      exact absurd hword (hmisread reply (by simp [hreplies]) word)

end Lookup

/-- A search that asked and was told this shows nothing that it was not told. -/
structure NeverGuesses (c : Carrier) (d : Desk) (account : Address)
    (transcript : List (Exchange Surroundings.Question Surroundings.Answer))
    (result : Except Failure Snapshot) (left : Desk) : Prop where
  /-- A desk that is disposed asks nothing and stays as it is. -/
  disposed : d.disposed = true →
    transcript = [] ∧ result = .error disposedFailure ∧ left = d
  unasked : (∀ entitlement, decoded account transcript = some entitlement →
    entitlement.cumulative = .zero) → nodeQuestions transcript = []
  asked : ∀ entitlement, decoded account transcript = some entitlement →
    entitlement.cumulative ≠ .zero → nodeQuestions transcript =
      [⟨c.contract.node, .call c.contract.address (Calldata.claimed entitlement.account)⟩]
  found : ∀ snapshot, result = .ok snapshot ↔
    ∃ entitlement claimed, decoded account transcript = some entitlement ∧
      Told transcript entitlement claimed ∧ snapshot = .of entitlement claimed
  /-- Anything but one word is a failed read. -/
  misread : ∀ entitlement, decoded account transcript = some entitlement →
    entitlement.cumulative ≠ .zero →
    (∀ reply ∈ callReplies transcript, ∀ word, ¬Node.HoldsWord reply word) →
      ∃ reason, result = .error (.chainRead reason)
  failed : d.disposed = false → ∀ failure, result = .error failure →
    left.state = .idle ∧ left.snapshot = none ∧ left.lastError = some failure.shown
  /-- Behind a failure nothing can be claimed until another search. -/
  barred : ∀ failure, result = .error failure → ∀ past reached,
    Dialogue.Leads Action.perform left past reached →
      (∀ e ∈ past, ∀ account, e.action ≠ .search account) →
        ∃ reason, reached.claim = .done (.error (.invalidState reason), reached)

theorem neverGuesses_of_search (c : Carrier) (ended : List (List (Nat × Ending))) (d : Desk)
    (account : Address) :
    (c.carryAmid ended (d.search account)).Ensures fun transcript told =>
      NeverGuesses c d account transcript told.1.1 told.1.2 := by
  refine (search_course d account).relayWith ?_
  rintro inner outer ⟨result, left⟩ s hcourse hrelayed
  have hlookup := lookup_of_relayed hcourse hrelayed
  constructor
  case disposed =>
    intro hdisposed
    cases hcourse with
    | disposed h =>
      cases hrelayed
      exact ⟨rfl, rfl, rfl⟩
    | _ h => simp [hdisposed] at h
  case unasked => exact hlookup.nodeQuestions_eq_nil
  case asked => exact fun _ => hlookup.nodeQuestions_eq
  case found => exact fun _ => hlookup.eq_ok_iff
  case misread => exact fun _ => hlookup.eq_chainRead
  case failed =>
    rintro hopen failure rfl
    exact hcourse.failed hopen
  case barred =>
    rintro failure rfl past reached hlead hother
    exact (barred_of_leads hcourse.barred hlead hother).claim_eq

/-- An account that was allocated something and was paid nothing yet. -/
def allocatedStage : Rehearsal.ClaimStage where
  wallet := none
  entitlement :=
    [{ result := some (.ok ⟨Word.ofNat 20 1, .ofWord (Word.ofNat 32 5), default, [default]⟩) }]
  claimed := [{ result := some (.ok .zero) }]
  isContract := []
  send := []
  confirm := []

/-- A search behind the disposal fails and leaves what the search before it had found. -/
theorem disposed_keeps_snapshot :
    ∃ first disposal second : Episode, ∃ snapshot : Snapshot,
      history Rehearsal.ClaimStage.answer { links := ⟨"", "", ""⟩ } allocatedStage
          [.search (Word.ofNat 20 1), .dispose, .search (Word.ofNat 20 1)] =
        [first, disposal, second] ∧
        second.outcome = .snapshot (.error disposedFailure) ∧ second.transcript = [] ∧
        second.after.state = .ready ∧ second.after.snapshot = some snapshot ∧
        second.after.lastError = none :=
  ⟨_, _, _, _, rfl, rfl, rfl, by decide, rfl, by decide⟩

end Claim

end ClusterDesk
