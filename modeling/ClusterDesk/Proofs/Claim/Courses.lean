import ClusterDesk.Claim.Operations
import ClusterDesk.Proofs.Dialogue.History

/-!
# The courses of a claim desk

Everything that an action of the desk can come to, with what it asks on the way and the desk that it
leaves. Whatever is known about runs of the desk is read off these courses.
-/

namespace ClusterDesk.Claim

/-- One action at the desk. -/
abbrev Episode := ClusterDesk.Episode Desk Action Outcome Question Answer

/-- What happens to a desk in an environment. -/
abbrev history {σ : Type} (answer : (q : Question) → σ → Answer q × σ) (d : Desk) (s : σ)
    (actions : List Action) : List Episode :=
  Dialogue.history Action.perform answer d s actions

namespace Desk

theorem finish_frame (d : Desk) (number : Nat) (ending : Ending) :
    ∃ inFlight lastError published, d.finish number ending =
      { d with inFlight := inFlight, lastError := lastError, published := published } := by
  unfold finish
  split
  · exact ⟨_, _, _, rfl⟩
  · cases ending with
    | submitted transaction => exact ⟨_, _, _, rfl⟩
    | aborted => exact ⟨_, _, _, rfl⟩
    | failed failure =>
      dsimp only
      split
      · exact ⟨_, _, _, rfl⟩
      · exact ⟨_, _, _, rfl⟩

/-- Proposals that end change the error shown and the proposals in flight, and nothing else. -/
theorem finishAll_frame (d : Desk) (endings : List (Nat × Ending)) :
    ∃ inFlight lastError published, d.finishAll endings =
      { d with inFlight := inFlight, lastError := lastError, published := published } := by
  induction endings generalizing d with
  | nil => exact ⟨_, _, _, rfl⟩
  | cons ending rest ih =>
    obtain ⟨_, _, _, hfirst⟩ := finish_frame d ending.1 ending.2
    obtain ⟨inFlight, lastError, published, hrest⟩ := ih (d.finish ending.1 ending.2)
    refine ⟨inFlight, lastError, published, ?_⟩
    change (d.finish ending.1 ending.2).finishAll rest = _
    rw [hrest, hfirst]

@[simp] theorem finishAll_state (d : Desk) (endings : List (Nat × Ending)) :
    (d.finishAll endings).state = d.state := by
  obtain ⟨_, _, _, h⟩ := finishAll_frame d endings
  rw [h]

@[simp] theorem finishAll_snapshot (d : Desk) (endings : List (Nat × Ending)) :
    (d.finishAll endings).snapshot = d.snapshot := by
  obtain ⟨_, _, _, h⟩ := finishAll_frame d endings
  rw [h]

@[simp] theorem finishAll_links (d : Desk) (endings : List (Nat × Ending)) :
    (d.finishAll endings).links = d.links := by
  obtain ⟨_, _, _, h⟩ := finishAll_frame d endings
  rw [h]

theorem finishAll_concat (d : Desk) (endings : List (Nat × Ending)) (number : Nat)
    (ending : Ending) :
    d.finishAll (endings ++ [(number, ending)]) = (d.finishAll endings).finish number ending := by
  simp only [finishAll, List.foldl_append, List.foldl_cons, List.foldl_nil]

/-- A claim of this snapshot passes every check that needs no answer. -/
structure MayClaim (d : Desk) (snapshot : Snapshot) : Prop where
  undisposed : d.disposed = false
  ready : d.state.mayClaim = true
  known : d.snapshot = some snapshot
  claimable : snapshot.hasClaimable = true

/-- The desk that knows who signs its claim and whether that is a contract. -/
def claiming (d : Desk) (first second : List (Nat × Ending)) : Desk :=
  (d.finishAll first).beginClaim.finishAll second

@[simp] theorem claiming_snapshot (d : Desk) (first second : List (Nat × Ending)) :
    (d.claiming first second).snapshot = d.snapshot := by
  simp [claiming, beginClaim, publish]

@[simp] theorem claiming_links (d : Desk) (first second : List (Nat × Ending)) :
    (d.claiming first second).links = d.links := by
  simp [claiming, beginClaim, publish]

end Desk

/-- How a search goes. -/
inductive SearchCourse (d : Desk) (account : Address) :
    List (Exchange Question Answer) → Except Failure Snapshot × Desk → Prop where
  | disposed (h : d.disposed = true) : SearchCourse d account [] (.error disposedFailure, d)
  | unpublished {failure : Failure} {first : List (Nat × Ending)} (h : d.disposed = false) :
      SearchCourse d account [⟨.entitlement account, ⟨.error failure, first⟩⟩]
        (.error failure, (d.beginSearch.finishAll first).searchFailed failure)
  | empty {entitlement : Entitlement} {first : List (Nat × Ending)} (h : d.disposed = false)
      (hempty : entitlement.isEmpty = true) :
      SearchCourse d account [⟨.entitlement account, ⟨.ok entitlement, first⟩⟩]
        (.ok (.of entitlement .zero),
          (d.beginSearch.finishAll first).found (.of entitlement .zero))
  | unread {entitlement : Entitlement} {failure : Failure} {first second : List (Nat × Ending)}
      (h : d.disposed = false) (hempty : entitlement.isEmpty = false) :
      SearchCourse d account
        [⟨.entitlement account, ⟨.ok entitlement, first⟩⟩,
          ⟨.claimed entitlement.account, ⟨.error failure, second⟩⟩]
        (.error failure,
          ((d.beginSearch.finishAll first).finishAll second).searchFailed failure)
  | read {entitlement : Entitlement} {claimed : Amount} {first second : List (Nat × Ending)}
      (h : d.disposed = false) (hempty : entitlement.isEmpty = false) :
      SearchCourse d account
        [⟨.entitlement account, ⟨.ok entitlement, first⟩⟩,
          ⟨.claimed entitlement.account, ⟨.ok claimed, second⟩⟩]
        (.ok (.of entitlement claimed),
          ((d.beginSearch.finishAll first).finishAll second).found (.of entitlement claimed))

theorem search_course (d : Desk) (account : Address) :
    (d.search account).Ensures (SearchCourse d account) := by
  unfold Desk.search
  split
  case isTrue h => simpa using SearchCourse.disposed h
  case isFalse h =>
    have hopen : d.disposed = false := by simpa using h
    simp only [Dialogue.ensures_ask]
    rintro ⟨reply, first⟩
    cases reply with
    | error failure => simpa using SearchCourse.unpublished hopen
    | ok entitlement =>
      dsimp only
      split
      case isTrue hempty => simpa using SearchCourse.empty hopen hempty
      case isFalse hempty =>
        have hsome : entitlement.isEmpty = false := by simpa using hempty
        simp only [Dialogue.ensures_ask]
        rintro ⟨reply, second⟩
        cases reply with
        | error failure => simpa using SearchCourse.unread hopen hsome
        | ok claimed => simpa using SearchCourse.read hopen hsome

/-- How a claim goes. -/
inductive ClaimCourse (d : Desk) :
    List (Exchange Question Answer) → Except Failure State × Desk → Prop where
  | disposed (h : d.disposed = true) : ClaimCourse d [] (.error disposedFailure, d)
  | unsearched (h : d.disposed = false) (hready : d.state.mayClaim = false ∨ d.snapshot = none) :
      ClaimCourse d [] (.error unsearchedFailure, d)
  | exhausted {snapshot : Snapshot} (h : d.disposed = false) (hready : d.state.mayClaim = true)
      (hknown : d.snapshot = some snapshot) (hnone : snapshot.hasClaimable = false) :
      ClaimCourse d [] (.error .nothingToClaim, d)
  | walletless {snapshot : Snapshot} {first : List (Nat × Ending)} (h : d.MayClaim snapshot) :
      ClaimCourse d [⟨.signer, ⟨none, first⟩⟩]
        (.error .walletNotConnected,
          (d.finishAll first).publish (some Failure.walletNotConnected.shown))
  | proposed {snapshot : Snapshot} {signer : Address}
      {first second third fourth : List (Nat × Ending)} {left : Desk} (h : d.MayClaim snapshot)
      (hleft : left =
        (((d.claiming first second).startProposal.finishAll third).finishAll fourth).proposed
          signer) :
      ClaimCourse d
        [⟨.signer, ⟨some signer, first⟩⟩, ⟨.isContract signer, ⟨true, second⟩⟩,
          ⟨.propose snapshot.entitlement.claimCall, ⟨(), third⟩⟩,
          ⟨.wait graceMilliseconds, ⟨(), fourth⟩⟩]
        (.ok left.state, left)
  | unsent {snapshot : Snapshot} {signer : Address} {failure : Failure}
      {first second third : List (Nat × Ending)} (h : d.MayClaim snapshot) :
      ClaimCourse d
        [⟨.signer, ⟨some signer, first⟩⟩, ⟨.isContract signer, ⟨false, second⟩⟩,
          ⟨.send snapshot.entitlement.claimCall, ⟨.error failure, third⟩⟩]
        (.error failure, ((d.claiming first second).finishAll third).claimFailed failure)
  | unconfirmed {snapshot : Snapshot} {signer : Address} {transaction : Digest} {failure : Failure}
      {first second third fourth : List (Nat × Ending)} (h : d.MayClaim snapshot) :
      ClaimCourse d
        [⟨.signer, ⟨some signer, first⟩⟩, ⟨.isContract signer, ⟨false, second⟩⟩,
          ⟨.send snapshot.entitlement.claimCall, ⟨.ok transaction, third⟩⟩,
          ⟨.confirm transaction, ⟨.error failure, fourth⟩⟩]
        (.error failure,
          (((d.claiming first second).finishAll third).finishAll fourth).claimFailed failure)
  | confirmed {snapshot : Snapshot} {signer : Address} {transaction : Digest} {receipt : Receipt}
      {first second third fourth : List (Nat × Ending)} {left : Desk} (h : d.MayClaim snapshot)
      (hleft : left =
        (((d.claiming first second).finishAll third).finishAll fourth).confirmed
          receipt.transaction) :
      ClaimCourse d
        [⟨.signer, ⟨some signer, first⟩⟩, ⟨.isContract signer, ⟨false, second⟩⟩,
          ⟨.send snapshot.entitlement.claimCall, ⟨.ok transaction, third⟩⟩,
          ⟨.confirm transaction, ⟨.ok receipt, fourth⟩⟩]
        (.ok left.state, left)

private theorem signedClaim_course (d : Desk) {snapshot : Snapshot} (h : d.MayClaim snapshot)
    (signer : Address) (first second : List (Nat × Ending)) (viaSafe : Bool) :
    (if viaSafe then (d.claiming first second).proposeToSafe signer snapshot.entitlement.claimCall
      else (d.claiming first second).claimDirectly snapshot.entitlement.claimCall).Ensures
      fun transcript result => ClaimCourse d
        (⟨.signer, ⟨some signer, first⟩⟩ :: ⟨.isContract signer, ⟨viaSafe, second⟩⟩ :: transcript)
        result := by
  cases viaSafe with
  | true =>
    simp only [if_true, Desk.proposeToSafe, Dialogue.ensures_ask, Dialogue.ensures_done]
    rintro ⟨_, third⟩ ⟨_, fourth⟩
    exact ClaimCourse.proposed h rfl
  | false =>
    simp only [Bool.false_eq_true, if_false, Desk.claimDirectly, Dialogue.ensures_ask]
    rintro ⟨reply, third⟩
    cases reply with
    | error failure => simpa using ClaimCourse.unsent h
    | ok transaction =>
      simp only [Dialogue.ensures_ask]
      rintro ⟨reply, fourth⟩
      cases reply with
      | error failure => simpa using ClaimCourse.unconfirmed h
      | ok receipt => simpa using ClaimCourse.confirmed h rfl

theorem claim_course (d : Desk) : d.claim.Ensures (ClaimCourse d) := by
  unfold Desk.claim
  split
  case isTrue h => simpa using ClaimCourse.disposed h
  case isFalse h =>
    have hopen : d.disposed = false := by simpa using h
    split
    case isTrue hready =>
      have hclosed : d.state.mayClaim = false := by simpa using hready
      simpa using ClaimCourse.unsearched hopen (Or.inl hclosed)
    case isFalse hready =>
      have hmay : d.state.mayClaim = true := by simpa using hready
      split
      case h_1 hknown => simpa using ClaimCourse.unsearched hopen (Or.inr hknown)
      case h_2 snapshot hknown =>
        split
        case isTrue hnone =>
          have hpaid : snapshot.hasClaimable = false := by simpa using hnone
          simpa using ClaimCourse.exhausted hopen hmay hknown hpaid
        case isFalse hsome =>
          have h : d.MayClaim snapshot := ⟨hopen, hmay, hknown, by simpa using hsome⟩
          simp only [Dialogue.ensures_ask]
          rintro ⟨reply, first⟩
          cases reply with
          | none => simpa using ClaimCourse.walletless h
          | some signer =>
            simp only [Dialogue.ensures_ask]
            rintro ⟨viaSafe, second⟩
            exact signedClaim_course d h signer first second viaSafe

/-- How settling goes. -/
inductive SettleCourse (d : Desk) :
    List (Exchange Question Answer) → Option String × Desk → Prop where
  | nothing (h : d.latest = none) : SettleCourse d [] (d.lastError, d)
  | ended {number : Nat} (h : d.latest = some number)
      (hended : d.inFlight.any (·.number == number) = false) :
      SettleCourse d [] (d.lastError, { d with latest := none })
  | awaited {number : Nat} {ending : Ending} {before : List (Nat × Ending)} {left : Desk}
      (h : d.latest = some number) (hflight : d.inFlight.any (·.number == number) = true)
      (hleft : left = { d with latest := none }.finishAll (before ++ [(number, ending)])) :
      SettleCourse d [⟨.settle number, ⟨ending, before⟩⟩] (left.lastError, left)

theorem settle_course (d : Desk) : d.settleBackground.Ensures (SettleCourse d) := by
  unfold Desk.settleBackground
  split
  case h_1 h => simpa using SettleCourse.nothing h
  case h_2 number h =>
    dsimp only
    split
    case isTrue hflight =>
      simp only [Dialogue.ensures_ask, Dialogue.ensures_done]
      rintro ⟨ending, before⟩
      rw [← Desk.finishAll_concat]
      exact SettleCourse.awaited h hflight rfl
    case isFalse hflight => simpa using SettleCourse.ended h (by simpa using hflight)

/-- How an action goes: what it asks, what it gives back and the desk that it leaves. -/
inductive Course (d : Desk) :
    Action → List (Exchange Question Answer) → Outcome → Desk → Prop where
  | search {account : Address} {transcript : List (Exchange Question Answer)}
      {result : Except Failure Snapshot} {left : Desk}
      (h : SearchCourse d account transcript (result, left)) :
      Course d (.search account) transcript (.snapshot result) left
  | claim {transcript : List (Exchange Question Answer)} {result : Except Failure State}
      {left : Desk} (h : ClaimCourse d transcript (result, left)) :
      Course d .claim transcript (.state result) left
  | applyConfirmed : Course d .applyConfirmed [] .nothing d.settleSnapshot
  | settle {transcript : List (Exchange Question Answer)} {shown : Option String} {left : Desk}
      (h : SettleCourse d transcript (shown, left)) :
      Course d .settle transcript (.error shown) left
  | dispose : Course d .dispose [] .nothing d.dispose
  | pause {milliseconds : Nat} {ended : List (Nat × Ending)} :
      Course d (.pause milliseconds) [⟨.wait milliseconds, ⟨(), ended⟩⟩] .nothing
        (d.finishAll ended)

theorem perform_course (d : Desk) (action : Action) :
    (action.perform d).Ensures fun transcript result =>
      Course d action transcript result.1 result.2 := by
  cases action with
  | search account =>
    simp only [Action.perform, Dialogue.ensures_bind, Dialogue.ensures_done, List.append_nil]
    exact (search_course d account).mono fun transcript result h => Course.search h
  | claim =>
    simp only [Action.perform, Dialogue.ensures_bind, Dialogue.ensures_done, List.append_nil]
    exact (claim_course d).mono fun transcript result h => Course.claim h
  | applyConfirmed => simpa [Action.perform] using Course.applyConfirmed
  | settle =>
    simp only [Action.perform, Dialogue.ensures_bind, Dialogue.ensures_done, List.append_nil]
    exact (settle_course d).mono fun transcript result h => Course.settle h
  | dispose => simpa [Action.perform] using Course.dispose
  | pause milliseconds =>
    simp only [Action.perform, Desk.pause, Dialogue.ensures_bind, Dialogue.ensures_ask,
      Dialogue.ensures_done, List.append_nil]
    rintro ⟨_, ended⟩
    exact Course.pause

theorem course_of_possible {e : Episode} (he : e.Possible Action.perform) :
    Course e.before e.action e.transcript e.outcome e.after :=
  he.ensures (perform_course e.before e.action)

end ClusterDesk.Claim
