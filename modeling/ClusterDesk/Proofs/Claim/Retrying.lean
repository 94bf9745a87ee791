import ClusterDesk.Proofs.Claim.Errors

/-!
# Trying a claim again

A claim that is turned away leaves the desk where it was, and a claim that fails on its way to the
chain keeps the snapshot. To the environment the next claim is no different from a first one: what
is left of the failure is forgotten before anything is asked that could depend on it.
-/

namespace ClusterDesk.Claim

variable {links : ClaimLinks} {past : List Episode} {d e left : Desk}
  {transcript : List (Exchange Question Answer)} {number : Nat}

/-- The desk has moved on from all that it has in flight. -/
def Desk.MovedOn (d : Desk) : Prop :=
  ∀ p ∈ d.inFlight, p.number < d.started ∧ p.epoch < d.epoch

theorem earlier_of_leads (h : Dialogue.Leads Action.perform { links := links } past d)
    (hmay : d.state.mayClaim = true) : ∀ p ∈ d.inFlight, p.epoch < d.epoch := by
  induction h with
  | start => simp
  | @next past e hlead he ih =>
    intro p hp
    have hcourse := course_of_possible he
    rcases hcourse.flight.inFlight p hp with hold | ⟨_, call, _, _, _, hcall⟩
    · cases hbefore : e.before.state.mayClaim with
      | true => exact Nat.lt_of_lt_of_le (ih hbefore p hold) hcourse.epoch_le
      | false =>
        have hfound : e.outcome.found ≠ none := by
          intro hnone
          rw [hcourse.mayClaim hnone hbefore] at hmay
          exact absurd hmay (by simp)
        obtain ⟨entitlement, hfound⟩ := Option.ne_none_iff_exists'.mp hfound
        have hnext := hcourse.epoch_of_movesOn
          (Desk.movesOn_of_begins (hcourse.begins_of_found hfound))
        have hearlier := (epoch_of_leads hlead p hold).1
        omega
    · obtain ⟨_, _, _, _, hsettled⟩ := hcourse.flight.proposes (by simp [hcall])
      rw [State.mayClaim_of_isSettled hsettled] at hmay
      exact absurd hmay (by simp)

/-- A desk that lets a claim start has moved on: only a search lets one start behind a proposal. -/
theorem movedOn_of_leads (h : Dialogue.Leads Action.perform { links := links } past d)
    (hmay : d.state.mayClaim = true) : d.MovedOn := fun p hp =>
  ⟨(settles_of_leads h).below p hp, earlier_of_leads h hmay p hp⟩

namespace Desk

theorem MovedOn.heeds (h : d.MovedOn) (number : Nat) : d.heeds number = false := by
  rw [Desk.heeds, Option.any_eq_false]
  intro p hfound
  have hearlier := (h p (List.mem_of_find?_eq_some hfound)).2
  simpa using Nat.ne_of_lt hearlier

theorem MovedOn.beginClaim (h : d.MovedOn) (first : List (Nat × Ending)) :
    (d.finishAll first).beginClaim.MovedOn := by
  intro p hp
  have hearlier := h p (finishAll_subset d first hp)
  simpa [Desk.beginClaim, publish] using hearlier

theorem MovedOn.claiming (h : d.MovedOn) (first second : List (Nat × Ending)) :
    (d.claiming first second).MovedOn := by
  intro p hp
  have hearlier := h p (claiming_subset d first second hp)
  simpa using hearlier

theorem heeds_finish (d : Desk) (number : Nat) (ending : Ending) (other : Nat) :
    (d.finish number ending).heeds other = (other != number && d.heeds other) := by
  have hepoch : (d.finish number ending).epoch = d.epoch := finishAll_epoch d [(number, ending)]
  rw [heeds, finish_inFlight, hepoch, List.find?_filter]
  by_cases hsame : other = number
  · have hgone : ∀ p ∈ d.inFlight,
        ¬decide ((p.number != number) = true ∧ (p.number == other) = true) = true := by
      simp [hsame]
    rw [List.find?_eq_none.mpr hgone]
    simp [hsame]
  · have hkept : (fun p : Proposal => decide ((p.number != number) = true ∧
        (p.number == other) = true)) = (·.number == other) := by
      funext p
      by_cases hp : p.number = other
      · simp [hp, hsame]
      · simp [hp]
    rw [hkept]
    simp [hsame, heeds]

theorem heeds_startProposal (h : d.MovedOn) (number : Nat) :
    d.startProposal.heeds number = (number == d.started || d.heeds number) := by
  simp only [heeds, startProposal, List.find?_append]
  by_cases hnew : number = d.started
  · have hnone : d.inFlight.find? (·.number == number) = none := by
      rw [List.find?_eq_none]
      intro p hp
      have hless := (h p hp).1
      simp only [beq_iff_eq]
      omega
    simp [hnew ▸ hnone, hnew]
  · simp [hnew, Ne.symm hnew]

/-- Two desks show the same, and will, whatever becomes of the proposals. -/
structure InStep (d e : Desk) : Prop where
  lastError : d.lastError = e.lastError
  heeds : ∀ number, d.heeds number = e.heeds number

namespace InStep

theorem finish (h : InStep d e) (number : Nat) (ending : Ending) :
    InStep (d.finish number ending) (e.finish number ending) where
  lastError := by rw [lastError_finish, lastError_finish, h.lastError, h.heeds]
  heeds other := by rw [heeds_finish, heeds_finish, h.heeds]

theorem finishAll (h : InStep d e) (endings : List (Nat × Ending)) :
    InStep (d.finishAll endings) (e.finishAll endings) := by
  induction endings generalizing d e with
  | nil => exact h
  | cons first rest ih => exact ih (h.finish first.1 first.2)

end InStep

/-- Two desks that let a claim start and hold the same, but may show different errors and have
different proposals behind them. -/
structure Twin (d e : Desk) : Prop where
  ready : d.state.mayClaim = true ∧ e.state.mayClaim = true
  links : d.links = e.links
  snapshot : d.snapshot = e.snapshot
  disposed : d.disposed = e.disposed
  started : d.started = e.started
  movedOn : d.MovedOn ∧ e.MovedOn

namespace Twin

theorem mayClaim {snapshot : Snapshot} (h : Twin d e) (hmay : d.MayClaim snapshot) :
    e.MayClaim snapshot where
  undisposed := h.disposed ▸ hmay.undisposed
  ready := h.ready.2
  known := h.snapshot ▸ hmay.known
  claimable := hmay.claimable

theorem claiming (h : Twin d e) (first second : List (Nat × Ending)) :
    InStep (d.claiming first second) (e.claiming first second) := by
  -- What the desks showed differs up to here: the claim clears it when it begins.
  have hbegun : InStep (d.finishAll first).beginClaim (e.finishAll first).beginClaim := by
    refine ⟨rfl, fun number => ?_⟩
    rw [(h.movedOn.1.beginClaim first).heeds, (h.movedOn.2.beginClaim first).heeds]
  exact hbegun.finishAll second

theorem startProposal (h : Twin d e) (first second : List (Nat × Ending)) :
    InStep (d.claiming first second).startProposal (e.claiming first second).startProposal := by
  have hclaiming := h.claiming first second
  refine ⟨hclaiming.lastError, fun number => ?_⟩
  rw [heeds_startProposal (h.movedOn.1.claiming first second),
    heeds_startProposal (h.movedOn.2.claiming first second), hclaiming.heeds, claiming_started,
    claiming_started, h.started]

end Twin

end Desk

/-- The signer's code was looked up, so every guard was passed. -/
def Passed (transcript : List (Exchange Question Answer)) : Prop :=
  ∃ x ∈ transcript, ∃ account, x.1 = .isContract account

/-- A course that one of two twins takes is open to the other, and leaves it the same. -/
theorem ClaimCourse.twin {result : Except Failure State}
    (h : ClaimCourse d transcript (result, left)) (htwin : d.Twin e) :
    ∃ other, ClaimCourse e transcript (result, other) ∧ (Passed transcript →
      left.state = other.state ∧ left.snapshot = other.snapshot ∧
        left.lastError = other.lastError) := by
  cases h with
  | disposed h =>
    exact ⟨e, .disposed (htwin.disposed ▸ h), by simp [Passed]⟩
  | unsearched h hready =>
    have hunknown : e.snapshot = none := by
      rcases hready with hclosed | hnone
      · rw [htwin.ready.1] at hclosed
        exact absurd hclosed (by simp)
      · rw [← htwin.snapshot, hnone]
    exact ⟨e, .unsearched (htwin.disposed ▸ h) (Or.inr hunknown), by simp [Passed]⟩
  | exhausted h hready hknown hnone =>
    exact ⟨e, .exhausted (htwin.disposed ▸ h) htwin.ready.2 (htwin.snapshot ▸ hknown) hnone,
      by simp [Passed]⟩
  | walletless h => exact ⟨_, .walletless (htwin.mayClaim h), by simp [Passed]⟩
  | @proposed _ signer first second third fourth left h hleft =>
    obtain ⟨other, hother⟩ : ∃ other, other = (((e.claiming first second).startProposal.finishAll
      third).finishAll fourth).proposed signer := ⟨_, rfl⟩
    have hstep := ((htwin.startProposal first second).finishAll third).finishAll fourth
    have hstate : left.state = other.state := by
      simp [hleft, hother, Desk.proposed, Desk.startProposal, htwin.links]
    refine ⟨other, hstate ▸ .proposed (htwin.mayClaim h) hother, fun _ => ⟨hstate, ?_, ?_⟩⟩
    · simp [hleft, hother, Desk.proposed, Desk.startProposal, htwin.snapshot]
    · rw [hleft, hother]
      exact hstep.lastError
  | unsent h =>
    refine ⟨_, .unsent (htwin.mayClaim h), fun _ => ⟨rfl, ?_, rfl⟩⟩
    simp [Desk.claimFailed, Desk.publish, htwin.snapshot]
  | unconfirmed h =>
    refine ⟨_, .unconfirmed (htwin.mayClaim h), fun _ => ⟨rfl, ?_, rfl⟩⟩
    simp [Desk.claimFailed, Desk.publish, htwin.snapshot]
  | @confirmed _ _ _ receipt first second third fourth left h hleft =>
    obtain ⟨other, hother⟩ : ∃ other, other = (((e.claiming first second).finishAll
      third).finishAll fourth).confirmed receipt.transaction := ⟨_, rfl⟩
    have hstep := ((htwin.claiming first second).finishAll third).finishAll fourth
    have hstate : left.state = other.state := by
      simp [hleft, hother, Desk.confirmed, Desk.settleSnapshot, htwin.links]
    refine ⟨other, hstate ▸ .confirmed (htwin.mayClaim h) hother, fun _ => ⟨hstate, ?_, ?_⟩⟩
    · simp [hleft, hother, Desk.confirmed, Desk.settleSnapshot, htwin.snapshot]
    · rw [hleft, hother]
      exact hstep.lastError

/-- Two runs of a claim cannot be told apart by what they ask and give back, and once the guards are
passed they leave the same behind. -/
structure SameClaim {σ : Type}
    (run other : (Except Failure State × Desk) × List (Exchange Question Answer) × σ) : Prop where
  result : run.1.1 = other.1.1
  asked : run.2.1 = other.2.1
  environment : run.2.2 = other.2.2
  state : Passed run.2.1 → run.1.2.state = other.1.2.state
  snapshot : Passed run.2.1 → run.1.2.snapshot = other.1.2.snapshot
  lastError : Passed run.2.1 → run.1.2.lastError = other.1.2.lastError

theorem Desk.Twin.sameClaim (h : d.Twin e) {σ : Type}
    (answer : (q : Question) → σ → Answer q × σ) (s : σ) :
    SameClaim (d.claim.run answer s) (e.claim.run answer s) := by
  have hcourse := claim_course d _ _ (Dialogue.yields_run d.claim answer s)
  obtain ⟨other, hother, hsame⟩ := hcourse.twin h
  rw [Dialogue.run_eq_of_yields hother.yields]
  exact ⟨rfl, rfl, rfl, fun hpassed => (hsame hpassed).1, fun hpassed => (hsame hpassed).2.1,
    fun hpassed => (hsame hpassed).2.2⟩

/-- The other desk is ready with what this one holds. -/
structure Desk.ReadyInstead (d ready : Desk) : Prop where
  state : ready.state = .ready
  links : ready.links = d.links
  snapshot : ready.snapshot = d.snapshot
  disposed : ready.disposed = d.disposed
  started : ready.started = d.started
  movedOn : ready.MovedOn

/-- In every environment the next claim goes as it would on a ready desk, such as the desk itself
would be. -/
structure Desk.Retries (d : Desk) : Prop where
  itself : d.ReadyInstead { d with state := .ready }
  same : ∀ ready, d.ReadyInstead ready →
    ∀ (σ : Type) (answer : (q : Question) → σ → Answer q × σ) (s : σ),
      SameClaim (d.claim.run answer s) (ready.claim.run answer s)

theorem retries_of_leads (h : Dialogue.Leads Action.perform { links := links } past d)
    (hmay : d.state.mayClaim = true) : d.Retries := by
  have hmoved := movedOn_of_leads h hmay
  refine ⟨⟨rfl, rfl, rfl, rfl, rfl, hmoved⟩, fun ready hready σ answer s => ?_⟩
  have htwin : d.Twin ready :=
    { ready := ⟨hmay, by rw [hready.state]; rfl⟩
      links := hready.links.symm
      snapshot := hready.snapshot.symm
      disposed := hready.disposed.symm
      started := hready.started.symm
      movedOn := ⟨hmoved, hready.movedOn⟩ }
  exact htwin.sameClaim answer s

/-- The failures that sending and confirming came back with. -/
def setbacks (transcript : List (Exchange Question Answer)) : List Failure :=
  transcript.filterMap fun
    | ⟨.send _, ⟨.error failure, _⟩⟩ => some failure
    | ⟨.confirm _, ⟨.error failure, _⟩⟩ => some failure
    | _ => none

/-- Why a claim is turned away. -/
inductive Obstacle (d : Desk) (transcript : List (Exchange Question Answer)) : Failure → Prop where
  | closed {reason : String}
      (h : d.disposed = true ∨ d.state.mayClaim = false ∨ d.snapshot = none) :
      Obstacle d transcript (.invalidState reason)
  | exhausted {snapshot : Snapshot} (hknown : d.snapshot = some snapshot)
      (hnone : snapshot.hasClaimable = false) : Obstacle d transcript .nothingToClaim
  | walletless (h : signers transcript = [none]) : Obstacle d transcript .walletNotConnected

/-- A claim that its guards turned away: it asked for the wallet's address at most. -/
structure TurnedAway (d : Desk) (transcript : List (Exchange Question Answer)) (failure : Failure)
    (left : Desk) : Prop where
  obstacle : Obstacle d transcript failure
  asked : ∀ x ∈ transcript, x.1 = .signer
  state : left.state = d.state
  snapshot : left.snapshot = d.snapshot
  lastError : left.lastError =
    if failure = .walletNotConnected then some Failure.walletNotConnected.shown else d.lastError

/-- A claim that failed on its way to the chain, as the user sees it. -/
structure FailedClaim (d : Desk) (failure : Failure) (left : Desk) : Prop where
  snapshot : left.snapshot = d.snapshot
  state : left.state = .failed failure.shown
  lastError : left.lastError = some failure.shown

/-- What a claim that comes to nothing does to the desk. -/
structure KeepsPosition (d : Desk) : Prop where
  guarded : d.claim.Ensures fun transcript (result, left) => ∀ failure,
    result = .error failure → failure ∉ setbacks transcript → TurnedAway d transcript failure left
  failed : d.claim.Ensures fun transcript (result, left) => ∀ failure ∈ setbacks transcript,
    result = .error failure ∧ FailedClaim d failure left ∧ left.Retries
  retries : ∀ message, d.state = .failed message → d.Retries

theorem ClaimCourse.turnedAway {failure : Failure}
    (h : ClaimCourse d transcript (.error failure, left)) (hnone : failure ∉ setbacks transcript) :
    TurnedAway d transcript failure left := by
  cases h with
  | disposed h => exact ⟨.closed (Or.inl h), by simp, rfl, rfl, rfl⟩
  | unsearched h hready => exact ⟨.closed (Or.inr hready), by simp, rfl, rfl, rfl⟩
  | exhausted h hready hknown hpaid => exact ⟨.exhausted hknown hpaid, by simp, rfl, rfl, rfl⟩
  | walletless h =>
    exact ⟨.walletless rfl, by simp, by simp [Desk.publish], by simp [Desk.publish], rfl⟩
  | unsent h => exact absurd List.mem_cons_self hnone
  | unconfirmed h => exact absurd List.mem_cons_self hnone

theorem ClaimCourse.failed {result : Except Failure State} {failure : Failure}
    (h : ClaimCourse d transcript (result, left)) (hfailure : failure ∈ setbacks transcript) :
    result = .error failure ∧ FailedClaim d failure left := by
  cases h with
  | disposed h => exact absurd hfailure List.not_mem_nil
  | unsearched h hready => exact absurd hfailure List.not_mem_nil
  | exhausted h hready hknown hpaid => exact absurd hfailure List.not_mem_nil
  | walletless h => exact absurd hfailure List.not_mem_nil
  | proposed h hleft => exact absurd hfailure List.not_mem_nil
  | unsent h =>
    obtain rfl := List.mem_singleton.mp hfailure
    exact ⟨rfl, by simp [Desk.claimFailed, Desk.publish], rfl, rfl⟩
  | unconfirmed h =>
    obtain rfl := List.mem_singleton.mp hfailure
    exact ⟨rfl, by simp [Desk.claimFailed, Desk.publish], rfl, rfl⟩
  | confirmed h hleft => exact absurd hfailure List.not_mem_nil

/-- In every run, whatever is answered, a claim that comes to nothing keeps the user's position. -/
theorem keepsPosition_of_leads (h : Dialogue.Leads Action.perform { links := links } past d) :
    KeepsPosition d where
  guarded transcript told htold failure hfailure hnone := by
    obtain ⟨result, left⟩ := told
    obtain rfl : result = .error failure := hfailure
    exact (claim_course d _ _ htold).turnedAway hnone
  failed transcript told htold failure hfailure := by
    have hcourse := claim_course d _ _ htold
    obtain ⟨hresult, hfailed⟩ := hcourse.failed hfailure
    let attempt : Episode := ⟨d, .claim, transcript, .state told.1, told.2⟩
    have hpossible : attempt.Possible Action.perform := (Course.claim hcourse).yields
    have hleft : Dialogue.Leads Action.perform { links := links } (past ++ [attempt]) told.2 :=
      .next h hpossible
    exact ⟨hresult, hfailed, retries_of_leads hleft (by rw [hfailed.state]; rfl)⟩
  retries message hfailed := retries_of_leads h (by rw [hfailed]; rfl)

/-- A wallet whose first transaction is refused, and whose signer has become a Safe by the second
try. -/
def upgradeStage : Rehearsal.ClaimStage :=
  { retryStage with
    isContract := [{ result := some (.ok false) }, { result := some (.ok true) }] }

/-- The second try goes to the Safe, as it would have behind the search. -/
theorem keepsPosition_of_upgrade :
    ∃ search refused retry : Episode,
      history Rehearsal.ClaimStage.answer { links := ⟨"", "", ""⟩ } upgradeStage
          [.search (Word.ofNat 20 1), .claim, .claim] = [search, refused, retry] ∧
        setbacks refused.transcript = [.chainWrite "refused"] ∧
        refused.after.state = .failed "refused" ∧
        contractChecks retry.transcript = [(Word.ofNat 20 2, true)] ∧
        KeepsPosition refused.after ∧
        ∀ stage, SameClaim (refused.after.claim.run Rehearsal.ClaimStage.answer stage)
          (search.after.claim.run Rehearsal.ClaimStage.answer stage) := by
  refine ⟨_, _, _, rfl, by decide, by decide, by decide, ?_⟩
  have hhistory : history Rehearsal.ClaimStage.answer { links := ⟨"", "", ""⟩ } upgradeStage
      [.search (Word.ofNat 20 1), .claim, .claim] = [_, _] ++ _ :: [] := rfl
  obtain ⟨hlead, -⟩ := Dialogue.leads_of_history hhistory
  have hkeeps := keepsPosition_of_leads hlead
  refine ⟨hkeeps, fun stage => (hkeeps.retries "refused" rfl).same _ ?_ _ _ stage⟩
  exact ⟨rfl, rfl, rfl, rfl, rfl, fun p hp => absurd hp List.not_mem_nil⟩

end ClusterDesk.Claim
