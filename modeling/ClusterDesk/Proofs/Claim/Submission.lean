import ClusterDesk.Proofs.Claim.Courses
import ClusterDesk.Rehearsal.ClaimStage

/-!
# Submitted calls

What a desk hands to the wallet over a whole run. The state of the desk and its snapshot carry what
the run so far allows: the snapshot holds the entitlement that the last successful search found, and
no claim may start once one has come to a good end.
-/

namespace ClusterDesk.Claim

/-- The calls handed to the wallet, to be sent or to be proposed. -/
def submitted (transcript : List (Exchange Question Answer)) : List ClaimCall :=
  transcript.filterMap fun
    | ⟨.send call, _⟩ => some call
    | ⟨.propose call, _⟩ => some call
    | _ => none

/-- The addresses that the wallet named as its own. -/
def signers (transcript : List (Exchange Question Answer)) : List (Option Address) :=
  transcript.filterMap fun
    | ⟨.signer, answer⟩ => some answer.reply
    | _ => none

/-- The accounts whose code was looked up, and whether they are contracts. -/
def contractChecks (transcript : List (Exchange Question Answer)) : List (Address × Bool) :=
  transcript.filterMap fun
    | ⟨.isContract account, answer⟩ => some (account, answer.reply)
    | _ => none

/-- The transactions that sending a call returned. -/
def sent (transcript : List (Exchange Question Answer)) : List Digest :=
  transcript.filterMap fun
    | ⟨.send _, answer⟩ => answer.reply.toOption
    | _ => none

/-- The transactions whose confirmation was awaited. -/
def awaited (transcript : List (Exchange Question Answer)) : List Digest :=
  transcript.filterMap fun
    | ⟨.confirm transaction, _⟩ => some transaction
    | _ => none

/-- The entitlement that a search found. -/
def Outcome.found : Outcome → Option Entitlement
  | .snapshot (.ok result) => some result.entitlement
  | _ => none

/-- What the last successful search found. -/
def lastFound (past : List Episode) : Option Entitlement :=
  (past.filterMap fun e => e.outcome.found).getLast?

/-- Whether a claim has been mined or waits for the other signers. -/
def State.isSettled : State → Bool
  | .confirmed _ _ => true
  | .proposed _ => true
  | _ => false

/-- A claim has come to a good end, and no search has succeeded since. -/
def Spent (past : List Episode) : Prop :=
  ∃ earlier attempt since, past = earlier ++ attempt :: since ∧
    attempt.after.state.isSettled = true ∧ ∀ e ∈ since, e.outcome.found = none

/-- What an episode submits is right, given the episodes before it. -/
structure SubmissionSafe (past : List Episode) (e : Episode) : Prop where
  /-- Only a claim submits, and it found the desk in order and the wallet connected. -/
  guarded : ∀ call ∈ submitted e.transcript,
    e.action = .claim ∧ e.before.disposed = false ∧
      (e.before.state = .ready ∨ ∃ message, e.before.state = .failed message) ∧
      (∃ wallet, signers e.transcript = [some wallet]) ∧
      ∃ snapshot, e.before.snapshot = some snapshot ∧ 0 < snapshot.claimable.wei
  /-- The call is that of the entitlement found last. -/
  faithful : ∀ call ∈ submitted e.transcript, ∃ entitlement,
    lastFound past = some entitlement ∧ call.account = entitlement.account ∧
      call.cumulative = entitlement.cumulative ∧ call.root = entitlement.root ∧
      call.proof = entitlement.proof
  /-- Behind a claim that came to a good end nothing is submitted without another search. -/
  unspent : Spent past → submitted e.transcript = []
  /-- The account whose code decides about the way is the signer. -/
  checked : ∀ check ∈ contractChecks e.transcript, signers e.transcript = [some check.1]
  /-- A contract is sent one call, and nothing is awaited. -/
  viaSafe : ∀ account, (account, true) ∈ contractChecks e.transcript →
    (submitted e.transcript).length = 1 ∧ awaited e.transcript = []
  /-- Any other signer awaits one transaction at most, the one that sending returned. -/
  direct : ∀ account, (account, false) ∈ contractChecks e.transcript →
    (awaited e.transcript).length ≤ 1 ∧
      ∀ transaction ∈ awaited e.transcript, transaction ∈ sent e.transcript

/-- Nothing is submitted, or one call of the snapshot by a claim, on one of its two ways. -/
theorem Course.submission {d left : Desk} {action : Action}
    {transcript : List (Exchange Question Answer)} {outcome : Outcome}
    (h : Course d action transcript outcome left) :
    (submitted transcript = [] ∧ contractChecks transcript = []) ∨
      ∃ snapshot signer, action = .claim ∧ d.MayClaim snapshot ∧
        signers transcript = [some signer] ∧
        submitted transcript = [snapshot.entitlement.claimCall] ∧
        ((contractChecks transcript = [(signer, true)] ∧ awaited transcript = []) ∨
          (contractChecks transcript = [(signer, false)] ∧
            awaited transcript = sent transcript ∧ (sent transcript).length ≤ 1)) := by
  cases h with
  | search h => cases h <;> exact Or.inl ⟨rfl, rfl⟩
  | applyConfirmed => exact Or.inl ⟨rfl, rfl⟩
  | settle h => cases h <;> exact Or.inl ⟨rfl, rfl⟩
  | dispose => exact Or.inl ⟨rfl, rfl⟩
  | pause => exact Or.inl ⟨rfl, rfl⟩
  | claim h =>
    cases h with
    | disposed h => exact Or.inl ⟨rfl, rfl⟩
    | unsearched h hready => exact Or.inl ⟨rfl, rfl⟩
    | exhausted h hready hknown hnone => exact Or.inl ⟨rfl, rfl⟩
    | walletless h => exact Or.inl ⟨rfl, rfl⟩
    | proposed h hleft => exact Or.inr ⟨_, _, rfl, h, rfl, rfl, Or.inl ⟨rfl, rfl⟩⟩
    | unsent h => exact Or.inr ⟨_, _, rfl, h, rfl, rfl, Or.inr ⟨rfl, rfl, Nat.zero_le 1⟩⟩
    | unconfirmed h => exact Or.inr ⟨_, _, rfl, h, rfl, rfl, Or.inr ⟨rfl, rfl, Nat.le_refl 1⟩⟩
    | confirmed h hleft => exact Or.inr ⟨_, _, rfl, h, rfl, rfl, Or.inr ⟨rfl, rfl, Nat.le_refl 1⟩⟩

theorem State.mayClaim_iff (state : State) :
    state.mayClaim = true ↔ state = .ready ∨ ∃ message, state = .failed message := by
  cases state <;> simp [State.mayClaim]

theorem State.mayClaim_of_isSettled {state : State} (h : state.isSettled = true) :
    state.mayClaim = false := by
  cases state <;> simp_all [State.isSettled, State.mayClaim]

theorem Course.mayClaim {d left : Desk} {action : Action}
    {transcript : List (Exchange Question Answer)} {outcome : Outcome}
    (h : Course d action transcript outcome left) (hfound : outcome.found = none)
    (hclosed : d.state.mayClaim = false) : left.state.mayClaim = false := by
  cases h with
  | search h =>
    cases h with
    | disposed h => exact hclosed
    | unpublished h => rfl
    | empty h hempty => simp [Outcome.found] at hfound
    | unread h hempty => rfl
    | read h hempty => simp [Outcome.found] at hfound
  | claim h =>
    cases h with
    | disposed h => exact hclosed
    | unsearched h hready => exact hclosed
    | exhausted h hready hknown hnone => exact hclosed
    | walletless h => simp [h.ready] at hclosed
    | proposed h hleft => simp [h.ready] at hclosed
    | unsent h => simp [h.ready] at hclosed
    | unconfirmed h => simp [h.ready] at hclosed
    | confirmed h hleft => simp [h.ready] at hclosed
  | applyConfirmed => exact hclosed
  | settle h =>
    cases h with
    | nothing h => exact hclosed
    | ended h hended => exact hclosed
    | awaited h hflight hleft => simpa [hleft] using hclosed
  | dispose => exact hclosed
  | pause => simpa using hclosed

theorem Course.snapshot {d left : Desk} {action : Action}
    {transcript : List (Exchange Question Answer)} {outcome : Outcome}
    (h : Course d action transcript outcome left) {snapshot : Snapshot}
    (hleft : left.snapshot = some snapshot) :
    outcome.found = some snapshot.entitlement ∨
      (outcome.found = none ∧
        ∃ before, d.snapshot = some before ∧ before.entitlement = snapshot.entitlement) := by
  cases h with
  | search h =>
    cases h with
    | disposed h => exact Or.inr ⟨rfl, snapshot, hleft, rfl⟩
    | unpublished h => simp [Desk.searchFailed, Desk.publish, Desk.beginSearch] at hleft
    | empty h hempty =>
      obtain rfl : Snapshot.of _ .zero = snapshot := by simpa [Desk.found] using hleft
      exact Or.inl rfl
    | unread h hempty => simp [Desk.searchFailed, Desk.publish, Desk.beginSearch] at hleft
    | read h hempty =>
      obtain rfl : Snapshot.of _ _ = snapshot := by simpa [Desk.found] using hleft
      exact Or.inl rfl
  | claim h =>
    refine Or.inr ⟨rfl, ?_⟩
    cases h with
    | disposed h => exact ⟨snapshot, hleft, rfl⟩
    | unsearched h hready => exact ⟨snapshot, hleft, rfl⟩
    | exhausted h hready hknown hnone => exact ⟨snapshot, hleft, rfl⟩
    | walletless h => exact ⟨snapshot, by simpa [Desk.publish] using hleft, rfl⟩
    | proposed h hdesk =>
      subst hdesk
      exact ⟨snapshot, by simpa [Desk.proposed, Desk.startProposal] using hleft, rfl⟩
    | unsent h => exact ⟨snapshot, by simpa [Desk.claimFailed, Desk.publish] using hleft, rfl⟩
    | unconfirmed h =>
      exact ⟨snapshot, by simpa [Desk.claimFailed, Desk.publish] using hleft, rfl⟩
    | confirmed h hdesk =>
      subst hdesk
      obtain ⟨before, hbefore, rfl⟩ : ∃ before, d.snapshot = some before ∧
          before.settle = snapshot := by
        simpa [Desk.confirmed, Desk.settleSnapshot] using hleft
      exact ⟨before, hbefore, rfl⟩
  | applyConfirmed =>
    obtain ⟨before, hbefore, rfl⟩ : ∃ before, d.snapshot = some before ∧
        before.settle = snapshot := by
      simpa [Desk.settleSnapshot] using hleft
    exact Or.inr ⟨rfl, before, hbefore, rfl⟩
  | settle h =>
    refine Or.inr ⟨rfl, snapshot, ?_, rfl⟩
    cases h with
    | nothing h => exact hleft
    | ended h hended => exact hleft
    | awaited h hflight hdesk => simpa [hdesk] using hleft
  | dispose => exact Or.inr ⟨rfl, snapshot, hleft, rfl⟩
  | pause => exact Or.inr ⟨rfl, snapshot, by simpa using hleft, rfl⟩

theorem lastFound_concat (past : List Episode) (e : Episode) :
    lastFound (past ++ [e]) = e.outcome.found.or (lastFound past) := by
  cases h : e.outcome.found with
  | none => simp [lastFound, h]
  | some entitlement => simp [lastFound, h]

theorem snapshot_found {links : ClaimLinks} {past : List Episode} {d : Desk}
    (h : Dialogue.Leads Action.perform { links := links } past d) :
    ∀ snapshot, d.snapshot = some snapshot → lastFound past = some snapshot.entitlement := by
  refine h.keeps (fun past d => ∀ snapshot, d.snapshot = some snapshot →
    lastFound past = some snapshot.entitlement) ?_ ?_
  · intro snapshot hnone
    simp at hnone
  · intro past e ih he snapshot hafter
    rw [lastFound_concat]
    rcases (course_of_possible he).snapshot hafter with hfound | ⟨hfound, before, hbefore, hsame⟩
    · rw [hfound, Option.some_or]
    · rw [hfound, Option.none_or, ih before hbefore, hsame]

theorem spent_concat {past : List Episode} {e : Episode} (h : Spent (past ++ [e])) :
    e.after.state.isSettled = true ∨ (Spent past ∧ e.outcome.found = none) := by
  obtain ⟨earlier, attempt, since, hsplit, hsettled, hsince⟩ := h
  rcases since.eq_nil_or_concat with rfl | ⟨front, last, rfl⟩
  · obtain ⟨_, hlast⟩ := List.append_inj' hsplit rfl
    obtain rfl : e = attempt := by simpa using hlast
    exact Or.inl hsettled
  · rw [List.concat_eq_append, ← List.cons_append, ← List.append_assoc] at hsplit
    obtain ⟨hpast, hlast⟩ := List.append_inj' hsplit rfl
    obtain rfl : e = last := by simpa using hlast
    refine Or.inr ⟨⟨earlier, attempt, front, hpast, hsettled, ?_⟩, hsince e (by simp)⟩
    intro x hx
    exact hsince x (by simp [hx])

/-- Once a claim has come to a good end, the desk lets none start. -/
theorem mayClaim_of_spent {links : ClaimLinks} {past : List Episode} {d : Desk}
    (h : Dialogue.Leads Action.perform { links := links } past d) :
    Spent past → d.state.mayClaim = false := by
  refine h.keeps (fun past d => Spent past → d.state.mayClaim = false) ?_ ?_
  · rintro ⟨earlier, attempt, since, hsplit, _⟩
    simp at hsplit
  · intro past e ih he hspent
    rcases spent_concat hspent with hsettled | ⟨hbefore, hfound⟩
    · exact State.mayClaim_of_isSettled hsettled
    · exact (course_of_possible he).mayClaim hfound (ih hbefore)

/-- In every run, whatever is answered, every episode submits only what it should. -/
theorem submissionSafe_of_history {σ : Type} (answer : (q : Question) → σ → Answer q × σ) (s : σ)
    (links : ClaimLinks) (actions : List Action) (past later : List Episode) (e : Episode)
    (h : history answer { links := links } s actions = past ++ e :: later) :
    SubmissionSafe past e := by
  obtain ⟨hlead, he⟩ := Dialogue.leads_of_history h
  rcases (course_of_possible he).submission with
    ⟨hnone, hunchecked⟩ | ⟨snapshot, signer, haction, hmay, hsigner, hcall, hway⟩
  · constructor <;> simp [hnone, hunchecked]
  · have hfound := snapshot_found hlead snapshot hmay.known
    have hclaimable : 0 < snapshot.claimable.wei := by
      have hsome := hmay.claimable
      simp only [Snapshot.hasClaimable, bne_iff_ne] at hsome
      omega
    constructor
    · intro call _
      exact ⟨haction, hmay.undisposed, (State.mayClaim_iff _).mp hmay.ready, ⟨signer, hsigner⟩,
        snapshot, hmay.known, hclaimable⟩
    · intro call hmem
      obtain rfl : call = snapshot.entitlement.claimCall := by simpa [hcall] using hmem
      exact ⟨snapshot.entitlement, hfound, rfl, rfl, rfl, rfl⟩
    · intro hspent
      have hclosed := mayClaim_of_spent hlead hspent
      simp [hmay.ready] at hclosed
    · intro check hmem
      rcases hway with ⟨hcheck, _⟩ | ⟨hcheck, _⟩
      · obtain rfl : check = (signer, true) := by simpa [hcheck] using hmem
        exact hsigner
      · obtain rfl : check = (signer, false) := by simpa [hcheck] using hmem
        exact hsigner
    · intro account hmem
      rcases hway with ⟨_, hawaited⟩ | ⟨hcheck, _⟩
      · exact ⟨by simp [hcall], hawaited⟩
      · simp [hcheck] at hmem
    · intro account hmem
      rcases hway with ⟨hcheck, _⟩ | ⟨_, hawaited, hlength⟩
      · simp [hcheck] at hmem
      · exact ⟨by rw [hawaited]; exact hlength, by simp [hawaited]⟩

/-- A wallet that refuses the first call and sends the second. -/
def retryStage : Rehearsal.ClaimStage where
  wallet := some (Word.ofNat 20 2)
  entitlement :=
    [{ result := some (.ok ⟨Word.ofNat 20 1, .ofWord (Word.ofNat 32 5), default, [default]⟩) }]
  claimed := [{ result := some (.ok .zero) }]
  isContract := [{ result := some (.ok false) }]
  send := [{ result := some (.error (.chainWrite "refused")) },
    { result := some (.ok (Word.ofNat 32 4)) }]
  confirm := [{ result := some (.ok ⟨Word.ofNat 32 4, some 7⟩) }]

theorem submissionSafe_of_retry :
    ∃ search first second : Episode,
      history Rehearsal.ClaimStage.answer { links := ⟨"", "", ""⟩ } retryStage
          [.search (Word.ofNat 20 1), .claim, .claim] = [search, first, second] ∧
        first.after.state.isSettled = false ∧ second.after.state.isSettled = true ∧
        (submitted second.transcript).map ClaimCall.account = [Word.ofNat 20 1] ∧
        SubmissionSafe [search, first] second :=
  ⟨_, _, _, rfl, by decide, by decide, by decide,
    submissionSafe_of_history Rehearsal.ClaimStage.answer retryStage ⟨"", "", ""⟩
      [.search (Word.ofNat 20 1), .claim, .claim] [_, _] [] _ rfl⟩

end ClusterDesk.Claim
