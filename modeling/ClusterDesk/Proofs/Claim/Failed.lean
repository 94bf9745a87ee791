import ClusterDesk.Proofs.Claim.Courses

/-!
# Failed claims

A desk is in the failed state because of a claim that failed, and it shows the message of that
failure until it moves on.
-/

namespace ClusterDesk.Claim

/-- A claim failed, and the message of its failure is shown as a text. -/
def ClaimFailedAs (action : Action) (outcome : Outcome) (text : String) : Prop :=
  action = .claim ∧ ∃ failure, outcome = .state (.error failure) ∧ text = shorten failure.message

variable {d left : Desk} {action : Action} {transcript : List (Exchange Question Answer)}
  {outcome : Outcome} {text : String}

theorem SearchCourse.failed_state {account : Address} {result : Except Failure Snapshot}
    (h : SearchCourse d account transcript (result, left)) (hfailed : left.state = .failed text) :
    d.state = .failed text := by
  cases h with
  | disposed h => exact hfailed
  | unpublished h => simp [Desk.searchFailed] at hfailed
  | empty h hempty => simp [Desk.found] at hfailed
  | unread h hempty => simp [Desk.searchFailed] at hfailed
  | read h hempty => simp [Desk.found] at hfailed

theorem ClaimCourse.failed_state {result : Except Failure State}
    (h : ClaimCourse d transcript (result, left)) (hfailed : left.state = .failed text) :
    d.state = .failed text ∨ ∃ failure, result = .error failure ∧ text = failure.shown := by
  have hshown {reached : Desk} {failure : Failure}
      (hreached : (reached.claimFailed failure).state = .failed text) : text = failure.shown :=
    (State.failed.inj hreached).symm
  cases h with
  | disposed h => exact Or.inl hfailed
  | unsearched h hready => exact Or.inl hfailed
  | exhausted h hready hknown hnone => exact Or.inl hfailed
  | walletless h => exact Or.inl (by simpa [Desk.publish] using hfailed)
  | proposed h hleft => simp [hleft, Desk.proposed] at hfailed
  | unsent h => exact Or.inr ⟨_, rfl, hshown hfailed⟩
  | unconfirmed h => exact Or.inr ⟨_, rfl, hshown hfailed⟩
  | confirmed h hleft => simp [hleft, Desk.confirmed] at hfailed

theorem Course.failed_state (h : Course d action transcript outcome left)
    (hfailed : left.state = .failed text) :
    d.state = .failed text ∨ ClaimFailedAs action outcome text := by
  cases h with
  | search h => exact Or.inl (h.failed_state hfailed)
  | claim h =>
    rcases h.failed_state hfailed with hkept | ⟨failure, rfl, htext⟩
    · exact Or.inl hkept
    · exact Or.inr ⟨rfl, failure, rfl, htext⟩
  | applyConfirmed => exact Or.inl hfailed
  | settle h =>
    cases h with
    | nothing h => exact Or.inl hfailed
    | ended h hended => exact Or.inl hfailed
    | awaited h hflight hleft => exact Or.inl (by simpa [hleft] using hfailed)
  | dispose => exact Or.inl hfailed
  | pause => exact Or.inl (by simpa using hfailed)

/-- A desk in the failed state has been in it since a claim that failed. -/
theorem failedAs_of_leads {links : ClaimLinks} {past : List Episode}
    (h : Dialogue.Leads Action.perform { links := links } past d)
    (hfailed : d.state = .failed text) :
    ∃ earlier claim since, past = earlier ++ claim :: since ∧
      ClaimFailedAs claim.action claim.outcome text ∧
      ∀ e ∈ claim :: since, e.after.state = .failed text := by
  refine h.exists_cause (P := fun d => d.state = .failed text) ?_ ?_ hfailed
  · intro hstart
    cases hstart
  · intro e he hafter
    exact (course_of_possible he).failed_state hafter

end ClusterDesk.Claim
