import ClusterDesk.Proofs.Alerts.Notices
import ClusterDesk.Proofs.Alerts.Signatures
import ClusterDesk.Proofs.Claim.Errors
import ClusterDesk.Proofs.Claim.Failed
import ClusterDesk.Proofs.Text.Shortened

/-!
# What is displayed of failures

Every error that a desk displays is the message of a failure in its run, shortened. So it is never
longer than a shortened message can be.
-/

namespace ClusterDesk

/-- What a claim desk displays behind a run comes from a failure in it. -/
structure Claim.Explained (past : List Claim.Episode) (d : Claim.Desk) : Prop where
  /-- The error shown comes from the search that began last, from a claim since, or from the proposal
  of such a claim. -/
  error : ∀ text, d.lastError = some text → text.length ≤ 103 ∧ ∃ earlier search since failure,
    SinceSearch past earlier search since ∧ Source earlier search since failure ∧
      text = shorten failure.message
  /-- The failed state has been there since a claim that failed. -/
  failed : ∀ text, d.state = .failed text → text.length ≤ 103 ∧ ∃ earlier claim since,
    past = earlier ++ claim :: since ∧ ClaimFailedAs claim.action claim.outcome text ∧
      ∀ e ∈ claim :: since, e.after.state = .failed text

theorem Claim.explained_of_leads {links : ClaimLinks} {past : List Claim.Episode} {d : Claim.Desk}
    (h : Dialogue.Leads Action.perform { links := links } past d) : Explained past d := by
  constructor
  case error =>
    intro text hshown
    obtain ⟨earlier, search, since, failure, hsince, hsource, rfl⟩ := source_of_leads h hshown
    exact ⟨length_shorten_le failure.message, earlier, search, since, failure, hsince, hsource, rfl⟩
  case failed =>
    intro text hfailed
    obtain ⟨earlier, claim, since, hsplit, hclaim, hkept⟩ := failedAs_of_leads h hfailed
    have hbound : text.length ≤ 103 := by
      obtain ⟨-, failure, -, rfl⟩ := hclaim
      exact length_shorten_le failure.message
    exact ⟨hbound, earlier, claim, since, hsplit, hclaim, hkept⟩

/-- An error notice behind a run has been there since an action that failed. -/
def Alerts.Explained (past : List Alerts.Episode) (d : Alerts.Desk) : Prop :=
  ∀ notice, d.notice = some notice → notice.success = false → notice.text.length ≤ 103 ∧
    ∃ earlier e since, past = earlier ++ e :: since ∧ e.outcome.FailedAs notice.text ∧
      ∀ x ∈ e :: since, x.after.notice = some notice

theorem Alerts.explained_of_leads {past : List Alerts.Episode} {d : Alerts.Desk}
    (h : Dialogue.Leads performOn {} past d) : Explained past d := by
  intro notice hnotice herror
  obtain ⟨earlier, e, since, hsplit, hfailed, hkept⟩ := failedAs_of_leads h hnotice herror
  have hbound : notice.text.length ≤ 103 := by
    obtain ⟨failure, -, htext⟩ := hfailed
    rw [htext]
    exact length_shorten_le failure.message
  exact ⟨hbound, earlier, e, since, hsplit, hfailed, hkept⟩

/-- A message is shortened to a prefix of bounded length, and only once. In every run of either desk,
whatever is answered, what is displayed around an action is the shortened message of a failure in the
run. -/
theorem explained_of_histories :
    (∀ message, Shortened message (shorten message) ∧
      shorten (shorten message) = shorten message) ∧
    (∀ (σ : Type) (answer : (q : Claim.Question) → σ → Claim.Answer q × σ) (s : σ)
      (links : ClaimLinks) (actions : List Claim.Action) (past later : List Claim.Episode)
      (e : Claim.Episode),
      Claim.history answer { links := links } s actions = past ++ e :: later →
        Claim.Explained past e.before ∧ Claim.Explained (past ++ [e]) e.after) ∧
    (∀ (σ : Type) (answer : (q : Alerts.Question) → σ → Alerts.Reply q × σ) (s : σ)
      (actions : List (Network × Alerts.Action)) (past later : List Alerts.Episode)
      (e : Alerts.Episode),
      Alerts.history answer {} s actions = past ++ e :: later →
        Alerts.Explained past e.before ∧ Alerts.Explained (past ++ [e]) e.after) := by
  refine ⟨?_, ?_, ?_⟩
  · intro message
    exact ⟨shortened_shorten message, shorten_shorten message⟩
  · intro σ answer s links actions past later e h
    obtain ⟨hlead, he⟩ := Dialogue.leads_of_history h
    exact ⟨Claim.explained_of_leads hlead, Claim.explained_of_leads (hlead.next he)⟩
  · intro σ answer s actions past later e h
    obtain ⟨hlead, he⟩ := Dialogue.leads_of_history h
    exact ⟨Alerts.explained_of_leads hlead, Alerts.explained_of_leads (hlead.next he)⟩

/-- A wallet that does not send a claim. -/
def unsendingStage (message : String) : Rehearsal.ClaimStage :=
  { Claim.refusingStage with
    isContract := [{ result := some (.ok false) }]
    send := [{ result := some (.error (.chainWrite message)) }] }

/-- A backend that does not tell of an owner. -/
def unknowingStage (message : String) : Rehearsal.AlertStage :=
  { Alerts.resaveStage with
    summary := [{ result := some (.error (.remoteFetch "clusterMonitorInfo" message)) }] }

theorem explained_of_longMessage :
    ∃ (message : String) (search claim : Claim.Episode) (connect : Alerts.Episode)
      (notice : Alerts.Notice), message = String.ofList (List.replicate 150 'é') ∧
      Claim.history Rehearsal.ClaimStage.answer { links := ⟨"", "", ""⟩ } (unsendingStage message)
          [.search (Word.ofNat 20 1), .claim] = [search, claim] ∧
        claim.after.state = .failed (shorten message) ∧ (shorten message).length = 103 ∧
        Claim.Explained [search, claim] claim.after ∧
      Alerts.history Rehearsal.AlertStage.answer {} (unknowingStage message)
          [(.mainnet, .connect (Word.ofNat 20 1))] = [connect] ∧
        connect.after.notice = some notice ∧ notice.success = false ∧ notice.text.length = 103 ∧
        Alerts.Explained [connect] connect.after := by
  obtain ⟨message, hmessage⟩ : ∃ message, message = String.ofList (List.replicate 150 'é') :=
    ⟨_, rfl⟩
  have hlong : 100 < message.length := by
    rw [hmessage, String.length_ofList, List.length_replicate]
    decide
  have hlonger (front : String) : 100 < (front ++ message).length := by
    rw [String.length_append]
    exact Nat.lt_add_left _ hlong
  obtain ⟨-, hclaims, halerts⟩ := explained_of_histories
  refine ⟨message, _, _, _, _, hmessage, rfl, rfl, length_shorten hlong, ?_, rfl, rfl, rfl,
    length_shorten (hlonger _), ?_⟩
  · exact (hclaims _ Rehearsal.ClaimStage.answer (unsendingStage message) ⟨"", "", ""⟩
      [.search (Word.ofNat 20 1), .claim] [_] [] _ rfl).2
  · exact (halerts _ Rehearsal.AlertStage.answer (unknowingStage message)
      [(.mainnet, .connect (Word.ofNat 20 1))] [] [] _ rfl).2

end ClusterDesk
