import ClusterDesk.Proofs.Claim.Binding

/-!
# Consistency of a claim desk

Between any two actions the state of a desk and its snapshot tell the same story, whatever was
answered: no search or claim is left hanging, there is a snapshot exactly where there is a state
beyond idleness, and its amounts add up. Behind a search the snapshot changes only when it is settled.
-/

namespace ClusterDesk

/-- What can be claimed is what was allocated beyond the claimed amount, and never less than
nothing. -/
def Snapshot.Balanced (s : Snapshot) : Prop :=
  (s.claimable.wei : Int) = max 0 ((s.entitlement.cumulative.wei : Int) - s.claimed.wei)

theorem Snapshot.balanced_of (entitlement : Entitlement) (claimed : Amount) :
    (Snapshot.of entitlement claimed).Balanced := by
  have hdelta : (Snapshot.of entitlement claimed).claimable.wei =
      entitlement.cumulative.wei - claimed.wei := rfl
  have hclaimed : (Snapshot.of entitlement claimed).claimed = claimed := rfl
  have hsame : (Snapshot.of entitlement claimed).entitlement = entitlement := rfl
  rw [Balanced, hdelta, hclaimed, hsame]
  omega

theorem Snapshot.balanced_settle (s : Snapshot) : s.settle.Balanced := by
  simp [Balanced, settle, Amount.zero]

namespace Claim

structure Consistent (d : Desk) : Prop where
  /-- Nothing is left under way. -/
  resting : d.state ≠ .searching ∧ d.state ≠ .claiming
  known : d.snapshot.isSome = true ↔ d.state ≠ .idle
  balanced : ∀ snapshot, d.snapshot = some snapshot → snapshot.Balanced
  /-- Behind a mined claim everything counts as paid out. -/
  paid : ∀ transaction link, d.state = .confirmed transaction link →
    ∃ snapshot, d.snapshot = some snapshot ∧
      snapshot.claimed = snapshot.entitlement.cumulative ∧ snapshot.claimable = .zero

theorem consistent_start (links : ClaimLinks) : Consistent { links := links } where
  resting := by simp
  known := by simp
  balanced snapshot h := by simp at h
  paid transaction link h := by simp at h

theorem consistent_of_known {d : Desk} {snapshot : Snapshot} (hknown : d.snapshot = some snapshot)
    (hbalanced : snapshot.Balanced) (hidle : d.state ≠ .idle)
    (hresting : d.state ≠ .searching ∧ d.state ≠ .claiming)
    (hunpaid : ∀ transaction link, d.state ≠ .confirmed transaction link) : Consistent d := by
  refine ⟨hresting, by simp [hknown, hidle], ?_, ?_⟩
  · intro known hsame
    obtain rfl : snapshot = known := by simpa [hknown] using hsame
    exact hbalanced
  · intro transaction link hpaid
    exact absurd hpaid (hunpaid transaction link)

theorem consistent_of_idle {d : Desk} (hstate : d.state = .idle) (hnone : d.snapshot = none) :
    Consistent d := by
  refine ⟨by simp [hstate], by simp [hstate, hnone], ?_, ?_⟩
  · intro snapshot hknown
    simp [hnone] at hknown
  · intro transaction link hpaid
    simp [hstate] at hpaid

namespace Consistent

variable {d left : Desk}

theorem congr (h : Consistent d) (hstate : left.state = d.state)
    (hsnapshot : left.snapshot = d.snapshot) : Consistent left := by
  refine ⟨?_, ?_, ?_, ?_⟩
  · rw [hstate]
    exact h.resting
  · rw [hstate, hsnapshot]
    exact h.known
  · rw [hsnapshot]
    exact h.balanced
  · rw [hstate, hsnapshot]
    exact h.paid

theorem settleSnapshot (h : Consistent d) : Consistent d.settleSnapshot := by
  refine ⟨h.resting, ?_, ?_, ?_⟩
  · have hsome : d.settleSnapshot.snapshot.isSome = d.snapshot.isSome := by
      simp [Desk.settleSnapshot]
    rw [hsome]
    exact h.known
  · intro snapshot hsettled
    obtain ⟨before, -, rfl⟩ : ∃ before, d.snapshot = some before ∧ before.settle = snapshot := by
      simpa [Desk.settleSnapshot] using hsettled
    exact before.balanced_settle
  · intro transaction link hpaid
    obtain ⟨before, hbefore, -⟩ := h.paid transaction link hpaid
    exact ⟨before.settle, by simp [Desk.settleSnapshot, hbefore], rfl, rfl⟩

theorem claimFailed {snapshot : Snapshot} (hknown : d.snapshot = some snapshot)
    (hbalanced : snapshot.Balanced) (failure : Failure) : Consistent (d.claimFailed failure) :=
  consistent_of_known hknown hbalanced (by simp [Desk.claimFailed]) (by simp [Desk.claimFailed])
    (by simp [Desk.claimFailed])

theorem confirmed (snapshot : Snapshot) (hknown : d.snapshot = some snapshot)
    (transaction : Digest) : Consistent (d.confirmed transaction) := by
  have hsettled : (d.confirmed transaction).snapshot = some snapshot.settle := by
    simp [Desk.confirmed, Desk.settleSnapshot, hknown]
  refine ⟨by simp [Desk.confirmed], ?_, ?_, ?_⟩
  · rw [hsettled]
    simp [Desk.confirmed]
  · intro known hsame
    obtain rfl : snapshot.settle = known := by simpa [hsettled] using hsame
    exact snapshot.balanced_settle
  · intro _ _ _
    exact ⟨snapshot.settle, hsettled, rfl, rfl⟩

end Consistent

variable {d left : Desk} {transcript : List (Exchange Question Answer)}

theorem SearchCourse.consistent {account : Address} {result : Except Failure Snapshot}
    (h : SearchCourse d account transcript (result, left)) (hd : Consistent d) :
    Consistent left := by
  cases h with
  | disposed h => exact hd
  | unpublished h =>
    exact consistent_of_idle rfl (by simp [Desk.searchFailed, Desk.publish, Desk.beginSearch])
  | unread h hempty =>
    exact consistent_of_idle rfl (by simp [Desk.searchFailed, Desk.publish, Desk.beginSearch])
  | @empty entitlement _ h hempty =>
    exact consistent_of_known rfl (Snapshot.balanced_of entitlement .zero) (by simp [Desk.found])
      (by simp [Desk.found]) (by simp [Desk.found])
  | @read entitlement claimed _ _ h hempty =>
    exact consistent_of_known rfl (Snapshot.balanced_of entitlement claimed) (by simp [Desk.found])
      (by simp [Desk.found]) (by simp [Desk.found])

theorem ClaimCourse.consistent {result : Except Failure State}
    (h : ClaimCourse d transcript (result, left)) (hd : Consistent d) : Consistent left := by
  cases h with
  | disposed h => exact hd
  | unsearched h hready => exact hd
  | exhausted h hready hknown hnone => exact hd
  -- Background settlements come in while a claim goes on: they touch neither state nor snapshot.
  | walletless h => exact hd.congr (by simp [Desk.publish]) (by simp [Desk.publish])
  | @proposed snapshot _ _ _ _ _ _ h hleft =>
    have hsame : left.snapshot = some snapshot := by
      simp [hleft, Desk.proposed, Desk.startProposal, h.known]
    exact consistent_of_known hsame (hd.balanced snapshot h.known) (by simp [hleft, Desk.proposed])
      (by simp [hleft, Desk.proposed]) (by simp [hleft, Desk.proposed])
  | @unsent snapshot _ _ _ _ _ h =>
    exact .claimFailed (by simp [h.known]) (hd.balanced snapshot h.known) _
  | @unconfirmed snapshot _ _ _ _ _ _ _ h =>
    exact .claimFailed (by simp [h.known]) (hd.balanced snapshot h.known) _
  | @confirmed snapshot _ _ _ _ _ _ _ _ h hleft =>
    rw [hleft]
    exact .confirmed snapshot (by simp [h.known]) _

theorem SettleCourse.consistent {shown : Option String}
    (h : SettleCourse d transcript (shown, left)) (hd : Consistent d) : Consistent left := by
  cases h with
  | nothing h => exact hd
  | ended h hended => exact hd.congr rfl rfl
  | awaited h hflight hleft => exact hd.congr (by simp [hleft]) (by simp [hleft])

theorem Course.consistent {action : Action} {outcome : Outcome}
    (h : Course d action transcript outcome left) (hd : Consistent d) : Consistent left := by
  cases h with
  | search h => exact h.consistent hd
  | claim h => exact h.consistent hd
  | applyConfirmed => exact hd.settleSnapshot
  | settle h => exact h.consistent hd
  | dispose => exact hd.congr rfl rfl
  | pause => exact hd.congr (by simp) (by simp)

theorem consistent_of_leads {links : ClaimLinks} {past : List Episode}
    (h : Dialogue.Leads Action.perform { links := links } past d) : Consistent d :=
  h.keeps (fun _ d => Consistent d) (consistent_start links)
    fun _ _ hd he => (course_of_possible he).consistent hd

/-- The receipts that confirmations were answered with. -/
def receipts (transcript : List (Exchange Question Answer)) : List Receipt :=
  transcript.filterMap fun
    | ⟨.confirm _, answer⟩ => answer.reply.toOption
    | _ => none

/-- A claim that was sent straight to the chain and mined. -/
def Mined (action : Action) (transcript : List (Exchange Question Answer)) (outcome : Outcome) :
    Prop :=
  action = .claim ∧ ∃ receipt link, receipts transcript = [receipt] ∧
    outcome = .state (.ok (.confirmed receipt.transaction link))

/-- What becomes of the snapshot without a search: it stays, or it is settled. -/
theorem Course.settled {action : Action} {outcome : Outcome}
    (h : Course d action transcript outcome left) (hother : ∀ account, action ≠ .search account) :
    left.snapshot = d.snapshot ∨
      (left.snapshot = d.snapshot.map Snapshot.settle ∧
        (action = .applyConfirmed ∨ Mined action transcript outcome)) := by
  cases h with
  | search h => exact absurd rfl (hother _)
  | claim h =>
    cases h with
    | disposed h => exact Or.inl rfl
    | unsearched h hready => exact Or.inl rfl
    | exhausted h hready hknown hnone => exact Or.inl rfl
    | walletless h => exact Or.inl (by simp [Desk.publish])
    | proposed h hleft => exact Or.inl (by simp [hleft, Desk.proposed, Desk.startProposal])
    | unsent h => exact Or.inl (by simp [Desk.claimFailed, Desk.publish])
    | unconfirmed h => exact Or.inl (by simp [Desk.claimFailed, Desk.publish])
    | @confirmed _ _ _ receipt _ _ _ _ _ h hleft =>
      refine Or.inr ⟨by simp [hleft, Desk.confirmed, Desk.settleSnapshot], Or.inr ⟨rfl, ?_⟩⟩
      exact ⟨receipt, _, rfl, by rw [hleft, Desk.confirmed]⟩
  | applyConfirmed => exact Or.inr ⟨rfl, Or.inl rfl⟩
  | settle h =>
    cases h with
    | nothing h => exact Or.inl rfl
    | ended h hended => exact Or.inl rfl
    | awaited h hflight hleft => exact Or.inl (by simp [hleft])
  | dispose => exact Or.inl rfl
  | pause => exact Or.inl (by simp)

/-- What an action other than a search may do to the snapshot. -/
structure KeepsSnapshot (e : Episode) : Prop where
  changed : e.after.snapshot ≠ e.before.snapshot →
    e.action = .applyConfirmed ∨ Mined e.action e.transcript e.outcome
  entitlement : e.after.snapshot.map Snapshot.entitlement =
    e.before.snapshot.map Snapshot.entitlement

theorem Course.keepsSnapshot {e : Episode}
    (h : Course e.before e.action e.transcript e.outcome e.after)
    (hother : ∀ account, e.action ≠ .search account) : KeepsSnapshot e := by
  rcases h.settled hother with hsame | ⟨hsettled, hcause⟩
  · exact ⟨fun hchanged => absurd hsame hchanged, by rw [hsame]⟩
  · refine ⟨fun _ => hcause, ?_⟩
    rw [hsettled, Option.map_map]
    rfl

/-- In every run, whatever is answered, the desk is consistent around every action, and without a
search the snapshot keeps its entitlement and changes only when a claim counts as paid out. -/
theorem consistent_of_history {σ : Type} (answer : (q : Question) → σ → Answer q × σ) (s : σ)
    (links : ClaimLinks) (actions : List Action) (past later : List Episode) (e : Episode)
    (h : history answer { links := links } s actions = past ++ e :: later) :
    Consistent e.before ∧ Consistent e.after ∧
      ((∀ account, e.action ≠ .search account) → KeepsSnapshot e) := by
  obtain ⟨hlead, he⟩ := Dialogue.leads_of_history h
  exact ⟨consistent_of_leads hlead, consistent_of_leads (hlead.next he),
    (course_of_possible he).keepsSnapshot⟩

theorem consistent_of_mined :
    ∃ search claim : Episode,
      history Rehearsal.ClaimStage.answer { links := ⟨"", "", ""⟩ }
          (publishingStage (Word.ofNat 20 1)) [.search (Word.ofNat 20 1), .claim] =
        [search, claim] ∧
      claim.before.state = .ready ∧ claim.after.state.isSettled = true ∧
      claim.after.snapshot ≠ claim.before.snapshot ∧
      Consistent claim.before ∧ Consistent claim.after ∧ KeepsSnapshot claim := by
  refine ⟨_, _, rfl, by decide, by decide, by decide, ?_⟩
  obtain ⟨hbefore, hafter, hkept⟩ := consistent_of_history Rehearsal.ClaimStage.answer
    (publishingStage (Word.ofNat 20 1)) ⟨"", "", ""⟩ [.search (Word.ofNat 20 1), .claim] [_] [] _ rfl
  exact ⟨hbefore, hafter, hkept (by simp)⟩

end Claim

end ClusterDesk
