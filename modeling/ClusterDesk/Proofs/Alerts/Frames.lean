import ClusterDesk.Proofs.Alerts.Coherence
import ClusterDesk.Proofs.Alerts.Signatures

/-!
# Frames of failed actions

An action that fails leaves the desk as it found it, but for a notice. Only a save may have
committed the threshold that was typed, and a test changes nothing else even when it succeeds.
-/

namespace ClusterDesk.Alerts

/-- Why an action failed, if it did. -/
def Outcome.failure? : Outcome → Option Failure
  | .summary (.error failure) => some failure
  | .unit (.error failure) => some failure
  | .days (.error failure) => some failure
  | .switched (.error failure) => some failure
  | _ => none

/-- The two desks differ in the notice at most. -/
def Desk.SameButNotice (d left : Desk) : Prop :=
  ∃ notice, left = { d with notice := notice }

/-- The draft with the typed threshold in the place of the committed one, and nothing else changed. -/
def Desk.thresholdCommitted (d : Desk) : Desk :=
  { d with
    draft := { d.draft with
      days := Threshold.coerce d.draft.typedDays
      typedDays := toString (Threshold.coerce d.draft.typedDays) } }

/-- A save of this desk passes the checks of the form and of the clusters. -/
def Desk.MaySave (d : Desk) : Prop :=
  d.owner.isSome = true ∧ d.state.formOpen = true ∧
    ∃ summary, d.summary = some summary ∧ 0 < summary.activeClusters

variable {d left : Desk} {network : Network} {transcript : List (Exchange Question Reply)}

theorem Desk.SameButNotice.refl (d : Desk) : d.SameButNotice d :=
  ⟨d.notice, rfl⟩

theorem Desk.maySave_of_checks {owner : Address} (hform : d.requireForm = .ok owner)
    (hactive : d.hasActiveClusters = true) : d.MaySave := by
  obtain ⟨howner, hopen⟩ := (d.requireForm_eq_ok owner).mp hform
  refine ⟨by simp [howner], hopen, ?_⟩
  cases hsummary : d.summary with
  | none => simp [hasActiveClusters, hsummary] at hactive
  | some summary =>
    refine ⟨summary, rfl, ?_⟩
    simpa [hasActiveClusters, hsummary, Summary.hasActiveClusters] using hactive

theorem NoticeCourse.sameButNotice {success : Option String} {result : Except Failure Unit}
    (h : NoticeCourse d success result transcript left) : d.SameButNotice left :=
  h.frame

theorem ErrandCourse.sameButNotice {α : Type} {owner : Address} {payload success : Option String}
    {request : OwnershipProof → Except Failure α → Exchange Question Reply} {finish : α → Desk}
    {failure : Failure}
    (h : ErrandCourse d owner payload request finish success transcript (.error failure, left)) :
    d.SameButNotice left := by
  cases h with
  | unproven hproof hnotice => exact hnotice.sameButNotice
  | failed hproof hnotice => exact hnotice.sameButNotice

theorem TestCourse.sameButNotice {channel : Channel} {result : Except Failure Unit}
    (h : TestCourse d channel transcript (result, left)) : d.SameButNotice left := by
  cases h with
  | barred hbarred => exact .refl d
  | incomplete howner hchannel hnotice => exact hnotice.sameButNotice
  | tried howner hchannel hnotice => exact hnotice.sameButNotice

theorem ViewCourse.sameButNotice {failure : Failure} (hd : Coherent d)
    (h : ViewCourse d network transcript (.error failure, left)) : d.SameButNotice left := by
  cases h with
  | barred hbarred => exact .refl d
  | tried hstored herrand =>
    rw [hd.rested_eq] at herrand
    exact herrand.sameButNotice

theorem DeleteCourse.sameButNotice {failure : Failure} (hd : Coherent d)
    (h : DeleteCourse d transcript (.error failure, left)) : d.SameButNotice left := by
  cases h with
  | barred hbarred => exact .refl d
  | tried hstored herrand =>
    rw [hd.rested_eq] at herrand
    exact herrand.sameButNotice

/-- A save fails behind its checks with the threshold committed, or at them with nothing done. -/
theorem SaveCourse.failed {failure : Failure} (hd : Coherent d)
    (h : SaveCourse d network transcript (.error failure, left)) :
    (d.MaySave ∧ d.thresholdCommitted.SameButNotice left) ∨
      (¬d.MaySave ∧ d.SameButNotice left) := by
  cases h with
  | barred hbarred =>
    refine Or.inr ⟨?_, .refl d⟩
    rintro ⟨howner, hopen, -⟩
    obtain ⟨owner, howner⟩ := Option.isSome_iff_exists.mp howner
    have hform := (d.requireForm_eq_ok owner).mpr ⟨howner, hopen⟩
    simp [hbarred] at hform
  | inactive hform hactive hnotice =>
    refine Or.inr ⟨?_, hnotice.sameButNotice⟩
    rintro ⟨-, -, summary, hsummary, hpositive⟩
    simp [Desk.hasActiveClusters, hsummary, Summary.hasActiveClusters, hpositive] at hactive
  | incomplete hform hactive hchannel hnotice =>
    exact Or.inl ⟨Desk.maySave_of_checks hform hactive, hnotice.sameButNotice⟩
  | @tried owner _ _ hform hactive hchannel herrand =>
    have hopen := ((d.requireForm_eq_ok owner).mp hform).2
    have hcommitted : Coherent d.committed := hd.redraft hopen d.draft.allowed_commitDays
    rw [hcommitted.rested_eq] at herrand
    exact Or.inl ⟨Desk.maySave_of_checks hform hactive, herrand.sameButNotice⟩

namespace Desk

/-- An operation that fails has left the desk alone. -/
def Untouched {α : Type} (d : Desk) (told : Except Failure α × Desk) : Prop :=
  told.2 = d ∨ ∃ a, told.1 = .ok a

theorem startConfiguration_course (d : Desk) :
    (∃ failure, d.startConfiguration = (.error failure, d)) ∨
      d.startConfiguration = (.ok (), { d with state := .nothingStored true }) := by
  unfold startConfiguration
  split
  · exact Or.inl ⟨_, rfl⟩
  · split
    · exact Or.inl ⟨_, rfl⟩
    · split
      · exact Or.inr rfl
      · exact Or.inl ⟨_, rfl⟩

theorem untouched_startConfiguration (d : Desk) : d.Untouched d.startConfiguration := by
  rcases d.startConfiguration_course with ⟨failure, hfailed⟩ | hstarted
  · exact Or.inl (by rw [hfailed])
  · exact Or.inr ⟨(), by rw [hstarted]⟩

theorem untouched_edit (d : Desk) (change : Draft → Draft) : d.Untouched (d.edit change) := by
  unfold edit
  split
  · exact Or.inl rfl
  · exact Or.inr ⟨_, rfl⟩

theorem untouched_commitDays (d : Desk) : d.Untouched d.commitDays := by
  unfold commitDays
  split
  · exact Or.inl rfl
  · exact Or.inr ⟨_, rfl⟩

theorem untouched_toggleReport (d : Desk) (network : Network) (report : Report) :
    d.Untouched (d.toggleReport network report) := by
  unfold toggleReport
  split
  · exact Or.inl rfl
  · split
    · exact Or.inl rfl
    · exact Or.inr ⟨_, rfl⟩

theorem Untouched.sameButNotice {α : Type} {told : Except Failure α × Desk}
    (h : d.Untouched told) (hfailed : ∀ a, told.1 ≠ .ok a) : d.SameButNotice told.2 := by
  rcases h with hsame | ⟨a, hok⟩
  · rw [hsame]
    exact .refl d
  · exact absurd hok (hfailed a)

end Desk

theorem Course.sameButNotice {action : Action} {outcome : Outcome} (hd : Coherent d)
    (h : Course d network action transcript outcome left)
    (hfailed : outcome.failure?.isSome = true) (hconnect : ∀ owner, action ≠ .connect owner)
    (hsave : action ≠ .save) : d.SameButNotice left := by
  cases h with
  | unconnected => exact absurd rfl (hconnect _)
  | connected => exact absurd rfl (hconnect _)
  | disconnect => simp [Outcome.failure?] at hfailed
  | start =>
    refine d.untouched_startConfiguration.sameButNotice fun a hok => ?_
    simp [hok, Outcome.failure?] at hfailed
  | @view _ result _ h =>
    cases result with
    | ok => simp [Outcome.failure?] at hfailed
    | error failure => exact h.sameButNotice hd
  | save h => exact absurd rfl hsave
  | @delete _ result _ h =>
    cases result with
    | ok => simp [Outcome.failure?] at hfailed
    | error failure => exact h.sameButNotice hd
  | test h => exact h.sameButNotice
  | testDrafted h => exact h.sameButNotice
  | @edit _ change hchange =>
    refine (d.untouched_edit change).sameButNotice fun a hok => ?_
    simp [hok, Outcome.failure?] at hfailed
  | commitDays =>
    refine d.untouched_commitDays.sameButNotice fun a hok => ?_
    simp [hok, Outcome.failure?] at hfailed
  | @toggleReport report =>
    refine (d.untouched_toggleReport network report).sameButNotice fun a hok => ?_
    simp [hok, Outcome.failure?] at hfailed

theorem Course.saved {outcome : Outcome} (hd : Coherent d)
    (h : Course d network .save transcript outcome left)
    (hfailed : outcome.failure?.isSome = true) :
    (d.MaySave ∧ d.thresholdCommitted.SameButNotice left) ∨
      (¬d.MaySave ∧ d.SameButNotice left) := by
  obtain ⟨result, rfl, hcourse⟩ := h.exists_save
  cases result with
  | ok => simp [Outcome.failure?] at hfailed
  | error failure => exact hcourse.failed hd

/-- The actions that send a test alert. -/
def Action.isTest : Action → Bool
  | .test _ => true
  | .testDrafted => true
  | _ => false

theorem Course.tested {action : Action} {outcome : Outcome}
    (h : Course d network action transcript outcome left) (htest : action.isTest = true) :
    d.SameButNotice left := by
  cases h with
  | test h => exact h.sameButNotice
  | testDrafted h => exact h.sameButNotice
  | edit hchange => cases action <;> simp [Action.isTest, Action.change?] at htest hchange
  | _ => simp [Action.isTest] at htest

/-- What an action leaves alone. -/
structure Framed (e : Episode) : Prop where
  /-- A failure changes the notice at most; connecting and saving are apart. -/
  failed : e.outcome.failure?.isSome = true → (∀ owner, e.action.2 ≠ .connect owner) →
    e.action.2 ≠ .save → e.before.SameButNotice e.after
  /-- A save that fails has committed the typed threshold once it was past its checks. -/
  saved : e.action.2 = .save → e.outcome.failure?.isSome = true →
    (e.before.MaySave ∧ e.before.thresholdCommitted.SameButNotice e.after) ∨
      (¬e.before.MaySave ∧ e.before.SameButNotice e.after)
  /-- A test changes the notice at most, whatever comes of it. -/
  tested : e.action.2.isTest = true → e.before.SameButNotice e.after
  resting : e.after.errand = none

/-- In every run, whatever is answered, an action that fails leaves the desk as it found it. -/
theorem framed_of_history {σ : Type} (answer : (q : Question) → σ → Reply q × σ) (s : σ)
    (actions : List (Network × Action)) (past later : List Episode) (e : Episode)
    (h : history answer {} s actions = past ++ e :: later) : Framed e := by
  obtain ⟨hlead, he⟩ := Dialogue.leads_of_history h
  have hbefore := coherent_of_leads hlead
  have hcourse := course_of_possible he
  constructor
  case failed => exact hcourse.sameButNotice hbefore
  case saved =>
    intro hsave
    rw [hsave] at hcourse
    exact hcourse.saved hbefore
  case tested => exact hcourse.tested
  case resting => exact (coherent_of_leads (hlead.next he)).errand

/-- Looks at the stored configuration, empties its channel, types a threshold and tries to save. -/
def unfinished : List (Network × Action) :=
  [(.mainnet, .connect (Word.ofNat 20 1)), (.mainnet, .view), (.mainnet, .setWebhook " "),
    (.mainnet, .typeDays "45"), (.mainnet, .save)]

/-- A save without a channel fails with the typed threshold committed and all else as it was. -/
theorem framed_of_unfinished :
    ∃ connect view empty type save : Episode,
      history Rehearsal.AlertStage.answer {} resaveStage unfinished =
        [connect, view, empty, type, save] ∧
      save.outcome.failure? = some incompleteChannelFailure ∧ save.before.draft.days = 10 ∧
      save.after.draft = { save.before.draft with days := 45, typedDays := "45" } ∧ Framed save :=
  ⟨_, _, _, _, _, rfl, by decide, by decide, by decide,
    framed_of_history Rehearsal.AlertStage.answer resaveStage unfinished [_, _, _, _] [] _ rfl⟩

end ClusterDesk.Alerts
