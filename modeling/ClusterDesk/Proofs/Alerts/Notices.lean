import ClusterDesk.Proofs.Alerts.Frames

/-!
# Error notices

A desk has an error notice because an action failed, and the notice tells of that failure until
another one is raised or the desk forgets it.
-/

namespace ClusterDesk.Alerts

/-- An action failed, and the message of its failure is shown as a text. -/
def Outcome.FailedAs (outcome : Outcome) (text : String) : Prop :=
  ∃ failure, outcome.failure? = some failure ∧ text = shorten failure.message

variable {d left : Desk} {network : Network} {action : Action} {outcome : Outcome}
  {transcript : List (Exchange Question Reply)} {notice : Notice}

theorem NoticeCourse.raised {success : Option String} {result : Except Failure Unit}
    (h : NoticeCourse d success result transcript left) (hnotice : left.notice = some notice)
    (herror : notice.success = false) :
    d.notice = some notice ∨ (Outcome.unit result).FailedAs notice.text := by
  cases h with
  | failed =>
    obtain rfl := Option.some.inj hnotice
    exact Or.inr ⟨_, rfl, rfl⟩
  | announced htext =>
    obtain rfl := Option.some.inj hnotice
    cases herror
  | quiet hnone => exact Or.inl hnotice

theorem ErrandCourse.raised {α : Type} {owner : Address} {payload success : Option String}
    {request : OwnershipProof → Except Failure α → Exchange Question Reply} {finish : α → Desk}
    {result : Except Failure Unit}
    (h : ErrandCourse d owner payload request finish success transcript (result, left))
    (hfinish : ∀ named, (finish named).notice = d.notice) (hnotice : left.notice = some notice)
    (herror : notice.success = false) :
    d.notice = some notice ∨ (Outcome.unit result).FailedAs notice.text := by
  cases h with
  | unproven hproof hcourse => exact hcourse.raised hnotice herror
  | failed hproof hcourse => exact hcourse.raised hnotice herror
  | @done _ _ _ named _ hproof hcourse =>
    rw [← hfinish named]
    exact hcourse.raised hnotice herror

theorem ViewCourse.raised {result : Except Failure Unit}
    (h : ViewCourse d network transcript (result, left)) (hnotice : left.notice = some notice)
    (herror : notice.success = false) :
    d.notice = some notice ∨ (Outcome.unit result).FailedAs notice.text := by
  cases h with
  | barred hbarred => exact Or.inl hnotice
  | tried hgate herrand => exact herrand.raised (fun _ => rfl) hnotice herror

theorem SaveCourse.raised {result : Except Failure Unit}
    (h : SaveCourse d network transcript (result, left)) (hnotice : left.notice = some notice)
    (herror : notice.success = false) :
    d.notice = some notice ∨ (Outcome.unit result).FailedAs notice.text := by
  cases h with
  | barred hbarred => exact Or.inl hnotice
  | inactive hform hactive hcourse => exact hcourse.raised hnotice herror
  | incomplete hform hactive hchannel hcourse => exact hcourse.raised hnotice herror
  | tried hform hactive hchannel herrand => exact herrand.raised (fun _ => rfl) hnotice herror

theorem DeleteCourse.raised {result : Except Failure Unit}
    (h : DeleteCourse d transcript (result, left)) (hnotice : left.notice = some notice)
    (herror : notice.success = false) :
    d.notice = some notice ∨ (Outcome.unit result).FailedAs notice.text := by
  cases h with
  | barred hbarred => exact Or.inl hnotice
  | tried hgate herrand => exact herrand.raised (fun _ => rfl) hnotice herror

theorem TestCourse.raised {channel : Channel} {result : Except Failure Unit}
    (h : TestCourse d channel transcript (result, left)) (hnotice : left.notice = some notice)
    (herror : notice.success = false) :
    d.notice = some notice ∨ (Outcome.unit result).FailedAs notice.text := by
  cases h with
  | barred hbarred => exact Or.inl hnotice
  | incomplete howner hchannel hcourse => exact hcourse.raised hnotice herror
  | tried howner hchannel hcourse => exact hcourse.raised hnotice herror

theorem Course.raised (h : Course d network action transcript outcome left)
    (hnotice : left.notice = some notice) (herror : notice.success = false) :
    d.notice = some notice ∨ outcome.FailedAs notice.text := by
  cases h with
  | unconnected =>
    obtain rfl := Option.some.inj hnotice
    exact Or.inr ⟨_, rfl, rfl⟩
  | connected => cases hnotice
  | disconnect => cases hnotice
  | start =>
    obtain ⟨state, hleft⟩ := d.startConfiguration_frame
    rw [hleft] at hnotice
    exact Or.inl hnotice
  | view h => exact h.raised hnotice herror
  | save h => exact h.raised hnotice herror
  | delete h => exact h.raised hnotice herror
  | test h => exact h.raised hnotice herror
  | testDrafted h => exact h.raised hnotice herror
  | @edit _ change hchange =>
    obtain ⟨draft, hleft⟩ := d.edit_frame change
    rw [hleft] at hnotice
    exact Or.inl hnotice
  | commitDays =>
    obtain ⟨draft, hleft⟩ := d.commitDays_frame
    rw [hleft] at hnotice
    exact Or.inl hnotice
  | @toggleReport report =>
    obtain ⟨draft, hleft⟩ := d.toggleReport_frame network report
    rw [hleft] at hnotice
    exact Or.inl hnotice

/-- An error notice has been there since an action that failed. -/
theorem failedAs_of_leads {past : List Episode} (h : Dialogue.Leads performOn {} past d)
    (hnotice : d.notice = some notice) (herror : notice.success = false) :
    ∃ earlier e since, past = earlier ++ e :: since ∧ e.outcome.FailedAs notice.text ∧
      ∀ x ∈ e :: since, x.after.notice = some notice := by
  refine h.exists_cause (P := fun d => d.notice = some notice) ?_ ?_ hnotice
  · intro hstart
    cases hstart
  · intro e he hafter
    exact (course_of_possible he).raised hafter herror

end ClusterDesk.Alerts
