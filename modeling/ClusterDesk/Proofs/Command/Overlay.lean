import ClusterDesk.Command.Run
import ClusterDesk.Proofs.Alerts.Channels
import ClusterDesk.Proofs.Alerts.Courses

/-!
# What is said over an open form

Whatever was said replaces what the form had, and the named reports are switched on besides. So a
save without a method keeps that of the form, where a test would go by the fields that are named.
-/

namespace ClusterDesk

namespace Reports

theorem get_set (reports : Reports) (switched other : Report) (on : Bool) :
    (reports.set switched on).get other = if other = switched then on else reports.get other := by
  cases switched <;> cases other <;> rfl

theorem set_get (reports : Reports) (report : Report) :
    reports.set report (reports.get report) = reports := by
  cases report <;> rfl

/-- The reports with some more switched on. -/
def adding (reports : Reports) (more : List Report) : Reports :=
  more.foldl (fun reports report => reports.set report true) reports

end Reports

/-- Two channels of one method, with one address up to the blanks around the fields. -/
def Channel.SameAddress (a b : Channel) : Prop :=
  a.method = b.method ∧ a.trimmed.wire = b.trimmed.wire

namespace Command

/-- The form with all that was said laid over it. -/
def ChannelFlags.overlay (f : ChannelFlags) (draft : Draft) : Draft where
  method := f.method.getD draft.method
  webhook := f.webhook.getD draft.webhook
  token := f.token.getD draft.token
  chat := f.chat.getD draft.chat
  days := (f.days.map Threshold.coerce).getD draft.days
  typedDays := (f.days.map fun text => toString (Threshold.coerce text)).getD draft.typedDays
  reports := draft.reports.adding f.reports

section Open

variable {d : Alerts.Desk} {owner : Address} (hopen : d.requireForm = .ok owner)

include hopen

theorem given_edit (value : Option α) (put : α → Draft → Draft) {draft : Draft} {was : α}
    (hwas : put was draft = draft) :
    given value (fun a d => d.edit (put a)) { d with draft := draft } =
      .ok { d with draft := put (value.getD was) draft } := by
  have hstill : ({ d with draft := draft } : Alerts.Desk).requireForm = .ok owner := hopen
  cases value with
  | none => simp only [given, Option.getD_none, hwas]
  | some a => simp only [given, changed, Alerts.Desk.edit, hstill, Option.getD_some]

theorem given_setMethod (value : Option Method) (draft : Draft) :
    given value (fun a d => d.setMethod a) { d with draft := draft } =
      .ok { d with draft := { draft with method := value.getD draft.method } } :=
  given_edit hopen value (fun a draft => { draft with method := a }) rfl

theorem given_setWebhook (value : Option String) (draft : Draft) :
    given value (fun text d => d.setWebhook text) { d with draft := draft } =
      .ok { d with draft := { draft with webhook := value.getD draft.webhook } } :=
  given_edit hopen value (fun text draft => { draft with webhook := text }) rfl

theorem given_setToken (value : Option String) (draft : Draft) :
    given value (fun text d => d.setToken text) { d with draft := draft } =
      .ok { d with draft := { draft with token := value.getD draft.token } } :=
  given_edit hopen value (fun text draft => { draft with token := text }) rfl

theorem given_setChat (value : Option String) (draft : Draft) :
    given value (fun text d => d.setChat text) { d with draft := draft } =
      .ok { d with draft := { draft with chat := value.getD draft.chat } } :=
  given_edit hopen value (fun text draft => { draft with chat := text }) rfl

theorem given_typeDays (value : Option String) (draft : Draft) :
    given value (fun text d => d.typeDays text) { d with draft := draft } =
      .ok { d with draft := { draft with typedDays := value.getD draft.typedDays } } :=
  given_edit hopen value (fun text draft => { draft with typedDays := text }) rfl

theorem given_commitDays (value : Option α) (draft : Draft) :
    given value (fun _ d => d.commitDays) { d with draft := draft } =
      .ok { d with draft := value.elim draft fun _ => draft.commitDays } := by
  have hstill : ({ d with draft := draft } : Alerts.Desk).requireForm = .ok owner := hopen
  cases value with
  | none => rfl
  | some a => simp only [given, changed, Alerts.Desk.commitDays, hstill, Option.elim]

theorem enableReport_eq (network : Network) (report : Report) :
    enableReport network d report =
      if d.draft.reports.get report = true ∨ report.availableOn network = true then
        .ok { d with draft := { d.draft with reports := d.draft.reports.set report true } }
      else .error (Alerts.unavailableReportFailure report network) := by
  unfold enableReport
  cases hon : d.draft.reports.get report with
  | true =>
    have hsame : d.draft.reports.set report true = d.draft.reports := by
      rw [← hon, Reports.set_get]
    simp only [reduceIte, true_or, hsame]
  | false =>
    cases havailable : report.availableOn network with
    | true => simp [changed, Alerts.Desk.toggleReport, hopen, havailable, Reports.toggle, hon]
    | false => simp [changed, Alerts.Desk.toggleReport, hopen, havailable]

/-- The named reports are switched on one by one, unless one of them is off and not offered. -/
theorem foldlM_enableReport_eq_ok_iff (network : Network) (reports : List Report)
    (switched : Alerts.Desk) :
    reports.foldlM (enableReport network) d = .ok switched ↔
      (∀ report ∈ reports,
          d.draft.reports.get report = true ∨ report.availableOn network = true) ∧
        switched =
          { d with draft := { d.draft with reports := d.draft.reports.adding reports } } := by
  induction reports generalizing d with
  | nil =>
    constructor
    · intro h
      exact ⟨by simp, (Except.ok.inj h).symm⟩
    · rintro ⟨-, rfl⟩
      rfl
  | cons report rest ih =>
    rw [List.foldlM_cons, enableReport_eq hopen, List.forall_mem_cons]
    split
    case isTrue hreport =>
      have hnext : ({ d with draft := { d.draft with
          reports := d.draft.reports.set report true } } : Alerts.Desk).requireForm = .ok owner :=
        hopen
      -- Switching the first one on makes no other report worse off.
      have hrest : ∀ other, ((d.draft.reports.set report true).get other = true ∨
          other.availableOn network = true) ↔
            d.draft.reports.get other = true ∨ other.availableOn network = true := by
        intro other
        rw [Reports.get_set]
        split
        case isTrue hsame => simp [hsame, hreport]
        case isFalse => rfl
      rw [and_iff_right hreport]
      refine (ih hnext).trans ?_
      simp only [hrest]
      rfl
    case isFalse hreport =>
      simp [hreport, bind, Except.bind]

theorem ChannelFlags.applyTo_eq (f : ChannelFlags) (network : Network) :
    f.applyTo network d =
      f.reports.foldlM (enableReport network)
        { d with draft := { f.overlay d.draft with reports := d.draft.reports } } := by
  simp only [applyTo, given_setMethod hopen, given_setWebhook hopen, given_setToken hopen,
    given_setChat hopen, given_typeDays hopen, given_commitDays hopen, bind, Except.bind]
  cases hdays : f.days with
  | none => simp only [overlay, hdays, Option.elim, Option.getD, Option.map]
  | some text => simp only [overlay, hdays, Option.elim, Option.getD, Option.map]; rfl

theorem ChannelFlags.applyTo_eq_ok_iff (f : ChannelFlags) (network : Network)
    (drafted : Alerts.Desk) :
    f.applyTo network d = .ok drafted ↔
      (∀ report ∈ f.reports,
          d.draft.reports.get report = true ∨ report.availableOn network = true) ∧
        drafted = { d with draft := f.overlay d.draft } := by
  have hfields : ({ d with draft := { f.overlay d.draft with reports := d.draft.reports } } :
      Alerts.Desk).requireForm = .ok owner := hopen
  rw [f.applyTo_eq hopen network]
  exact foldlM_enableReport_eq_ok_iff hfields network f.reports drafted

end Open

theorem requireForm_of_startConfiguration {d : Alerts.Desk}
    (hstarted : d.startConfiguration.1 = .ok ()) :
    ∃ owner, d.startConfiguration.2.requireForm = .ok owner := by
  unfold Alerts.Desk.startConfiguration at *
  split at hstarted
  case h_1 => simp at hstarted
  case h_2 owner howner =>
    split at hstarted
    case isTrue => simp at hstarted
    case isFalse hactive =>
      split at hstarted
      case h_1 editing hstate =>
        have hknown := ((d.requireOwner_eq_ok owner).mp howner).1
        refine ⟨owner, ?_⟩
        simp only [hactive, Alerts.Desk.requireForm_eq_ok]
        exact ⟨hknown, rfl⟩
      case h_2 => simp at hstarted

namespace ChannelFlags

/-- A field of a bot is named, and no method. -/
def LeavesMethodOpen (f : ChannelFlags) : Prop :=
  f.method = none ∧ (f.token.isSome = true ∨ f.chat.isSome = true)

theorem trimmed_channel_of_named {f : ChannelFlags} (h : ¬ f.LeavesMethodOpen) :
    f.channel.trimmed = (f.overlay {}).channel := by
  have hmethod : f.method.getD (if f.token.isSome || f.chat.isSome then .telegram else .discord) =
      f.method.getD .discord := by
    cases hnamed : f.method with
    | none =>
      have hfields : ¬ (f.token.isSome = true ∨ f.chat.isSome = true) := fun hfield =>
        h ⟨hnamed, hfield⟩
      simp [hfields]
    | some method => rfl
  simp only [channel, hmethod, Draft.channel, overlay]
  cases f.method.getD .discord with
  | discord => rfl
  | telegram => rfl

theorem channels_of_leavesMethodOpen {f : ChannelFlags} (h : f.LeavesMethodOpen) :
    f.channel = .telegram (f.token.getD "") (f.chat.getD "") ∧
      (f.overlay {}).channel = .discord (Text.trim (f.webhook.getD "")) := by
  obtain ⟨hmethod, hfields⟩ := h
  simp [channel, Draft.channel, overlay, hmethod, hfields]

theorem sameAddress_overlay_iff (f : ChannelFlags) :
    f.channel.SameAddress (f.overlay {}).channel ↔ ¬ f.LeavesMethodOpen := by
  by_cases h : f.LeavesMethodOpen
  case pos =>
    obtain ⟨hprobed, hdrafted⟩ := channels_of_leavesMethodOpen h
    rw [Channel.SameAddress, hprobed, hdrafted]
    simp [h, Channel.method]
  case neg =>
    have htrimmed := trimmed_channel_of_named h
    refine iff_of_true ⟨?_, ?_⟩ h
    · rw [← htrimmed]
      cases f.channel <;> rfl
    · rw [← htrimmed, htrimmed, Draft.trimmed_channel]

/-- The channel that a test asks for and the one that a save drafts on an empty form are the same
but for blanks, unless a field of a bot is named without its method: then a test asks for the bot,
and the draft has a webhook. -/
theorem sameAddress_applyTo_iff {d : Alerts.Desk} (hempty : d.draft = {})
    (hstarted : d.startConfiguration.1 = .ok ()) (f : ChannelFlags) (network : Network) :
    ((∃ drafted, f.applyTo network d.startConfiguration.2 = .ok drafted) ↔
        ∀ report ∈ f.reports, report.availableOn network = true) ∧
      ∀ drafted, f.applyTo network d.startConfiguration.2 = .ok drafted →
        (f.channel.SameAddress drafted.draft.channel ↔ ¬ f.LeavesMethodOpen) := by
  obtain ⟨owner, hopen⟩ := requireForm_of_startConfiguration hstarted
  obtain ⟨state, hframe⟩ := d.startConfiguration_frame
  have hdraft : d.startConfiguration.2.draft = {} := by
    rw [hframe]
    exact hempty
  have hoff : ∀ report, ({} : Reports).get report = false := by
    intro report
    cases report <;> rfl
  constructor
  · simp [f.applyTo_eq_ok_iff hopen network, hdraft, hoff]
  · intro drafted happlied
    obtain ⟨-, rfl⟩ := (f.applyTo_eq_ok_iff hopen network drafted).mp happlied
    rw [hdraft]
    exact f.sameAddress_overlay_iff

/-- The desk of an owner with an active cluster and nothing stored. -/
def unconfigured : Alerts.Desk where
  owner := some default
  summary := some ⟨1, 1, false, 7⟩
  state := .nothingStored false

theorem sameAddress_of_webhook :
    unconfigured.draft = {} ∧ unconfigured.startConfiguration.1 = .ok () ∧
      ((∃ drafted, ChannelFlags.applyTo { webhook := some " hook\n" } .mainnet
          unconfigured.startConfiguration.2 = .ok drafted) ↔
        ∀ report ∈ ([] : List Report), report.availableOn .mainnet = true) ∧
      ∀ drafted, ChannelFlags.applyTo { webhook := some " hook\n" } .mainnet
          unconfigured.startConfiguration.2 = .ok drafted →
        ((ChannelFlags.channel { webhook := some " hook\n" }).SameAddress drafted.draft.channel ↔
          ¬ LeavesMethodOpen { webhook := some " hook\n" }) :=
  ⟨rfl, rfl, sameAddress_applyTo_iff rfl rfl { webhook := some " hook\n" } .mainnet⟩

/-- A token and a chat without a method: a test goes to the bot, the draft has an empty webhook. -/
theorem channels_differ_of_bot :
    let f : ChannelFlags := { token := some "bot", chat := some "42" }
    ∃ drafted, f.applyTo .mainnet unconfigured.startConfiguration.2 = .ok drafted ∧
      f.channel = .telegram "bot" "42" ∧ drafted.draft.channel = .discord "" ∧
      ¬ f.channel.SameAddress drafted.draft.channel := by
  refine ⟨_, rfl, rfl, rfl, ?_⟩
  rintro ⟨hmethod, -⟩
  exact absurd hmethod (by decide)

end ChannelFlags

end Command

end ClusterDesk
