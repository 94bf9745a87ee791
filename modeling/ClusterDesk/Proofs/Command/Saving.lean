import ClusterDesk.Proofs.Alerts.Resaving
import ClusterDesk.Proofs.Command.Overlay

/-!
# What a save command stores

A save command fetches the stored configuration, lays what was said over it and stores the outcome.
What was not said stays as it was stored, and a report that was on and is offered is never switched
off, however often it is named.
-/

namespace ClusterDesk

namespace Reports

theorem get_adding (reports : Reports) (more : List Report) (report : Report) :
    (reports.adding more).get report = true ↔ reports.get report = true ∨ report ∈ more := by
  induction more generalizing reports with
  | nil => simp [adding]
  | cons first rest ih =>
    have hstep : reports.adding (first :: rest) = (reports.set first true).adding rest := rfl
    rw [hstep, ih, get_set, List.mem_cons]
    by_cases hsame : report = first
    · simp [hsame]
    · simp [hsame]

theorem get_restrict (reports : Reports) (network : Network) (report : Report) :
    (reports.restrict network).get report = true ↔
      reports.get report = true ∧ report.availableOn network = true := by
  rw [restrict_eq]
  cases report <;> simp [get, Report.availableOn, Report.needsTelemetry]

end Reports

theorem AlertConfig.reports_toPayload (c : AlertConfig) (network : Network) :
    (c.toPayload network).reports = c.reports.restrict network :=
  rfl

/-- The fields of a method with nothing in them. -/
def Method.blankFields : Method → List String
  | .discord => [""]
  | .telegram => ["", ""]

/-- The fields that a payload has for a method: its own, or empty ones if it goes by the other. -/
inductive Payload.FieldsFor (p : Payload) (method : Method) : List String → Prop where
  | own {fields : List String} (h : method = .ofCode p.method) (hfields : p.Fields fields) :
      FieldsFor p method fields
  | blank (h : method ≠ .ofCode p.method) : FieldsFor p method method.blankFields

namespace Command.ChannelFlags

/-- What was said of the fields of a method. -/
def said (f : ChannelFlags) : Method → List (Option String)
  | .discord => [f.webhook]
  | .telegram => [f.token, f.chat]

/-- The method that is named, else that of a payload. -/
def methodOver (f : ChannelFlags) (p : Payload) : Method :=
  f.method.getD (.ofCode p.method)

/-- Each field of the method in force as it was said, else as the payload has it. -/
def Fields (f : ChannelFlags) (p : Payload) (fields : List String) : Prop :=
  ∃ stored, p.FieldsFor (f.methodOver p) stored ∧
    fields = List.zipWith Option.getD (f.said (f.methodOver p)) stored

/-- A payload is another one with what was said laid over it. -/
structure Overlays (f : ChannelFlags) (p : Payload) (network : Network) (fields : List String)
    (q : Payload) : Prop where
  method : q.method = (f.methodOver p).code
  laid : f.Fields p fields
  /-- The fields travel trimmed, joined by a comma. -/
  channel : q.channel = ",".intercalate (fields.map Text.trim)
  threshold : q.threshold.toNat = (f.days.map Threshold.coerce).getD
    (min (max p.threshold.toNat 10) ((UInt64.size - 1) / 7200))
  reports : ∀ report, q.reports.get report = true ↔
    (p.reports.get report = true ∧ report.availableOn network = true) ∨ report ∈ f.reports

end Command.ChannelFlags

open Command (ChannelFlags)

theorem Payload.Fields.unique {p : Payload} {fields others : List String} (h : p.Fields fields)
    (hothers : p.Fields others) : fields = others := by
  have hcomma {token chat : String} (hsplit : p.channel = token ++ "," ++ chat) :
      p.channel.toList = token.toList ++ ',' :: chat.toList := by
    simp [hsplit]
  cases h with
  | webhook hmethod =>
    cases hothers with
    | webhook => rfl
    | bot hother => exact absurd hmethod hother
    | unsplit hother => exact absurd hmethod hother
  | @bot token chat hmethod hsplit hfirst =>
    cases hothers with
    | webhook hother => exact absurd hother hmethod
    | @bot token' chat' hother hsplit' hfirst' =>
      have hparts := Channel.splitComma_append_comma token.toList chat.toList hfirst
      rw [← hcomma hsplit, hcomma hsplit',
        Channel.splitComma_append_comma token'.toList chat'.toList hfirst', Prod.mk.injEq,
        String.toList_inj, String.toList_inj] at hparts
      rw [hparts.1, hparts.2]
    | unsplit hother hnone => simp [hcomma hsplit] at hnone
  | unsplit hmethod hnone =>
    cases hothers with
    | webhook hother => exact absurd hother hmethod
    | bot hother hsplit => simp [hcomma hsplit] at hnone
    | unsplit => rfl

theorem Command.ChannelFlags.Fields.unique {f : ChannelFlags} {p : Payload}
    {fields others : List String} (h : f.Fields p fields) (hothers : f.Fields p others) :
    fields = others := by
  obtain ⟨stored, hstored, rfl⟩ := h
  obtain ⟨stored', hstored', rfl⟩ := hothers
  have hsame : stored = stored' := by
    cases hstored with
    | own hmethod hfields =>
      cases hstored' with
      | own hmethod' hfields' => exact hfields.unique hfields'
      | blank hother => exact absurd hmethod hother
    | blank hother =>
      cases hstored' with
      | own hmethod' hfields' => exact absurd hmethod' hother
      | blank hother' => rfl
  rw [hsame]

namespace Draft

/-- The fields of a method as they are typed. -/
def fieldsFor (d : Draft) : Method → List String
  | .discord => [d.webhook]
  | .telegram => [d.token, d.chat]

theorem fields_eq (d : Draft) : d.fields = d.fieldsFor d.method := by
  unfold fields fieldsFor
  cases d.method <;> rfl

variable (p : Payload) (network : Network)

theorem fieldsFor_ofPayload (method : Method) :
    p.FieldsFor method ((ofPayload p network).fieldsFor method) := by
  by_cases hmethod : method = .ofCode p.method
  · have hfields := fields_ofPayload p network
    rw [fields_eq, method_ofPayload, ← hmethod] at hfields
    exact .own hmethod hfields
  · have hblank : (ofPayload p network).fieldsFor method = method.blankFields := by
      unfold ofPayload load AlertConfig.ofPayload
      cases hcode : Method.ofCode p.method with
      | discord =>
        cases method with
        | discord => exact absurd hcode.symm hmethod
        | telegram => rfl
      | telegram =>
        cases method with
        | discord => rfl
        | telegram => exact absurd hcode.symm hmethod
    rw [hblank]
    exact .blank hmethod

end Draft

namespace Command.ChannelFlags

variable (f : ChannelFlags) (p : Payload) (network : Network)

theorem fields_overlay : f.Fields p (f.overlay (.ofPayload p network)).fields := by
  refine ⟨_, Draft.fieldsFor_ofPayload p network (f.methodOver p), ?_⟩
  have hmethod : (f.overlay (.ofPayload p network)).method = f.methodOver p := by
    rw [overlay, Draft.method_ofPayload, methodOver]
  rw [Draft.fields_eq, hmethod]
  cases f.methodOver p <;> rfl

theorem coerce_typedDays_overlay :
    Threshold.coerce (f.overlay (.ofPayload p network)).typedDays =
      (f.days.map Threshold.coerce).getD
        (min (max p.threshold.toNat 10) ((UInt64.size - 1) / 7200)) := by
  cases hdays : f.days with
  | none =>
    have htyped : (f.overlay (.ofPayload p network)).typedDays =
        (Draft.ofPayload p network).typedDays := by
      simp only [overlay, hdays, Option.map_none, Option.getD_none]
    rw [htyped, Draft.coerce_typedDays_ofPayload, Draft.days_ofPayload]
    rfl
  | some text =>
    have htyped : (f.overlay (.ofPayload p network)).typedDays =
        toString (Threshold.coerce text) := by
      simp only [overlay, hdays, Option.map_some, Option.getD_some]
    rw [htyped, Threshold.coerce_toString,
      Threshold.clamp_of_allowed (Threshold.allowed_coerce text)]
    rfl

theorem get_reports_overlay (havailable : ∀ report ∈ f.reports, report.availableOn network = true)
    (report : Report) :
    ((f.overlay (.ofPayload p network)).reports.restrict network).get report = true ↔
      (p.reports.get report = true ∧ report.availableOn network = true) ∨ report ∈ f.reports := by
  have hform : (f.overlay (.ofPayload p network)).reports =
      (p.reports.restrict network).adding f.reports := by
    rw [overlay, Draft.reports_ofPayload]
  rw [hform, Reports.get_restrict, Reports.get_adding, Reports.get_restrict]
  constructor
  · exact And.left
  · rintro (hstored | hsaid)
    · exact ⟨Or.inl hstored, hstored.2⟩
    · exact ⟨Or.inr hsaid, havailable report hsaid⟩

theorem overlays_toPayload (hcomplete : (f.overlay (.ofPayload p network)).channelComplete = true)
    (havailable : ∀ report ∈ f.reports, report.availableOn network = true) :
    f.Overlays p network (f.overlay (.ofPayload p network)).fields
      ((f.overlay (.ofPayload p network)).commitDays.config.toPayload network) := by
  have hstores := Draft.stores_commitDays network hcomplete
  constructor
  case method => rw [hstores.method, overlay, Draft.method_ofPayload, methodOver]
  case laid => exact f.fields_overlay p network
  case channel => exact hstores.channel.2
  case threshold => rw [hstores.typed, f.coerce_typedDays_overlay]
  case reports =>
    intro report
    rw [AlertConfig.reports_toPayload]
    exact f.get_reports_overlay p network havailable report

end Command.ChannelFlags

namespace Alerts

variable {d left : Desk} {network : Network} {viewing : List (Exchange Question Reply)}

theorem ViewCourse.opened (h : ViewCourse d network viewing (.ok (), left)) :
    ∃ owner envelope, d.requireStored = .ok owner ∧
      (∃ proof, ⟨.config proof, .ok envelope⟩ ∈ viewing) ∧
      left = d.rested.viewed network envelope ∧
      ∀ proof shown, ⟨.config proof, .ok shown⟩ ∈ viewing → shown = envelope := by
  cases h with
  | tried hgate herrand =>
    cases herrand with
    | @done _ _ proof envelope _ hproof hnotice =>
      have hnothing := hnotice.unsigned.requests
      cases hnotice with
      | announced hnone => cases hnone
      | quiet =>
        refine ⟨_, envelope, hgate, ⟨proof, List.mem_append_cons_self⟩, rfl, ?_⟩
        intro other shown hshown
        have hsame := eq_of_mem_between hproof.noRequest.1 hnothing hshown (Option.some_ne_none _)
        cases hsame
        rfl

theorem ViewCourse.unopened {failure : Failure}
    (h : ViewCourse d network viewing (.error failure, left)) (proof : OwnershipProof)
    (envelope : Envelope) : ⟨.config proof, .ok envelope⟩ ∉ viewing := by
  intro hshown
  cases h with
  | barred hbarred => simp at hshown
  | tried hgate herrand =>
    cases herrand with
    | unproven hproof hnotice =>
      rcases List.mem_append.mp hshown with hmem | hmem
      · have hnone := List.filterMap_eq_nil_iff.mp hproof.noRequest.1 _ hmem
        cases hnone
      · have hnone := List.filterMap_eq_nil_iff.mp hnotice.unsigned.requests _ hmem
        cases hnone
    | failed hproof hnotice =>
      have hsame := eq_of_mem_between hproof.noRequest.1 hnotice.unsigned.requests hshown
        (Option.some_ne_none _)
      simp at hsame

end Alerts

namespace Command

open Alerts (Desk Question Reply Summary ViewCourse SaveCourse Offers questions)

variable {network : Network} {owner : Address} {f : ChannelFlags}

/-- How a save goes on behind a summary that names a stored configuration. -/
inductive SavingCourse (network : Network) (f : ChannelFlags) (d : Desk) :
    List (Exchange Question Reply) → Prop where
  | unopened {failure : Failure} {viewing : List (Exchange Question Reply)} {left : Desk}
      (h : ViewCourse d network viewing (.error failure, left)) : SavingCourse network f d viewing
  | refused {failure : Failure} {viewing : List (Exchange Question Reply)} {opened : Desk}
      (h : ViewCourse d network viewing (.ok (), opened))
      (hrefused : f.applyTo network opened = .error failure) : SavingCourse network f d viewing
  | tried {viewing saving : List (Exchange Question Reply)} {opened drafted : Desk}
      {told : Except Failure Unit × Desk} (h : ViewCourse d network viewing (.ok (), opened))
      (hdrafted : f.applyTo network opened = .ok drafted)
      (hsave : SaveCourse drafted network saving told) :
      SavingCourse network f d (viewing ++ saving)

theorem monitorConnected_save_course {d : Desk} (hhidden : d.state = .storedHidden) :
    (monitorConnected network d (.save f)).Ensures fun asked _ => SavingCourse network f d asked := by
  simp only [monitorConnected, openForm, hhidden, Dialogue.andThen, Dialogue.ensures_bind,
    Dialogue.ensures_done]
  refine (Alerts.view_course d network).mono ?_
  rintro viewing ⟨result, opened⟩ hview
  cases result with
  | error failure =>
    simp only [changed, ofDesk, Dialogue.ensures_done, List.append_nil]
    exact .unopened hview
  | ok =>
    simp only [changed, ofDesk, List.append_nil]
    cases hdrafted : f.applyTo network opened with
    | error failure =>
      simp only [Dialogue.ensures_done, List.append_nil]
      exact .refused hview hdrafted
    | ok drafted =>
      simp only [Dialogue.ensures_bind, Dialogue.ensures_done, List.append_nil]
      refine (Alerts.save_course drafted network).mono ?_
      intro saving told hsave
      exact .tried hview hdrafted hsave

variable {d opened drafted : Desk} {asked : List (Exchange Question Reply)}

theorem requireForm_opened (hgate : d.requireStored = .ok owner) (shown : Network)
    (envelope : Alerts.Envelope) : (d.rested.viewed shown envelope).requireForm = .ok owner := by
  obtain ⟨howner, -⟩ := (d.requireStored_eq_ok owner).mp hgate
  exact (Desk.requireForm_eq_ok _ owner).mpr ⟨howner, rfl⟩

/-- Over a loaded form everything is laid, unless a report is named that is not offered: such a report
was switched off when the form was loaded. -/
theorem ChannelFlags.applyTo_loaded_iff {p : Payload} (hopen : opened.requireForm = .ok owner)
    (hloaded : opened.draft = .ofPayload p network) :
    f.applyTo network opened = .ok drafted ↔
      (∀ report ∈ f.reports, report.availableOn network = true) ∧
        drafted = { opened with draft := f.overlay (.ofPayload p network) } := by
  have hon (report : Report) : (opened.draft.reports.get report = true ∨
      report.availableOn network = true) ↔ report.availableOn network = true := by
    rw [hloaded, Draft.reports_ofPayload, Reports.get_restrict]
    exact or_iff_right_of_imp And.right
  rw [f.applyTo_eq_ok_iff hopen network drafted, hloaded]
  simp only [← hloaded, hon]

theorem SavingCourse.posted (h : SavingCourse network f d asked) {request : Alerts.SaveRequest}
    (hposted : .save request ∈ questions asked) :
    (∀ report ∈ f.reports, report.availableOn network = true) ∧
      ∃ envelope, (∃ proof, ⟨.config proof, .ok envelope⟩ ∈ asked) ∧
        (∀ proof shown, ⟨.config proof, .ok shown⟩ ∈ asked → shown = envelope) ∧
        ∃ fields q, f.Overlays envelope.payload network fields q ∧ request.text = q.text := by
  have hview {viewing : List (Exchange Question Reply)} {result : Except Failure Unit}
      {left : Desk} (h : ViewCourse d network viewing (result, left)) :
      .save request ∉ questions viewing := by
    intro hmem
    have hallowed := (Alerts.Course.view h).allows _ hmem
    cases hallowed.1
  cases h with
  | unopened h => exact absurd hposted (hview h)
  | refused h => exact absurd hposted (hview h)
  | @tried viewing saving opened drafted told h hdrafted hsave =>
    obtain ⟨owner, envelope, hgate, ⟨proof, hshown⟩, rfl, honly⟩ := h.opened
    have hopen := requireForm_opened hgate network envelope
    obtain ⟨havailable, rfl⟩ := (ChannelFlags.applyTo_loaded_iff hopen rfl).mp hdrafted
    rw [questions, List.map_append, List.mem_append] at hposted
    have hsaved := hposted.resolve_left (hview h)
    obtain ⟨hcomplete, htext⟩ := hsave.text_of_mem (Alerts.mem_ownerRequests_of_asked hsaved)
    refine ⟨havailable, envelope, ⟨proof, List.mem_append_left _ hshown⟩, ?_, _, _,
      f.overlays_toPayload envelope.payload network hcomplete havailable, htext⟩
    intro other shown hmem
    rcases List.mem_append.mp hmem with hmem | hmem
    · exact honly other shown hmem
    · have hallowed := hsave.allows _ (List.mem_map_of_mem hmem)
      cases hallowed.1

/-- Once a configuration is shown, and if it may be stored with everything laid over it, it is put
before the wallet and posted unless the wallet prevents that. -/
theorem SavingCourse.offered (h : SavingCourse network f d asked) (howner : d.owner = some owner)
    (hactive : d.hasActiveClusters = true) {proof : OwnershipProof} {envelope : Alerts.Envelope}
    (hshown : ⟨.config proof, .ok envelope⟩ ∈ asked) {fields : List String}
    (hfields : f.Fields envelope.payload fields) (hfilled : ∀ field ∈ fields, Text.trim field ≠ "")
    (havailable : ∀ report ∈ f.reports, report.availableOn network = true) :
    ∃ viewing saving q, asked = viewing ++ saving ∧
      f.Overlays envelope.payload network fields q ∧ Offers saving owner q.text := by
  cases h with
  | unopened h => exact absurd hshown (h.unopened proof envelope)
  | refused h hrefused =>
    obtain ⟨known, loaded, hgate, -, rfl, honly⟩ := h.opened
    have hopen := requireForm_opened hgate network loaded
    have happlied := (ChannelFlags.applyTo_loaded_iff hopen rfl).mpr ⟨havailable, rfl⟩
    rw [hrefused] at happlied
    cases happlied
  | @tried viewing saving opened drafted told h hdrafted hsave =>
    obtain ⟨known, loaded, hgate, -, rfl, honly⟩ := h.opened
    have hopen := requireForm_opened hgate network loaded
    obtain ⟨-, rfl⟩ := (ChannelFlags.applyTo_loaded_iff hopen rfl).mp hdrafted
    obtain rfl : envelope = loaded := by
      rcases List.mem_append.mp hshown with hmem | hmem
      · exact honly proof envelope hmem
      · have hallowed := hsave.allows _ (List.mem_map_of_mem hmem)
        cases hallowed.1
    obtain rfl : known = owner := by
      have hknown := ((d.requireStored_eq_ok known).mp hgate).1
      exact Option.some.inj (hknown.symm.trans howner)
    obtain rfl := hfields.unique (f.fields_overlay envelope.payload network)
    have hcomplete := (Draft.channelComplete_iff _).mpr hfilled
    refine ⟨viewing, saving, _, rfl,
      f.overlays_toPayload envelope.payload network hcomplete havailable, ?_⟩
    cases hsave with
    | barred hbarred => cases hbarred.symm.trans hopen
    | inactive hform hinactive => cases hinactive.symm.trans hactive
    | incomplete hform hisactive hchannel => cases hchannel.symm.trans hcomplete
    | tried hform hisactive hchannel herrand =>
      obtain rfl := Except.ok.inj (hform.symm.trans hopen)
      exact herrand.offers (Option.some_ne_none _)

/-- What a save command asks once a summary says that a configuration is stored: it posts that
configuration with everything said laid over it, and does so if the wallet lets it. -/
structure StoresOverlay (network : Network) (owner : Address) (f : ChannelFlags)
    (summary : Summary) (asked : List (Exchange Question Reply)) : Prop where
  /-- Nothing is posted before a stored configuration is shown. -/
  shown : ∀ request, .save request ∈ questions asked →
    ∃ proof envelope, ⟨.config proof, .ok envelope⟩ ∈ asked
  posted : ∀ proof p block request, ⟨.config proof, .ok ⟨p, block⟩⟩ ∈ asked →
    .save request ∈ questions asked →
    ∃ fields q, f.Overlays p network fields q ∧ request.text = q.text
  unavailable : ∀ report ∈ f.reports, report.availableOn network = false →
    ∀ request, .save request ∉ questions asked
  offered : ∀ proof p block fields, ⟨.config proof, .ok ⟨p, block⟩⟩ ∈ asked →
    summary.hasActiveClusters = true → f.Fields p fields →
    (∀ field ∈ fields, Text.trim field ≠ "") →
    (∀ report ∈ f.reports, report.availableOn network = true) →
    ∃ viewing saving q, asked = viewing ++ saving ∧ f.Overlays p network fields q ∧
      Offers saving owner q.text

theorem SavingCourse.storesOverlay {summary : Summary}
    (h : SavingCourse network f (({} : Desk).connected owner summary) asked) :
    StoresOverlay network owner f summary asked := by
  constructor
  case shown =>
    intro request hposted
    obtain ⟨-, envelope, ⟨proof, hshown⟩, -⟩ := h.posted hposted
    exact ⟨proof, envelope, hshown⟩
  case posted =>
    intro proof p block request hshown hposted
    obtain ⟨-, envelope, -, honly, hoverlays⟩ := h.posted hposted
    obtain rfl := honly proof _ hshown
    exact hoverlays
  case unavailable =>
    intro report hreport hnot request hposted
    have havailable := (h.posted hposted).1 report hreport
    simp [hnot] at havailable
  case offered =>
    intro proof p block fields hshown hactive hfields hfilled havailable
    exact h.offered rfl hactive hshown hfields hfilled havailable

/-- Whatever is answered, a save command over a stored configuration stores that configuration with
what was said laid over it. -/
theorem storesOverlay_of_save (network : Network) (owner : Address) (f : ChannelFlags) :
    (monitorTalk network (some owner) (.save f)).Ensures fun asked _ =>
      ∀ summary rest, asked = ⟨.summary owner, .ok summary⟩ :: rest → summary.monitored = true →
        StoresOverlay network owner f summary rest := by
  simp only [monitorTalk, monitorOwner, Desk.connect, Dialogue.bind, Dialogue.ensures_ask]
  intro reply
  cases reply with
  | error failure =>
    intro asked result hyields summary rest hasked
    simp at hasked
  | ok known =>
    have hcourse : known.monitored = true →
        (monitorConnected network (({} : Desk).connected owner known) (.save f)).Ensures
          fun asked _ => StoresOverlay network owner f known asked := by
      intro hmonitored
      by_cases hclusters : known.hasClusters = true
      · have hhidden : (({} : Desk).connected owner known).state = .storedHidden := by
          simp [Desk.connected, hclusters, hmonitored]
        exact (monitorConnected_save_course hhidden).mono fun asked _ h => h.storesOverlay
      · -- Whoever has no cluster is turned away before anything is asked.
        have hnot : (({} : Desk).connected owner known).state = .notOwner := by
          simp [Desk.connected, hclusters]
        simp only [monitorConnected, openForm, hnot, Dialogue.andThen, Dialogue.bind,
          Dialogue.ensures_done]
        exact ⟨by simp [questions], by simp, by simp [questions], by simp⟩
    intro asked result hyields summary rest hasked hmonitored
    obtain ⟨hfirst, rfl⟩ := List.cons.inj hasked
    cases hfirst
    exact hcourse hmonitored asked result hyields

/-- A chat, a threshold below the floor and two reports, each of them named twice. -/
def repeatedFlags : ChannelFlags :=
  { chat := some " 42 ", days := some "7 days",
    reports := [.weekly, .operatorFee, .operatorFee, .weekly] }

/-- What is stored of a configuration with a foreign method with them laid over it. -/
def repeatedPayload : Payload :=
  { (default : Payload) with
    method := 1, channel := "token,42", threshold := 10, operatorFee := true, weekly := true }

/-- Of the bot that was stored the token is kept, and a report that was on stays on. -/
theorem storesOverlay_of_repeated :
    ∃ rest : List (Exchange Question Reply),
      ((monitorTalk .holesky (some (Word.ofNat 20 1)) (.save repeatedFlags)).run
          Rehearsal.AlertStage.answer Alerts.wildStage).2.1 =
        ⟨.summary (Word.ofNat 20 1), .ok ⟨3, 2, true, 7⟩⟩ :: rest ∧
      .save ⟨⟨Word.ofNat 20 1, 8, "second"⟩, repeatedPayload.text⟩ ∈ questions rest ∧
      StoresOverlay .holesky (Word.ofNat 20 1) repeatedFlags ⟨3, 2, true, 7⟩ rest := by
  obtain ⟨rest, hrun, hposted⟩ : ∃ rest : List (Exchange Question Reply),
      ((monitorTalk .holesky (some (Word.ofNat 20 1)) (.save repeatedFlags)).run
          Rehearsal.AlertStage.answer Alerts.wildStage).2.1 =
        ⟨.summary (Word.ofNat 20 1), .ok ⟨3, 2, true, 7⟩⟩ :: rest ∧
      .save ⟨⟨Word.ofNat 20 1, 8, "second"⟩, repeatedPayload.text⟩ ∈ questions rest :=
    ⟨_, rfl, .tail _ (.tail _ (.tail _ (.tail _ (.tail _ (.head _)))))⟩
  have hyields := Dialogue.yields_run
    (monitorTalk .holesky (some (Word.ofNat 20 1)) (.save repeatedFlags))
    Rehearsal.AlertStage.answer Alerts.wildStage
  exact ⟨rest, hrun, hposted,
    storesOverlay_of_save .holesky (Word.ofNat 20 1) repeatedFlags _ _ hyields _ rest hrun rfl⟩

end Command

end ClusterDesk
