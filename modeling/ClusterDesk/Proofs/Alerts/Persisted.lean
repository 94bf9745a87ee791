import ClusterDesk.Alerts.Config
import ClusterDesk.Proofs.Alerts.Coherence
import ClusterDesk.Proofs.Alerts.Signatures
import ClusterDesk.Proofs.Json.Records
import ClusterDesk.Proofs.Text.Blank

/-!
# Stored configurations

The text that an owner signs is read as the payload that it was written from. Whatever happened to
the form before, that payload keeps to the rules of a configuration: it goes to the channel that was
typed, with the threshold that was typed, and it asks for no report that the network selected at that
moment does not offer.
-/

namespace ClusterDesk

namespace Payload

theorem isExact_toJson (p : Payload) : p.toJson.isExact = true := by
  simp [toJson, Json.isExact, Json.isExactMembers, Json.nat]

instance : record.Checked := by
  unfold record
  infer_instance

theorem decoder_toJson (p : Payload) : decoder p.toJson = .ok p := by
  refine (Json.Record.decode_obj_eq_ok_iff record _ (by simp)).mpr ?_
  simp [record]

theorem read?_text (p : Payload) : Json.read? decoder p.text = some p :=
  Json.read?_compact p.isExact_toJson p.decoder_toJson

/-- A text is read as the payload that it was written from, so it is the text of no other. -/
theorem text_determines (p q : Payload) :
    Json.read? decoder p.text = some p ∧ (p.text = q.text ↔ p = q) := by
  refine ⟨p.read?_text, fun hsame => ?_, congrArg text⟩
  have hread := p.read?_text
  rw [hsame, q.read?_text] at hread
  exact (Option.some.inj hread).symm

end Payload

namespace Threshold

theorem clamp_of_allowed {days : Nat} (h : Allowed days) : clamp days = days := by
  rw [clamp, Nat.max_eq_left h.1, Nat.min_eq_left h.2]

theorem toNat_toUInt64_of_allowed {days : Nat} (h : Allowed days) :
    days.toUInt64.toNat = days := by
  have hceiling : ceiling < 2 ^ 64 := by decide
  exact UInt64.toNat_ofNat_of_lt' (h.2.trans_lt hceiling)

theorem mul_blocksPerDay_of_allowed {days : Nat} (h : Allowed days) :
    days * blocksPerDay ≤ UInt64.size - 1 :=
  (Nat.le_div_iff_mul_le (by decide)).mp h.2

end Threshold

namespace Reports

theorem restrict_telemetry (reports : Reports) {network : Network}
    (h : network.hasTelemetry = true) : reports.restrict network = reports := by
  simp [restrict, Report.all, Report.availableOn, h]

theorem restrict_blind (reports : Reports) {network : Network}
    (h : network.hasTelemetry = false) :
    reports.restrict network =
      { reports with
        blockProposals := false, missedBlocks := false, balanceDecrease := false } := by
  simp [restrict, Report.all, Report.availableOn, Report.needsTelemetry, h, set]

end Reports

namespace Draft

/-- The fields of the selected method as they are typed. -/
def fields (d : Draft) : List String :=
  match d.method with
  | .discord => [d.webhook]
  | .telegram => [d.token, d.chat]

/-- A payload keeps to the rules of a configuration, for a form and the network it is stored on. -/
structure Stores (draft : Draft) (network : Network) (payload : Payload) : Prop where
  method : payload.method = draft.method.code
  /-- The fields travel trimmed, joined by a comma. -/
  channel : payload.channel = draft.channel.wire ∧
    payload.channel = ",".intercalate (draft.fields.map Text.trim)
  complete : ∀ field ∈ draft.fields, Text.trim field ≠ ""
  typed : payload.threshold.toNat = Threshold.coerce draft.typedDays
  floor : 10 ≤ payload.threshold.toNat
  counted : payload.threshold.toNat * 7200 ≤ UInt64.size - 1
  blind : network.hasTelemetry = false → payload.proposedBlock = false ∧
    payload.missedBlock = false ∧ payload.balanceDecrease = false
  kept : payload.operatorFee = draft.reports.operatorFee ∧
    payload.networkFee = draft.reports.networkFee ∧
    payload.exitedNotRemoved = draft.reports.exitedNotRemoved ∧
    payload.weekly = draft.reports.weekly

theorem wire_channel (draft : Draft) :
    draft.channel.wire = ",".intercalate (draft.fields.map Text.trim) := by
  cases hmethod : draft.method with
  | discord => simp [channel, fields, hmethod, Channel.wire]
  | telegram => simp [channel, fields, hmethod, Channel.wire]

theorem channelComplete_eq_all (draft : Draft) :
    draft.channelComplete = draft.fields.all fun field => !Text.allBlank (Text.trim field) := by
  cases hmethod : draft.method with
  | discord => simp [channelComplete, channel, fields, hmethod, Channel.isComplete]
  | telegram => simp [channelComplete, channel, fields, hmethod, Channel.isComplete]

theorem channelComplete_iff (draft : Draft) :
    draft.channelComplete = true ↔ ∀ field ∈ draft.fields, Text.trim field ≠ "" := by
  have hfilled (field : String) :
      (!Text.allBlank (Text.trim field)) = true ↔ Text.trim field ≠ "" := by
    rw [Bool.not_eq_true', ← Bool.not_eq_true, Ne, Text.allBlank_trim]
  rw [channelComplete_eq_all, List.all_eq_true]
  exact forall₂_congr fun field _ => hfilled field

theorem stores_commitDays {draft : Draft} (network : Network) (h : draft.channelComplete = true) :
    draft.Stores network (draft.commitDays.config.toPayload network) := by
  have hallowed := draft.allowed_commitDays
  have hmethod : draft.channel.method = draft.method := by
    cases hmethod : draft.method <;> simp [channel, hmethod, Channel.method]
  have hthreshold : (draft.commitDays.config.toPayload network).threshold.toNat =
      Threshold.coerce draft.typedDays := by
    change (Threshold.clamp draft.commitDays.days).toUInt64.toNat = draft.commitDays.days
    rw [Threshold.clamp_of_allowed hallowed, Threshold.toNat_toUInt64_of_allowed hallowed]
  refine ⟨congrArg Method.code hmethod, ⟨rfl, draft.wire_channel⟩,
    draft.channelComplete_iff.mp h, hthreshold, ?_, ?_, ?_, ?_⟩
  · rw [hthreshold]
    exact hallowed.1
  · rw [hthreshold]
    exact Threshold.mul_blocksPerDay_of_allowed hallowed
  · intro hblind
    simp [AlertConfig.toPayload, Reports.restrict_blind _ hblind]
  · cases htelemetry : network.hasTelemetry with
    | true =>
      simp [AlertConfig.toPayload, Reports.restrict_telemetry _ htelemetry, config, commitDays]
    | false => simp [AlertConfig.toPayload, Reports.restrict_blind _ htelemetry, config, commitDays]

end Draft

namespace Alerts

theorem SaveCourse.text_of_mem {d : Desk} {network : Network}
    {transcript : List (Exchange Question Reply)} {told : Except Failure Unit × Desk}
    (h : SaveCourse d network transcript told) {request : SaveRequest}
    (hmem : .save request ∈ ownerRequests transcript) :
    d.draft.channelComplete = true ∧ request.text = d.committed.payloadText network := by
  cases h with
  | barred hbarred => simp [ownerRequests] at hmem
  | inactive hform hactive hnotice => simp [hnotice.unsigned.requests] at hmem
  | incomplete hform hactive hchannel hnotice => simp [hnotice.unsigned.requests] at hmem
  | tried hform hactive hchannel herrand =>
    rcases herrand.signedFor (carries_save _) with hnone | ⟨proof, block, hblock, hsigned⟩
    · simp [hnone] at hmem
    · obtain rfl : request = ⟨proof, d.committed.payloadText network⟩ := by
        simpa [hsigned.only] using hmem
      exact ⟨hchannel, rfl⟩

/-- A save is requested by the action that saves the form. -/
theorem Course.text_of_mem {d left : Desk} {network : Network} {action : Action}
    {transcript : List (Exchange Question Reply)} {outcome : Outcome}
    (h : Course d network action transcript outcome left) {request : SaveRequest}
    (hmem : .save request ∈ ownerRequests transcript) :
    d.draft.channelComplete = true ∧ request.text = d.committed.payloadText network := by
  rcases h.signedFor with hnone | ⟨owner, block, asked, howner, hblock, haction, hsigned⟩
  · simp [hnone] at hmem
  · obtain rfl : asked = .save request := by simpa [hsigned.only, eq_comm] using hmem
    obtain rfl : action = .save := haction
    obtain ⟨result, -, hcourse⟩ := h.exists_save
    exact hcourse.text_of_mem hmem

/-- In every run, whatever is answered, every save sends the text of a payload that keeps to the
rules, for the form and the network as they were when the save was called. -/
theorem stores_of_history {σ : Type} (answer : (q : Question) → σ → Reply q × σ) (d : Desk) (s : σ)
    (actions : List (Network × Action)) (e : Episode) (he : e ∈ history answer d s actions)
    (request : SaveRequest) (reply : Except Failure Envelope)
    (hsent : ⟨.save request, reply⟩ ∈ e.transcript) :
    ∃ payload, Json.read? Payload.decoder request.text = some payload ∧
      e.before.draft.Stores e.action.1 payload := by
  have hmem : .save request ∈ ownerRequests e.transcript :=
    List.mem_filterMap.mpr ⟨_, hsent, rfl⟩
  obtain ⟨hcomplete, htext⟩ :=
    (course_of_possible (Dialogue.possible_of_mem_history he)).text_of_mem hmem
  refine ⟨e.before.draft.commitDays.config.toPayload e.action.1, ?_,
    Draft.stores_commitDays e.action.1 hcomplete⟩
  rw [htext]
  exact Payload.read?_text _

/-- Looks at the stored configuration, changes it and saves it with the other network selected. -/
def relocation : List (Network × Action) :=
  [(.mainnet, .connect (Word.ofNat 20 1)), (.mainnet, .view), (.mainnet, .typeDays "7 days"),
    (.mainnet, .toggleReport .missedBlocks), (.holesky, .save)]

/-- A report that was switched on is not stored on a network that does not offer it, and a threshold
below the floor is stored as the floor. -/
theorem stores_after_relocation :
    ∃ (e : Episode) (request : SaveRequest) (reply : Except Failure Envelope) (payload : Payload),
      e ∈ history Rehearsal.AlertStage.answer {} resaveStage relocation ∧
      ⟨.save request, reply⟩ ∈ e.transcript ∧ e.before.draft.reports.missedBlocks = true ∧
      Json.read? Payload.decoder request.text = some payload ∧
      e.before.draft.Stores .holesky payload ∧ payload.missedBlock = false ∧
      payload.threshold.toNat = 10 := by
  have hrun : ∃ connect view type toggle save : Episode,
      history Rehearsal.AlertStage.answer {} resaveStage relocation =
        [connect, view, type, toggle, save] ∧ save.action.1 = .holesky ∧
      save.before.draft.typedDays = "7 days" ∧ save.before.draft.reports.missedBlocks = true ∧
      ∃ (request : SaveRequest) (reply : Except Failure Envelope),
        ⟨.save request, reply⟩ ∈ save.transcript :=
    ⟨_, _, _, _, _, rfl, rfl, by decide, by decide, _, _,
      List.mem_cons_of_mem _ (List.mem_cons_of_mem _ List.mem_cons_self)⟩
  obtain ⟨connect, view, type, toggle, save, hrun, hnetwork, hdays, hon, request, reply, hsent⟩ :=
    hrun
  have hsave : save ∈ history Rehearsal.AlertStage.answer {} resaveStage relocation := by
    rw [hrun]
    simp
  obtain ⟨payload, hread, hstores⟩ := stores_of_history Rehearsal.AlertStage.answer {} resaveStage
    relocation save hsave request reply hsent
  rw [hnetwork] at hstores
  have hfloor : Threshold.coerce "7 days" = 10 := by decide
  exact ⟨save, request, reply, payload, hsave, hsent, hon, hread, hstores,
    (hstores.blind rfl).2.1, by rw [hstores.typed, hdays, hfloor]⟩

end Alerts

end ClusterDesk
