import ClusterDesk.Proofs.Alerts.Loading

/-!
# Normal payloads

A payload that is loaded on one network and stored on another becomes normal: its method is one of
two codes, a bot address has a comma, the threshold is allowed and no report is on that one of the
networks does not offer. A normal payload goes the same way unchanged.
-/

namespace ClusterDesk

theorem Channel.wire_ofWire (method : Method) (address : String) :
    (ofWire method address).wire =
      if method = .telegram ∧ ',' ∉ address.toList then address ++ "," else address := by
  cases method with
  | discord => simp [ofWire, wire]
  | telegram =>
    rw [← String.toList_inj, ofWire, toList_wire_telegram, String.toList_ofList,
      String.toList_ofList]
    by_cases hcomma : ',' ∈ address.toList
    · rw [append_comma_splitComma _ hcomma, if_neg (fun h => h.2 hcomma)]
    · rw [splitComma_of_notMem hcomma, if_pos ⟨rfl, hcomma⟩, String.toList_append]
      rfl

theorem Channel.method_ofWire (method : Method) (address : String) :
    (ofWire method address).method = method := by
  cases method with
  | discord => rfl
  | telegram => rfl

theorem Method.ofCode_eq_telegram {code : UInt8} : ofCode code = .telegram ↔ code ≠ 0 := by
  unfold ofCode
  by_cases hzero : code = 0
  · simp [hzero]
  · simp [hzero]

namespace Payload

/-- What is stored on one network of a payload that was loaded on another. -/
def stored (p : Payload) (loaded saved : Network) : Payload :=
  (AlertConfig.ofPayload p loaded).toPayload saved

/-- A payload is the normal form of another one between two networks. -/
structure Normalises (p : Payload) (loaded saved : Network) (q : Payload) : Prop where
  method : q.method = if p.method = 0 then 0 else 1
  channel : q.channel =
    if p.method ≠ 0 ∧ ',' ∉ p.channel.toList then p.channel ++ "," else p.channel
  threshold : q.threshold.toNat = min (max p.threshold.toNat 10) ((UInt64.size - 1) / 7200)
  proposedBlock : q.proposedBlock =
    (p.proposedBlock && (loaded.hasTelemetry && saved.hasTelemetry))
  missedBlock : q.missedBlock = (p.missedBlock && (loaded.hasTelemetry && saved.hasTelemetry))
  balanceDecrease : q.balanceDecrease =
    (p.balanceDecrease && (loaded.hasTelemetry && saved.hasTelemetry))
  operatorFee : q.operatorFee = p.operatorFee
  networkFee : q.networkFee = p.networkFee
  exitedNotRemoved : q.exitedNotRemoved = p.exitedNotRemoved
  weekly : q.weekly = p.weekly

variable (p : Payload) (loaded saved : Network)

theorem reports_stored :
    (AlertConfig.ofPayload p loaded).reports.restrict saved =
      { p.reports with
        blockProposals := p.proposedBlock && (loaded.hasTelemetry && saved.hasTelemetry)
        missedBlocks := p.missedBlock && (loaded.hasTelemetry && saved.hasTelemetry)
        balanceDecrease := p.balanceDecrease && (loaded.hasTelemetry && saved.hasTelemetry) } := by
  simp [AlertConfig.ofPayload, Reports.restrict_eq, reports, Bool.and_assoc]

theorem threshold_stored :
    (p.stored loaded saved).threshold.toNat = Threshold.clamp p.threshold.toNat := by
  change (Threshold.clamp (Threshold.clamp p.threshold.toNat)).toUInt64.toNat = _
  rw [Threshold.clamp_clamp,
    Threshold.toNat_toUInt64_of_allowed (Threshold.allowed_clamp p.threshold.toNat)]

theorem normalises_stored : p.Normalises loaded saved (p.stored loaded saved) := by
  have hreports := reports_stored p loaded saved
  constructor
  case method =>
    change (Channel.ofWire (.ofCode p.method) p.channel).method.code = _
    rw [Channel.method_ofWire, Method.code_ofCode]
  case channel =>
    change (Channel.ofWire (.ofCode p.method) p.channel).wire = _
    simp only [Channel.wire_ofWire, Method.ofCode_eq_telegram]
  case threshold => exact threshold_stored p loaded saved
  case proposedBlock | missedBlock | balanceDecrease =>
    simp only [stored, AlertConfig.toPayload, hreports]
  case operatorFee | networkFee | exitedNotRemoved | weekly =>
    simp only [stored, AlertConfig.toPayload, hreports]
    rfl

variable {p loaded saved} {q other : Payload}

/-- There is one normal form. -/
theorem Normalises.unique (h : p.Normalises loaded saved q)
    (hother : p.Normalises loaded saved other) : q = other := by
  have hthreshold : q.threshold = other.threshold := by
    rw [← UInt64.toNat_inj, h.threshold, hother.threshold]
  cases q
  cases other
  simp only [mk.injEq]
  exact ⟨h.method.trans hother.method.symm, h.channel.trans hother.channel.symm, hthreshold,
    h.operatorFee.trans hother.operatorFee.symm, h.networkFee.trans hother.networkFee.symm,
    h.proposedBlock.trans hother.proposedBlock.symm, h.missedBlock.trans hother.missedBlock.symm,
    h.balanceDecrease.trans hother.balanceDecrease.symm,
    h.exitedNotRemoved.trans hother.exitedNotRemoved.symm, h.weekly.trans hother.weekly.symm⟩

theorem Normalises.again (h : p.Normalises loaded saved q) : q.Normalises loaded saved q := by
  constructor
  case method =>
    rw [h.method]
    by_cases hzero : p.method = 0
    · simp [hzero]
    · simp [hzero]
  case channel =>
    -- The comma that was appended is there the second time.
    have hcomma : ¬(q.method ≠ 0 ∧ ',' ∉ q.channel.toList) := by
      rw [h.method, h.channel]
      by_cases hzero : p.method = 0
      · simp [hzero]
      · by_cases hthere : ',' ∈ p.channel.toList
        · simp [hthere]
        · simp [hzero, hthere]
    rw [if_neg hcomma]
  case threshold =>
    rw [h.threshold]
    exact (Threshold.clamp_clamp p.threshold.toNat).symm
  case proposedBlock => simp [h.proposedBlock]
  case missedBlock => simp [h.missedBlock]
  case balanceDecrease => simp [h.balanceDecrease]
  case operatorFee | networkFee | exitedNotRemoved | weekly => rfl

/-- To load a payload and store it gives its normal form, and to do so again changes nothing. -/
theorem normalises_once (p : Payload) (loaded saved : Network) :
    p.Normalises loaded saved (p.stored loaded saved) ∧
      (p.stored loaded saved).stored loaded saved = p.stored loaded saved := by
  have hnormal := p.normalises_stored loaded saved
  exact ⟨hnormal, (normalises_stored _ loaded saved).unique hnormal.again⟩

end Payload

end ClusterDesk
