import ClusterDesk.Proofs.Alerts.Channels
import ClusterDesk.Proofs.Alerts.Persisted
import ClusterDesk.Proofs.Alerts.Thresholds

/-!
# Forms of stored configurations

A stored configuration goes into the form with its threshold clamped and its telemetry masked. What
the form then shows is read as it stands, so to store the form again trims the channel and changes
nothing else that was not changed when it was loaded.
-/

namespace ClusterDesk

namespace Threshold

theorem clamp_clamp (days : Nat) : clamp (clamp days) = clamp days :=
  clamp_of_allowed (allowed_clamp days)

theorem read_digits {ds : List Char} (hne : ds ≠ []) (hdigits : ∀ c ∈ ds, c.isDigit = true) :
    read ds = clamp (Nat.ofDigitChars 10 ds 0) := by
  calc read ds = read (ds ++ []) := by rw [List.append_nil]
    _ = clamp (Nat.ofDigitChars 10 ds 0) := read_bare hne hdigits (by simp)

theorem coerce_toString (days : Nat) : coerce (toString days) = clamp days := by
  have hread := read_digits (Nat.toDigits_ne_nil (n := days) (b := 10)) fun c hc =>
    Nat.isDigit_of_mem_toDigits (by decide) (by decide) hc
  rw [Nat.ofDigitChars_ten_toDigits] at hread
  rw [coerce, Nat.toString_eq_repr, Nat.repr_eq_ofList_toDigits, String.toList_ofList, hread]

end Threshold

theorem Method.code_ofCode (code : UInt8) :
    (Method.ofCode code).code = if code = 0 then 0 else 1 := by
  unfold ofCode
  split
  · rfl
  · rfl

theorem Reports.restrict_eq (reports : Reports) (network : Network) :
    reports.restrict network =
      { reports with
        blockProposals := reports.blockProposals && network.hasTelemetry
        missedBlocks := reports.missedBlocks && network.hasTelemetry
        balanceDecrease := reports.balanceDecrease && network.hasTelemetry } := by
  cases htelemetry : network.hasTelemetry with
  | true => simp [restrict_telemetry _ htelemetry]
  | false => simp [restrict_blind _ htelemetry]

theorem Reports.restrict_restrict (reports : Reports) (network : Network) :
    (reports.restrict network).restrict network = reports.restrict network := by
  simp [restrict_eq]

namespace Payload

/-- The fields of the channel of a payload: a webhook, or what stands before and behind the first
comma. -/
inductive Fields (p : Payload) : List String → Prop where
  | webhook (h : p.method = 0) : p.Fields [p.channel]
  | bot {token chat : String} (h : p.method ≠ 0) (hsplit : p.channel = token ++ "," ++ chat)
      (hfirst : ',' ∉ token.toList) : p.Fields [token, chat]
  | unsplit (h : p.method ≠ 0) (hnone : ',' ∉ p.channel.toList) : p.Fields [p.channel, ""]

/-- What is stored when a payload with these fields is loaded and stored again on a network. -/
structure StoredAgain (p : Payload) (network : Network) (fields : List String) (q : Payload) :
    Prop where
  method : q.method = if p.method = 0 then 0 else 1
  channel : q.channel = ",".intercalate (fields.map Text.trim)
  threshold : q.threshold.toNat = min (max p.threshold.toNat 10) ((UInt64.size - 1) / 7200)
  telemetry : q.proposedBlock = (p.proposedBlock && network.hasTelemetry) ∧
    q.missedBlock = (p.missedBlock && network.hasTelemetry) ∧
    q.balanceDecrease = (p.balanceDecrease && network.hasTelemetry)
  kept : q.operatorFee = p.operatorFee ∧ q.networkFee = p.networkFee ∧
    q.exitedNotRemoved = p.exitedNotRemoved ∧ q.weekly = p.weekly

end Payload

namespace Draft

/-- The form that shows a stored configuration. -/
def ofPayload (p : Payload) (network : Network) : Draft :=
  load (.ofPayload p network)

variable (p : Payload) (network : Network)

theorem days_ofPayload : (ofPayload p network).days = Threshold.clamp p.threshold.toNat := by
  unfold ofPayload load
  split <;> rfl

theorem typedDays_ofPayload :
    (ofPayload p network).typedDays = toString (Threshold.clamp p.threshold.toNat) := by
  unfold ofPayload load
  split <;> rfl

theorem reports_ofPayload : (ofPayload p network).reports = p.reports.restrict network := by
  unfold ofPayload load
  split <;> rfl

theorem method_ofPayload : (ofPayload p network).method = .ofCode p.method := by
  unfold ofPayload load AlertConfig.ofPayload
  cases Method.ofCode p.method <;> rfl

theorem coerce_typedDays_ofPayload :
    Threshold.coerce (ofPayload p network).typedDays = (ofPayload p network).days := by
  rw [typedDays_ofPayload, days_ofPayload, Threshold.coerce_toString, Threshold.clamp_clamp]

theorem commitDays_ofPayload : (ofPayload p network).commitDays = ofPayload p network := by
  have hread := coerce_typedDays_ofPayload p network
  -- Committing writes the threshold back as text, and it is the text that stood there.
  have hshown : (ofPayload p network).typedDays = toString (ofPayload p network).days := by
    rw [typedDays_ofPayload, days_ofPayload]
  simp only [commitDays, hread, ← hshown]

theorem fields_ofPayload : p.Fields (ofPayload p network).fields := by
  by_cases hmethod : p.method = 0
  · have hfields : (ofPayload p network).fields = [p.channel] := by
      simp [ofPayload, load, AlertConfig.ofPayload, Method.ofCode, hmethod, Channel.ofWire, fields,
        Channel.method]
    rw [hfields]
    exact .webhook hmethod
  · have hfields : (ofPayload p network).fields =
        [String.ofList (Channel.splitComma p.channel.toList).1,
          String.ofList (Channel.splitComma p.channel.toList).2] := by
      simp [ofPayload, load, AlertConfig.ofPayload, Method.ofCode, hmethod, Channel.ofWire, fields,
        Channel.method]
    rw [hfields]
    by_cases hcomma : ',' ∈ p.channel.toList
    · -- The cut is made at the first comma, so none is left before it.
      have hjoined := Channel.append_comma_splitComma _ hcomma
      refine .bot hmethod ?_ ?_
      · rw [← String.toList_inj]
        simp [hjoined]
      · rw [String.toList_ofList]
        exact Channel.comma_notMem_fst_splitComma _
    · rw [Channel.splitComma_of_notMem hcomma, String.ofList_toList]
      exact .unsplit hmethod hcomma

/-- What is sent when the form that shows a configuration is stored as it is. -/
theorem storedAgain_ofPayload (h : (ofPayload p network).channelComplete = true) :
    p.StoredAgain network (ofPayload p network).fields
      ((ofPayload p network).config.toPayload network) := by
  have hstores := stores_commitDays network h
  rw [commitDays_ofPayload] at hstores
  have hreports : ((ofPayload p network).config.reports.restrict network) =
      p.reports.restrict network := by
    rw [config, reports_ofPayload, Reports.restrict_restrict]
  constructor
  case method => rw [hstores.method, method_ofPayload, Method.code_ofCode]
  case channel => exact hstores.channel.2
  case threshold =>
    rw [hstores.typed, coerce_typedDays_ofPayload, days_ofPayload]
    rfl
  case telemetry => simp [AlertConfig.toPayload, hreports, Reports.restrict_eq, Payload.reports]
  case kept => simp [AlertConfig.toPayload, hreports, Reports.restrict_eq, Payload.reports]

end Draft

end ClusterDesk
