import ClusterDesk.Alerts.Desk
import ClusterDesk.Proofs.Text.Blank

/-!
# Channels behind their address

What a channel is read back as after it travelled as an address, alone and through the form that
stores it. The first comma decides where a bot channel is split, so a comma in the token moves the
end of the token into the chat; the address itself never changes.
-/

namespace ClusterDesk

@[simp] theorem Method.ofCode_code (method : Method) : Method.ofCode method.code = method := by
  cases method <;> rfl

namespace Channel

theorem comma_notMem_fst_splitComma (cs : List Char) : ',' ∉ (splitComma cs).1 := by
  intro hmem
  have hkept := List.mem_takeWhile_imp hmem
  exact absurd hkept (by decide)

theorem splitComma_append_comma (token chat : List Char) (hfree : ',' ∉ token) :
    splitComma (token ++ ',' :: chat) = (token, chat) := by
  have hbefore : ∀ c ∈ token, (c != ',') = true := by
    intro c hc
    rw [bne_iff_ne]
    rintro rfl
    exact hfree hc
  rw [splitComma, List.takeWhile_append_of_pos hbefore, List.dropWhile_append_of_pos hbefore]
  simp

theorem append_comma_splitComma (cs : List Char) (hcomma : ',' ∈ cs) :
    (splitComma cs).1 ++ ',' :: (splitComma cs).2 = cs := by
  have hrest : cs.dropWhile (· != ',') ≠ [] := by
    rw [Ne, List.dropWhile_eq_nil_iff]
    intro hall
    exact absurd (hall ',' hcomma) (by decide)
  obtain ⟨c, rest, hsplit⟩ := List.exists_cons_of_ne_nil hrest
  have hc : c = ',' := by
    have hhead := List.head_dropWhile_not (· != ',') hrest
    simpa [hsplit] using hhead
  calc (splitComma cs).1 ++ ',' :: (splitComma cs).2
      = cs.takeWhile (· != ',') ++ c :: rest := by simp only [splitComma, hsplit, hc,
          List.drop_succ_cons, List.drop_zero]
    _ = cs.takeWhile (· != ',') ++ cs.dropWhile (· != ',') := by rw [hsplit]
    _ = cs := List.takeWhile_append_dropWhile

theorem splitComma_of_notMem {cs : List Char} (hnone : ',' ∉ cs) : splitComma cs = (cs, []) := by
  have hkept : ∀ c ∈ cs, (c != ',') = true := by
    intro c hc
    rw [bne_iff_ne]
    rintro rfl
    exact hnone hc
  rw [splitComma, List.takeWhile_eq_self_iff.mpr hkept, List.dropWhile_eq_nil_iff.mpr hkept]
  rfl

/-- Whether the first comma of the address is the one that joins the fields. -/
def SplitsBack : Channel → Prop
  | .discord _ => True
  | .telegram token _ => ',' ∉ token.toList

theorem splitsBack_ofWire (method : Method) (address : String) :
    (ofWire method address).SplitsBack := by
  cases method with
  | discord => trivial
  | telegram =>
    intro hmem
    rw [String.toList_ofList] at hmem
    exact comma_notMem_fst_splitComma _ hmem

theorem toList_wire_telegram (token chat : String) :
    (wire (.telegram token chat)).toList = token.toList ++ ',' :: chat.toList := by
  simp [wire]

theorem ofWire_wire_iff (channel : Channel) :
    ofWire channel.method channel.wire = channel ↔ channel.SplitsBack := by
  cases channel with
  | discord webhook => exact iff_of_true rfl trivial
  | telegram token chat =>
    simp only [ofWire, method, toList_wire_telegram, SplitsBack]
    constructor
    · intro hback
      have hcut := splitsBack_ofWire .telegram (wire (.telegram token chat))
      simp only [ofWire, toList_wire_telegram] at hcut
      rwa [hback] at hcut
    · intro hfree
      rw [splitComma_append_comma _ _ hfree, String.ofList_toList, String.ofList_toList]

theorem SplitsBack.trimmed {channel : Channel} (hback : channel.SplitsBack) :
    channel.trimmed.SplitsBack := by
  cases channel with
  | discord webhook => trivial
  | telegram token chat =>
    intro hmem
    rw [Text.trim, String.toList_ofList] at hmem
    exact hback (Text.strip_subset _ hmem)

end Channel

namespace Draft

theorem trimmed_channel (draft : Draft) : draft.channel.trimmed = draft.channel := by
  cases hmethod : draft.method <;> simp [channel, hmethod, Channel.trimmed]

theorem channel_load (config : AlertConfig) : (load config).channel = config.channel.trimmed := by
  rcases config with ⟨⟨webhook⟩ | ⟨token, chat⟩, days, reports⟩ <;> rfl

end Draft

namespace AlertConfig

theorem channel_ofPayload_toPayload (config : AlertConfig) (stored shown : Network) :
    (ofPayload (config.toPayload stored) shown).channel =
      .ofWire config.channel.method config.channel.wire := by
  simp only [ofPayload, toPayload, Method.ofCode_code]

end AlertConfig

namespace Alerts

theorem Desk.channel_viewed (desk : Desk) (draft : Draft) (stored shown : Network)
    (block : UInt64) :
    (desk.viewed shown ⟨draft.config.toPayload stored, block⟩).draft.channel =
      (Channel.ofWire draft.channel.method draft.channel.wire).trimmed := by
  calc (desk.viewed shown ⟨draft.config.toPayload stored, block⟩).draft.channel
      = (AlertConfig.ofPayload (draft.config.toPayload stored) shown).channel.trimmed :=
        Draft.channel_load _
    _ = (Channel.ofWire draft.channel.method draft.channel.wire).trimmed := by
        rw [AlertConfig.channel_ofPayload_toPayload]
        rfl

/-- A channel is read back from its address, and a stored form's channel is shown again, exactly
when the token has no comma. -/
theorem channel_roundTrip_iff (channel : Channel) (desk : Desk) (draft : Draft)
    (stored shown : Network) (block : UInt64) :
    (Channel.ofWire channel.method channel.wire = channel ↔ channel.SplitsBack) ∧
      ((desk.viewed shown ⟨draft.config.toPayload stored, block⟩).draft.channel = draft.channel ↔
        draft.channel.SplitsBack) := by
  refine ⟨channel.ofWire_wire_iff, ?_⟩
  rw [Desk.channel_viewed]
  constructor
  · intro hshown
    rw [← hshown]
    exact (Channel.splitsBack_ofWire _ _).trimmed
  · intro hback
    rw [draft.channel.ofWire_wire_iff.mpr hback, draft.trimmed_channel]

/-- A token with a comma passes the check of both channels; behind it the chat begins too early. -/
theorem channel_misread_of_comma :
    let channel : Channel := .telegram "12,34" "56"
    let draft : Draft := { method := .telegram, token := " 12,34", chat := "56 " }
    let shown := (({} : Desk).viewed .mainnet ⟨draft.config.toPayload .mainnet, 7⟩).draft.channel
    channel.isComplete = true ∧ Channel.ofWire channel.method channel.wire ≠ channel ∧
      draft.channelComplete = true ∧ shown ≠ draft.channel ∧ shown = .telegram "12" "34,56" := by
  decide +kernel

end Alerts

end ClusterDesk
