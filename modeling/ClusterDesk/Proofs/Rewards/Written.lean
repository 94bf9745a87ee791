import ClusterDesk.Proofs.Bytes.Words
import ClusterDesk.Proofs.Json.Items
import ClusterDesk.Proofs.Json.Records
import ClusterDesk.Proofs.Text.Digits
import ClusterDesk.Rewards.Entitlement

/-!
# Entitlements behind their text

An entitlement is read from the text that it is written to: its amount from the fewest digits that
have it, its words from two digits for each of their bytes.
-/

namespace ClusterDesk

namespace Amount

/-- The digits of a number that is an amount are read as it: the values on the way are not above
the last one. -/
theorem readFrom_of_numberFrom? {base value n : Nat} {cs : List Char} (hbase : 0 < base)
    (h : Text.numberFrom? base value cs = some n) (hn : n < amountBound) :
    readFrom base value cs = .ok n := by
  induction cs generalizing value with
  | nil => exact congrArg Except.ok (Option.some.inj h)
  | cons c cs ih =>
    rw [Text.numberFrom?] at h
    cases hdigit : Text.digitBelow? base c with
    | none => simp [hdigit] at h
    | some d =>
      have hrest : Text.numberFrom? base (value * base + d) cs = some n := by
        simpa [hdigit] using h
      obtain ⟨hvalue, hd⟩ := Text.digitBelow?_eq_some_iff.mp hdigit
      have hblank : c ≠ '_' := by
        rintro rfl
        cases hvalue
      have hfits : value * base + d < amountBound :=
        Nat.lt_of_le_of_lt (Text.le_of_numberFrom? hbase hrest) hn
      simp only [readFrom, hvalue, beq_iff_eq, if_neg hblank, if_neg (Nat.not_le.mpr hd),
        if_pos hfits]
      exact ih hrest

/-- A text shows an amount: its hexadecimal digits and none to spare, behind `0x`. -/
def Prefixed (a : Amount) (s : String) : Prop :=
  ∃ digits, s = String.ofList ('0' :: 'x' :: digits) ∧ Text.Minimal 16 digits a.wei

theorem prefixed_iff {a : Amount} {s : String} : a.Prefixed s ↔ s = a.hex := by
  constructor
  · rintro ⟨digits, rfl, hdigits⟩
    rw [hdigits.eq_toDigits (by decide) (by decide), hex]
  · rintro rfl
    exact ⟨_, rfl, Text.minimal_toDigits (by decide) (by decide) a.wei⟩

theorem parse_of_prefixed {a : Amount} {s : String} (h : a.Prefixed s) : parse s = .ok a := by
  obtain ⟨digits, rfl, hdigits⟩ := h
  have hread : readFrom 16 0 digits = .ok a.wei :=
    readFrom_of_numberFrom? (by decide) hdigits.value a.wei_lt
  have hsplit : splitBase (String.ofList ('0' :: 'x' :: digits)).toList = (16, digits) := by
    rw [String.toList_ofList]
    rfl
  simp only [parse, hsplit, read, hread, a.wei_lt, dif_pos]

end Amount

namespace Word

variable {size : Nat} {w : Word size} {s : String}

/-- A text shows a word: two lower-case digits for each of its bytes, behind `0x`. -/
def Prefixed (w : Word size) (s : String) : Prop :=
  ∃ digits, s = String.ofList ('0' :: 'x' :: digits) ∧ Hex.Spells digits w.bytes ∧
    ∀ c ∈ digits, c.toLower = c

theorem toLower_of_mem_encode (bytes : List UInt8) : ∀ c ∈ Hex.encode bytes, c.toLower = c := by
  induction bytes with
  | nil => simp [Hex.encode]
  | cons b bytes ih =>
    obtain ⟨hhigh, hlow⟩ := Hex.halves_lt b
    have hdigits : Hex.encode (b :: bytes) =
        Hex.digit (b / 16) :: Hex.digit (b % 16) :: Hex.encode bytes := rfl
    rw [hdigits, List.forall_mem_cons, List.forall_mem_cons]
    refine ⟨?_, ?_, ih⟩
    · exact Text.toLower_digitChar (UInt8.lt_iff_toNat_lt.mp hhigh)
    · exact Text.toLower_digitChar (UInt8.lt_iff_toNat_lt.mp hlow)

theorem prefixed_iff : w.Prefixed s ↔ s = w.text := by
  constructor
  · rintro ⟨digits, rfl, hspells, hlower⟩
    have hkept : digits.map Char.toLower = digits := by
      calc digits.map Char.toLower = digits.map id := List.map_congr_left hlower
        _ = digits := List.map_id digits
    rw [text, Hex.text, ← Hex.spells_iff.mp hspells, hkept]
  · rintro rfl
    have hlower := toLower_of_mem_encode w.bytes
    have hkept : (Hex.encode w.bytes).map Char.toLower = Hex.encode w.bytes := by
      calc (Hex.encode w.bytes).map Char.toLower = (Hex.encode w.bytes).map id :=
            List.map_congr_left hlower
        _ = Hex.encode w.bytes := List.map_id _
    exact ⟨_, rfl, Hex.spells_iff.mpr hkept, hlower⟩

theorem decoder_of_prefixed (h : w.Prefixed s) : decoder size (.str s) = .ok w := by
  obtain ⟨digits, rfl, hspells, -⟩ := h
  simp only [decoder, parse_of_spells hspells]

end Word

theorem Amount.decoder_of_prefixed {a : Amount} {s : String} (h : a.Prefixed s) :
    decoder (.str s) = .ok a := by
  simp only [decoder, parse_of_prefixed h]

namespace Entitlement

/-- A text is in the published form of an entitlement: a record of the account, the amount, the
root and the hashes of the proof in their order, each of them as a text. -/
def Written (e : Entitlement) (s : String) : Prop :=
  ∃ account amount root hashes,
    Json.parse? s = some (.obj [
      ("account", .str account),
      ("cumulative_amount", .str amount),
      ("merkle_root", .str root),
      ("merkle_proof", .arr (hashes.map Json.str))]) ∧
    e.account.Prefixed account ∧ e.cumulative.Prefixed amount ∧ e.root.Prefixed root ∧
    List.Forall₂ Word.Prefixed e.proof hashes

instance : record.Checked := by
  unfold record
  infer_instance

theorem listOf_of_prefixed {size : Nat} {proof : List (Word size)} {hashes : List String}
    (h : List.Forall₂ Word.Prefixed proof hashes) :
    Json.Decoder.listOf (Word.decoder size) (.arr (hashes.map Json.str)) = .ok proof := by
  refine Json.Decoder.listOf_eq_ok_iff.mpr ⟨_, rfl, ?_⟩
  induction h with
  | nil => exact .nil
  | cons hfirst hrest ih => exact .cons (Word.decoder_of_prefixed hfirst) ih

theorem read?_of_written {e : Entitlement} {s : String} (h : e.Written s) :
    Json.read? decoder s = some e := by
  obtain ⟨account, amount, root, hashes, hparse, haccount, hamount, hroot, hproof⟩ := h
  have hdecode : decoder (.obj [
      ("account", .str account),
      ("cumulative_amount", .str amount),
      ("merkle_root", .str root),
      ("merkle_proof", .arr (hashes.map Json.str))]) = .ok e := by
    refine (Json.Record.decode_obj_eq_ok_iff record _ (by simp)).mpr ?_
    simp [record, Word.decoder_of_prefixed haccount, Amount.decoder_of_prefixed hamount,
      Word.decoder_of_prefixed hroot, listOf_of_prefixed hproof]
  rw [Json.read?, hparse, Option.bind_some, hdecode]
  rfl

theorem isExact_toJson (e : Entitlement) : e.toJson.isExact = true := by
  have hhashes (proof : List Digest) :
      Json.isExactItems (proof.map fun h => .str h.text) = true := by
    induction proof with
    | nil => rfl
    | cons hash rest ih => simpa [Json.isExactItems, Json.isExact] using ih
  simp [toJson, Json.isExact, Json.isExactMembers, hhashes]

theorem written_of_parse? {e : Entitlement} {s : String} (h : Json.parse? s = some e.toJson) :
    e.Written s := by
  refine ⟨e.account.text, e.cumulative.hex, e.root.text, e.proof.map Word.text, ?_,
    Word.prefixed_iff.mpr rfl, Amount.prefixed_iff.mpr rfl, Word.prefixed_iff.mpr rfl, ?_⟩
  · rw [h, toJson, List.map_map]
    rfl
  · rw [List.forall₂_map_right_iff, List.forall₂_same]
    intro hash _
    exact Word.prefixed_iff.mpr rfl

/-- An entitlement is read from its text, which has the published form. So is it from every other
text of that form. -/
theorem reads_written (e : Entitlement) :
    Json.read? decoder e.toJson.compact = some e ∧ e.Written e.toJson.compact ∧
      ∀ s, e.Written s → Json.read? decoder s = some e := by
  have hwritten : e.Written e.toJson.compact :=
    written_of_parse? (Json.parse?_compact e.isExact_toJson)
  exact ⟨read?_of_written hwritten, hwritten, fun s hs => read?_of_written hs⟩

/-- An entitlement to an amount with an odd number of digits. -/
def fewTokens : Entitlement :=
  ⟨Word.ofNat 20 1, ⟨256, by decide⟩, Word.ofNat 32 2, [Word.ofNat 32 3]⟩

theorem reads_fewTokens :
    fewTokens.cumulative.Prefixed "0x100" ∧ fewTokens.Written fewTokens.toJson.compact ∧
      Json.read? decoder fewTokens.toJson.compact = some fewTokens := by
  have hamount : fewTokens.cumulative.Prefixed "0x100" :=
    Amount.prefixed_iff.mpr (by decide)
  have hwritten : fewTokens.Written fewTokens.toJson.compact :=
    written_of_parse? (Json.parse?_compact fewTokens.isExact_toJson)
  exact ⟨hamount, hwritten, (reads_written fewTokens).2.2 _ hwritten⟩

end Entitlement

end ClusterDesk
