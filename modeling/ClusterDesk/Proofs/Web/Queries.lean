import ClusterDesk.Proofs.Bytes.Hex
import ClusterDesk.Web.Query

/-!
# Reading a query back

Whatever text a parameter holds, it is read back byte for byte, so two parameters never look alike.
-/

namespace ClusterDesk

namespace Web

theorem unpercent_cons {c : Char} (h : c ≠ '%') (rest : List Char) :
    unpercent (c :: rest) = String.utf8EncodeChar c ++ unpercent rest := by
  cases rest with
  | nil => simp [unpercent]
  | cons d rest =>
    cases rest with
    | nil => simp [unpercent]
    | cons e rest => simp [unpercent, h]

theorem digitOf?_digit {d : UInt8} (h : d < 16) : digitOf? (Hex.digit d).toUpper = some d := by
  have hall : ∀ n < 16, digitOf? (Nat.digitChar n).toUpper = some (UInt8.ofNat n) := by decide
  have hd := hall d.toNat (UInt8.lt_iff_toNat_lt.mp h)
  rwa [UInt8.ofNat_toNat] at hd

theorem digit_ne_plus {d : UInt8} (h : d < 16) : (Hex.digit d).toUpper ≠ '+' := by
  have hall : ∀ n < 16, (Nat.digitChar n).toUpper ≠ '+' := by decide
  exact hall d.toNat (UInt8.lt_iff_toNat_lt.mp h)

theorem unpercent_percent (b : UInt8) (rest : List Char) :
    unpercent (percent b ++ rest) = b :: unpercent rest := by
  obtain ⟨hhigh, hlow⟩ := Hex.halves_lt b
  simp only [percent, List.cons_append, List.nil_append, unpercent, digitOf?_digit hhigh,
    digitOf?_digit hlow, Hex.join_halves]

namespace Query

theorem plain_byte {b : UInt8} (h : isPlain b = true) :
    Char.ofNat b.toNat ≠ '%' ∧ Char.ofNat b.toNat ≠ '+' ∧
      String.utf8EncodeChar (Char.ofNat b.toNat) = [b] := by
  have hall : ∀ b, isPlain b = true → Char.ofNat b.toNat ≠ '%' ∧ Char.ofNat b.toNat ≠ '+' ∧
      String.utf8EncodeChar (Char.ofNat b.toNat) = [b] :=
    forall_byte_iff.mpr (by decide +kernel)
  exact hall b h

theorem unpercent_encodeByte (b : UInt8) (rest : List Char) :
    unpercent ((encodeByte b).map (fun c => if c == '+' then ' ' else c) ++ rest) =
      b :: unpercent rest := by
  unfold encodeByte
  split
  case isTrue hplain =>
    obtain ⟨hpercent, hplus, hbyte⟩ := plain_byte hplain
    simp [hplus, unpercent_cons hpercent, hbyte]
  case isFalse =>
    split
    case isTrue hspace =>
      obtain rfl : b = 0x20 := by simpa using hspace
      exact unpercent_cons (by decide) rest
    case isFalse =>
      obtain ⟨hhigh, hlow⟩ := Hex.halves_lt b
      have hkept : (percent b).map (fun c => if c == '+' then ' ' else c) = percent b := by
        simp [percent, digit_ne_plus hhigh, digit_ne_plus hlow]
      rw [hkept, unpercent_percent]

theorem decodeText_flatMap (bytes : List UInt8) :
    decodeText (bytes.flatMap encodeByte) = bytes := by
  unfold decodeText
  induction bytes with
  | nil => rfl
  | cons b rest ih => rw [List.flatMap_cons, List.map_append, unpercent_encodeByte, ih]

/-- A text is read back byte for byte. -/
theorem decodeText_encodeText (s : String) : decodeText (encodeText s) = utf8 s :=
  decodeText_flatMap (utf8 s)

theorem encodeText_injective {s t : String} (h : encodeText s = encodeText t) : s = t := by
  have hdecoded := congrArg decodeText h
  rw [decodeText_encodeText, decodeText_encodeText] at hdecoded
  exact utf8_injective hdecoded

end Query

end Web

end ClusterDesk
