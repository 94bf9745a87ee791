import ClusterDesk.Chain.Account

/-!
# Reading hexadecimal digits back

A word is read from its digits, in whichever case each of them is written, so an address is read
from the text that shows it with its checksum.
-/

namespace ClusterDesk

theorem utf8_injective {s t : String} (h : utf8 s = utf8 t) : s = t := by
  have hencoded : s.toList.utf8Encode = t.toList.utf8Encode := congrArg List.toByteArray h
  have hdecoded := congrArg ByteArray.utf8Decode? hencoded
  rw [List.utf8Decode?_utf8Encode, List.utf8Decode?_utf8Encode, Option.some.injEq] at hdecoded
  exact String.toList_inj.mp (List.toArray_inj hdecoded)

/-- There are as many bytes as numbers below 256, so what holds of all can be checked. -/
theorem forall_byte_iff {P : UInt8 → Prop} : (∀ b, P b) ↔ ∀ n < 256, P (UInt8.ofNat n) := by
  constructor
  · intro h n _
    exact h (UInt8.ofNat n)
  · intro h b
    have hb := h b.toNat b.toNat_lt
    rwa [UInt8.ofNat_toNat] at hb

namespace Hex

theorem halves_lt (b : UInt8) : b / 16 < 16 ∧ b % 16 < 16 := by
  simp only [UInt8.lt_iff_toNat_lt, UInt8.toNat_div, UInt8.toNat_mod]
  exact ⟨Nat.div_lt_of_lt_mul b.toNat_lt, Nat.mod_lt _ (by decide)⟩

theorem join_halves (b : UInt8) : b / 16 * 16 + b % 16 = b := by
  have hlt := b.toNat_lt
  rw [← UInt8.toNat_inj, UInt8.toNat_add, UInt8.toNat_mul, UInt8.toNat_div, UInt8.toNat_mod]
  change (b.toNat / 16 * 16 % 256 + b.toNat % 16) % 256 = b.toNat
  omega

/-- A character of one byte that is read as this half of a byte. -/
def Denotes (c : Char) (half : UInt8) : Prop :=
  String.utf8EncodeChar c = [c.toNat.toUInt8] ∧ value? c.toNat.toUInt8 = some half

theorem denotes_digit {half : UInt8} (h : half < 16) (capital : Prop) [Decidable capital] :
    Denotes (if capital then (digit half).toUpper else digit half) half := by
  have hall : ∀ n < 16, Denotes (Nat.digitChar n).toUpper (UInt8.ofNat n) ∧
      Denotes (Nat.digitChar n) (UInt8.ofNat n) := by
    simp only [Denotes]
    decide +kernel
  obtain ⟨hupper, hlower⟩ := hall half.toNat (UInt8.lt_iff_toNat_lt.mp h)
  rw [UInt8.ofNat_toNat] at hupper hlower
  split
  · exact hupper
  · exact hlower

/-- The characters are digits of the bytes, two for each of them. -/
inductive Spells : List Char → List UInt8 → Prop where
  | nil : Spells [] []
  | cons {high low : Char} {cs : List Char} {b : UInt8} {bytes : List UInt8}
      (hhigh : Denotes high (b / 16)) (hlow : Denotes low (b % 16)) (h : Spells cs bytes) :
      Spells (high :: low :: cs) (b :: bytes)

namespace Spells

variable {cs : List Char} {bytes : List UInt8}

theorem length_eq (h : Spells cs bytes) :
    (cs.flatMap String.utf8EncodeChar).length = 2 * bytes.length := by
  induction h with
  | nil => rfl
  | cons hhigh hlow h ih =>
    rw [List.flatMap_cons, List.flatMap_cons, hhigh.1, hlow.1]
    simp only [List.cons_append, List.nil_append, List.length_cons, ih]
    omega

theorem pairs_eq_ok (h : Spells cs bytes) (position : Nat) :
    pairs position (cs.flatMap String.utf8EncodeChar) = .ok bytes := by
  induction h generalizing position with
  | nil => rfl
  | cons hhigh hlow h ih =>
    rw [List.flatMap_cons, List.flatMap_cons, hhigh.1, hlow.1]
    simp only [List.cons_append, List.nil_append, pairs, hhigh.2, hlow.2, ih, Except.map,
      join_halves]

theorem decode_eq_ok (h : Spells cs bytes) :
    decode bytes.length (String.ofList ('0' :: 'x' :: cs)) = .ok bytes := by
  have hutf8 : utf8 (String.ofList ('0' :: 'x' :: cs)) =
      0x30 :: 0x78 :: cs.flatMap String.utf8EncodeChar := by
    rw [utf8, String.toList_ofList]
    rfl
  have hlength := h.length_eq
  simp only [decode, hutf8, bare, List.length_cons, hlength, h.pairs_eq_ok]
  simp [show (2 * bytes.length + 1 + 1) % 2 = 0 by omega]

/-- Digits spell the same bytes when some of them are written as capitals. -/
theorem of_marks (marks : List UInt8) (hmarks : 2 * bytes.length ≤ marks.length) :
    Spells (((encode bytes).zip marks).map fun (c, mark) => if 8 ≤ mark then c.toUpper else c)
      bytes := by
  induction bytes generalizing marks with
  | nil => exact .nil
  | cons b bytes ih =>
    obtain _ | ⟨first, _ | ⟨second, marks⟩⟩ := marks
    · simp at hmarks
    · simp only [List.length_cons, List.length_nil] at hmarks
      omega
    · obtain ⟨hhigh, hlow⟩ := halves_lt b
      refine .cons (denotes_digit hhigh _) (denotes_digit hlow _) (ih marks ?_)
      simp only [List.length_cons] at hmarks
      omega

end Spells

end Hex

theorem Word.parse_of_spells {size : Nat} {w : Word size} {cs : List Char}
    (h : Hex.Spells cs w.bytes) : parse size (String.ofList ('0' :: 'x' :: cs)) = .ok w := by
  have hdecode := h.decode_eq_ok
  rw [w.length_bytes] at hdecode
  simp only [parse, hdecode, w.length_bytes, dif_pos]

theorem length_nibbles (bytes : List UInt8) : (nibbles bytes).length = 2 * bytes.length := by
  induction bytes with
  | nil => rfl
  | cons b bytes ih =>
    change (nibbles bytes).length + 2 = 2 * (bytes.length + 1)
    omega

theorem Address.parse_checksummed (a : Address) : Address.parse a.checksummed = .ok a := by
  refine Word.parse_of_spells (.of_marks _ ?_)
  rw [a.length_bytes, length_nibbles, Word.length_bytes]
  decide

end ClusterDesk
