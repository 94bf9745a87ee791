import ClusterDesk.Amount
import ClusterDesk.Proofs.Text.Blank

/-!
# Reading amounts

A decimal text is read as its number if that is an amount, and as too large if it is not. It is
read digit by digit, and no sum on the way is above the number, so the reading stops exactly where
the number does not fit.
-/

namespace ClusterDesk

namespace Text

theorem digitValue?_of_isDigit {c : Char} (h : c.isDigit = true) :
    digitValue? c = some (c.toNat - '0'.toNat) ∧ c.toNat - '0'.toNat < 10 := by
  simp only [Char.isDigit, Bool.and_eq_true, decide_eq_true_eq] at h
  obtain ⟨hlow, hhigh⟩ := h
  have hlow : '0' ≤ c := hlow
  have hhigh : c ≤ '9' := hhigh
  have hbound : c.toNat ≤ 57 := UInt32.le_iff_toNat_le.mp hhigh
  constructor
  · simp [digitValue?, hlow, hhigh]
  · change c.toNat - 48 < 10
    omega

theorem ten_le_of_digitValue? {c : Char} {d : Nat} (h : c.isDigit = false)
    (hvalue : digitValue? c = some d) : 10 ≤ d := by
  have hother : ('0' ≤ c && c ≤ '9') = false := h
  simp only [digitValue?, hother] at hvalue
  split at hvalue
  case isTrue hnever => cases hnever
  case isFalse =>
    split at hvalue
    case isTrue =>
      cases hvalue
      exact Nat.le_add_left 10 _
    case isFalse =>
      split at hvalue
      case isTrue =>
        cases hvalue
        exact Nat.le_add_left 10 _
      case isFalse => cases hvalue

end Text

namespace Amount

/-- The digits of a text, without the underscores between them. -/
def digits (cs : List Char) : List Char :=
  cs.filter (· != '_')

theorem le_ofDigitChars (cs : List Char) (value : Nat) : value ≤ Nat.ofDigitChars 10 cs value := by
  induction cs generalizing value with
  | nil => exact Nat.le_refl value
  | cons c cs ih =>
    have hstep := ih (10 * value + (c.toNat - '0'.toNat))
    rw [Nat.ofDigitChars_cons]
    omega

/-- A row of digits is read as its number, and as too large if that is no amount. -/
theorem readFrom_digits {cs : List Char} (h : ∀ c ∈ cs, c.isDigit = true ∨ c = '_') {value : Nat}
    (hvalue : value < amountBound) :
    readFrom 10 value cs =
      if Nat.ofDigitChars 10 (digits cs) value < amountBound
      then .ok (Nat.ofDigitChars 10 (digits cs) value) else .error .tooLarge := by
  induction cs generalizing value with
  | nil => simp [readFrom, digits, hvalue]
  | cons c cs ih =>
    have hrest : ∀ next ∈ cs, next.isDigit = true ∨ next = '_' :=
      fun next hnext => h next (List.mem_cons_of_mem c hnext)
    by_cases hblank : c = '_'
    · have hskipped : digits (c :: cs) = digits cs := by simp [digits, hblank]
      rw [hskipped, ← ih hrest hvalue, hblank]
      rfl
    · have hdigit : c.isDigit = true := (h c List.mem_cons_self).resolve_right hblank
      obtain ⟨hread, hten⟩ := Text.digitValue?_of_isDigit hdigit
      have hnumber : Nat.ofDigitChars 10 (digits (c :: cs)) value =
          Nat.ofDigitChars 10 (digits cs) (value * 10 + (c.toNat - '0'.toNat)) := by
        simp [digits, hblank, Nat.ofDigitChars_cons, Nat.mul_comm]
      have hstep : readFrom 10 value (c :: cs) =
          if value * 10 + (c.toNat - '0'.toNat) < amountBound
          then readFrom 10 (value * 10 + (c.toNat - '0'.toNat)) cs else .error .tooLarge := by
        simp only [readFrom, hread, beq_iff_eq, if_neg hblank, if_neg (Nat.not_le.mpr hten)]
      rw [hstep, hnumber]
      split
      case isTrue hfits => exact ih hrest hfits
      case isFalse hlarge =>
        -- The number of all the digits is no less than that of the digits so far.
        have hmore := le_ofDigitChars (digits cs) (value * 10 + (c.toNat - '0'.toNat))
        rw [if_neg (by omega)]

theorem isDigit_of_readFrom {cs : List Char} {value n : Nat} (h : readFrom 10 value cs = .ok n) :
    ∀ c ∈ cs, c.isDigit = true ∨ c = '_' := by
  induction cs generalizing value with
  | nil => simp
  | cons c cs ih =>
    have hstep : (c = '_' ∨ c.isDigit = true) ∧ ∃ next, readFrom 10 next cs = .ok n := by
      by_cases hblank : c = '_'
      · rw [hblank] at h
        exact ⟨Or.inl hblank, value, h⟩
      · simp only [readFrom, beq_iff_eq, if_neg hblank] at h
        cases hread : Text.digitValue? c with
        | none => simp [hread] at h
        | some d =>
          by_cases hten : 10 ≤ d
          · simp [hread, hten] at h
          · have hdigit : c.isDigit = true := by
              by_contra hother
              exact hten (Text.ten_le_of_digitValue? (by simpa using hother) hread)
            simp only [hread, if_neg hten] at h
            split at h
            case isTrue => exact ⟨Or.inr hdigit, _, h⟩
            case isFalse => cases h
    obtain ⟨hfirst, next, hrest⟩ := hstep
    simp only [List.mem_cons, forall_eq_or_imp]
    exact ⟨hfirst.symm, ih hrest⟩

/-- A text in decimal is the text of an amount. -/
structure Decimal (cs : List Char) (a : Amount) : Prop where
  isDigit : ∀ c ∈ cs, c.isDigit = true ∨ c = '_'
  wei_eq : a.wei = Nat.ofDigitChars 10 (digits cs) 0

theorem read_digits {cs : List Char} (h : ∀ c ∈ cs, c.isDigit = true ∨ c = '_') :
    read 10 cs =
      if hfits : Nat.ofDigitChars 10 (digits cs) 0 < amountBound
      then .ok ⟨Nat.ofDigitChars 10 (digits cs) 0, hfits⟩ else .error .tooLarge := by
  rw [read, readFrom_digits h (by decide)]
  by_cases hfits : Nat.ofDigitChars 10 (digits cs) 0 < amountBound
  · simp only [if_pos hfits]
  · simp only [if_neg hfits, dif_neg hfits]

theorem read_eq_ok_iff {cs : List Char} {a : Amount} : read 10 cs = .ok a ↔ Decimal cs a := by
  constructor
  · intro h
    have hdigits : ∀ c ∈ cs, c.isDigit = true ∨ c = '_' := by
      unfold read at h
      cases hread : readFrom 10 0 cs with
      | error fault => simp [hread] at h
      | ok n => exact isDigit_of_readFrom hread
    rw [read_digits hdigits] at h
    split at h
    case isTrue hfits =>
      cases h
      exact ⟨hdigits, rfl⟩
    case isFalse => cases h
  · intro h
    have hfits : Nat.ofDigitChars 10 (digits cs) 0 < amountBound := h.wei_eq ▸ a.wei_lt
    rw [read_digits h.isDigit, dif_pos hfits, Except.ok.injEq]
    cases a
    simp only [mk.injEq]
    exact h.wei_eq.symm

end Amount

end ClusterDesk
