import Mathlib.Data.List.Induction
import ClusterDesk.Text.Basic

/-!
# Numerals without spare digits

In a base up to sixteen a number has just one row of lower-case digits that has no zero in front.
It is the row that the number is written with, and it is read as the number.
-/

namespace ClusterDesk.Text

theorem digitBelow?_eq_some_iff {base d : Nat} {c : Char} :
    digitBelow? base c = some d ↔ digitValue? c = some d ∧ d < base := by
  unfold digitBelow?
  cases hvalue : digitValue? c with
  | none => simp
  | some m =>
    by_cases hm : m < base
    · simp only [if_pos hm, Option.some.injEq]
      constructor
      · rintro rfl
        exact ⟨rfl, hm⟩
      · exact And.left
    · simp only [if_neg hm, Option.some.injEq, reduceCtorEq, false_iff]
      rintro ⟨rfl, hd⟩
      exact hm hd

theorem digitBelow?_digitChar {base d : Nat} (hbase : base ≤ 16) (hd : d < base) :
    digitBelow? base d.digitChar = some d := by
  have hall : ∀ m < 16, digitValue? m.digitChar = some m := by decide
  exact digitBelow?_eq_some_iff.mpr ⟨hall d (by omega), hd⟩

theorem toLower_digitChar {d : Nat} (hd : d < 16) : d.digitChar.toLower = d.digitChar := by
  have hall : ∀ m < 16, m.digitChar.toLower = m.digitChar := by decide
  exact hall d hd

theorem toNat_lt_of_digitValue? {c : Char} {d : Nat} (h : digitValue? c = some d) :
    c.toNat < 128 := by
  have hbelow {top : Char} {low : Bool} (hrange : (low && decide (c ≤ top)) = true) :
      c.toNat ≤ top.toNat :=
    UInt32.le_iff_toNat_le.mp (of_decide_eq_true (Bool.and_eq_true_iff.mp hrange).2)
  unfold digitValue? at h
  split at h
  case isTrue hrange => exact Nat.lt_of_le_of_lt (hbelow hrange) (by decide)
  case isFalse =>
    split at h
    case isTrue hrange => exact Nat.lt_of_le_of_lt (hbelow hrange) (by decide)
    case isFalse =>
      split at h
      case isTrue hrange => exact Nat.lt_of_le_of_lt (hbelow hrange) (by decide)
      case isFalse => cases h

theorem eq_digitChar_of_digitBelow? {base d : Nat} {c : Char} (hbase : base ≤ 16)
    (hlower : c.toLower = c) (h : digitBelow? base c = some d) : c = d.digitChar ∧ d < base := by
  have hall : ∀ n < 128, ∀ m < 16, digitValue? (Char.ofNat n) = some m →
      (Char.ofNat n).toLower = Char.ofNat n → Char.ofNat n = m.digitChar := by
    decide +kernel
  obtain ⟨hvalue, hd⟩ := digitBelow?_eq_some_iff.mp h
  have hchecked := hall c.toNat (toNat_lt_of_digitValue? hvalue) d (by omega)
  rw [Char.ofNat_toNat] at hchecked
  exact ⟨hchecked hvalue hlower, hd⟩

theorem numberFrom?_append (base value : Nat) (front back : List Char) :
    numberFrom? base value (front ++ back) =
      (numberFrom? base value front).bind (numberFrom? base · back) := by
  induction front generalizing value with
  | nil => rfl
  | cons c front ih =>
    rw [List.cons_append, numberFrom?, numberFrom?]
    cases digitBelow? base c with
    | none => rfl
    | some d => exact ih _

theorem number?_concat (base : Nat) (front : List Char) (last : Char) :
    number? base (front ++ [last]) =
      (number? base front).bind fun n => (digitBelow? base last).map (n * base + ·) := by
  rw [number?, numberFrom?_append, number?]
  cases numberFrom? base 0 front with
  | none => rfl
  | some n =>
    simp only [Option.bind_some, numberFrom?]
    cases digitBelow? base last with
    | none => rfl
    | some d => rfl

theorem le_of_numberFrom? {base value n : Nat} {cs : List Char} (hbase : 0 < base)
    (h : numberFrom? base value cs = some n) : value ≤ n := by
  induction cs generalizing value with
  | nil => exact Nat.le_of_eq (Option.some.inj h)
  | cons c cs ih =>
    rw [numberFrom?] at h
    cases hdigit : digitBelow? base c with
    | none => simp [hdigit] at h
    | some d =>
      have hmore : value * base + d ≤ n := ih (by simpa [hdigit] using h)
      have hscaled : value ≤ value * base := Nat.le_mul_of_pos_right value hbase
      omega

/-- Lower-case digits of a number, the first of them a zero only if it is the only one. -/
structure Minimal (base : Nat) (cs : List Char) (n : Nat) : Prop where
  value : number? base cs = some n
  lower : ∀ c ∈ cs, c.toLower = c
  nonempty : cs ≠ []
  first : cs.head? = some '0' → cs = ['0']

section Minimal

variable {base : Nat} (hbase : 1 < base) (hsixteen : base ≤ 16)
include hbase hsixteen

theorem head?_toDigits_ne_zero {n : Nat} (hn : 0 < n) :
    (Nat.toDigits base n).head? ≠ some '0' := by
  induction n using Nat.strongRecOn with
  | ind n ih =>
    by_cases hsmall : n < base
    · have hfirst : ∀ m < 16, 0 < m → m.digitChar ≠ '0' := by decide
      simpa [Nat.toDigits_of_lt_base hsmall] using hfirst n (by omega) hn
    · have hless : n / base < n := Nat.div_lt_self hn hbase
      have hfront := ih (n / base) hless (Nat.div_pos (Nat.not_lt.mp hsmall) (by omega))
      rw [Nat.toDigits_of_base_le hbase (Nat.not_lt.mp hsmall), List.head?_append]
      cases hhead : (Nat.toDigits base (n / base)).head? with
      | none => simp at hhead
      | some c => simpa [hhead] using hfront

theorem number?_toDigits (n : Nat) : number? base (Nat.toDigits base n) = some n := by
  induction n using Nat.strongRecOn with
  | ind n ih =>
    by_cases hsmall : n < base
    · have hdigit := digitBelow?_digitChar hsixteen hsmall
      simp [Nat.toDigits_of_lt_base hsmall, number?, numberFrom?, hdigit]
    · have hless : n / base < n := Nat.div_lt_self (by omega) hbase
      have hlast := digitBelow?_digitChar hsixteen (Nat.mod_lt n (by omega))
      rw [Nat.toDigits_of_base_le hbase (Nat.not_lt.mp hsmall), number?_concat, ih _ hless, hlast]
      simp [Nat.div_add_mod']

theorem toLower_of_mem_toDigits (n : Nat) : ∀ c ∈ Nat.toDigits base n, c.toLower = c := by
  induction n using Nat.strongRecOn with
  | ind n ih =>
    by_cases hsmall : n < base
    · simpa [Nat.toDigits_of_lt_base hsmall] using toLower_digitChar (by omega)
    · have hless : n / base < n := Nat.div_lt_self (by omega) hbase
      have hlast : n % base < 16 := Nat.lt_of_lt_of_le (Nat.mod_lt n (by omega)) hsixteen
      rw [Nat.toDigits_of_base_le hbase (Nat.not_lt.mp hsmall), List.forall_mem_append]
      exact ⟨ih _ hless, by simpa using toLower_digitChar hlast⟩

theorem minimal_toDigits (n : Nat) : Minimal base (Nat.toDigits base n) n := by
  constructor
  case value => exact number?_toDigits hbase hsixteen n
  case lower => exact toLower_of_mem_toDigits hbase hsixteen n
  case nonempty => exact Nat.toDigits_ne_nil
  case first =>
    intro hzero
    rcases Nat.eq_zero_or_pos n with rfl | hn
    · rw [Nat.toDigits_of_lt_base (by omega)]
      rfl
    · exact absurd hzero (head?_toDigits_ne_zero hbase hsixteen hn)

/-- There is no other row like it. -/
theorem Minimal.eq_toDigits {cs : List Char} {n : Nat} (h : Minimal base cs n) :
    cs = Nat.toDigits base n := by
  induction cs using List.reverseRecOn generalizing n with
  | nil => exact absurd rfl h.nonempty
  | append_singleton front last ih =>
    obtain ⟨m, hfront, d, hlast, rfl⟩ : ∃ m, number? base front = some m ∧
        ∃ d, digitBelow? base last = some d ∧ m * base + d = n := by
      simpa [number?_concat, Option.bind_eq_some_iff] using h.value
    obtain ⟨rfl, hd⟩ := eq_digitChar_of_digitBelow? hsixteen (h.lower last (by simp)) hlast
    cases front with
    | nil =>
      obtain rfl : 0 = m := Option.some.inj hfront
      rw [Nat.zero_mul, Nat.zero_add, Nat.toDigits_of_lt_base hd, List.nil_append]
    | cons c cs =>
      have hhead : c ≠ '0' := by
        rintro rfl
        simpa using h.first rfl
      have hdigits : c :: cs = Nat.toDigits base m :=
        ih ⟨hfront, fun c hc => h.lower c (List.mem_append_left _ hc), by simp, by simp [hhead]⟩
      have hm : 0 < m := by
        by_contra hzero
        obtain rfl : m = 0 := by omega
        rw [Nat.toDigits_of_lt_base (by omega), List.cons.injEq] at hdigits
        exact hhead hdigits.1
      have hlarge : base ≤ m * base + d :=
        Nat.le_trans (Nat.le_mul_of_pos_left base hm) (Nat.le_add_right _ d)
      have hquotient : (m * base + d) / base = m := by
        rw [Nat.mul_comm, Nat.mul_add_div (by omega), Nat.div_eq_of_lt hd, Nat.add_zero]
      have hrest : (m * base + d) % base = d := by
        rw [Nat.mul_comm, Nat.mul_add_mod, Nat.mod_eq_of_lt hd]
      rw [Nat.toDigits_of_base_le hbase hlarge, hquotient, hrest, hdigits]

end Minimal

end ClusterDesk.Text
