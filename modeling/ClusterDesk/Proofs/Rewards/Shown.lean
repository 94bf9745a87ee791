import ClusterDesk.Amount
import Mathlib.Algebra.Group.Nat.Defs

/-!
# Shown amounts

An amount is shown to the nearest thousandth of a token, a half rounded up. The rounding adds half
a thousandth and stops at the largest amount. From the last full thousandth the largest amount is
less than half a thousandth away, so no shown amount is changed by the stop.
-/

namespace ClusterDesk.Amount

/-- The decimal digits of a number below a thousand. -/
def threeDigits (n : Nat) : String :=
  String.ofList [Nat.digitChar (n / 100), Nat.digitChar (n / 10 % 10), Nat.digitChar (n % 10)]

/-- A text shows an amount: the whole tokens, a point and exactly three digits, for the nearest
thousandth with a half rounded up. -/
inductive Shows (a : Amount) : String → Prop where
  | intro {whole fraction : Nat} (hfraction : fraction < 1000)
      (hround : 1000 * whole + fraction = (a.wei + 5 * 10 ^ 14) / 10 ^ 15) :
      Shows a (toString whole ++ "." ++ threeDigits fraction)

theorem add_div_of_room {bound half unit : Nat} (hroom : bound % unit + half < unit) :
    (bound + half) / unit = bound / unit := by
  have hunit : 0 < unit := by omega
  calc (bound + half) / unit
      = (unit * (bound / unit) + (bound % unit + half)) / unit := by
        rw [← Nat.add_assoc, Nat.div_add_mod]
    _ = bound / unit + (bound % unit + half) / unit := Nat.mul_add_div hunit _ _
    _ = bound / unit := by rw [Nat.div_eq_of_lt hroom, Nat.add_zero]

/-- A sum may stop at a bound that has room for half a unit above its last full unit. -/
theorem min_add_div {n bound half unit : Nat} (hn : n ≤ bound)
    (hroom : bound % unit + half < unit) : min (n + half) bound / unit = (n + half) / unit := by
  by_cases hfits : n + half ≤ bound
  · rw [Nat.min_eq_left hfits]
  · have hlow : bound / unit ≤ (n + half) / unit := Nat.div_le_div_right (by omega)
    have hhigh : (n + half) / unit ≤ (bound + half) / unit := Nat.div_le_div_right (by omega)
    have hsame := add_div_of_room hroom
    rw [Nat.min_eq_right (by omega)]
    omega

theorem saturated_div (a : Amount) :
    saturated (a.wei + shownUnit / 2) / shownUnit = (a.wei + shownUnit / 2) / shownUnit := by
  have hroom : (amountBound - 1) % shownUnit + shownUnit / 2 < shownUnit := by decide
  exact min_add_div (Nat.le_sub_one_of_lt a.wei_lt) hroom

theorem shownUnits_eq (a : Amount) : a.shownUnits = (a.wei + 5 * 10 ^ 14) / 10 ^ 15 :=
  a.saturated_div

theorem toNat_limb {n : Nat} (h : n < UInt64.size) : (limb n).toNat = n :=
  UInt64.toNat_ofNat_of_lt' h

theorem toNat_limb_fraction (n : Nat) : (limb (n % shownScale)).toNat = n % shownScale := by
  have hfraction : n % shownScale < shownScale := Nat.mod_lt n (by decide)
  have hscale : shownScale < UInt64.size := by decide
  exact toNat_limb (Nat.lt_trans hfraction hscale)

theorem padded_eq {n : Nat} (h : n < 1000) :
    String.ofList (List.replicate (shownDecimals - (Nat.toDigits 10 n).length) '0' ++
      Nat.toDigits 10 n) = threeDigits n := by
  have hdigit (d : Nat) (hd : d < 10) : Nat.toDigits 10 d = [Nat.digitChar d] :=
    Nat.toDigits_of_lt_base hd
  have hlast (m : Nat) (hm : 10 ≤ m) :
      Nat.toDigits 10 m = Nat.toDigits 10 (m / 10) ++ [Nat.digitChar (m % 10)] :=
    Nat.toDigits_of_base_le (by decide) hm
  by_cases hone : n < 10
  · have hten : n / 10 = 0 := by omega
    have hhundred : n / 100 = 0 := by omega
    have hself : n % 10 = n := by omega
    rw [hdigit n hone, threeDigits, hhundred, hten, hself]
    rfl
  · by_cases htwo : n < 100
    · have hten : n / 10 % 10 = n / 10 := by omega
      have hhundred : n / 100 = 0 := by omega
      rw [hlast n (by omega), hdigit (n / 10) (by omega), threeDigits, hhundred, hten]
      rfl
    · have hhundred : n / 10 / 10 = n / 100 := by omega
      rw [hlast n (by omega), hlast (n / 10) (by omega), hhundred, hdigit (n / 100) (by omega)]
      rfl

theorem shown_eq (a : Amount) :
    a.shown = toString (a.shownUnits / 1000) ++ "." ++ threeDigits (a.shownUnits % 1000) := by
  have hfraction : a.shownUnits % shownScale < 1000 := Nat.mod_lt _ (by decide)
  simp only [shown, toNat_limb_fraction, padded_eq hfraction]
  rfl

/-- An amount is shown to the nearest thousandth, and no other text shows it so. On the way the sum
may stop at the largest amount, no quotient is by zero, and the decimals fit in 64 bits. -/
theorem shows_iff_eq_shown (a : Amount) :
    (∀ text, a.Shows text ↔ text = a.shown) ∧
      saturated (a.wei + shownUnit / 2) / shownUnit = (a.wei + shownUnit / 2) / shownUnit ∧
      shownUnit ≠ 0 ∧ shownScale ≠ 0 ∧
      (limb (a.shownUnits % shownScale)).toNat = a.shownUnits % shownScale := by
  refine ⟨fun text => ⟨?_, ?_⟩, a.saturated_div, by decide, by decide, toNat_limb_fraction _⟩
  · intro hshows
    obtain ⟨hfraction, hround⟩ := hshows
    rw [← shownUnits_eq] at hround
    rw [shown_eq, ← hround]
    congr 3
    · omega
    · omega
  · intro htext
    rw [htext, shown_eq]
    have hround : 1000 * (a.shownUnits / 1000) + a.shownUnits % 1000 =
        (a.wei + 5 * 10 ^ 14) / 10 ^ 15 := by
      rw [Nat.div_add_mod, shownUnits_eq]
    exact .intro (Nat.mod_lt _ (by decide)) hround

/-- The largest amount, for which the sum stops, is shown by the same rule. -/
example : (⟨amountBound - 1, by decide⟩ : Amount).shown =
    "115792089237316195423570985008687907853269984665640564039457.584" := by
  decide +kernel

end ClusterDesk.Amount
