import ClusterDesk.Proofs.Alerts.Coherence
import ClusterDesk.Proofs.Text.Blank

/-!
# Typed thresholds

A typed threshold stands for the integer at its start and is read as the allowed number of days
nearest to that. One kind of text is read otherwise: a number so far below zero that its digits do
not fit in 64 bits gives the ceiling.
-/

namespace ClusterDesk.Threshold

/-- What a sign in front of a number makes of it. -/
inductive Signs (n : Nat) : List Char → Int → Prop where
  | bare : Signs n [] n
  | plus : Signs n ['+'] n
  | minus : Signs n ['-'] (-n)

/-- A text starts with an integer: behind blanks and at most one sign, the longest row of digits. -/
inductive Starts : List Char → Int → Prop where
  | intro {blanks sign digits rest : List Char} {v : Int}
      (hblanks : ∀ c ∈ blanks, Text.isBlank c = true)
      (hsign : Signs (Nat.ofDigitChars 10 digits 0) sign v)
      (hne : digits ≠ []) (hdigits : ∀ c ∈ digits, c.isDigit = true)
      (hlongest : ∀ c ∈ rest.head?, c.isDigit = false) :
      Starts (blanks ++ (sign ++ (digits ++ rest))) v

/-- The number of days nearest to an integer, from ten up to those whose blocks can be counted in
64 bits. -/
def nearest (v : Int) : Nat :=
  (max 10 (min v ((UInt64.size - 1) / 7200 : Nat))).toNat

/-- Some days are what a text says: the nearest to its integer, or ten if it starts with none. -/
structure Says (text : String) (days : Nat) : Prop where
  integer : ∀ v, Starts text.toList v → days = nearest v
  nothing : (¬∃ v, Starts text.toList v) → days = 10

theorem nearest_eq (v : Int) : nearest v = (max (floor : Int) (min v ceiling)).toNat :=
  rfl

theorem nearest_natCast (n : Nat) : nearest n = clamp n := by
  have h := floor_le_ceiling
  rw [nearest_eq, clamp]
  omega

theorem nearest_of_le_floor {v : Int} (h : v ≤ floor) : nearest v = floor := by
  have hbounds := floor_le_ceiling
  rw [nearest_eq]
  omega

theorem Starts.of_dropWhile {cs sign body : List Char} {v : Int}
    (hcs : cs.dropWhile Text.isBlank = sign ++ body) (hne : body.takeWhile Char.isDigit ≠ [])
    (hsign : Signs (Nat.ofDigitChars 10 (body.takeWhile Char.isDigit) 0) sign v) : Starts cs v := by
  have hsplit : cs = cs.takeWhile Text.isBlank ++
      (sign ++ (body.takeWhile Char.isDigit ++ body.dropWhile Char.isDigit)) := by
    rw [List.takeWhile_append_dropWhile, ← hcs, List.takeWhile_append_dropWhile]
  rw [hsplit]
  refine .intro (fun c hc => List.mem_takeWhile_imp hc) hsign hne
    (fun c hc => List.mem_takeWhile_imp hc) fun c hc => ?_
  have hstop := List.head?_dropWhile_not Char.isDigit body
  simpa [Option.mem_def.mp hc] using hstop

theorem read_eq_floor {cs : List Char} (h : ¬∃ v, Starts cs v) : read cs = floor := by
  have hnone (sign body : List Char) (hcs : cs.dropWhile Text.isBlank = sign ++ body)
      (hsign : ∀ n, ∃ v, Signs n sign v) : body.takeWhile Char.isDigit = [] := by
    by_contra hne
    obtain ⟨v, hv⟩ := hsign (Nat.ofDigitChars 10 (body.takeWhile Char.isDigit) 0)
    exact h ⟨v, .of_dropWhile hcs hne hv⟩
  unfold read
  dsimp only
  split
  · rfl
  case h_2 hne =>
    refine absurd ?_ hne
    split
    case h_1 body hcs => exact hnone ['-'] body hcs fun n => ⟨_, .minus⟩
    case h_2 body hcs => exact hnone ['+'] body hcs fun n => ⟨_, .plus⟩
    case h_3 => exact hnone [] _ rfl fun n => ⟨_, .bare⟩

theorem read_behind_blanks {blanks body : List Char}
    (hblanks : ∀ c ∈ blanks, Text.isBlank c = true) : read (blanks ++ body) = read body := by
  simp only [read, List.dropWhile_append_of_pos hblanks]

theorem clamp_of_size_le {days : Nat} (h : UInt64.size ≤ days) : clamp days = ceiling := by
  have hceiling : ceiling ≤ UInt64.size := by decide
  have hmax : ceiling ≤ max days floor := (hceiling.trans h).trans (Nat.le_max_left days floor)
  exact Nat.min_eq_right hmax

theorem clamp_unless_size_le (n : Nat) :
    (if UInt64.size ≤ n then ceiling else clamp n) = clamp n := by
  split
  case isTrue h => exact (clamp_of_size_le h).symm
  case isFalse => rfl

section

variable {digits rest : List Char} (hne : digits ≠ [])
  (hdigits : ∀ c ∈ digits, c.isDigit = true) (hlongest : ∀ c ∈ rest.head?, c.isDigit = false)

include hdigits hlongest

theorem takeWhile_digits_append : (digits ++ rest).takeWhile Char.isDigit = digits := by
  have hstop : rest.takeWhile Char.isDigit = [] := by
    cases rest with
    | nil => rfl
    | cons c rest => simp [hlongest c rfl]
  rw [List.takeWhile_append_of_pos hdigits, hstop, List.append_nil]

include hne

theorem read_bare : read (digits ++ rest) = clamp (Nat.ofDigitChars 10 digits 0) := by
  have hrow := takeWhile_digits_append hdigits hlongest
  obtain ⟨d, ds, rfl⟩ := List.exists_cons_of_ne_nil hne
  have hd : d.isDigit = true := hdigits d List.mem_cons_self
  have hkept : (d :: ds ++ rest).dropWhile Text.isBlank = d :: ds ++ rest :=
    List.dropWhile_cons_of_neg (by simp [Text.isBlank_eq_false_of_isDigit hd])
  have hminus : d ≠ '-' := by
    rintro rfl
    exact absurd hd (by decide)
  have hplus : d ≠ '+' := by
    rintro rfl
    exact absurd hd (by decide)
  rw [List.cons_append] at hkept hrow ⊢
  simp only [read, hkept]
  simp [hminus, hplus, hrow, clamp_unless_size_le]

theorem read_plus : read ('+' :: (digits ++ rest)) = clamp (Nat.ofDigitChars 10 digits 0) := by
  have hrow := takeWhile_digits_append hdigits hlongest
  have hkept : ('+' :: (digits ++ rest)).dropWhile Text.isBlank = '+' :: (digits ++ rest) := rfl
  obtain ⟨d, ds, rfl⟩ := List.exists_cons_of_ne_nil hne
  simp only [read, hkept, hrow, Bool.false_eq_true, if_false, clamp_unless_size_le]

theorem read_minus : read ('-' :: (digits ++ rest)) =
    if UInt64.size ≤ Nat.ofDigitChars 10 digits 0 then ceiling else floor := by
  have hrow := takeWhile_digits_append hdigits hlongest
  have hkept : ('-' :: (digits ++ rest)).dropWhile Text.isBlank = '-' :: (digits ++ rest) := rfl
  obtain ⟨d, ds, rfl⟩ := List.exists_cons_of_ne_nil hne
  simp only [read, hkept, hrow, if_true]

end

/-- An integer at the start is read as the nearest allowed number of days, unless it is too far
below zero. -/
theorem Starts.read_eq {cs : List Char} {v : Int} (h : Starts cs v) :
    read cs = if v ≤ -(UInt64.size : Int) then ceiling else nearest v := by
  obtain ⟨hblanks, hsign, hne, hdigits, hlongest⟩ := h
  rw [read_behind_blanks hblanks]
  have hsize : 0 < (UInt64.size : Int) := by decide
  cases hsign with
  | bare =>
    rw [List.nil_append, read_bare hne hdigits hlongest, nearest_natCast, if_neg (by omega)]
  | plus =>
    rw [List.singleton_append, read_plus hne hdigits hlongest, nearest_natCast, if_neg (by omega)]
  | minus =>
    rw [List.singleton_append, read_minus hne hdigits hlongest, nearest_of_le_floor (by omega)]
    simp only [Int.neg_le_neg_iff, Int.ofNat_le]

theorem coerce_of_low {text : String} {v : Int} (h : Starts text.toList v)
    (hlow : v ≤ -(UInt64.size : Int)) : coerce text = ceiling ∧ ¬Says text (coerce text) := by
  have hread : coerce text = ceiling := by
    rw [coerce, h.read_eq, if_pos hlow]
  refine ⟨hread, fun hsays => ?_⟩
  have hsize : 0 < (UInt64.size : Int) := by decide
  have hnearest : nearest v = floor := nearest_of_le_floor (by omega)
  have hsame : ceiling = floor := by
    rw [← hread, hsays.integer v h, hnearest]
  exact absurd hsame (by decide)

/-- A typed threshold is read as what it says, unless it says a number so far below zero that its
digits do not fit in 64 bits; that one gives the ceiling. -/
theorem says_coerce_iff (text : String) :
    (Says text (coerce text) ↔ ¬∃ v, Starts text.toList v ∧ v ≤ -(UInt64.size : Int)) ∧
      ((∃ v, Starts text.toList v ∧ v ≤ -(UInt64.size : Int)) →
        coerce text = (UInt64.size - 1) / 7200) := by
  refine ⟨⟨?_, ?_⟩, ?_⟩
  · rintro hsays ⟨v, hstarts, hlow⟩
    exact (coerce_of_low hstarts hlow).2 hsays
  · intro hnone
    constructor
    case integer =>
      intro v hstarts
      rw [coerce, hstarts.read_eq, if_neg fun hlow => hnone ⟨v, hstarts, hlow⟩]
    case nothing => exact read_eq_floor
  · rintro ⟨v, hstarts, hlow⟩
    exact (coerce_of_low hstarts hlow).1

/-- The first number below zero whose digits do not fit is read as the largest threshold. -/
theorem ceiling_of_far_below :
    let text := "-18446744073709551616"
    coerce text = 2562047788015215 ∧ nearest (-18446744073709551616) = 10 ∧
      ¬Says text (coerce text) := by
  have hcut : "-18446744073709551616".toList.dropWhile Text.isBlank =
      ['-'] ++ "18446744073709551616".toList := by decide +kernel
  have hstarts : Starts "-18446744073709551616".toList (-18446744073709551616) :=
    .of_dropWhile hcut (by decide +kernel) .minus
  obtain ⟨hread, hfalse⟩ := coerce_of_low hstarts (by decide)
  exact ⟨hread, by decide, hfalse⟩

end ClusterDesk.Threshold
