import ClusterDesk.Proofs.Bytes.Hex

/-!
# Texts of words

A word is read from exactly the texts of its digits: two for each byte, in either case, with or
without `0x` in front.
-/

namespace ClusterDesk

namespace Hex

/-- The character of a byte. -/
def charOf (b : UInt8) : Char :=
  Char.ofNat b.toNat

theorem toNat_charOf (b : UInt8) : (charOf b).toNat = b.toNat := by
  have hall : ∀ n < 256, (Char.ofNat n).toNat = n := by decide +kernel
  exact hall b.toNat b.toNat_lt

theorem utf8EncodeChar_of_lt {c : Char} (h : c.toNat < 128) :
    String.utf8EncodeChar c = [c.toNat.toUInt8] := by
  have hle : c.val.toNat ≤ 0x7f := Nat.le_of_lt_succ h
  simp only [String.utf8EncodeChar, if_pos hle]
  rfl

theorem utf8EncodeChar_charOf {b : UInt8} (h : b < 0x80) :
    String.utf8EncodeChar (charOf b) = [b] := by
  have hlt : (charOf b).toNat < 128 := by
    rw [toNat_charOf]
    exact UInt8.lt_iff_toNat_lt.mp h
  rw [utf8EncodeChar_of_lt hlt, toNat_charOf]
  simp

theorem flatMap_map_charOf {bytes : List UInt8} (h : ∀ b ∈ bytes, b < 0x80) :
    (bytes.map charOf).flatMap String.utf8EncodeChar = bytes := by
  induction bytes with
  | nil => rfl
  | cons b rest ih =>
    have hb := utf8EncodeChar_charOf (h b List.mem_cons_self)
    have hrest := ih fun next hnext => h next (List.mem_cons_of_mem b hnext)
    rw [List.map_cons, List.flatMap_cons, hb, hrest, List.singleton_append]

theorem toList_eq_map_charOf {s : String} (h : ∀ b ∈ utf8 s, b < 0x80) :
    s.toList = (utf8 s).map charOf := by
  have hsame : utf8 (String.ofList ((utf8 s).map charOf)) = utf8 s := by
    rw [utf8, String.toList_ofList, flatMap_map_charOf h]
  calc s.toList = (String.ofList ((utf8 s).map charOf)).toList := by rw [utf8_injective hsame]
    _ = (utf8 s).map charOf := String.toList_ofList

theorem value?_eq_some {b half : UInt8} (h : value? b = some half) : b < 0x80 ∧ half < 16 := by
  have hall : ∀ b, ∀ x ∈ value? b, b < 0x80 ∧ x < 16 :=
    forall_byte_iff.mpr (by decide +kernel)
  exact hall b half h

theorem denotes_charOf {b half : UInt8} (h : value? b = some half) : Denotes (charOf b) half := by
  obtain ⟨hascii, -⟩ := value?_eq_some h
  have hsame : (charOf b).toNat.toUInt8 = b := by
    rw [toNat_charOf]
    exact UInt8.ofNat_toNat
  rw [Denotes, hsame]
  exact ⟨utf8EncodeChar_charOf hascii, h⟩

theorem halves_join {high low : UInt8} (hhigh : high < 16) (hlow : low < 16) :
    (high * 16 + low) / 16 = high ∧ (high * 16 + low) % 16 = low := by
  have hall : ∀ m < 16, ∀ n < 16,
      (UInt8.ofNat m * 16 + UInt8.ofNat n) / 16 = UInt8.ofNat m ∧
        (UInt8.ofNat m * 16 + UInt8.ofNat n) % 16 = UInt8.ofNat n := by
    decide +kernel
  have h := hall high.toNat (UInt8.lt_iff_toNat_lt.mp hhigh) low.toNat
    (UInt8.lt_iff_toNat_lt.mp hlow)
  rwa [UInt8.ofNat_toNat, UInt8.ofNat_toNat] at h

theorem spells_of_pairs {position : Nat} {digits bytes : List UInt8}
    (h : pairs position digits = .ok bytes) :
    (∀ b ∈ digits, b < 0x80) ∧ Spells (digits.map charOf) bytes := by
  fun_induction pairs position digits generalizing bytes with
  | case1 =>
    cases h
    exact ⟨by simp, .nil⟩
  | case2 => cases h
  | case3 => cases h
  | case4 => cases h
  | case5 position high low rest x y hlow hhigh ih =>
    cases hrest : pairs (position + 2) rest with
    | error fault => simp [hrest, Except.map] at h
    | ok read =>
      obtain rfl : (x * 16 + y) :: read = bytes := by simpa [hrest, Except.map] using h
      obtain ⟨hascii, hspells⟩ := ih hrest
      obtain ⟨hhighAscii, hx⟩ := value?_eq_some hhigh
      obtain ⟨hlowAscii, hy⟩ := value?_eq_some hlow
      obtain ⟨hdiv, hmod⟩ := halves_join hx hy
      constructor
      · simp only [List.mem_cons, forall_eq_or_imp]
        exact ⟨hhighAscii, hlowAscii, hascii⟩
      · refine .cons ?_ ?_ hspells
        · rw [hdiv]
          exact denotes_charOf hhigh
        · rw [hmod]
          exact denotes_charOf hlow

theorem bare_cases (bytes : List UInt8) :
    bare bytes = bytes ∨ bytes = 0x30 :: 0x78 :: bare bytes := by
  unfold bare
  split
  · exact Or.inr rfl
  · exact Or.inl rfl

/-- Digits, with or without `0x` in front of them. -/
def Behind (digits : List Char) (s : String) : Prop :=
  s.toList = digits ∨ s.toList = '0' :: 'x' :: digits

theorem exists_spells_of_decode {size : Nat} {s : String} {bytes : List UInt8}
    (h : decode size s = .ok bytes) :
    bytes.length = size ∧ ∃ digits, Behind digits s ∧ Spells digits bytes := by
  have hread : (bare (utf8 s)).length / 2 = size ∧ pairs 0 (bare (utf8 s)) = .ok bytes := by
    simp only [decode] at h
    split at h
    case isTrue => cases h
    case isFalse =>
      split at h
      case isTrue => cases h
      case isFalse hsize => exact ⟨by simpa using hsize, h⟩
  obtain ⟨hsize, hpairs⟩ := hread
  obtain ⟨hascii, hspells⟩ := spells_of_pairs hpairs
  constructor
  · have hlength := hspells.length_eq
    rw [flatMap_map_charOf hascii] at hlength
    omega
  · refine ⟨_, ?_, hspells⟩
    rcases bare_cases (utf8 s) with hbare | hbare
    · left
      rw [hbare] at hascii ⊢
      exact toList_eq_map_charOf hascii
    · right
      have hall : ∀ b ∈ utf8 s, b < 0x80 := by
        rw [hbare]
        simp only [List.mem_cons, forall_eq_or_imp]
        exact ⟨by decide, by decide, hascii⟩
      calc s.toList = (utf8 s).map charOf := toList_eq_map_charOf hall
        _ = (0x30 :: 0x78 :: bare (utf8 s)).map charOf := by rw [← hbare]
        _ = '0' :: 'x' :: (bare (utf8 s)).map charOf := rfl

theorem Spells.bare_eq {digits : List Char} {bytes : List UInt8} (h : Spells digits bytes) :
    bare (digits.flatMap String.utf8EncodeChar) = digits.flatMap String.utf8EncodeChar := by
  cases h with
  | nil => rfl
  | cons hhigh hlow hrest =>
    rw [List.flatMap_cons, List.flatMap_cons, hhigh.1, hlow.1]
    rcases bare_cases _ with hbare | hbare
    · exact hbare
    · simp only [List.cons_append, List.nil_append, List.cons.injEq] at hbare
      have hnone : value? 0x78 = none := by decide
      have hvalue := hlow.2
      rw [hbare.2.1, hnone] at hvalue
      cases hvalue

theorem Spells.decode_of_behind {digits : List Char} {bytes : List UInt8} {s : String}
    (h : Spells digits bytes) (hs : Behind digits s) : decode bytes.length s = .ok bytes := by
  rcases hs with hs | hs
  · have hutf8 : utf8 s = digits.flatMap String.utf8EncodeChar := by rw [utf8, hs]
    simp only [decode, hutf8, h.bare_eq, h.length_eq, h.pairs_eq_ok]
    simp
  · obtain rfl : s = String.ofList ('0' :: 'x' :: digits) := by rw [← hs, String.ofList_toList]
    exact h.decode_eq_ok

theorem Denotes.toNat_lt {c : Char} {half : UInt8} (h : Denotes c half) : c.toNat < 128 := by
  have hsize : c.utf8Size = 1 := by
    rw [← String.length_utf8EncodeChar, h.1, List.length_singleton]
  have hle := UInt32.le_iff_toNat_le.mp (Char.utf8Size_eq_one_iff.mp hsize)
  exact Nat.lt_succ_of_le hle

theorem denotes_of_lt {c : Char} {half : UInt8} (h : c.toNat < 128) :
    Denotes c half ↔ value? c.toNat.toUInt8 = some half :=
  and_iff_right (utf8EncodeChar_of_lt h)

theorem toNat_lt_of_toLower {c : Char} {half : UInt8} (hhalf : half < 16)
    (h : c.toLower = digit half) : c.toNat < 128 := by
  have hall : ∀ n < 16, (Nat.digitChar n).toNat < 128 := by decide
  have hdigit : (digit half).toNat < 128 := hall half.toNat (UInt8.lt_iff_toNat_lt.mp hhalf)
  rw [← h] at hdigit
  unfold Char.toLower at hdigit
  split at hdigit
  case isTrue hcapital =>
    have hle := UInt32.le_iff_toNat_le.mp hcapital.2
    exact Nat.lt_of_le_of_lt hle (by decide)
  case isFalse => exact hdigit

theorem denotes_iff {c : Char} {half : UInt8} (hhalf : half < 16) :
    Denotes c half ↔ c.toLower = digit half := by
  have hall : ∀ n < 128, ∀ m < 16, value? (UInt8.ofNat n) = some (UInt8.ofNat m) ↔
      (Char.ofNat n).toLower = digit (UInt8.ofNat m) := by
    decide +kernel
  have hchecked (hlt : c.toNat < 128) :
      value? c.toNat.toUInt8 = some half ↔ c.toLower = digit half := by
    have h := hall c.toNat hlt half.toNat (UInt8.lt_iff_toNat_lt.mp hhalf)
    rwa [Char.ofNat_toNat, UInt8.ofNat_toNat] at h
  constructor
  · intro h
    exact (hchecked h.toNat_lt).mp h.2
  · intro h
    have hlt := toNat_lt_of_toLower hhalf h
    exact (denotes_of_lt hlt).mpr ((hchecked hlt).mpr h)

/-- The digits of some bytes are their digits in lower case, whatever the case of each was. -/
theorem spells_iff {digits : List Char} {bytes : List UInt8} :
    Spells digits bytes ↔ digits.map Char.toLower = encode bytes := by
  constructor
  · intro h
    induction h with
    | nil => rfl
    | @cons high low cs b bytes hhigh hlow h ih =>
      obtain ⟨hdiv, hmod⟩ := halves_lt b
      change high.toLower :: low.toLower :: cs.map Char.toLower =
        digit (b / 16) :: digit (b % 16) :: encode bytes
      rw [(denotes_iff hdiv).mp hhigh, (denotes_iff hmod).mp hlow, ih]
  · intro h
    induction bytes generalizing digits with
    | nil =>
      obtain rfl := List.map_eq_nil_iff.mp h
      exact .nil
    | cons b bytes ih =>
      obtain ⟨hdiv, hmod⟩ := halves_lt b
      change digits.map Char.toLower = digit (b / 16) :: digit (b % 16) :: encode bytes at h
      obtain ⟨high, rest, rfl, hhigh, hrest⟩ := List.map_eq_cons_iff.mp h
      obtain ⟨low, cs, rfl, hlow, hcs⟩ := List.map_eq_cons_iff.mp hrest
      exact .cons ((denotes_iff hdiv).mpr hhigh) ((denotes_iff hmod).mpr hlow) (ih hcs)

/-- The characters that count as digits of a word. -/
def isDigit (c : Char) : Bool :=
  c.isDigit || ('a' ≤ c && c ≤ 'f') || ('A' ≤ c && c ≤ 'F')

theorem toNat_lt_of_isDigit {c : Char} (h : isDigit c = true) : c.toNat < 128 := by
  simp only [isDigit, Char.isDigit, Bool.or_eq_true, Bool.and_eq_true, decide_eq_true_eq,
    Char.le_def, UInt32.le_iff_toNat_le] at h
  have hbound : c.val.toNat ≤ 102 := by
    rcases h with (h | h) | h
    · exact Nat.le_trans h.2 (by decide)
    · exact h.2
    · exact Nat.le_trans h.2 (by decide)
  exact Nat.lt_of_le_of_lt hbound (by decide)

theorem isDigit_iff {c : Char} : isDigit c = true ↔ ∃ half, Denotes c half := by
  have hall : ∀ n < 128, isDigit (Char.ofNat n) = (value? (UInt8.ofNat n)).isSome := by
    decide +kernel
  have hchecked (hlt : c.toNat < 128) : isDigit c = true ↔ ∃ half, Denotes c half := by
    have h := hall c.toNat hlt
    rw [Char.ofNat_toNat] at h
    simp only [denotes_of_lt hlt, h, Option.isSome_iff_exists]
  constructor
  · intro h
    exact (hchecked (toNat_lt_of_isDigit h)).mp h
  · rintro ⟨half, h⟩
    exact (hchecked h.toNat_lt).mpr ⟨half, h⟩

theorem Spells.length_digits {digits : List Char} {bytes : List UInt8} (h : Spells digits bytes) :
    digits.length = 2 * bytes.length := by
  induction h with
  | nil => rfl
  | cons hhigh hlow h ih =>
    simp only [List.length_cons, ih]
    omega

theorem Spells.isDigit_of_mem {digits : List Char} {bytes : List UInt8} (h : Spells digits bytes)
    {c : Char} (hc : c ∈ digits) : isDigit c = true := by
  induction h with
  | nil => cases hc
  | cons hhigh hlow h ih =>
    rcases List.mem_cons.mp hc with rfl | hc
    · exact isDigit_iff.mpr ⟨_, hhigh⟩
    · rcases List.mem_cons.mp hc with rfl | hc
      · exact isDigit_iff.mpr ⟨_, hlow⟩
      · exact ih hc

theorem exists_spells {size : Nat} {digits : List Char} (hlength : digits.length = 2 * size)
    (hdigits : ∀ c ∈ digits, isDigit c = true) :
    ∃ bytes, bytes.length = size ∧ Spells digits bytes := by
  induction size generalizing digits with
  | zero =>
    obtain rfl := List.eq_nil_of_length_eq_zero hlength
    exact ⟨[], rfl, .nil⟩
  | succ size ih =>
    obtain _ | ⟨high, _ | ⟨low, rest⟩⟩ := digits
    · simp at hlength
    · simp only [List.length_cons, List.length_nil] at hlength
      omega
    · simp only [List.mem_cons, forall_eq_or_imp] at hdigits
      obtain ⟨hhigh, hlow, hrest⟩ := hdigits
      obtain ⟨bytes, hsize, hspells⟩ := ih (by simp only [List.length_cons] at hlength; omega) hrest
      obtain ⟨x, hx⟩ := isDigit_iff.mp hhigh
      obtain ⟨y, hy⟩ := isDigit_iff.mp hlow
      obtain ⟨hdiv, hmod⟩ := halves_join (value?_eq_some hx.2).2 (value?_eq_some hy.2).2
      refine ⟨(x * 16 + y) :: bytes, by rw [List.length_cons, hsize], .cons ?_ ?_ hspells⟩
      · rwa [hdiv]
      · rwa [hmod]

/-- A text has the form of a word: digits, two for each of its bytes. -/
def IsWord (size : Nat) (s : String) : Prop :=
  ∃ digits, Behind digits s ∧ digits.length = 2 * size ∧ ∀ c ∈ digits, isDigit c = true

end Hex

namespace Word

variable {size : Nat} {s : String} {w : Word size}

/-- A text writes a word: its digits in either case. -/
def Written (w : Word size) (s : String) : Prop :=
  ∃ digits, Hex.Behind digits s ∧ digits.map Char.toLower = Hex.encode w.bytes

theorem bytes_inj {v : Word size} : v.bytes = w.bytes ↔ v = w := by
  cases v
  cases w
  simp

theorem parse_eq_ok_iff : parse size s = .ok w ↔ w.Written s := by
  constructor
  · intro h
    unfold parse at h
    cases hdecode : Hex.decode size s with
    | error fault => simp [hdecode] at h
    | ok bytes =>
      obtain ⟨hlength, digits, hs, hspells⟩ := Hex.exists_spells_of_decode hdecode
      simp only [hdecode, hlength, dif_pos, Except.ok.injEq] at h
      obtain rfl := h
      exact ⟨digits, hs, Hex.spells_iff.mp hspells⟩
  · rintro ⟨digits, hs, hdigits⟩
    have hdecode := (Hex.spells_iff.mpr hdigits).decode_of_behind hs
    rw [w.length_bytes] at hdecode
    simp only [parse, hdecode, w.length_bytes, dif_pos]

/-- The texts of words are those that have the form of one. -/
theorem exists_written_iff : (∃ w : Word size, w.Written s) ↔ Hex.IsWord size s := by
  constructor
  · rintro ⟨w, digits, hs, hdigits⟩
    have hspells := Hex.spells_iff.mpr hdigits
    refine ⟨digits, hs, ?_, fun c hc => hspells.isDigit_of_mem hc⟩
    rw [hspells.length_digits, w.length_bytes]
  · rintro ⟨digits, hs, hlength, hdigits⟩
    obtain ⟨bytes, hsize, hspells⟩ := Hex.exists_spells hlength hdigits
    exact ⟨⟨bytes, hsize⟩, digits, hs, Hex.spells_iff.mp hspells⟩

end Word

end ClusterDesk
