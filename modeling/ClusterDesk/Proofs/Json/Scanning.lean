import Mathlib.Data.List.TakeWhile
import ClusterDesk.Json.Printer
import ClusterDesk.Json.Token
import ClusterDesk.Proofs.Text.Digits

/-!
# Scanning a compact text

The tokens of a tree, and that they are what its compact text is scanned to. A numeral or a word
goes on as long as its characters do, so the text behind a value must not continue it.
-/

namespace ClusterDesk.Json

mutual

/-- Whether a compact text gives the tree back: every part has a value, none is a float, and a
number counts as negative below zero only. -/
def isExact : Json → Bool
  | .num (.negative n) => n < 0
  | .num (.float _) => false
  | .arr items => isExactItems items
  | .obj members => isExactMembers members
  | .unreadable => false
  | _ => true

def isExactItems : List Json → Bool
  | [] => true
  | item :: rest => isExact item && isExactItems rest

def isExactMembers : List (String × Json) → Bool
  | [] => true
  | (_, value) :: rest => isExact value && isExactMembers rest

end

mutual

/-- The tokens of a tree with a value. -/
def tokens : Json → List Token
  | .null => [.null]
  | .bool b => [.bool b]
  | .num n => [.num (some n)]
  | .str s => [.str (some s)]
  | .arr items => .openList :: tokensItems items ++ [.closeList]
  | .obj members => .openRecord :: tokensMembers members ++ [.closeRecord]
  | .unreadable => [.num none]

def tokensItems : List Json → List Token
  | [] => []
  | [item] => tokens item
  | item :: rest => tokens item ++ .comma :: tokensItems rest

def tokensMembers : List (String × Json) → List Token
  | [] => []
  | [(key, value)] => .str (some key) :: .colon :: tokens value
  | (key, value) :: rest =>
    .str (some key) :: .colon :: tokens value ++ .comma :: tokensMembers rest

end

theorem tokensItems_cons_cons (item next : Json) (rest : List Json) :
    tokensItems (item :: next :: rest) = tokens item ++ .comma :: tokensItems (next :: rest) :=
  rfl

theorem tokensMembers_cons_cons (key : String) (value : Json) (next : String × Json)
    (rest : List (String × Json)) :
    tokensMembers ((key, value) :: next :: rest) =
      .str (some key) :: .colon :: tokens value ++ .comma :: tokensMembers (next :: rest) :=
  rfl

namespace Token

theorem scanFrom_cons (u : Unfinished) (c : Char) (rest : List Char) :
    scanFrom u (c :: rest) =
      (step u c).bind fun (v, ts) => (scanFrom v rest).map (ts ++ ·) := by
  rw [scanFrom]
  rcases step u c with _ | ⟨v, ts⟩
  · rfl
  · change (scanFrom v rest).bind _ = Option.map _ (scanFrom v rest)
    cases scanFrom v rest <;> rfl

theorem scanFrom_silent {u v : Unfinished} {c : Char} (h : step u c = some (v, []))
    (rest : List Char) : scanFrom u (c :: rest) = scanFrom v rest := by
  rw [scanFrom_cons, h]
  simp

theorem scanFrom_spoken {u v : Unfinished} {c : Char} {t : Token} (h : step u c = some (v, [t]))
    (rest : List Char) : scanFrom u (c :: rest) = (scanFrom v rest).map (t :: ·) := by
  rw [scanFrom_cons, h]
  simp

theorem scanFrom_collect (goOn : List Char → Unfinished) {cs : List Char}
    (h : ∀ c ∈ cs, ∀ before, step (goOn before) c = some (goOn (c :: before), []))
    (before rest : List Char) :
    scanFrom (goOn before) (cs ++ rest) = scanFrom (goOn (cs.reverse ++ before)) rest := by
  induction cs generalizing before with
  | nil => rfl
  | cons c cs ih =>
    rw [List.cons_append, scanFrom_silent (h c List.mem_cons_self before),
      ih fun d hd => h d (List.mem_cons_of_mem c hd)]
    simp

/-- Behind these characters a numeral and a word have ended. -/
def Ends (rest : List Char) : Prop :=
  ∀ c ∈ rest.head?, Numeral.isPart c = false ∧ c.isLower = false

theorem ends_nil : Ends [] := by
  simp [Ends]

theorem ends_cons {c : Char} (rest : List Char) (hpart : Numeral.isPart c = false)
    (hlower : c.isLower = false) : Ends (c :: rest) := by
  simp [Ends, hpart, hlower]

/-- An open token ends where the next one starts, or the text does. -/
theorem scanFrom_ended {u : Unfinished} {t : Token} {rest : List Char}
    (hfinish : finish u = some [t])
    (hstep : ∀ c ∈ rest.head?, step u c = (start c).map fun (v, ts) => (v, t :: ts)) :
    scanFrom u rest = (scanFrom .nothing rest).map (t :: ·) := by
  cases rest with
  | nil => simpa [scanFrom, finish] using hfinish
  | cons c rest =>
    rw [scanFrom_cons, scanFrom_cons, hstep c rfl]
    change _ = Option.map _ ((start c).bind _)
    rcases start c with _ | ⟨v, ts⟩
    · rfl
    · change Option.map _ (scanFrom v rest) = Option.map _ (Option.map _ (scanFrom v rest))
      cases scanFrom v rest <;> rfl

theorem scanFrom_numeral {cs rest : List Char} {t : Token} (h : ofNumeral? cs.reverse = some t)
    (hends : Ends rest) :
    scanFrom (.numeral cs) rest = (scanFrom .nothing rest).map (t :: ·) := by
  refine scanFrom_ended (by simp [finish, h]) ?_
  intro c hc
  simp only [step, (hends c hc).1, h]
  cases start c <;> rfl

theorem scanFrom_word {cs rest : List Char} {t : Token} (h : ofWord? cs.reverse = some t)
    (hends : Ends rest) :
    scanFrom (.word cs) rest = (scanFrom .nothing rest).map (t :: ·) := by
  refine scanFrom_ended (by simp [finish, h]) ?_
  intro c hc
  simp only [step, (hends c hc).2, h]
  cases start c <;> rfl

end Token

/-! ### Numbers -/

namespace Numeral

theorem digits?_toDigits (n : Nat) :
    digits? (Nat.toDigits 10 n) = some (Nat.toDigits 10 n, []) := by
  have hall : ∀ c ∈ Nat.toDigits 10 n, c.isDigit = true := fun c hc =>
    Nat.isDigit_of_mem_toDigits (by decide) (by decide) hc
  rw [digits?, List.takeWhile_eq_self_iff.mpr hall, List.dropWhile_eq_nil_iff.mpr hall]
  cases h : Nat.toDigits 10 n with
  | nil => simp at h
  | cons c cs => rfl

theorem unsigned?_toDigits (minus : Bool) (n : Nat) :
    unsigned? minus (Nat.toDigits 10 n) = some ⟨minus, Nat.toDigits 10 n, none, none⟩ := by
  rcases Nat.eq_zero_or_pos n with rfl | hn
  · rfl
  · have hhead : (Nat.toDigits 10 n).head? ≠ some '0' :=
      Text.head?_toDigits_ne_zero (by decide) (by decide) hn
    have hdigits := digits?_toDigits n
    cases h : Nat.toDigits 10 n with
    | nil => simp at h
    | cons c cs =>
      rw [h] at hhead hdigits
      have hc : c ≠ '0' := by simpa using hhead
      unfold unsigned?
      split
      · simp_all
      · rw [hdigits]
        rfl

theorem value_natural (n : UInt64) :
    value ⟨false, Nat.toDigits 10 n.toNat, none, none⟩ = some (.natural n) := by
  have hlt : n.toNat < UInt64.size := n.toNat_lt
  simp [value, Nat.ofDigitChars_ten_toDigits, hlt]

theorem value_negative {n : Int64} (hn : n < 0) :
    value ⟨true, Nat.toDigits 10 n.toInt.natAbs, none, none⟩ = some (.negative n) := by
  have hbelow : n.toInt < 0 := by simpa using Int64.lt_iff_toInt_lt.mp hn
  have hlow : -(2 ^ 63) ≤ n.toInt := n.le_toInt
  have habs : (n.toInt.natAbs : Int) = -n.toInt := by omega
  have hpos : 0 < n.toInt.natAbs := by omega
  have hle : n.toInt.natAbs ≤ 9223372036854775808 := by omega
  simp [value, Nat.ofDigitChars_ten_toDigits, hpos, hle, habs]

end Numeral

namespace Token

theorem isPart_of_isDigit {c : Char} (h : c.isDigit = true) : Numeral.isPart c = true := by
  simp [Numeral.isPart, h]

theorem scanFrom_digits {ds : List Char} (h : ∀ c ∈ ds, c.isDigit = true)
    (before rest : List Char) :
    scanFrom (.numeral before) (ds ++ rest) = scanFrom (.numeral (ds.reverse ++ before)) rest := by
  refine scanFrom_collect .numeral (fun c hc before => ?_) before rest
  simp [step, isPart_of_isDigit (h c hc)]

theorem start_numeral {c : Char} (h : Numeral.isPart c = true) (he : c ≠ 'e') (hE : c ≠ 'E') :
    step .nothing c = some (.numeral [c], []) := by
  have hother : ∀ d : Char, Numeral.isPart d = false → (c == d) = false := by
    intro d hd
    rw [beq_eq_false_iff_ne]
    rintro rfl
    simp [h] at hd
  have hspace : isSpace c = false := by
    simp [isSpace, hother ' ' (by decide), hother '\n' (by decide), hother '\t' (by decide),
      hother '\r' (by decide)]
  simp [step, start, hspace, hother '[' (by decide), hother ']' (by decide),
    hother '\x7b' (by decide), hother '\x7d' (by decide), hother ',' (by decide),
    hother ':' (by decide), hother '"' (by decide), h, he, hE]

theorem scanFrom_digit {c : Char} (h : c.isDigit = true) (rest : List Char) :
    scanFrom .nothing (c :: rest) = scanFrom (.numeral [c]) rest := by
  have hother : ∀ d : Char, d.isDigit = false → c ≠ d := by
    rintro d hd rfl
    simp [h] at hd
  exact scanFrom_silent (start_numeral (isPart_of_isDigit h) (hother 'e' (by decide))
    (hother 'E' (by decide))) rest

theorem ofNumeral?_natural (n : UInt64) :
    ofNumeral? (Nat.toDigits 10 n.toNat) = some (.num (some (.natural n))) := by
  have hread : Numeral.ofChars? (Nat.toDigits 10 n.toNat) =
      Numeral.unsigned? false (Nat.toDigits 10 n.toNat) := by
    unfold Numeral.ofChars?
    split
    case h_1 rest hminus =>
      have hdigit := Nat.isDigit_of_mem_toDigits (by decide) (by decide)
        (hminus ▸ List.mem_cons_self : '-' ∈ Nat.toDigits 10 n.toNat)
      exact absurd hdigit (by decide)
    case h_2 => rfl
  rw [ofNumeral?, hread, Numeral.unsigned?_toDigits, Option.map_some, Numeral.value_natural]

theorem ofNumeral?_negative {n : Int64} (hn : n < 0) :
    ofNumeral? ('-' :: Nat.toDigits 10 n.toInt.natAbs) = some (.num (some (.negative n))) := by
  rw [ofNumeral?, Numeral.ofChars?, Numeral.unsigned?_toDigits, Option.map_some,
    Numeral.value_negative hn]

theorem scanFrom_number {n : Number} (h : isExact (.num n) = true) {rest : List Char}
    (hends : Ends rest) :
    scanFrom .nothing (n.chars ++ rest) = (scanFrom .nothing rest).map (.num (some n) :: ·) := by
  have hall : ∀ m, ∀ c ∈ Nat.toDigits 10 m, c.isDigit = true := fun m c hc =>
    Nat.isDigit_of_mem_toDigits (by decide) (by decide) hc
  cases n with
  | natural n =>
    have hread := ofNumeral?_natural n
    obtain ⟨c, cs, hcs⟩ := List.exists_cons_of_ne_nil (Nat.toDigits_ne_nil (b := 10) (n := n.toNat))
    have hall := hall n.toNat
    rw [hcs] at hall hread
    rw [Number.chars, hcs, List.cons_append, scanFrom_digit (hall c List.mem_cons_self),
      scanFrom_digits fun d hd => hall d (List.mem_cons_of_mem c hd)]
    exact scanFrom_numeral (by simpa using hread) hends
  | negative n =>
    have hn : n < 0 := by simpa [isExact] using h
    have hread := ofNumeral?_negative hn
    have hchars : Number.chars (.negative n) = '-' :: Nat.toDigits 10 n.toInt.natAbs := by
      obtain ⟨m, hm⟩ := Int.eq_negSucc_of_lt_zero (by simpa using Int64.lt_iff_toInt_lt.mp hn)
      simp [Number.chars, hm, Int.repr]
    have hminus := start_numeral (c := '-') (by decide) (by decide) (by decide)
    rw [hchars, List.cons_append, scanFrom_silent hminus, scanFrom_digits (hall _)]
    exact scanFrom_numeral (by simpa using hread) hends
  | float x => simp [isExact] at h

end Token

/-! ### Quoted texts -/

namespace Piece

/-- What a written character is read as: control characters without a letter of their own come
back as code units. -/
def ofWritten (c : Char) : Piece :=
  if c.toNat < 0x20 ∧ c ∉ ['\x08', '\t', '\n', '\x0c', '\r'] then .unit c.toNat
  else .char c

theorem join?_unit_cons {n : Nat} (h : n < 0x20) (rest : List Piece) :
    join? (.unit n :: rest) = (join? rest).map (Char.ofNat n :: ·) := by
  have hhigh : isHigh n = false := by
    simp only [isHigh, Bool.and_eq_false_iff, decide_eq_false_iff_not]
    omega
  have hlow : isLow n = false := by
    simp only [isLow, Bool.and_eq_false_iff, decide_eq_false_iff_not]
    omega
  rcases rest with _ | ⟨_ | l, rest⟩ <;> simp [join?, hhigh, hlow]

theorem join?_map_ofWritten (cs : List Char) : join? (cs.map ofWritten) = some cs := by
  induction cs with
  | nil => rfl
  | cons c cs ih =>
    rw [List.map_cons]
    by_cases hunit : c.toNat < 0x20 ∧ c ∉ ['\x08', '\t', '\n', '\x0c', '\r']
    · rw [ofWritten, if_pos hunit, join?_unit_cons hunit.1, ih]
      simp
    · rw [ofWritten, if_neg hunit, join?, ih]
      rfl

end Piece

namespace Token

theorem hexValue?_hexDigit {d : Nat} (h : d < 16) : hexValue? (hexDigit d) = some d := by
  have hall : ∀ d < 16, hexValue? (hexDigit d) = some d := by decide
  exact hall d h

theorem scanFrom_letter {letter c : Char} (h : escaped? letter = some c) (hu : letter ≠ 'u')
    (pieces : List Piece) (rest : List Char) :
    scanFrom (.text pieces) ('\\' :: letter :: rest) =
      scanFrom (.text (.char c :: pieces)) rest := by
  have hopen : step (.text pieces) '\\' = some (.escape pieces, []) := rfl
  have hletter : step (.escape pieces) letter = some (.text (.char c :: pieces), []) := by
    simp [step, hu, h]
  rw [scanFrom_silent hopen, scanFrom_silent hletter]

theorem scanFrom_unit {n : Nat} (h : n < 0x20) (pieces : List Piece) (rest : List Char) :
    scanFrom (.text pieces)
        ('\\' :: 'u' :: '0' :: '0' :: hexDigit (n / 16) :: hexDigit (n % 16) :: rest) =
      scanFrom (.text (.unit n :: pieces)) rest := by
  have hhigh := hexValue?_hexDigit (show n / 16 < 16 by omega)
  have hlow := hexValue?_hexDigit (show n % 16 < 16 by omega)
  have hsum : n / 16 * 16 + n % 16 = n := by omega
  have hopen : step (.text pieces) '\\' = some (.escape pieces, []) := rfl
  have hunit : step (.escape pieces) 'u' = some (.unit pieces 4 0, []) := rfl
  have hfirst : step (.unit pieces 4 0) '0' = some (.unit pieces 3 0, []) := rfl
  have hsecond : step (.unit pieces 3 0) '0' = some (.unit pieces 2 0, []) := rfl
  have hthird : step (.unit pieces 2 0) (hexDigit (n / 16)) =
      some (.unit pieces 1 (n / 16), []) := by
    simp [step, hhigh]
  have hlast : step (.unit pieces 1 (n / 16)) (hexDigit (n % 16)) =
      some (.text (.unit n :: pieces), []) := by
    simp [step, hlow, hsum]
  rw [scanFrom_silent hopen, scanFrom_silent hunit, scanFrom_silent hfirst,
    scanFrom_silent hsecond, scanFrom_silent hthird, scanFrom_silent hlast]

theorem scanFrom_escape (c : Char) (pieces : List Piece) (rest : List Char) :
    scanFrom (.text pieces) (escape c ++ rest) =
      scanFrom (.text (.ofWritten c :: pieces)) rest := by
  by_cases hletter : c ∈ ['"', '\\', '\x08', '\t', '\n', '\x0c', '\r']
  · simp only [List.mem_cons, List.not_mem_nil, or_false] at hletter
    rcases hletter with rfl | rfl | rfl | rfl | rfl | rfl | rfl
    all_goals exact scanFrom_letter rfl (by decide) pieces rest
  · simp only [List.mem_cons, List.not_mem_nil, or_false, not_or] at hletter
    obtain ⟨hquote, hslash, hback, htab, hline, hform, hreturn⟩ := hletter
    by_cases hcontrol : c.toNat < 0x20
    · have hpiece : Piece.ofWritten c = .unit c.toNat := by
        simp [Piece.ofWritten, hcontrol, hback, htab, hline, hform, hreturn]
      simp only [escape, hquote, hslash, hback, htab, hline, hform, hreturn, hcontrol, beq_iff_eq,
        if_false, if_true, hpiece]
      exact scanFrom_unit hcontrol pieces rest
    · have hpiece : Piece.ofWritten c = .char c := by simp [Piece.ofWritten, hcontrol]
      have hplain : step (.text pieces) c = some (.text (.char c :: pieces), []) := by
        simp [step, hquote, hslash, hcontrol]
      simp only [escape, hquote, hslash, hback, htab, hline, hform, hreturn, hcontrol, beq_iff_eq,
        if_false, hpiece]
      exact scanFrom_silent hplain rest

theorem scanFrom_escaped (cs : List Char) (pieces : List Piece) (rest : List Char) :
    scanFrom (.text pieces) (cs.flatMap escape ++ rest) =
      scanFrom (.text ((cs.map Piece.ofWritten).reverse ++ pieces)) rest := by
  induction cs generalizing pieces with
  | nil => rfl
  | cons c cs ih => simp [List.append_assoc, scanFrom_escape, ih]

theorem scanFrom_quote (s : String) (rest : List Char) :
    scanFrom .nothing (quote s ++ rest) = (scanFrom .nothing rest).map (.str (some s) :: ·) := by
  have hopen : step .nothing '"' = some (.text [], []) := rfl
  have hclose : step (.text ((s.toList.map Piece.ofWritten).reverse ++ [])) '"' =
      some (.nothing, [.str (some s)]) := by
    simp [step, ofPieces, Piece.join?_map_ofWritten]
  rw [quote, List.append_assoc, List.cons_append, scanFrom_silent hopen, scanFrom_escaped,
    List.singleton_append, scanFrom_spoken hclose]

/-! ### Trees -/

/-- In front of a rest, a text is scanned to these tokens. -/
def Scanned (cs : List Char) (ts : List Token) (rest : List Char) : Prop :=
  scanFrom .nothing (cs ++ rest) = (scanFrom .nothing rest).map (ts ++ ·)

theorem scanned_nil (rest : List Char) : Scanned [] [] rest := by
  simp [Scanned]

theorem Scanned.append {cs ds rest : List Char} {ts us : List Token}
    (h : Scanned cs ts (ds ++ rest)) (hrest : Scanned ds us rest) :
    Scanned (cs ++ ds) (ts ++ us) rest := by
  unfold Scanned at *
  rw [List.append_assoc, h, hrest]
  simp [Function.comp_def]

theorem scanned_mark {c : Char} {t : Token} (h : step .nothing c = some (.nothing, [t]))
    (rest : List Char) : Scanned [c] [t] rest := by
  simpa [Scanned] using scanFrom_spoken h rest

theorem scanned_quote (s : String) (rest : List Char) :
    Scanned (quote s) [.str (some s)] rest := by
  simpa [Scanned] using scanFrom_quote s rest

theorem scanned_letters (c : Char) (cs : List Char) {t : Token}
    (hlower : cs.all Char.isLower = true) (h : ofWord? (c :: cs) = some t)
    (hopen : step .nothing c = some (.word [c], [])) {rest : List Char} (hends : Ends rest) :
    Scanned (c :: cs) [t] rest := by
  rw [Scanned, List.cons_append, scanFrom_silent hopen, scanFrom_collect .word]
  · exact scanFrom_word (by simpa using h) hends
  · intro d hd before
    simp [step, List.all_eq_true.mp hlower d hd]

mutual

theorem scanned_compact : ∀ j : Json, j.isExact = true → ∀ {rest : List Char}, Ends rest →
    Scanned (compactChars j) (tokens j) rest
  | .null, _, _, hends => scanned_letters 'n' ['u', 'l', 'l'] rfl rfl rfl hends
  | .bool true, _, _, hends => scanned_letters 't' ['r', 'u', 'e'] rfl rfl rfl hends
  | .bool false, _, _, hends => scanned_letters 'f' ['a', 'l', 's', 'e'] rfl rfl rfl hends
  | .num n, h, _, hends => scanFrom_number h hends
  | .str s, _, rest, _ => scanned_quote s rest
  | .arr items, h, rest, _ => by
    have hitems := scanned_items items (by simpa [isExact] using h)
      (ends_cons rest (c := ']') (by decide) (by decide))
    exact ((scanned_mark (c := '[') rfl _).append hitems).append (scanned_mark rfl rest)
  | .obj members, h, rest, _ => by
    have hmembers := scanned_members members (by simpa [isExact] using h)
      (ends_cons rest (c := '\x7d') (by decide) (by decide))
    exact ((scanned_mark (c := '\x7b') rfl _).append hmembers).append (scanned_mark rfl rest)
  | .unreadable, h, _, _ => by simp [isExact] at h

theorem scanned_items : ∀ items : List Json, isExactItems items = true →
    ∀ {rest : List Char}, Ends rest → Scanned (compactItems items) (tokensItems items) rest
  | [], _, rest, _ => scanned_nil rest
  | [item], h, _, hends => scanned_compact item (by simpa [isExactItems] using h) hends
  | item :: next :: more, h, rest, hends => by
    simp only [isExactItems, Bool.and_eq_true] at h
    have hitem := scanned_compact item h.1
      (ends_cons (compactItems (next :: more) ++ rest) (c := ',') (by decide) (by decide))
    have hmore := scanned_items (next :: more) (by simpa [isExactItems] using h.2) hends
    exact hitem.append ((scanned_mark (c := ',') rfl _).append hmore)

theorem scanned_members : ∀ members : List (String × Json), isExactMembers members = true →
    ∀ {rest : List Char}, Ends rest →
      Scanned (compactMembers members) (tokensMembers members) rest
  | [], _, rest, _ => scanned_nil rest
  | [(key, value)], h, _, hends => by
    have hvalue := scanned_compact value (by simpa [isExactMembers] using h) hends
    exact (scanned_quote key _).append ((scanned_mark (c := ':') rfl _).append hvalue)
  | (key, value) :: next :: more, h, rest, hends => by
    simp only [isExactMembers, Bool.and_eq_true] at h
    have hvalue := scanned_compact value h.1
      (ends_cons (compactMembers (next :: more) ++ rest) (c := ',') (by decide) (by decide))
    have hmore := scanned_members (next :: more) (by simpa [isExactMembers] using h.2) hends
    have hmember :=
      (scanned_quote key _).append ((scanned_mark (c := ':') rfl _).append hvalue)
    exact hmember.append ((scanned_mark (c := ',') rfl _).append hmore)

end

/-- The compact text of a tree is scanned to the tokens of the tree. -/
theorem scan_compactChars (j : Json) (h : j.isExact = true) :
    scan (compactChars j) = some (tokens j) := by
  have hscanned := scanned_compact j h ends_nil
  simpa [Scanned, scan, scanFrom, finish] using hscanned

end Token

end ClusterDesk.Json
