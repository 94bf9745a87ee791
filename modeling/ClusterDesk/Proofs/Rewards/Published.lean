import ClusterDesk.Proofs.Bytes.Words
import ClusterDesk.Proofs.Json.Items
import ClusterDesk.Proofs.Json.Records
import ClusterDesk.Proofs.Rewards.Amounts
import ClusterDesk.Rewards.Published

/-!
# Reading published rewards

A published reward is an entitlement exactly when each of its texts is well formed, and then the
entitlement holds what the texts write: no element of the proof is lost, moved or made up, and no
amount is another number than its digits.
-/

namespace ClusterDesk

namespace Amount

/-- A text has the form of an amount: decimal digits, perhaps with underscores, of a number below
`2 ^ 256`. -/
def IsDecimal (s : String) : Prop :=
  (∀ c ∈ s.toList, c.isDigit = true ∨ c = '_') ∧
    Nat.ofDigitChars 10 (digits s.toList) 0 < 2 ^ 256

theorem exists_decimal_iff {s : String} : (∃ a, Decimal s.toList a) ↔ IsDecimal s := by
  constructor
  · rintro ⟨a, hdigits, hwei⟩
    exact ⟨hdigits, hwei ▸ a.wei_lt⟩
  · rintro ⟨hdigits, hfits⟩
    exact ⟨⟨_, hfits⟩, hdigits, rfl⟩

/-- A text is a number in decimal, with any blanks around its digits. -/
inductive Numeral (n : Nat) : String → Prop where
  | intro {front row back : List Char} (hfront : ∀ c ∈ front, Text.isBlank c = true)
      (hback : ∀ c ∈ back, Text.isBlank c = true) (hne : row ≠ [])
      (hrow : ∀ c ∈ row, c.isDigit = true) (hn : Nat.ofDigitChars 10 row 0 = n) :
      Numeral n (String.ofList (front ++ (row ++ back)))

theorem isDecimal_empty : IsDecimal "" :=
  ⟨by simp, by decide⟩

theorem digits_of_isDigit {row : List Char} (h : ∀ c ∈ row, c.isDigit = true) :
    digits row = row := by
  refine List.filter_eq_self.mpr fun c hc => ?_
  rw [bne_iff_ne]
  rintro rfl
  exact absurd (h '_' hc) (by decide)

theorem read_numeral {n : Nat} {s : String} (h : Numeral n s) :
    read 10 (Text.trim s).toList =
      if hfits : n < amountBound then .ok ⟨n, hfits⟩ else .error .tooLarge := by
  obtain ⟨hfront, hback, hne, hrow, rfl⟩ := h
  have hplain : ∀ c ∈ _, Text.isBlank c = false :=
    fun c hc => Text.isBlank_eq_false_of_isDigit (hrow c hc)
  rw [Text.trim, String.toList_ofList, String.toList_ofList,
    Text.strip_surrounded hfront hplain hback, read_digits fun c hc => Or.inl (hrow c hc)]
  simp only [digits_of_isDigit hrow]

end Amount

namespace PublishedReward

/-- The words that the texts of a proof write, in their order; blank texts write none. -/
inductive Elements : List String → List Digest → Prop where
  | nil : Elements [] []
  | blank {text : String} {texts : List String} {words : List Digest} (h : Text.trim text = "")
      (hrest : Elements texts words) : Elements (text :: texts) words
  | word {text : String} {texts : List String} {w : Digest} {words : List Digest}
      (h : Text.trim text ≠ "") (hw : w.Written (Text.trim text)) (hrest : Elements texts words) :
      Elements (text :: texts) (w :: words)

/-- An entitlement holds what a reward publishes. -/
structure Publishes (r : PublishedReward) (e : Entitlement) : Prop where
  account : e.account.Written r.account
  amount : Amount.Decimal (Text.trim r.cumulative).toList e.cumulative
  root : if Text.trim r.root = "" then e.root.bytes = List.replicate 32 0
    else e.root.Written (Text.trim r.root)
  proof : Elements (r.proof.getD []) e.proof

theorem readAmount_eq_ok_iff {s : String} {a : Amount} :
    readAmount s = .ok a ↔ Amount.Decimal (Text.trim s).toList a := by
  rw [← Amount.read_eq_ok_iff, readAmount]
  cases Amount.read 10 (Text.trim s).toList with
  | ok amount => simp
  | error fault => simp

theorem readElement_eq_ok_iff {s : String} {w : Digest} :
    readElement s = .ok w ↔ w.Written s := by
  rw [← Word.parse_eq_ok_iff, readElement, Digest.parse]
  cases Word.parse 32 s with
  | ok element => simp
  | error fault => simp

theorem readRoot_eq_ok_iff {s : String} {w : Digest} :
    readRoot s = .ok w ↔
      if Text.trim s = "" then w.bytes = List.replicate 32 0 else w.Written (Text.trim s) := by
  have hzero : (default : Digest).bytes = List.replicate 32 0 := by decide
  simp only [readRoot, String.isEmpty_iff]
  split
  case isTrue =>
    rw [← hzero, Except.ok.injEq, Word.bytes_inj, eq_comm]
  case isFalse =>
    rw [← Word.parse_eq_ok_iff, Digest.parse]
    cases Word.parse 32 (Text.trim s) with
    | ok element => simp
    | error fault => simp

theorem elements_cons_of_blank {text : String} (texts : List String) (h : Text.trim text = "") :
    (((text :: texts).map Text.trim).filter fun s => !s.isEmpty) =
      (texts.map Text.trim).filter fun s => !s.isEmpty := by
  simp [h]

theorem elements_cons {text : String} (texts : List String) (h : Text.trim text ≠ "") :
    (((text :: texts).map Text.trim).filter fun s => !s.isEmpty) =
      Text.trim text :: (texts.map Text.trim).filter fun s => !s.isEmpty := by
  simp [h]

theorem mapM_readElement_eq_ok_iff {texts : List String} {words : List Digest} :
    ((texts.map Text.trim).filter fun s => !s.isEmpty).mapM readElement = .ok words ↔
      Elements texts words := by
  rw [Json.mapM_eq_ok_iff]
  simp only [readElement_eq_ok_iff]
  constructor
  · intro h
    induction texts generalizing words with
    | nil =>
      cases h
      exact .nil
    | cons text texts ih =>
      by_cases hblank : Text.trim text = ""
      · rw [elements_cons_of_blank texts hblank] at h
        exact .blank hblank (ih h)
      · rw [elements_cons texts hblank, List.forall₂_cons_left_iff] at h
        obtain ⟨w, rest, hw, hrest, rfl⟩ := h
        exact .word hblank hw (ih hrest)
  · intro h
    induction h with
    | nil => exact .nil
    | blank hblank hrest ih => rwa [elements_cons_of_blank _ hblank]
    | word hblank hw hrest ih =>
      rw [elements_cons _ hblank]
      exact .cons hw ih

theorem exists_elements_iff {texts : List String} :
    (∃ words, Elements texts words) ↔
      ∀ text ∈ texts, Text.trim text ≠ "" → Hex.IsWord 32 (Text.trim text) := by
  constructor
  · rintro ⟨words, h⟩
    induction h with
    | nil => simp
    | blank hblank hrest ih =>
      rw [List.forall_mem_cons]
      exact ⟨fun hother => absurd hblank hother, ih⟩
    | word hblank hw hrest ih =>
      rw [List.forall_mem_cons]
      exact ⟨fun _ => Word.exists_written_iff.mp ⟨_, hw⟩, ih⟩
  · intro h
    induction texts with
    | nil => exact ⟨[], .nil⟩
    | cons text texts ih =>
      rw [List.forall_mem_cons] at h
      obtain ⟨hfirst, hrest⟩ := h
      obtain ⟨words, hwords⟩ := ih hrest
      by_cases hblank : Text.trim text = ""
      · exact ⟨words, .blank hblank hwords⟩
      · obtain ⟨w, hw⟩ := Word.exists_written_iff.mpr (hfirst hblank)
        exact ⟨w :: words, .word hblank hw hwords⟩

theorem entitlement_eq_ok_iff {r : PublishedReward} {e : Entitlement} :
    r.entitlement = .ok e ↔ r.Publishes e := by
  constructor
  · intro h
    unfold entitlement at h
    cases haccount : Address.parse r.account with
    | error fault => simp [haccount] at h
    | ok account =>
      cases hamount : readAmount r.cumulative with
      | error fault => simp [haccount, hamount] at h
      | ok amount =>
        cases hroot : readRoot r.root with
        | error fault => simp [haccount, hamount, hroot] at h
        | ok root =>
          cases hproof : r.elements.mapM readElement with
          | error fault => simp [haccount, hamount, hroot, hproof] at h
          | ok proof =>
            simp only [haccount, hamount, hroot, hproof, Except.ok.injEq] at h
            rw [← h]
            exact ⟨Word.parse_eq_ok_iff.mp haccount, readAmount_eq_ok_iff.mp hamount,
              readRoot_eq_ok_iff.mp hroot, mapM_readElement_eq_ok_iff.mp hproof⟩
  · intro h
    have haccount : Address.parse r.account = .ok e.account := Word.parse_eq_ok_iff.mpr h.account
    have hamount := readAmount_eq_ok_iff.mpr h.amount
    have hroot := readRoot_eq_ok_iff.mpr h.root
    have hproof : r.elements.mapM readElement = .ok e.proof :=
      mapM_readElement_eq_ok_iff.mpr h.proof
    simp only [entitlement, haccount, hamount, hroot, hproof]

theorem exists_root_iff {s : String} :
    (∃ w : Digest, if Text.trim s = "" then w.bytes = List.replicate 32 0
      else w.Written (Text.trim s)) ↔ Text.trim s = "" ∨ Hex.IsWord 32 (Text.trim s) := by
  by_cases hblank : Text.trim s = ""
  · simp only [hblank, if_true, true_or, iff_true]
    exact ⟨default, by decide⟩
  · simp only [hblank, if_false, false_or]
    exact Word.exists_written_iff

theorem exists_publishes_iff {r : PublishedReward} :
    (∃ e, r.Publishes e) ↔
      Hex.IsWord 20 r.account ∧ Amount.IsDecimal (Text.trim r.cumulative) ∧
        (Text.trim r.root = "" ∨ Hex.IsWord 32 (Text.trim r.root)) ∧
        ∀ text ∈ r.proof.getD [], Text.trim text ≠ "" → Hex.IsWord 32 (Text.trim text) := by
  rw [← Word.exists_written_iff, ← Amount.exists_decimal_iff, ← exists_root_iff,
    ← exists_elements_iff]
  constructor
  · rintro ⟨e, haccount, hamount, hroot, hproof⟩
    exact ⟨⟨_, haccount⟩, ⟨_, hamount⟩, ⟨_, hroot⟩, ⟨_, hproof⟩⟩
  · rintro ⟨⟨account, haccount⟩, ⟨amount, hamount⟩, ⟨root, hroot⟩, ⟨proof, hproof⟩⟩
    exact ⟨⟨account, amount, root, proof⟩, haccount, hamount, hroot, hproof⟩

theorem proof_of_decoder {members : List (String × Json)} {r : PublishedReward}
    (h : decoder (.obj members) = .ok r) :
    (∃ j, members.lookup "merkleProof" = some j ∧
      Json.Decoder.nullable (Json.Decoder.listOf Json.Decoder.text) j = .ok r.proof) ∨
      members.lookup "merkleProof" = none ∧ r.proof = none := by
  obtain ⟨build, proof, hbuild, rfl, hproof⟩ :=
    Json.Record.ofMembers_fieldWith (Json.Record.ofMembers_of_decode h)
  have hkept : (build proof).proof = proof := by
    obtain ⟨_, root, hroot, rfl, -⟩ := Json.Record.ofMembers_fieldWith hbuild
    obtain ⟨_, amount, hamount, rfl, -⟩ := Json.Record.ofMembers_fieldWith hroot
    obtain ⟨_, account, haccount, rfl, -⟩ := Json.Record.ofMembers_fieldWith hamount
    cases haccount
    rfl
  rw [hkept]
  rcases hproof with hfound | ⟨hnone, habsent⟩
  · exact Or.inl hfound
  · exact Or.inr ⟨hnone, (Option.some.inj habsent).symm⟩

theorem proof_eq_none_of_decoder {members : List (String × Json)} {r : PublishedReward}
    (h : decoder (.obj members) = .ok r)
    (hnone : members.lookup "merkleProof" = none ∨ members.lookup "merkleProof" = some .null) :
    r.proof = none := by
  rcases proof_of_decoder h with ⟨j, hfound, hread⟩ | ⟨-, habsent⟩
  · rcases hnone with hnone | hnull
    · simp [hfound] at hnone
    · obtain rfl : j = .null := Option.some.inj (hfound.symm.trans hnull)
      exact (Except.ok.inj hread).symm
  · exact habsent

/-- A reward is read as a whole, and as what its texts write. -/
structure ReadsExactly (r : PublishedReward) : Prop where
  accepted : (∃ e, r.entitlement = .ok e) ↔
    Hex.IsWord 20 r.account ∧
      (Text.trim r.cumulative = "" ∨ Amount.IsDecimal (Text.trim r.cumulative)) ∧
      (Text.trim r.root = "" ∨ Hex.IsWord 32 (Text.trim r.root)) ∧
      ∀ text ∈ r.proof.getD [], Text.trim text ≠ "" → Hex.IsWord 32 (Text.trim text)
  published : ∀ e, r.entitlement = .ok e ↔ r.Publishes e
  /-- A number in decimal is the amount as long as it is one. -/
  amount : ∀ n, Amount.Numeral n r.cumulative → n < 2 ^ 256 →
    (∃ a, readAmount r.cumulative = .ok a ∧ a.wei = n) ∧
      ∀ e, r.entitlement = .ok e → e.cumulative.wei = n
  tooLarge : ∀ n, Amount.Numeral n r.cumulative → 2 ^ 256 ≤ n →
    readAmount r.cumulative = .error (.amount r.cumulative .tooLarge) ∧
      ∀ e, r.entitlement ≠ .ok e
  /-- No proof, or null in its place, is the empty proof. -/
  unproved : ∀ members, decoder (.obj members) = .ok r →
    members.lookup "merkleProof" = none ∨ members.lookup "merkleProof" = some .null →
      ∀ e, r.entitlement = .ok e → e.proof = []

theorem readsExactly_of_texts (r : PublishedReward) : r.ReadsExactly := by
  have hpublished (e : Entitlement) : r.entitlement = .ok e ↔ r.Publishes e :=
    entitlement_eq_ok_iff
  have hamount (e : Entitlement) (h : r.entitlement = .ok e) :
      readAmount r.cumulative = .ok e.cumulative :=
    readAmount_eq_ok_iff.mpr ((hpublished e).mp h).amount
  constructor
  case accepted =>
    have hempty : Text.trim r.cumulative = "" → Amount.IsDecimal (Text.trim r.cumulative) :=
      fun h => h ▸ Amount.isDecimal_empty
    rw [or_iff_right_of_imp hempty, ← exists_publishes_iff]
    exact exists_congr hpublished
  case published => exact hpublished
  case amount =>
    intro n hn hbelow
    have hfits : n < amountBound := hbelow
    have hread : readAmount r.cumulative = .ok ⟨n, hfits⟩ := by
      rw [readAmount, Amount.read_numeral hn, dif_pos hfits]
    refine ⟨⟨_, hread, rfl⟩, fun e he => ?_⟩
    have hsame := hamount e he
    rw [hread] at hsame
    rw [← Except.ok.inj hsame]
  case tooLarge =>
    intro n hn habove
    have hlarge : ¬n < amountBound := Nat.not_lt.mpr habove
    have hread : readAmount r.cumulative = .error (.amount r.cumulative .tooLarge) := by
      rw [readAmount, Amount.read_numeral hn, dif_neg hlarge]
    refine ⟨hread, fun e he => ?_⟩
    have hsame := hamount e he
    rw [hread] at hsame
    cases hsame
  case unproved =>
    intro members hdecoded hnone e he
    have hproof := ((hpublished e).mp he).proof
    rw [proof_eq_none_of_decoder hdecoded hnone] at hproof
    generalize e.proof = words at hproof
    cases hproof
    rfl

end PublishedReward

end ClusterDesk
