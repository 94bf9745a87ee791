import Mathlib.Data.List.DropRight
import ClusterDesk.Text.Basic

/-!
# Trimmed texts

Trimming only takes characters away, and what was trimmed once is left as it is. Nothing is left of
a blank text, and of no other.
-/

namespace ClusterDesk.Text

theorem strip_prefix_dropWhile (cs : List Char) : strip cs <+: cs.dropWhile isBlank :=
  List.rdropWhile_prefix isBlank _

theorem strip_subset (cs : List Char) : strip cs ⊆ cs := by
  intro c hc
  have hkept : c ∈ cs.dropWhile isBlank := (strip_prefix_dropWhile cs).subset hc
  exact (List.dropWhile_sublist isBlank).subset hkept

theorem dropWhile_strip (cs : List Char) : (strip cs).dropWhile isBlank = strip cs := by
  rw [List.dropWhile_eq_self_iff]
  intro hsome
  have hstart := strip_prefix_dropWhile cs
  have hkept : 0 < (cs.dropWhile isBlank).length := hsome.trans_le hstart.length_le
  rw [hstart.getElem hsome]
  exact List.dropWhile_get_zero_not isBlank cs hkept

@[simp] theorem strip_strip (cs : List Char) : strip (strip cs) = strip cs := by
  calc strip (strip cs) = dropEnd isBlank (strip cs) := by rw [strip, dropWhile_strip]
    _ = strip cs := List.rdropWhile_idempotent isBlank (cs.dropWhile isBlank)

@[simp] theorem trim_trim (text : String) : trim (trim text) = trim text := by
  simp only [trim, String.toList_ofList, strip_strip]

theorem strip_eq_nil_of_all {cs : List Char} (h : (strip cs).all isBlank = true) :
    strip cs = [] := by
  rw [← dropWhile_strip, List.dropWhile_eq_nil_iff]
  exact List.all_eq_true.mp h

theorem allBlank_trim (text : String) : allBlank (trim text) = true ↔ trim text = "" := by
  constructor
  · intro hblank
    rw [allBlank, trim, String.toList_ofList] at hblank
    rw [trim, strip_eq_nil_of_all hblank, String.ofList_nil]
  · intro hempty
    rw [hempty]
    rfl

theorem isBlank_eq_false_of_isDigit {c : Char} (h : c.isDigit = true) : isBlank c = false := by
  have hrange : 48 ≤ c.toNat ∧ c.toNat ≤ 57 := by
    simp only [Char.isDigit, Bool.and_eq_true, decide_eq_true_eq, UInt32.le_iff_toNat_le] at h
    exact h
  simp only [isBlank]
  grind

theorem strip_framed {front body back : List Char} (hfront : ∀ c ∈ front, isBlank c = true)
    (hback : ∀ c ∈ back, isBlank c = true) (hfirst : ∀ c ∈ body.head?, isBlank c = false)
    (hlast : ∀ c ∈ body.getLast?, isBlank c = false) : strip (front ++ (body ++ back)) = body := by
  have hstop (cs rest : List Char) (hcs : ∀ c ∈ cs.head?, isBlank c = false) (hne : cs ≠ []) :
      (cs ++ rest).dropWhile isBlank = cs ++ rest := by
    obtain ⟨c, cs, rfl⟩ := List.exists_cons_of_ne_nil hne
    exact List.dropWhile_cons_of_neg (by simp [hcs c rfl])
  rw [strip, dropEnd, List.dropWhile_append_of_pos hfront]
  by_cases hempty : body = []
  · have hnone : back.dropWhile isBlank = [] := List.dropWhile_eq_nil_iff.mpr hback
    rw [hempty, List.nil_append, hnone]
    rfl
  · have hend : ∀ c ∈ back.reverse, isBlank c = true := by simpa using hback
    have hkept := hstop body.reverse [] (by simpa using hlast) (by simpa using hempty)
    rw [List.append_nil] at hkept
    rw [hstop body back hfirst hempty, List.reverse_append, List.dropWhile_append_of_pos hend, hkept,
      List.reverse_reverse]

theorem strip_surrounded {front body back : List Char} (hfront : ∀ c ∈ front, isBlank c = true)
    (hbody : ∀ c ∈ body, isBlank c = false) (hback : ∀ c ∈ back, isBlank c = true) :
    strip (front ++ (body ++ back)) = body :=
  strip_framed hfront hback (fun c hc => hbody c (List.mem_of_mem_head? hc))
    fun c hc => hbody c (List.mem_of_getLast? hc)

/-- A text is another one without the blanks at both of its ends. -/
structure Trims (text trimmed : String) : Prop where
  cut : ∃ front back : List Char, text.toList = front ++ (trimmed.toList ++ back) ∧
    (∀ c ∈ front, isBlank c = true) ∧ ∀ c ∈ back, isBlank c = true
  first : ∀ c ∈ trimmed.toList.head?, isBlank c = false
  last : ∀ c ∈ trimmed.toList.getLast?, isBlank c = false

theorem trims_trim (text : String) : Trims text (trim text) := by
  constructor
  case cut =>
    refine ⟨text.toList.takeWhile isBlank, (text.toList.dropWhile isBlank).rtakeWhile isBlank, ?_,
      fun c hc => List.mem_takeWhile_imp hc, fun c hc => List.mem_rtakeWhile_imp hc⟩
    rw [trim, String.toList_ofList]
    calc text.toList = text.toList.takeWhile isBlank ++ text.toList.dropWhile isBlank :=
          List.takeWhile_append_dropWhile.symm
      _ = _ := congrArg _ List.rdropWhile_append_rtakeWhile.symm
  case first =>
    rw [trim, String.toList_ofList, ← dropWhile_strip]
    intro c hc
    have hstart := List.head?_dropWhile_not isBlank (strip text.toList)
    rw [Option.mem_def.mp hc] at hstart
    exact hstart
  case last =>
    rw [trim, String.toList_ofList]
    intro c hc
    obtain ⟨hne, rfl⟩ := List.mem_getLast?_eq_getLast hc
    exact Bool.eq_false_iff.mpr
      (List.rdropWhile_last_not isBlank (text.toList.dropWhile isBlank) hne)

/-- What is left of a text without the blanks at its ends is what trimming leaves. -/
theorem trims_iff {text trimmed : String} : Trims text trimmed ↔ trimmed = trim text := by
  constructor
  · rintro ⟨⟨front, back, htext, hfront, hback⟩, hfirst, hlast⟩
    rw [trim, htext, strip_framed hfront hback hfirst hlast, String.ofList_toList]
  · rintro rfl
    exact trims_trim text

theorem trim_eq_empty_iff (text : String) : trim text = "" ↔ allBlank text = true := by
  rw [allBlank, List.all_eq_true]
  constructor
  · intro hempty
    obtain ⟨front, back, htext, hfront, hback⟩ := (trims_trim text).cut
    rw [htext, hempty]
    exact List.forall_mem_append.mpr ⟨hfront, hback⟩
  · intro hblank
    have hcut : strip (text.toList ++ ([] ++ [])) = [] :=
      strip_framed hblank (by simp) (by simp) (by simp)
    simp only [List.append_nil] at hcut
    rw [trim, hcut, String.ofList_nil]

end ClusterDesk.Text
