import ClusterDesk.Failure

/-!
# Shortened messages

A message is shown whole or cut between two characters, so what is shown never has a part of a
character. A message that was cut is long enough to be cut again, and at the same place.
-/

namespace ClusterDesk

/-- What a message is shown as: all of it, or its first hundred characters and three dots. -/
structure Shortened (message text : String) : Prop where
  whole : message.length ≤ 100 → text = message
  cut : 100 < message.length → ∃ front back, message = front ++ back ∧ front.length = 100 ∧
    text = front ++ "..." ∧ String.Pos.Raw.IsValid message front.rawEndPos

theorem shorten_of_length_le {message : String} (h : message.length ≤ 100) :
    shorten message = message := by
  have hfits : message.toList.length ≤ displayLimit := by
    rw [String.length_toList]
    exact h
  simp only [shorten, if_pos hfits]

/-- What stands behind the first hundred characters does not matter. -/
theorem shorten_append {front back : String} (hfront : front.length = 100) (hback : back ≠ "") :
    shorten (front ++ back) = front ++ "..." := by
  have hlimit : front.toList.length = displayLimit := by
    rw [String.length_toList]
    exact hfront
  have hmore : 0 < back.toList.length := by
    rw [List.length_pos_iff, Ne, String.toList_eq_nil_iff]
    exact hback
  have hlong : ¬(front ++ back).toList.length ≤ displayLimit := by
    rw [String.toList_append, List.length_append]
    omega
  have hkept : (front ++ back).toList.take displayLimit = front.toList := by
    rw [String.toList_append, ← hlimit, List.take_left]
  simp only [shorten, if_neg hlong, hkept]
  rw [← String.toList_inj]
  simp

theorem exists_front {message : String} (h : 100 < message.length) :
    ∃ front back, message = front ++ back ∧ front.length = 100 ∧ back ≠ "" := by
  have hlong : 100 < message.toList.length := by
    rw [String.length_toList]
    exact h
  refine ⟨String.ofList (message.toList.take 100), String.ofList (message.toList.drop 100), ?_, ?_,
    ?_⟩
  · rw [← String.toList_inj]
    simp
  · rw [String.length_ofList, List.length_take]
    omega
  · rw [Ne, ← String.toList_inj]
    simp only [String.toList_ofList]
    intro hnone
    have hlength := congrArg List.length hnone
    simp at hlength
    omega

theorem shortened_shorten (message : String) : Shortened message (shorten message) := by
  constructor
  case whole => exact shorten_of_length_le
  case cut =>
    intro hlong
    obtain ⟨front, back, rfl, hfront, hback⟩ := exists_front hlong
    refine ⟨front, back, rfl, hfront, shorten_append hfront hback, ?_⟩
    exact String.Pos.Raw.isValid_iff_exists_append.mpr ⟨front, back, rfl, rfl⟩

theorem Shortened.length_le {message text : String} (h : Shortened message text) :
    text.length ≤ 103 := by
  by_cases hshort : message.length ≤ 100
  · rw [h.whole hshort]
    omega
  · obtain ⟨front, back, -, hfront, rfl, -⟩ := h.cut (by omega)
    have hdots : "...".length = 3 := rfl
    rw [String.length_append]
    omega

theorem length_shorten_le (message : String) : (shorten message).length ≤ 103 :=
  (shortened_shorten message).length_le

theorem length_shorten {message : String} (h : 100 < message.length) :
    (shorten message).length = 103 := by
  obtain ⟨front, back, rfl, hfront, hback⟩ := exists_front h
  have hdots : "...".length = 3 := rfl
  rw [shorten_append hfront hback, String.length_append]
  omega

theorem shorten_shorten (message : String) : shorten (shorten message) = shorten message := by
  by_cases hshort : message.length ≤ 100
  · rw [shorten_of_length_le hshort, shorten_of_length_le hshort]
  · obtain ⟨front, back, rfl, hfront, hback⟩ := exists_front (Nat.not_le.mp hshort)
    rw [shorten_append hfront hback, shorten_append hfront (by decide)]

end ClusterDesk
