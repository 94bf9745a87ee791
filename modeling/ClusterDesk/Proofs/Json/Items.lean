import Mathlib.Data.List.Forall2
import ClusterDesk.Json.Decoder
import ClusterDesk.Proofs.Json.Members

/-!
# Lists behind their items

A list is read item by item. One item that is refused is enough to refuse the whole list.
-/

namespace ClusterDesk.Json

/-- All items are read, each of them into its place, or nothing is. -/
theorem mapM_eq_ok_iff {ε α β : Type} {f : α → Except ε β} {items : List α}
    {values : List β} : items.mapM f = .ok values ↔
      List.Forall₂ (fun item value => f item = .ok value) items values := by
  induction items generalizing values with
  | nil => simp [pure, Except.pure, eq_comm]
  | cons item rest ih =>
    rw [List.mapM_cons, List.forall₂_cons_left_iff]
    cases hitem : f item with
    | error fault => simp [bind, Except.bind]
    | ok value =>
      cases hrest : rest.mapM f with
      | error fault =>
        have hnone : ∀ others, ¬List.Forall₂ (fun item value => f item = .ok value) rest others := by
          intro others hall
          rw [← ih, hrest] at hall
          cases hall
        simp [bind, Except.bind, hnone]
      | ok others =>
        have hall := ih.mp hrest
        simp only [bind, Except.bind, pure, Except.pure, Except.ok.injEq]
        constructor
        · intro h
          exact ⟨value, others, rfl, hall, h.symm⟩
        · rintro ⟨head, tail, hhead, htail, rfl⟩
          rw [← ih, hrest] at htail
          rw [hhead, Except.ok.inj htail]

namespace Decoder

theorem listOf_eq_ok_iff {α : Type} {item : Decoder α} {j : Json} {values : List α} :
    listOf item j = .ok values ↔
      ∃ items, j = .arr items ∧ List.Forall₂ (fun j value => item j = .ok value) items values := by
  cases j with
  | arr items =>
    simp only [listOf, arr.injEq, exists_eq_left']
    exact mapM_eq_ok_iff
  | _ => simp [listOf]

theorem listOf_map {α : Type} {item : Decoder α} {write : α → Json}
    (h : ∀ a, item (write a) = .ok a) (values : List α) :
    listOf item (.arr (values.map write)) = .ok values := by
  refine mapM_eq_ok_iff.mpr ?_
  rw [List.forall₂_map_left_iff, List.forall₂_same]
  exact fun a _ => h a

theorem text_sorted_str (s : String) : text (Json.str s).sorted = .ok s :=
  rfl

@[simp] theorem listOrNull_sorted_map {α : Type} {item : Decoder α} {write : α → Json}
    (h : ∀ a, item (write a).sorted = .ok a) (values : List α) :
    listOrNull item (Json.arr (values.map write)).sorted = .ok values := by
  rw [sorted, sortedItems_eq_map, List.map_map]
  exact listOf_map h values

@[simp] theorem listOrNull_sorted_texts (texts : List String) :
    listOrNull text (Json.arr (texts.map .str)).sorted = .ok texts :=
  listOrNull_sorted_map text_sorted_str texts

end Decoder

end ClusterDesk.Json
