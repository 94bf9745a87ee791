import ClusterDesk.Json.Basic
import Mathlib.Data.String.Basic

/-!
# Members behind their keys

A member of a record is found under its key when no key comes twice. A sorted tree has each key
once, with the last value that was given for it.
-/

namespace ClusterDesk.Json

@[simp] theorem lookup_cons_eq_ite (key : String) (member : String × Json)
    (members : List (String × Json)) :
    (member :: members).lookup key = if key = member.1 then some member.2 else members.lookup key := by
  by_cases hkey : key = member.1
  · rw [if_pos hkey, hkey, List.lookup_cons_self]
  · have hother : (key == member.1) = false := beq_eq_false_iff_ne.mpr hkey
    rw [if_neg hkey, List.lookup_cons, hother]

theorem lookup_of_mem {members : List (String × Json)}
    (hdistinct : (members.map Prod.fst).Nodup) {member : String × Json} (h : member ∈ members) :
    members.lookup member.1 = some member.2 := by
  induction members with
  | nil => cases h
  | cons head rest ih =>
    obtain ⟨hnew, hdistinct⟩ := List.nodup_cons.mp hdistinct
    rw [lookup_cons_eq_ite]
    have hcases := List.mem_cons.mp h
    cases hcases with
    | inl hhead => rw [hhead, if_pos rfl]
    | inr hrest =>
      have hother : member.1 ≠ head.1 :=
        fun hsame => hnew (hsame ▸ List.mem_map_of_mem hrest)
      rw [if_neg hother]
      exact ih hdistinct hrest

theorem lookup_map_value (write : String → Json → Json) (key : String)
    (members : List (String × Json)) :
    (members.map fun member => (member.1, write member.1 member.2)).lookup key =
      (members.lookup key).map (write key) := by
  induction members with
  | nil => rfl
  | cons head rest ih =>
    rw [List.map_cons, lookup_cons_eq_ite, lookup_cons_eq_ite, ih]
    by_cases hkey : key = head.1
    · rw [if_pos hkey, if_pos hkey, hkey, Option.map_some]
    · rw [if_neg hkey, if_neg hkey]

/-! ### Key order -/

def Ordered (members : List (String × Json)) : Prop :=
  members.Pairwise fun a b => a.1 < b.1

theorem Ordered.nodup {members : List (String × Json)} (h : Ordered members) :
    (members.map Prod.fst).Nodup := by
  rw [List.Nodup, List.pairwise_map]
  exact h.imp fun hlt => ne_of_lt hlt

theorem mem_insertMember {key : String} {value : Json} {member : String × Json}
    {members : List (String × Json)} (h : member ∈ insertMember key value members) :
    member = (key, value) ∨ member ∈ members := by
  induction members with
  | nil => simpa [insertMember] using h
  | cons head rest ih =>
    rw [insertMember] at h
    split_ifs at h with hbefore hsame
    · exact List.mem_cons.mp h
    · exact (List.mem_cons.mp h).imp_right (List.mem_cons_of_mem head)
    · have hcases := List.mem_cons.mp h
      cases hcases with
      | inl hhead => exact Or.inr (hhead ▸ List.mem_cons_self)
      | inr hrest => exact (ih hrest).imp_right (List.mem_cons_of_mem head)

theorem Ordered.insertMember {members : List (String × Json)} (h : Ordered members) (key : String)
    (value : Json) : Ordered (insertMember key value members) := by
  induction members with
  | nil => exact List.pairwise_singleton _ _
  | cons head rest ih =>
    obtain ⟨hfirst, hrest⟩ := List.pairwise_cons.mp h
    rw [Json.insertMember]
    split_ifs with hbefore hsame
    · refine List.pairwise_cons.mpr ⟨fun member hmember => ?_, h⟩
      have hcases := List.mem_cons.mp hmember
      cases hcases with
      | inl hhead => exact hhead ▸ hbefore
      | inr htail => exact hbefore.trans (hfirst member htail)
    · exact List.pairwise_cons.mpr ⟨fun member hmember => hsame ▸ hfirst member hmember, hrest⟩
    · have hafter : head.1 < key := lt_of_le_of_ne (not_lt.mp hbefore) (Ne.symm hsame)
      refine List.pairwise_cons.mpr ⟨fun member hmember => ?_, ih hrest⟩
      have hcases := mem_insertMember hmember
      cases hcases with
      | inl hnew => exact hnew ▸ hafter
      | inr htail => exact hfirst member htail

theorem lookup_insertMember (key k : String) (value : Json) (members : List (String × Json)) :
    (insertMember key value members).lookup k =
      if k = key then some value else members.lookup k := by
  induction members with
  | nil => exact lookup_cons_eq_ite k (key, value) []
  | cons head rest ih =>
    have hinserted : ∀ others, List.lookup k ((key, value) :: others) =
        if k = key then some value else others.lookup k := lookup_cons_eq_ite k (key, value)
    by_cases hbefore : key < head.1
    · rw [insertMember, if_pos hbefore, hinserted]
    · by_cases hsame : key = head.1
      · rw [insertMember, if_neg hbefore, if_pos hsame, hinserted, lookup_cons_eq_ite k head,
          ← hsame]
        split <;> rfl
      · have hother : k = head.1 → k ≠ key := fun hhead hk => hsame (hk.symm.trans hhead)
        rw [insertMember, if_neg hbefore, if_neg hsame, lookup_cons_eq_ite, lookup_cons_eq_ite, ih]
        by_cases hhead : k = head.1
        · rw [if_pos hhead, if_neg (hother hhead), if_pos hhead]
        · rw [if_neg hhead, if_neg hhead]

theorem ordered_sortedMembers {done : List (String × Json)} (h : Ordered done)
    (members : List (String × Json)) : Ordered (sortedMembers done members) := by
  induction members generalizing done with
  | nil => exact h
  | cons member rest ih => exact ih (h.insertMember member.1 member.2.sorted)

theorem nodup_sortedMembers (members : List (String × Json)) :
    ((sortedMembers [] members).map Prod.fst).Nodup :=
  (ordered_sortedMembers List.Pairwise.nil members).nodup

/-- Of several values for a key the last one is kept. -/
@[simp] theorem lookup_sortedMembers (key : String) (done members : List (String × Json)) :
    (sortedMembers done members).lookup key =
      ((members.reverse.lookup key).map sorted).or (done.lookup key) := by
  induction members generalizing done with
  | nil => rfl
  | cons member rest ih =>
    rw [sortedMembers, ih, lookup_insertMember, List.reverse_cons, List.lookup_append]
    rw [lookup_cons_eq_ite, List.lookup_nil]
    cases rest.reverse.lookup key with
    | some later => rfl
    | none => by_cases hkey : key = member.1 <;> simp [hkey]

theorem sortedItems_eq_map (items : List Json) : sortedItems items = items.map sorted := by
  induction items with
  | nil => rfl
  | cons item rest ih => rw [sortedItems, ih, List.map_cons]

@[simp] theorem sorted_bool (b : Bool) : (Json.bool b).sorted = .bool b :=
  rfl

@[simp] theorem sorted_num (n : Number) : (Json.num n).sorted = .num n :=
  rfl

@[simp] theorem sorted_nat (n : Nat) : (Json.nat n).sorted = .nat n :=
  rfl

@[simp] theorem sorted_str (s : String) : (Json.str s).sorted = .str s :=
  rfl

end ClusterDesk.Json
