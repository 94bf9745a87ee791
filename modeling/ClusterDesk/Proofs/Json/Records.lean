import ClusterDesk.Json.Decoder
import ClusterDesk.Proofs.Json.Members
import ClusterDesk.Proofs.Json.RoundTrip

/-!
# Records behind their members

A record is read from members with its keys, each field from the member with its key.
-/

namespace ClusterDesk.Json

theorem toOption_eq_some_iff {ε α : Type} {result : Except ε α} {a : α} :
    result.toOption = some a ↔ result = .ok a := by
  cases result <;> simp [Except.toOption]

theorem Record.visit_eq_ok {α : Type} {r : Record α} {members : List (String × Json)}
    {seen : List String} (hdistinct : (members.map Prod.fst).Nodup)
    (hnew : ∀ member ∈ members, member.1 ∉ seen)
    (hread : ∀ member ∈ members, ∀ result, r.check member.1 member.2 = some result →
      result = .ok ()) :
    r.visit seen members = .ok () := by
  induction members generalizing seen with
  | nil => rfl
  | cons member rest ih =>
    obtain ⟨hother, hdistinct⟩ := List.nodup_cons.mp hdistinct
    have hlater : ∀ next ∈ rest, next.1 ∉ seen :=
      fun next hnext => hnew next (List.mem_cons_of_mem member hnext)
    have hreadRest : ∀ next ∈ rest, ∀ result, r.check next.1 next.2 = some result →
        result = .ok () := fun next hnext => hread next (List.mem_cons_of_mem member hnext)
    rw [visit]
    cases hcheck : r.check member.1 member.2 with
    | none => exact ih hdistinct hlater hreadRest
    | some result =>
      have hfirst := hnew member List.mem_cons_self
      obtain rfl := hread member List.mem_cons_self result hcheck
      simp only [hfirst, if_false]
      refine ih hdistinct ?_ hreadRest
      intro next hnext
      rw [List.mem_cons, not_or]
      constructor
      · intro hsame
        exact hother (hsame ▸ List.mem_map_of_mem hnext)
      · exact hlater next hnext

theorem read?_compact {α : Type} {d : Decoder α} {j : Json} {a : α} (hexact : j.isExact = true)
    (h : d j = .ok a) : read? d j.compact = some a := by
  rw [read?, parse?_compact hexact, Option.bind_some, h]
  rfl

theorem Record.ofMembers_fieldWith {α β : Type} {r : Record (α → β)} {key : String} {d : Decoder α}
    {absent : Option α} {members : List (String × Json)} {b : β}
    (h : (r.fieldWith key d absent).ofMembers members = .ok b) :
    ∃ f a, r.ofMembers members = .ok f ∧ b = f a ∧
      ((∃ j, members.lookup key = some j ∧ d j = .ok a) ∨
        members.lookup key = none ∧ absent = some a) := by
  simp only [fieldWith] at h
  cases hfront : r.ofMembers members with
  | error refusal => simp [hfront] at h
  | ok f =>
    cases hlookup : members.lookup key with
    | none =>
      cases absent with
      | none => simp [hfront, hlookup] at h
      | some a =>
        obtain rfl : f a = b := by simpa [hfront, hlookup] using h
        exact ⟨f, a, rfl, rfl, Or.inr ⟨rfl, rfl⟩⟩
    | some j =>
      cases hread : d j with
      | error refusal => simp [hfront, hlookup, hread, Except.map] at h
      | ok a =>
        obtain rfl : f a = b := by simpa [hfront, hlookup, hread, Except.map] using h
        exact ⟨f, a, rfl, rfl, Or.inl ⟨j, rfl, hread⟩⟩

theorem Record.ofMembers_fieldWith_eq_ok {α β : Type} {r : Record (α → β)} {key : String}
    {d : Decoder α} {absent : Option α} {members : List (String × Json)} {f : α → β} {a : α}
    (hfront : r.ofMembers members = .ok f)
    (hread : (∃ j, members.lookup key = some j ∧ d j = .ok a) ∨
      members.lookup key = none ∧ absent = some a) :
    (r.fieldWith key d absent).ofMembers members = .ok (f a) := by
  obtain ⟨j, hfound, hread⟩ | ⟨hnone, habsent⟩ := hread
  · simp [fieldWith, hfront, hfound, hread, Except.map]
  · simp [fieldWith, hfront, hnone, habsent]

theorem Record.ofMembers_of_decode {α : Type} {r : Record α} {name : String}
    {members : List (String × Json)} {a : α} (h : r.decode name (.obj members) = .ok a) :
    r.ofMembers members = .ok a := by
  rw [decode] at h
  cases hvisit : r.visit [] members with
  | error refusal => simp [hvisit] at h
  | ok => simpa [hvisit] using h

section Fields

variable {α β : Type}

@[simp] theorem Record.field_eq (r : Record (α → β)) (key : String) (d : Decoder α) :
    r.field key d = r.fieldWith key d none :=
  rfl

@[simp] theorem Record.optional_eq (r : Record (α → β)) (key : String) (d : Decoder α) (absent : α) :
    r.optional key d absent = r.fieldWith key d (some absent) :=
  rfl

@[simp] theorem Record.ofMembers_of (a : α) (members : List (String × Json)) :
    (Record.of a).ofMembers members = .ok a :=
  rfl

@[simp] theorem Record.ofMembers_fieldWith_eq (r : Record (α → β)) (key : String) (d : Decoder α)
    (absent : Option α) (members : List (String × Json)) :
    (r.fieldWith key d absent).ofMembers members =
      match r.ofMembers members, members.lookup key, absent with
      | .error refusal, _, _ => .error refusal
      | .ok f, some j, _ => f <$> d j
      | .ok f, none, some a => .ok (f a)
      | .ok _, none, none => .error (.missing key) := by
  simp only [fieldWith]
  cases r.ofMembers members with
  | error refusal => rfl
  | ok f =>
    cases members.lookup key with
    | some j => rfl
    | none => cases absent <;> rfl

end Fields

/-- A record is checked with what it takes its fields from: no member is refused once all fields
could be taken. -/
class Record.Checked {α : Type} (r : Record α) : Prop where
  check_of_ofMembers {members : List (String × Json)} {a : α} {key : String} {j : Json}
    {result : Except Refusal Unit} (h : r.ofMembers members = .ok a)
    (hfound : members.lookup key = some j) (hcheck : r.check key j = some result) : result = .ok ()

namespace Record

variable {α β : Type}

instance checked_of (a : α) : (Record.of a).Checked where
  check_of_ofMembers _ _ hcheck := by cases hcheck

instance checked_fieldWith (r : Record (α → β)) [r.Checked] (key : String) (d : Decoder α)
    (absent : Option α) : (r.fieldWith key d absent).Checked where
  check_of_ofMembers {members b k j result} h hfound hcheck := by
    obtain ⟨f, a, hfront, -, hread⟩ := ofMembers_fieldWith h
    by_cases hkey : k = key
    · subst hkey
      obtain ⟨j', hfound', hread⟩ | ⟨hnone, -⟩ := hread
      · obtain rfl : j = j' := Option.some.inj (hfound.symm.trans hfound')
        have hresult : some ((d j).map fun _ => ()) = some result := by
          simpa [fieldWith] using hcheck
        rw [← Option.some.inj hresult, hread]
        rfl
      · simp [hfound] at hnone
    · have hearlier : r.check k j = some result := by simpa [fieldWith, hkey] using hcheck
      exact Checked.check_of_ofMembers hfront hfound hearlier

instance checked_field (r : Record (α → β)) [r.Checked] (key : String) (d : Decoder α) :
    (r.field key d).Checked :=
  r.checked_fieldWith key d none

instance checked_optional (r : Record (α → β)) [r.Checked] (key : String) (d : Decoder α)
    (absent : α) : (r.optional key d absent).Checked :=
  r.checked_fieldWith key d (some absent)

/-- With no key twice, a record is decoded as soon as its fields can be taken; other members do
not matter. -/
theorem decode_obj_eq_ok_iff (r : Record α) [r.Checked] (name : String)
    {members : List (String × Json)} (hdistinct : (members.map Prod.fst).Nodup) {a : α} :
    r.decode name (.obj members) = .ok a ↔ r.ofMembers members = .ok a := by
  constructor
  · exact ofMembers_of_decode
  · intro h
    have hvisit : r.visit [] members = .ok () :=
      visit_eq_ok hdistinct (fun member _ => List.not_mem_nil) fun member hmember result hcheck =>
        Checked.check_of_ofMembers h (lookup_of_mem hdistinct hmember) hcheck
    rw [decode, hvisit]
    exact h

theorem decode_sorted_obj {r : Record α} [r.Checked] {name : String}
    {members : List (String × Json)} {a : α}
    (h : r.ofMembers (sortedMembers [] members) = .ok a) :
    r.decode name (Json.obj members).sorted = .ok a :=
  (r.decode_obj_eq_ok_iff name (nodup_sortedMembers members)).mpr h

end Record

namespace Decoder

@[simp] theorem text_str (s : String) : text (.str s) = .ok s :=
  rfl

@[simp] theorem boolean_bool (b : Bool) : boolean (.bool b) = .ok b :=
  rfl

@[simp] theorem natural8_nat (n : UInt8) : natural8 (.nat n.toNat) = .ok n := by
  have hn : n.toNat < UInt8.size := n.toNat_lt
  simp [natural8, naturalBelow, Json.nat, hn, Except.map]

@[simp] theorem natural32_nat (n : UInt32) : natural32 (.nat n.toNat) = .ok n := by
  have hn : n.toNat < UInt32.size := n.toNat_lt
  simp [natural32, naturalBelow, Json.nat, hn, Except.map]

@[simp] theorem natural64_natural (n : UInt64) : natural64 (.num (.natural n)) = .ok n := by
  have hn : n.toNat < UInt64.size := n.toNat_lt
  simp [natural64, naturalBelow, hn, Except.map]

theorem natural64_eq_ok_iff {j : Json} {n : UInt64} :
    natural64 j = .ok n ↔ j = .num (.natural n) := by
  cases j with
  | num m =>
    cases m with
    | natural m => simp
    | _ => simp [natural64, naturalBelow, Except.map]
  | _ => simp [natural64, naturalBelow, Except.map]

end Decoder

end ClusterDesk.Json
