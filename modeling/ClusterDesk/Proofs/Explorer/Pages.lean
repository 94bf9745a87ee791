import ClusterDesk.Proofs.Explorer.Rows

/-!
# Pages behind their bodies

A page is decoded exactly when each of its rows is and its paging numbers stand in the body. The
rows are taken out of the body before the numbers are read, which changes no number.
-/

namespace ClusterDesk

open Json (Decoder Record)

namespace Page

variable {α : Type}

/-- The number under a key of a body; an absent one is zero. -/
def Counts (body : Json) (key : String) (n : UInt64) : Prop :=
  body.member? key = some (.num (.natural n)) ∨ body.member? key = none ∧ n = 0

/-- The rows under a key of a body, each in its place; none at all, or null, is no row. -/
def Lists (row : Decoder α) (key : String) (body : Json) (items : List α) : Prop :=
  (body.member? key = none ∨ body.member? key = some .null) ∧ items = [] ∨
    ∃ trees, body.member? key = some (.arr trees) ∧
      List.Forall₂ (fun tree item => row tree = .ok item) trees items

/-- A body holds a page: its rows under a key and its paging numbers beside them. -/
structure Holds (row : Decoder α) (key : String) (body : Json) (page : Page α) : Prop where
  items : Lists row key body page.items
  totalItems : Counts body "totalItems" page.totalItems
  totalPages : Counts body "totalPages" page.totalPages
  current : Counts body "currentPage" page.current

theorem counts_iff {members : List (String × Json)} {key : String} {n : UInt64} :
    Counts (.obj members) key n ↔
      (∃ j, members.lookup key = some j ∧ Decoder.natural64 j = .ok n) ∨
        members.lookup key = none ∧ some 0 = some n := by
  simp only [Counts, Json.member?, Decoder.natural64_eq_ok_iff, exists_eq_right, Option.some.injEq,
    @eq_comm _ n]

theorem numbers_eq_ok_iff {members : List (String × Json)}
    (hdistinct : (members.map Prod.fst).Nodup) {totalItems totalPages current : UInt64} :
    numbers (.obj members) = .ok (totalItems, totalPages, current) ↔
      Counts (.obj members) "totalItems" totalItems ∧
        Counts (.obj members) "totalPages" totalPages ∧
          Counts (.obj members) "currentPage" current := by
  rw [numbers, Record.decode_obj_eq_ok_iff _ _ hdistinct]
  simp only [counts_iff]
  constructor
  · intro h
    obtain ⟨f, c, hf, hvalue, hcurrent⟩ := Record.ofMembers_fieldWith h
    obtain ⟨g, p, hg, rfl, hpages⟩ := Record.ofMembers_fieldWith hf
    obtain ⟨_, i, hk, rfl, hitems⟩ := Record.ofMembers_fieldWith hg
    cases hk
    cases hvalue
    exact ⟨hitems, hpages, hcurrent⟩
  · rintro ⟨hitems, hpages, hcurrent⟩
    have hnone : (Record.of fun items pages current : UInt64 => (items, pages, current)).ofMembers
        members = .ok _ := rfl
    have hfirst := Record.ofMembers_fieldWith_eq_ok hnone hitems
    have hsecond := Record.ofMembers_fieldWith_eq_ok hfirst hpages
    exact Record.ofMembers_fieldWith_eq_ok hsecond hcurrent

theorem rows_eq_ok_iff {row : Decoder α} {key : String} {body : Json} {items : List α} :
    rows row key body = .ok items ↔ Lists row key body items := by
  rw [rows, Lists]
  cases hfound : body.member? key with
  | none => simp [eq_comm]
  | some tree =>
    cases tree with
    | null => simp [eq_comm]
    | arr trees => simpa [Decoder.listOf] using Json.mapM_eq_ok_iff
    | _ => simp [Decoder.listOf]

theorem takeOut_obj (key : String) (members : List (String × Json)) :
    takeOut key (.obj members) =
      .obj (members.map fun member => (member.1, if member.1 = key then .null else member.2)) := by
  have hmember : ∀ member : String × Json,
      (if member.1 = key then (member.1, Json.null) else (member.1, member.2)) =
        (member.1, if member.1 = key then .null else member.2) := fun member => by split <;> rfl
  rw [takeOut]
  exact congrArg Json.obj (List.map_congr_left fun member _ => hmember member)

theorem counts_takeOut {members : List (String × Json)} {key : String}
    (hrows : ∀ n, (Json.obj members).member? key ≠ some (.num n)) {k : String} {n : UInt64} :
    Counts (takeOut key (.obj members)) k n ↔ Counts (.obj members) k n := by
  have hmember : (takeOut key (.obj members)).member? k =
      ((Json.obj members).member? k).map fun value => if k = key then .null else value := by
    rw [takeOut_obj]
    exact Json.lookup_map_value (fun k value => if k = key then .null else value) k members
  rw [Counts, Counts, hmember]
  by_cases hkey : k = key
  · subst hkey
    cases hfound : (Json.obj members).member? k with
    | none => simp
    | some value =>
      have hother : value ≠ .num (.natural n) := fun h => hrows (.natural n) (h ▸ hfound)
      simp [hother]
  · simp [hkey]

theorem Lists.ne_num {row : Decoder α} {key : String} {body : Json} {items : List α}
    (h : Lists row key body items) (n : Json.Number) : body.member? key ≠ some (.num n) := by
  obtain ⟨hnone | hnull, -⟩ | ⟨trees, hfound, -⟩ := h
  · simp [hnone]
  · simp [hnull]
  · simp [hfound]

theorem Lists.decoder_of_mem {row : Decoder α} {key : String} {body : Json} {items : List α}
    (h : Lists row key body items) {trees : List Json} (hfound : body.member? key = some (.arr trees))
    {tree : Json} (htree : tree ∈ trees) : ∃ item, row tree = .ok item := by
  obtain ⟨hnone | hnull, -⟩ | ⟨trees', hfound', hread⟩ := h
  · simp [hnone] at hfound
  · simp [hnull] at hfound
  · obtain rfl : trees = trees' := by simpa [hfound] using hfound'
    obtain ⟨i, hi, rfl⟩ := List.getElem_of_mem htree
    exact ⟨_, List.forall₂_iff_get.mp hread |>.2 i hi (hread.length_eq ▸ hi)⟩

theorem decode_eq_ok_iff_rows {row : Decoder α} {key : String} {body : Json} {page : Page α} :
    decode row key body = .ok page ↔
      rows row key body = .ok page.items ∧
        numbers (takeOut key body) = .ok (page.totalItems, page.totalPages, page.current) := by
  rw [decode]
  cases rows row key body with
  | error refusal => simp
  | ok items =>
    cases numbers (takeOut key body) with
    | error refusal => simp
    | ok counted =>
      obtain ⟨totalItems, totalPages, current⟩ := counted
      cases page
      simp

/-- A body holds a page exactly when the page is decoded from it. -/
theorem decode_eq_ok_iff {row : Decoder α} {key : String} {members : List (String × Json)}
    (hdistinct : (members.map Prod.fst).Nodup) {page : Page α} :
    decode row key (.obj members) = .ok page ↔ Holds row key (.obj members) page := by
  rw [decode_eq_ok_iff_rows, rows_eq_ok_iff]
  have hkept : ((members.map fun member =>
      (member.1, if member.1 = key then Json.null else member.2)).map Prod.fst).Nodup := by
    simpa [Function.comp_def] using hdistinct
  constructor
  · intro h
    obtain ⟨hlists, hnumbers⟩ := h
    rw [takeOut_obj, numbers_eq_ok_iff hkept, ← takeOut_obj] at hnumbers
    simp only [counts_takeOut hlists.ne_num] at hnumbers
    exact ⟨hlists, hnumbers.1, hnumbers.2.1, hnumbers.2.2⟩
  · intro h
    refine ⟨h.items, ?_⟩
    rw [takeOut_obj, numbers_eq_ok_iff hkept, ← takeOut_obj]
    simp only [counts_takeOut h.items.ne_num]
    exact ⟨h.totalItems, h.totalPages, h.current⟩

end Page

namespace Backend.Listing

/-- What is decoded from a body that may hold a page of a listing under a key. -/
structure LosesNothing (l : Listing) (key : String) (body : Json) : Prop where
  /-- The rows and numbers that were written are decoded, whatever else the body holds. -/
  kept : ∀ (rows : List l.Row) (totalItems totalPages current : UInt64),
    body.member? key = some (.arr (rows.map fun row => (l.rowJson row).sorted)) →
    Page.Counts body "totalItems" totalItems → Page.Counts body "totalPages" totalPages →
    Page.Counts body "currentPage" current →
    Page.decode l.decoder key body = .ok ⟨rows, totalItems, totalPages, current⟩
  /-- One tree that is no row is enough to refuse the whole body. -/
  refused : ∀ trees, body.member? key = some (.arr trees) →
    (∃ tree ∈ trees, ∃ refusal, l.decoder tree = .error refusal) →
    ∃ refusal, Page.decode l.decoder key body = .error refusal
  empty : ∀ totalItems totalPages current,
    body.member? key = none ∨ body.member? key = some .null →
    Page.Counts body "totalItems" totalItems → Page.Counts body "totalPages" totalPages →
    Page.Counts body "currentPage" current →
    Page.decode l.decoder key body = .ok ⟨[], totalItems, totalPages, current⟩

/-- A body is in key order, as any that is kept whole, and then a page is decoded from it without a
loss or not at all. -/
theorem losesNothing_of_sorted (l : Listing) (key : String) (members : List (String × Json)) :
    l.LosesNothing key (Json.obj members).sorted := by
  have hdecode {page : Page l.Row} :
      Page.decode l.decoder key (Json.obj members).sorted = .ok page ↔
        Page.Holds l.decoder key (Json.obj members).sorted page :=
    Page.decode_eq_ok_iff (Json.nodup_sortedMembers members)
  constructor
  case kept =>
    intro rows totalItems totalPages current hrows hitems hpages hcurrent
    have hread : List.Forall₂ (fun tree row => l.decoder tree = .ok row)
        (rows.map fun row => (l.rowJson row).sorted) rows := by
      rw [List.forall₂_map_left_iff, List.forall₂_same]
      exact fun row _ => l.decoder_sorted_rowJson row
    exact hdecode.mpr ⟨Or.inr ⟨_, hrows, hread⟩, hitems, hpages, hcurrent⟩
  case refused =>
    intro trees hfound hbad
    obtain ⟨tree, htree, refusal, hrefused⟩ := hbad
    cases hpage : Page.decode l.decoder key (Json.obj members).sorted with
    | error refusal => exact ⟨refusal, rfl⟩
    | ok page =>
      obtain ⟨row, hrow⟩ := (hdecode.mp hpage).items.decoder_of_mem hfound htree
      rw [hrefused] at hrow
      cases hrow
  case empty =>
    intro totalItems totalPages current hnone hitems hpages hcurrent
    exact hdecode.mpr ⟨Or.inl ⟨hnone, rfl⟩, hitems, hpages, hcurrent⟩

theorem losesNothing_clusters :
    let cluster : Cluster := ⟨"c1", "0x1", [⟨"north", 7⟩], 4, true⟩
    Page.decode Cluster.decoder "clusters" (Json.obj [
        ("totalPages", .num (.natural 3)), ("clusters", .arr [cluster.toJson, cluster.toJson]),
        ("region", .null), ("totalItems", .num (.natural 21)),
        ("currentPage", .num (.natural 1))]).sorted =
      .ok ⟨[cluster, cluster], 21, 3, 1⟩ := by
  intro cluster
  refine (losesNothing_of_sorted .clusters "clusters" _).kept [cluster, cluster] 21 3 1 ?_ (Or.inl ?_)
    (Or.inl ?_) (Or.inl ?_)
  all_goals
    simp [Json.member?, Json.sorted, Json.sortedItems_eq_map, rowJson]

end Backend.Listing

end ClusterDesk
