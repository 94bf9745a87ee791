import Mathlib.Data.List.TakeWhile
import ClusterDesk.Text.Basic
import ClusterDesk.Web.Url

/-!
# Addresses below a site

Segments that are put behind the address of a site stand at the end of its path, and nothing else
of the address changes. What stands before them is the same for all segments.
-/

namespace ClusterDesk.Web

theorem takeWhile_append_stop {p : α → Bool} {stop : α} (h : p stop = false) (l rest : List α) :
    (l ++ stop :: rest).takeWhile p = l.takeWhile p := by
  rw [List.takeWhile_append, List.takeWhile_cons_of_neg (by simp [h]), List.append_nil]
  split
  case isTrue hall => exact ((List.takeWhile_prefix p).eq_of_length hall).symm
  case isFalse => rfl

theorem dropWhile_append_stop {p : α → Bool} {stop : α} (h : p stop = false) (l rest : List α) :
    (l ++ stop :: rest).dropWhile p = l.dropWhile p ++ stop :: rest := by
  rw [List.dropWhile_append, List.dropWhile_cons_of_neg (by simp [h])]
  split
  case isTrue hempty => rw [List.isEmpty_iff.mp hempty, List.nil_append]
  case isFalse => rfl

theorem splitAt_ne_nil (separator : Char) (cs : List Char) : splitAt separator cs ≠ [] := by
  induction cs with
  | nil => simp [splitAt]
  | cons c rest ih =>
    rw [splitAt]
    split
    · simp
    · split <;> simp

theorem splitAt_of_notMem {separator : Char} {cs : List Char} (h : separator ∉ cs) :
    splitAt separator cs = [cs] := by
  induction cs with
  | nil => rfl
  | cons c rest ih =>
    obtain ⟨hfirst, hrest⟩ := List.ne_and_not_mem_of_not_mem_cons h
    simp [splitAt, ih hrest, Ne.symm hfirst]

theorem splitAt_append_cons (separator : Char) (cs rest : List Char) :
    splitAt separator (cs ++ separator :: rest) =
      splitAt separator cs ++ splitAt separator rest := by
  induction cs with
  | nil => simp [splitAt]
  | cons c cs ih =>
    rw [List.cons_append, splitAt, splitAt, ih]
    split
    case isTrue => rfl
    case isFalse =>
      obtain ⟨first, more, hsplit⟩ := List.exists_cons_of_ne_nil (splitAt_ne_nil separator cs)
      rw [hsplit]
      rfl

namespace Url

/-- Segments of a path, each behind a slash. -/
def spread (segments : List (List Char)) : List Char :=
  segments.flatMap fun segment => '/' :: segment

/-- A character that stands in a segment for itself. -/
def isOwn (c : Char) : Bool :=
  0x20 < c.toNat && c.toNat < 0x7F && c != '/' && c != '\\' && !pathReserved.toList.contains c

/-- A segment that a path keeps as it is. -/
def IsSegment (cs : List Char) : Prop :=
  cs.all isOwn = true ∧ isDot cs = false ∧ isDoubleDot cs = false

instance (cs : List Char) : Decidable (IsSegment cs) :=
  inferInstanceAs (Decidable (_ ∧ _ ∧ _))

/-- A character that is read as it stands, and begins neither a query nor a fragment. -/
def isBare (c : Char) : Bool :=
  0x20 < c.toNat && c != '?' && c != '#'

/-- The address of a site: it has a host and a scheme of the web, and no query or fragment. -/
structure IsSite (base : String) (site : Url) : Prop where
  bare : base.toList.all isBare = true
  parsed : parse? (Text.trimSlashes base) = some site
  hasHost : site.hasHost = true
  served : isServed site.scheme = true

theorem isSpecial_of_isServed {scheme : String} (h : isServed scheme = true) :
    isSpecial scheme = true := by
  obtain rfl | rfl : scheme = "http" ∨ scheme = "https" := by simpa [isServed] using h
  · rfl
  · rfl

/-! Characters of spread segments -/

theorem mem_spread {segments : List (List Char)} (h : ∀ segment ∈ segments, IsSegment segment)
    {c : Char} (hc : c ∈ spread segments) : c = '/' ∨ isOwn c = true := by
  obtain ⟨segment, hsegment, hmem⟩ := List.mem_flatMap.mp hc
  rcases List.mem_cons.mp hmem with hslash | hown
  · exact Or.inl hslash
  · exact Or.inr (List.all_eq_true.mp (h segment hsegment).1 c hown)

theorem ends_of_isOwn {c : Char} (h : isOwn c = true) :
    0x20 < c.toNat ∧ c.toNat < 0x7F ∧ c ≠ '/' ∧ c ≠ '\\' ∧ c ∉ pathReserved.toList := by
  simpa [isOwn, and_assoc] using h

theorem isBare_iff {c : Char} : isBare c = true ↔ 0x20 < c.toNat ∧ c ≠ '?' ∧ c ≠ '#' := by
  simp [isBare, and_assoc]

theorem isBare_of_mem_spread {segments : List (List Char)}
    (h : ∀ segment ∈ segments, IsSegment segment) {c : Char} (hc : c ∈ spread segments) :
    isBare c = true := by
  rcases mem_spread h hc with rfl | hown
  · decide
  · obtain ⟨hlow, -, -, -, hfree⟩ := ends_of_isOwn hown
    refine isBare_iff.mpr ⟨hlow, ?_, ?_⟩
    · rintro rfl
      exact hfree (by decide)
    · rintro rfl
      exact hfree (by decide)

theorem escape_eq_self {reserved : String} {cs : List Char}
    (h : ∀ c ∈ cs, 0x1F < c.toNat ∧ c.toNat < 0x7F ∧ c ∉ reserved.toList) :
    escape reserved cs = cs := by
  unfold escape
  induction cs with
  | nil => rfl
  | cons c rest ih =>
    obtain ⟨⟨hlow, hhigh, hfree⟩, hrest⟩ := List.forall_mem_cons.mp h
    have hkept : (c.toNat ≤ 0x1F || 0x7F ≤ c.toNat || reserved.toList.contains c) = false := by
      simp [hlow, hhigh, hfree]
    rw [List.flatMap_cons, ih hrest, hkept]
    rfl

theorem escape_append (reserved : String) (cs rest : List Char) :
    escape reserved (cs ++ rest) = escape reserved cs ++ escape reserved rest :=
  List.flatMap_append

theorem escape_spread {segments : List (List Char)}
    (h : ∀ segment ∈ segments, IsSegment segment) :
    escape pathReserved (spread segments) = spread segments := by
  refine escape_eq_self fun c hc => ?_
  rcases mem_spread h hc with rfl | hown
  · decide
  · obtain ⟨hlow, hhigh, -, -, hfree⟩ := ends_of_isOwn hown
    exact ⟨by omega, hhigh, hfree⟩

/-! Reading an address with more behind it -/

theorem clean_eq_toList {s : String} (h : ∀ c ∈ s.toList, isBare c = true) :
    clean s = s.toList := by
  have hlow : ∀ c ∈ s.toList, 0x20 < c.toNat := fun c hc => (isBare_iff.mp (h c hc)).1
  have hkept : ∀ cs : List Char, (∀ c ∈ cs, 0x20 < c.toNat) →
      cs.dropWhile (fun c => decide (c.toNat ≤ 0x20)) = cs := by
    intro cs hcs
    rw [List.dropWhile_eq_self_iff]
    intro hne
    simpa using hcs _ (List.getElem_mem hne)
  unfold clean
  dsimp only
  rw [hkept _ hlow, hkept _ (by simpa using hlow), List.reverse_reverse, List.filter_eq_self]
  intro c hc
  have habove := hlow c hc
  simp only [Bool.and_eq_true, bne_iff_ne]
  refine ⟨⟨?_, ?_⟩, ?_⟩
  all_goals
    rintro rfl
    exact absurd habove (by decide)

theorem splitScheme?_eq_some {cs rest : List Char} {scheme : String}
    (h : splitScheme? cs = some (scheme, rest)) :
    ∃ name, cs = name ++ ':' :: rest ∧
      ∀ tail, splitScheme? (name ++ ':' :: tail) = some (scheme, tail) := by
  unfold splitScheme? at *
  dsimp only at *
  generalize hscheme :
    (fun c : Char => c.isAlphanum || c == '+' || c == '-' || c == '.') = isScheme at *
  have hcolon : ¬ isScheme ':' = true := by
    rw [← hscheme]
    decide
  split at h
  case h_1 first more behind hname hrest =>
    split at h
    case isTrue hletter =>
      obtain ⟨rfl, rfl⟩ := Prod.mk.inj (Option.some.inj h)
      have hall : ∀ c ∈ first :: more, isScheme c = true := by
        intro c hc
        rw [← hname] at hc
        exact List.mem_takeWhile_imp hc
      refine ⟨first :: more, ?_, fun tail => ?_⟩
      · rw [← hname, ← hrest, List.takeWhile_append_dropWhile]
      · rw [List.takeWhile_append_of_pos hall, List.dropWhile_append_of_pos hall,
          List.takeWhile_cons_of_neg hcolon, List.dropWhile_cons_of_neg hcolon, List.append_nil]
        simp only [hletter, reduceIte, hname]
    case isFalse => simp at h
  case h_2 => simp at h

theorem splitTail_of_bare {cs : List Char} (h : ∀ c ∈ cs, isBare c = true) :
    splitTail cs = (cs, none, none) := by
  have hbody : cs.takeWhile (· != '#') = cs := by
    simpa [List.takeWhile_eq_self_iff] using fun c hc => (isBare_iff.mp (h c hc)).2.2
  have hfront : cs.takeWhile (· != '?') = cs := by
    simpa [List.takeWhile_eq_self_iff] using fun c hc => (isBare_iff.mp (h c hc)).2.1
  simp [splitTail, hbody, hfront]

/-! Paths -/

theorem walk_segments {segments : List (List Char)}
    (h : ∀ segment ∈ segments, IsSegment segment) (done : List (List Char)) :
    walk done segments = segments.reverse ++ done := by
  induction segments generalizing done with
  | nil => rfl
  | cons segment rest ih =>
    obtain ⟨⟨-, hdot, hdouble⟩, hrest⟩ := List.forall_mem_cons.mp h
    cases rest with
    | nil => simp [walk, hdot, hdouble]
    | cons next rest => simp [walk, hdot, hdouble, ih hrest]

/-- What a walk has kept when it comes to some last segments does not depend on them. -/
theorem exists_walk_append (before done : List (List Char)) :
    ∃ kept, ∀ segments, segments ≠ [] → (∀ segment ∈ segments, IsSegment segment) →
      walk done (before ++ segments) = segments.reverse ++ kept := by
  induction before generalizing done with
  | nil => exact ⟨done, fun segments _ h => walk_segments h done⟩
  | cons first rest ih =>
    let next := if isDoubleDot first then done.drop 1 else if isDot first then done
      else first :: done
    obtain ⟨kept, hkept⟩ := ih next
    refine ⟨kept, fun segments hne h => ?_⟩
    obtain ⟨second, more, hmore⟩ :=
      List.exists_cons_of_ne_nil (List.append_ne_nil_of_right_ne_nil rest hne)
    have hstep : walk done (first :: (rest ++ segments)) = walk next (rest ++ segments) := by
      rw [hmore, walk.eq_3 _ _ _ (by simp)]
      unfold next
      split
      · rfl
      · split
        · rfl
        · rfl
    rw [List.cons_append, hstep]
    exact hkept segments hne h

theorem splitAt_append_spread (cs : List Char) {segments : List (List Char)}
    (h : ∀ segment ∈ segments, IsSegment segment) :
    splitAt '/' (cs ++ spread segments) = splitAt '/' cs ++ segments := by
  induction segments generalizing cs with
  | nil => simp [spread]
  | cons segment rest ih =>
    obtain ⟨hsegment, hrest⟩ := List.forall_mem_cons.mp h
    have hfree : '/' ∉ segment := by
      intro hmem
      exact absurd (List.all_eq_true.mp hsegment.1 '/' hmem) (by decide)
    have hspread : cs ++ spread (segment :: rest) = (cs ++ '/' :: segment) ++ spread rest := by
      simp [spread]
    rw [hspread, ih _ hrest, splitAt_append_cons, splitAt_of_notMem hfree]
    simp

theorem exists_clearPath_append (path : List Char) :
    ∃ root, ∀ segments, segments ≠ [] → (∀ segment ∈ segments, IsSegment segment) →
      clearPath (path ++ spread segments) = root ++ spread segments := by
  obtain ⟨first, more, hsplit⟩ := List.exists_cons_of_ne_nil (splitAt_ne_nil '/' path)
  -- Nothing stands before the first slash of a path.
  obtain ⟨before, hbefore⟩ : ∃ before, ∀ segments, segments ≠ [] →
      (∀ segment ∈ segments, IsSegment segment) →
        clearPath (path ++ spread segments) = spread (walk [] (before ++ segments)).reverse := by
    cases first with
    | nil =>
      refine ⟨more, fun segments hne h => ?_⟩
      obtain ⟨second, rest, hrest⟩ :=
        List.exists_cons_of_ne_nil (List.append_ne_nil_of_right_ne_nil more hne)
      simp only [clearPath, splitAt_append_spread path h, hsplit, List.cons_append, hrest]
      rfl
    | cons c cs =>
      refine ⟨(c :: cs) :: more, fun segments hne h => ?_⟩
      simp only [clearPath, splitAt_append_spread path h, hsplit, List.cons_append]
      rfl
  obtain ⟨kept, hkept⟩ := exists_walk_append before []
  refine ⟨spread kept.reverse, fun segments hne h => ?_⟩
  rw [hbefore segments hne h, hkept segments hne h]
  simp [spread]

/-! Authorities -/

/-- What stands behind the slashes of an address, a backslash counted as one. -/
def behindSlashes (front : List Char) : List Char :=
  (front.map fun c => if c == '\\' then '/' else c).dropWhile (· == '/')

/-- The host and the port that an authority names. -/
def authority? (scheme : String) (cs : List Char) : Option (List Char × Option Nat) := do
  let (host, port) := splitPort (dropUser cs)
  let host ← Host.parse? host
  let port ← port? port
  return (host, if port == impliedPort? scheme then none else port)

theorem ofWeb?_eq_map (scheme : String) (front : List Char) :
    ofWeb? scheme front =
      (authority? scheme ((behindSlashes front).takeWhile (· != '/'))).map fun (host, port) =>
        ⟨scheme, some host, port,
          clearPath (escape pathReserved ((behindSlashes front).dropWhile (· != '/'))),
          none, none⟩ := by
  simp only [ofWeb?, authority?, splitAuthority, behindSlashes, Option.map_bind, Option.map_some,
    Function.comp_def, bind, pure]

theorem authority?_nil (scheme : String) : authority? scheme [] = none :=
  rfl

theorem behindSlashes_append {front : List Char} (hne : behindSlashes front ≠ [])
    {segments : List (List Char)} (h : ∀ segment ∈ segments, IsSegment segment) :
    behindSlashes (front ++ spread segments) = behindSlashes front ++ spread segments := by
  have hkept : (spread segments).map (fun c => if c == '\\' then '/' else c) =
      spread segments := by
    refine (List.map_congr_left fun c hc => ?_).trans (List.map_id _)
    have hother : c ≠ '\\' := by
      rcases mem_spread h hc with rfl | hown
      · decide
      · exact (ends_of_isOwn hown).2.2.2.1
    simp [hother]
  have hempty : (behindSlashes front).isEmpty = false := by simpa using hne
  unfold behindSlashes at *
  rw [List.map_append, hkept, List.dropWhile_append, hempty]
  rfl

theorem exists_ofWeb?_append {scheme : String} {front : List Char} {site : Url}
    (h : ofWeb? scheme front = some site) :
    ∃ root, ∀ segments, segments ≠ [] → (∀ segment ∈ segments, IsSegment segment) →
      ofWeb? scheme (front ++ spread segments) =
        some { site with path := root ++ spread segments } := by
  have hne : behindSlashes front ≠ [] := by
    intro hempty
    simp [ofWeb?_eq_map, hempty, authority?_nil] at h
  rw [ofWeb?_eq_map] at h
  obtain ⟨⟨host, port⟩, hauthority, rfl⟩ := Option.map_eq_some_iff.mp h
  obtain ⟨root, hroot⟩ :=
    exists_clearPath_append (escape pathReserved ((behindSlashes front).dropWhile (· != '/')))
  refine ⟨root, fun segments hsegments hplain => ?_⟩
  obtain ⟨segment, rest, rfl⟩ := List.exists_cons_of_ne_nil hsegments
  have hspread : spread (segment :: rest) = '/' :: (segment ++ spread rest) := rfl
  rw [ofWeb?_eq_map, behindSlashes_append hne hplain, hspread, takeWhile_append_stop (by rfl),
    dropWhile_append_stop (by rfl), hauthority, ← hspread]
  simp only [Option.map_some, escape_append, escape_spread hplain, hroot _ hsegments hplain]

theorem mem_of_mem_trimSlashes {base : String} {c : Char}
    (h : c ∈ (Text.trimSlashes base).toList) : c ∈ base.toList := by
  rw [Text.trimSlashes, String.toList_ofList, Text.dropEnd, List.mem_reverse] at h
  exact List.mem_reverse.mp ((List.dropWhile_suffix _).mem h)

theorem parse?_of_bare {s : String} (h : ∀ c ∈ s.toList, isBare c = true)
    {scheme : String} {front : List Char} (hscheme : splitScheme? s.toList = some (scheme, front))
    (hspecial : isSpecial scheme = true) : parse? s = ofWeb? scheme front := by
  have hfront : ∀ c ∈ front, isBare c = true := by
    obtain ⟨name, hname, -⟩ := splitScheme?_eq_some hscheme
    intro c hc
    exact h c (by simp [hname, hc])
  simp only [parse?, clean_eq_toList h, hscheme, splitTail_of_bare hfront, hspecial, bind, pure,
    Option.bind_some, reduceIte, Option.map_none]
  rw [ofWeb?_eq_map]
  cases authority? scheme ((behindSlashes front).takeWhile (· != '/')) with
  | none => rfl
  | some named => rfl

theorem scheme_of_ofOther? {scheme : String} {front : List Char} {url : Url}
    (h : ofOther? scheme front = some url) : url.scheme = scheme := by
  unfold ofOther? at h
  split at h
  case h_1 rest =>
    simp only [Option.bind_eq_bind, pure] at h
    split at h
    case isTrue => simp at h
    case isFalse =>
      obtain ⟨port, -, hurl⟩ := Option.bind_eq_some_iff.mp h
      obtain rfl := Option.some.inj hurl
      rfl
  case h_2 =>
    obtain rfl := Option.some.inj h
    rfl
  case h_3 =>
    obtain rfl := Option.some.inj h
    rfl

theorem scheme_of_ofWeb? {scheme : String} {front : List Char} {url : Url}
    (h : ofWeb? scheme front = some url) : url.scheme = scheme ∧ url.query = none := by
  rw [ofWeb?_eq_map] at h
  obtain ⟨named, -, rfl⟩ := Option.map_eq_some_iff.mp h
  exact ⟨rfl, rfl⟩

theorem exists_ofWeb?_of_parse? {s : String} {site : Url}
    (h : ∀ c ∈ s.toList, isBare c = true) (hparsed : parse? s = some site)
    (hserved : isServed site.scheme = true) :
    ∃ front, splitScheme? s.toList = some (site.scheme, front) ∧
      ofWeb? site.scheme front = some site := by
  have hread := hparsed
  simp only [parse?, clean_eq_toList h, Option.bind_eq_bind, pure,
    Option.bind_eq_some_iff] at hread
  obtain ⟨⟨scheme, front⟩, hscheme, hread⟩ := hread
  dsimp only at hread hscheme
  split at hread
  case isTrue hspecial =>
    have hweb : ofWeb? scheme front = some site := by
      rw [← hparsed, parse?_of_bare h hscheme hspecial]
    obtain rfl := (scheme_of_ofWeb? hweb).1
    exact ⟨front, hscheme, hweb⟩
  case isFalse hother =>
    obtain ⟨url, hurl, hsite⟩ := Option.bind_eq_some_iff.mp hread
    obtain rfl := Option.some.inj hsite
    obtain rfl := scheme_of_ofOther? hurl
    exact absurd (isSpecial_of_isServed hserved) hother

/-- Whatever is put behind a site lies below one path of it, with the same host and port. -/
theorem IsSite.exists_root {base : String} {site : Url} (h : IsSite base site) :
    site.query = none ∧ ∃ root, ∀ segments, segments ≠ [] →
      (∀ segment ∈ segments, IsSegment segment) →
        parse? (Text.trimSlashes base ++ String.ofList (spread segments)) =
          some { site with path := root ++ spread segments } := by
  have hbare : ∀ c ∈ (Text.trimSlashes base).toList, isBare c = true :=
    fun c hc => List.all_eq_true.mp h.bare c (mem_of_mem_trimSlashes hc)
  obtain ⟨front, hscheme, hread⟩ := exists_ofWeb?_of_parse? hbare h.parsed h.served
  obtain ⟨root, hroot⟩ := exists_ofWeb?_append hread
  obtain ⟨name, hname, hsame⟩ := splitScheme?_eq_some hscheme
  refine ⟨(scheme_of_ofWeb? hread).2, root, fun segments hne hsegments => ?_⟩
  rw [← hroot segments hne hsegments]
  refine parse?_of_bare ?_ ?_ (isSpecial_of_isServed h.served)
  · intro c hc
    rw [String.toList_append, String.toList_ofList] at hc
    rcases List.mem_append.mp hc with hbase | hadded
    · exact hbare c hbase
    · exact isBare_of_mem_spread hsegments hadded
  · rw [String.toList_append, String.toList_ofList, hname, List.append_assoc, List.cons_append]
    exact hsame _

example : IsSite "https://stub:84/v1//"
    ⟨"https", some "stub".toList, some 84, "/v1".toList, none, none⟩ := by
  refine ⟨?_, ?_, rfl, rfl⟩
  · decide +kernel
  · decide +kernel

end Url

end ClusterDesk.Web
