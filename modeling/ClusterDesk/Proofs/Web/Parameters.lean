import ClusterDesk.Proofs.Web.Addresses
import ClusterDesk.Proofs.Web.Queries

/-!
# Parameters of an address

A query is read back as the list of its names and values, however much each of them looks like a
part of a query itself. What is put behind the query of an address is read behind what was there.
-/

namespace ClusterDesk.Web

/-- A name and its value in bytes. -/
def pairBytes (p : String × String) : List UInt8 × List UInt8 :=
  (utf8 p.1, utf8 p.2)

namespace Query

theorem ne_of_mem_encodeText {s : String} {c : Char} (hc : c ∈ encodeText s) :
    c ≠ '&' ∧ c ≠ '=' ∧ c ≠ '#' := by
  have hall : ∀ b, '&' ∉ encodeByte b ∧ '=' ∉ encodeByte b ∧ '#' ∉ encodeByte b :=
    forall_byte_iff.mpr (by decide +kernel)
  obtain ⟨b, -, hb⟩ := List.mem_flatMap.mp hc
  obtain ⟨hpair, hvalue, hend⟩ := hall b
  exact ⟨fun h => hpair (h ▸ hb), fun h => hvalue (h ▸ hb), fun h => hend (h ▸ hb)⟩

theorem ne_of_mem_encodePair {p : String × String} {c : Char} (hc : c ∈ encodePair p) :
    c ≠ '&' ∧ c ≠ '#' := by
  rcases List.mem_append.mp hc with hname | hrest
  · obtain ⟨hand, -, hhash⟩ := ne_of_mem_encodeText hname
    exact ⟨hand, hhash⟩
  · rcases List.mem_cons.mp hrest with rfl | hvalue
    · decide
    · obtain ⟨hand, -, hhash⟩ := ne_of_mem_encodeText hvalue
      exact ⟨hand, hhash⟩

theorem decodePair_encodePair (p : String × String) : decodePair (encodePair p) = pairBytes p := by
  have hname : (encodeText p.1).takeWhile (· != '=') = encodeText p.1 := by
    rw [List.takeWhile_eq_self_iff]
    intro c hc
    simpa using (ne_of_mem_encodeText hc).2.1
  have hrest : (encodeText p.1).dropWhile (· != '=') = [] := by
    rw [List.dropWhile_eq_nil_iff]
    intro c hc
    simpa using (ne_of_mem_encodeText hc).2.1
  rw [decodePair, encodePair, takeWhile_append_stop (by decide), dropWhile_append_stop (by decide),
    hname, hrest, List.nil_append, List.drop_one, List.tail_cons, decodeText_encodeText,
    decodeText_encodeText, pairBytes]

@[simp] theorem decode_nil : decode [] = [] :=
  rfl

theorem decode_encodePair (p : String × String) : decode (encodePair p) = [pairBytes p] := by
  have hwhole : splitAt '&' (encodePair p) = [encodePair p] :=
    splitAt_of_notMem fun hmem => (ne_of_mem_encodePair hmem).1 rfl
  have hsome : (encodePair p).isEmpty = false := by simp [encodePair]
  rw [decode, hwhole, List.filter_cons_of_pos (by simp [hsome]), List.filter_nil,
    List.map_singleton, decodePair_encodePair]

theorem decode_append (cs rest : List Char) :
    decode (cs ++ '&' :: rest) = decode cs ++ decode rest := by
  simp only [decode, splitAt_append_cons, List.filter_append, List.map_append]

/-- A query is read back, name by name and value by value. -/
theorem decode_encode (parameters : Query) : decode (encode parameters) = parameters.map pairBytes := by
  induction parameters with
  | nil => rfl
  | cons p rest ih =>
    cases rest with
    | nil => exact decode_encodePair p
    | cons next rest =>
      rw [encode.eq_3 _ _ (by simp), decode_append, decode_encodePair, ih]
      rfl

theorem hash_notMem_encode (parameters : Query) : '#' ∉ encode parameters := by
  induction parameters with
  | nil => simp [encode]
  | cons p rest ih =>
    have hfirst : '#' ∉ encodePair p := fun hmem => (ne_of_mem_encodePair hmem).2 rfl
    cases rest with
    | nil => exact hfirst
    | cons next rest =>
      rw [encode.eq_3 _ _ (by simp)]
      simp [hfirst, ih]

end Query

/-- The query of a target: what stands behind its question mark, as far as a fragment. -/
def queryOf (target : String) : List Char :=
  ((target.toList.dropWhile (· != '?')).drop 1).takeWhile (· != '#')

namespace Url

/-- The parameters that whoever is sent the target of an address reads from it. -/
def shown (url : Url) : List (List UInt8 × List UInt8) :=
  Query.decode (queryOf url.target)

/-- An address whose path and query are read where they stand. -/
structure IsPlain (url : Url) : Prop where
  path : '?' ∉ url.path
  query : ∀ query ∈ url.query, '#' ∉ query

theorem IsPlain.shown_eq {url : Url} (h : url.IsPlain) :
    url.shown = Query.decode (url.query.getD []) := by
  have hpath : url.path.dropWhile (· != '?') = [] := by
    rw [List.dropWhile_eq_nil_iff]
    rintro c hc
    simpa using fun hsame : c = '?' => h.path (hsame ▸ hc)
  cases hquery : url.query with
  | none => simp [shown, queryOf, target, hquery, hpath]
  | some query =>
    have hkept : query.takeWhile (· != '#') = query := by
      rw [List.takeWhile_eq_self_iff]
      rintro c hc
      simpa using fun hsame : c = '#' => h.query query hquery (hsame ▸ hc)
    rw [shown, queryOf, target, hquery, String.toList_ofList, dropWhile_append_stop (by decide),
      hpath, List.nil_append, List.drop_one, List.tail_cons, hkept, Option.getD_some]

theorem withQuery_path (url : Url) (parameters : Query) :
    (url.withQuery parameters).path = url.path := by
  unfold withQuery
  split
  · rfl
  · split <;> rfl

theorem IsPlain.withQuery {url : Url} (h : url.IsPlain) (parameters : Query) :
    (url.withQuery parameters).IsPlain := by
  refine ⟨by rw [withQuery_path]; exact h.path, ?_⟩
  have hadded := Query.hash_notMem_encode parameters
  unfold Url.withQuery
  split
  case isTrue => exact h.query
  case isFalse =>
    split
    case h_1 => simpa using hadded
    case h_2 => simpa using hadded
    case h_3 before _ hbefore => simpa [hadded] using h.query before hbefore

theorem decode_withQuery (url : Url) (parameters : Query) :
    Query.decode ((url.withQuery parameters).query.getD []) =
      Query.decode (url.query.getD []) ++ parameters.map pairBytes := by
  unfold withQuery
  split
  case isTrue hnone => simp [List.isEmpty_iff.mp hnone]
  case isFalse =>
    split
    case h_1 hquery => simp [hquery, Query.decode_encode]
    case h_2 hquery => simp [hquery, Query.decode_encode]
    case h_3 before _ hquery => simp [hquery, Query.decode_append, Query.decode_encode]

theorem IsPlain.shown_withQuery {url : Url} (h : url.IsPlain) (parameters : Query) :
    (url.withQuery parameters).shown = url.shown ++ parameters.map pairBytes := by
  rw [(h.withQuery parameters).shown_eq, h.shown_eq, decode_withQuery]

/-! Addresses that were read are plain -/

theorem mem_percent {b : UInt8} {c : Char} (hc : c ∈ percent b) : c ≠ '?' ∧ c ≠ '#' := by
  have hall : ∀ b, '?' ∉ percent b ∧ '#' ∉ percent b := forall_byte_iff.mpr (by decide +kernel)
  obtain ⟨hquery, hfragment⟩ := hall b
  exact ⟨fun h => hquery (h ▸ hc), fun h => hfragment (h ▸ hc)⟩

theorem notMem_escape {reserved : String} {sign : Char} (hsign : sign = '?' ∨ sign = '#')
    (h : sign ∈ reserved.toList) (cs : List Char) : sign ∉ escape reserved cs := by
  intro hmem
  obtain ⟨c, -, hc⟩ := List.mem_flatMap.mp hmem
  split at hc
  case isTrue =>
    obtain ⟨b, -, hb⟩ := List.mem_flatMap.mp hc
    rcases hsign with rfl | rfl
    · exact (mem_percent hb).1 rfl
    · exact (mem_percent hb).2 rfl
  case isFalse hkept =>
    obtain rfl := List.mem_singleton.mp hc
    simp [h] at hkept

theorem mem_of_mem_splitAt {separator : Char} {cs part : List Char}
    (h : part ∈ splitAt separator cs) : part ⊆ cs := by
  induction cs generalizing part with
  | nil =>
    obtain rfl : part = [] := by simpa [splitAt] using h
    exact List.nil_subset []
  | cons c rest ih =>
    rw [splitAt] at h
    obtain ⟨first, more, hsplit⟩ := List.exists_cons_of_ne_nil (splitAt_ne_nil separator rest)
    have htail {part : List Char} (hpart : part ∈ first :: more) : part ⊆ c :: rest :=
      List.Subset.trans (ih (hsplit ▸ hpart)) (List.subset_cons_self c rest)
    split at h
    case isTrue =>
      rcases List.mem_cons.mp h with rfl | hpart
      · exact List.nil_subset _
      · exact htail (hsplit ▸ hpart)
    case isFalse =>
      rw [hsplit] at h
      rcases List.mem_cons.mp h with rfl | hpart
      · exact List.cons_subset_cons c (ih (by rw [hsplit]; exact List.mem_cons_self))
      · exact htail (List.mem_cons_of_mem first hpart)

theorem mem_walk {done segments : List (List Char)} {segment : List Char}
    (h : segment ∈ walk done segments) : segment ∈ done ∨ segment ∈ segments ∨ segment = [] := by
  fun_induction walk done segments with
  | case1 done => exact Or.inl h
  | case2 done last hdouble =>
    rcases List.mem_cons.mp h with hempty | hkept
    · exact Or.inr (Or.inr hempty)
    · exact Or.inl (List.mem_of_mem_drop hkept)
  | case3 done last hdouble hdot =>
    rcases List.mem_cons.mp h with hempty | hkept
    · exact Or.inr (Or.inr hempty)
    · exact Or.inl hkept
  | case4 done last hdouble hdot =>
    rcases List.mem_cons.mp h with rfl | hkept
    · exact Or.inr (Or.inl List.mem_cons_self)
    · exact Or.inl hkept
  | case5 done first rest hrest hdouble ih =>
    exact (ih h).imp List.mem_of_mem_drop (Or.imp_left (List.mem_cons_of_mem first))
  | case6 done first rest hrest hdouble hdot ih =>
    exact (ih h).imp_right (Or.imp_left (List.mem_cons_of_mem first))
  | case7 done first rest hrest hdouble hdot ih =>
    rcases ih h with hkept | hlater
    · rcases List.mem_cons.mp hkept with rfl | hdone
      · exact Or.inr (Or.inl List.mem_cons_self)
      · exact Or.inl hdone
    · exact Or.inr (hlater.imp_left (List.mem_cons_of_mem first))

theorem mem_clearPath {cs : List Char} {c : Char} (h : c ∈ clearPath cs) : c = '/' ∨ c ∈ cs := by
  obtain ⟨segment, hsegment, hc⟩ := List.mem_flatMap.mp h
  rcases List.mem_cons.mp hc with hslash | hc
  · exact Or.inl hslash
  · rcases mem_walk (List.mem_reverse.mp hsegment) with hdone | hpart | rfl
    · cases hdone
    · have hsegment : segment ∈ splitAt '/' cs := by
        split at hpart
        case h_1 first rest hsplit => exact hsplit ▸ List.mem_cons_of_mem [] hpart
        case h_2 => exact hpart
      exact Or.inr (mem_of_mem_splitAt hsegment hc)
    · cases hc

theorem question_notMem_of_ofWeb? {scheme : String} {front : List Char} {url : Url}
    (h : ofWeb? scheme front = some url) : '?' ∉ url.path := by
  rw [ofWeb?_eq_map] at h
  obtain ⟨named, -, rfl⟩ := Option.map_eq_some_iff.mp h
  intro hmem
  rcases mem_clearPath hmem with hslash | hescaped
  · exact absurd hslash (by decide)
  · exact notMem_escape (Or.inl rfl) (by decide) _ hescaped

/-- An address that requests are sent to is plain as it is read. -/
theorem isPlain_of_parse? {s : String} {url : Url} (h : parse? s = some url)
    (hserved : isServed url.scheme = true) : url.IsPlain := by
  simp only [parse?, Option.bind_eq_bind, pure, Option.bind_eq_some_iff] at h
  obtain ⟨⟨scheme, rest⟩, -, h⟩ := h
  dsimp only at h
  split at h
  case isTrue =>
    obtain ⟨found, hfound, hurl⟩ := Option.bind_eq_some_iff.mp h
    obtain rfl := Option.some.inj hurl
    have hpath := question_notMem_of_ofWeb? hfound
    refine ⟨hpath, fun query hquery => ?_⟩
    obtain ⟨raw, -, rfl⟩ := Option.map_eq_some_iff.mp hquery
    exact notMem_escape (Or.inr rfl) (by decide) raw
  case isFalse hother =>
    obtain ⟨found, hfound, hurl⟩ := Option.bind_eq_some_iff.mp h
    obtain rfl := Option.some.inj hurl
    obtain rfl := scheme_of_ofOther? hfound
    exact absurd (isSpecial_of_isServed hserved) hother

end Url

end ClusterDesk.Web
