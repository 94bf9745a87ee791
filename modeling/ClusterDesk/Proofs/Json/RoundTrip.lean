import ClusterDesk.Json.Parser
import ClusterDesk.Proofs.Json.Scanning

/-!
# Reading a compact text back

The tokens of a tree build that tree, and the compact text of an exact tree is read as it again. So
two exact trees never share a text.
-/

namespace ClusterDesk.Json

namespace Progress

theorem run_append (p : Progress) (ts us : List Token) :
    run p (ts ++ us) = (run p ts).bind (run · us) := by
  induction ts generalizing p with
  | nil => rfl
  | cons t ts ih =>
    simp only [List.cons_append, run, Option.bind_assoc]
    congr 1
    funext q
    exact ih q

private theorem mapM_named (f : Option String × Json → Option (String × Json))
    (hf : ∀ member, f (Prod.map some id member) = some member) (members : List (String × Json)) :
    (members.map (Prod.map some id)).mapM f = some members := by
  induction members with
  | nil => rfl
  | cons member rest ih => simp [ih, hf]

theorem closeRecord_named (members : List (String × Json)) :
    closeRecord (members.map (Prod.map some id)) = .obj members := by
  rw [closeRecord, mapM_named _ fun _ => rfl]

theorem exists_tokens_eq_cons (j : Json) : ∃ t ts, tokens j = t :: ts ∧ t ≠ .closeList := by
  cases j <;> exact ⟨_, _, rfl, by simp⟩

theorem run_firstItem (item : Json) (rest : List Json) (stack : List Frame) (us : List Token) :
    run (.firstItem stack) (tokensItems (item :: rest) ++ us) =
      run (.value (.list [] :: stack)) (tokensItems (item :: rest) ++ us) := by
  obtain ⟨t, ts, hfirst, hopen⟩ := exists_tokens_eq_cons item
  have hitems : ∃ more, tokensItems (item :: rest) = t :: more := by
    cases rest with
    | nil => exact ⟨ts, hfirst⟩
    | cons next more =>
      refine ⟨ts ++ .comma :: tokensItems (next :: more), ?_⟩
      rw [tokensItems_cons_cons, hfirst, List.cons_append]
  obtain ⟨more, hmore⟩ := hitems
  have hstep : step (.firstItem stack) t = step (.value (.list [] :: stack)) t := by
    cases t <;> first | rfl | exact absurd rfl hopen
  rw [hmore, List.cons_append, run, run, hstep]

theorem run_firstKey (member : String × Json) (rest : List (String × Json)) (stack : List Frame)
    (us : List Token) :
    run (.firstKey stack) (tokensMembers (member :: rest) ++ us) =
      run (.nextKey [] stack) (tokensMembers (member :: rest) ++ us) := by
  obtain ⟨key, value⟩ := member
  cases rest <;> rfl

mutual

/-- The tokens of a tree, where a value is awaited, deliver the tree. -/
theorem run_tokens : ∀ (j : Json) (stack : List Frame),
    run (.value stack) (tokens j) = some (deliver j stack)
  | .null, _ => rfl
  | .bool _, _ => rfl
  | .num _, _ => rfl
  | .str _, _ => rfl
  | .unreadable, _ => rfl
  | .arr [], _ => rfl
  | .arr (item :: rest), stack => by
    have hitems := run_items (item :: rest) (by simp) [] stack
    rw [← run_firstItem] at hitems
    exact hitems
  | .obj [], _ => rfl
  | .obj (member :: rest), stack => by
    have hmembers := run_members (member :: rest) (by simp) [] stack
    rw [List.map_nil, ← run_firstKey] at hmembers
    exact hmembers

theorem run_items : ∀ items : List Json, items ≠ [] → ∀ (done : List Json) (stack : List Frame),
    run (.value (.list done :: stack)) (tokensItems items ++ [.closeList]) =
      some (deliver (.arr (done.reverse ++ items)) stack)
  | [], h, _, _ => absurd rfl h
  | [item], _, done, stack => by
    rw [tokensItems, run_append, run_tokens item]
    simp [deliver, run, step]
  | item :: next :: more, _, done, stack => by
    have hmore := run_items (next :: more) (by simp) (item :: done) stack
    rw [tokensItems_cons_cons, List.append_assoc, run_append, run_tokens item]
    simpa [deliver, run, step] using hmore

theorem run_members : ∀ members : List (String × Json), members ≠ [] →
    ∀ (done : List (String × Json)) (stack : List Frame),
    run (.nextKey (done.map (Prod.map some id)) stack)
        (tokensMembers members ++ [.closeRecord]) =
      some (deliver (.obj (done.reverse ++ members)) stack)
  | [], h, _, _ => absurd rfl h
  | [(key, j)], _, done, stack => by
    have hclosed : closeRecord ((some key, j) :: done.map (Prod.map some id)).reverse =
        .obj (done.reverse ++ [(key, j)]) := by
      simpa using closeRecord_named (done.reverse ++ [(key, j)])
    have hvalue := run_tokens j (.record (done.map (Prod.map some id)) key :: stack)
    simp only [tokensMembers, List.cons_append, run, step, Option.bind_some]
    rw [run_append, hvalue, ← hclosed]
    rfl
  | (key, j) :: next :: more, _, done, stack => by
    have hmore := run_members (next :: more) (by simp) ((key, j) :: done) stack
    have hvalue := run_tokens j (.record (done.map (Prod.map some id)) key :: stack)
    simp only [tokensMembers_cons_cons, List.cons_append, run, step, Option.bind_some]
    rw [List.append_assoc, run_append, hvalue]
    simpa [deliver, run, step] using hmore

end

end Progress

theorem parse?_compact {j : Json} (h : j.isExact = true) : parse? j.compact = some j := by
  have hscan := Token.scan_compactChars j h
  simp [parse?, compact, hscan, Progress.run_tokens, Progress.deliver, Progress.tree?]

end ClusterDesk.Json
