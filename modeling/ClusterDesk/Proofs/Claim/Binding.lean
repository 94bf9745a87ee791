import ClusterDesk.Proofs.Claim.Submission

/-!
# The account behind a search

A search asks for one account and takes over whatever account the answer names: that one is read
from the chain, shown and claimed for. So a search is bound to its own account exactly as long as
the backend names it.
-/

namespace ClusterDesk.Claim

/-- The accounts looked up at the backend, with what it published for them. -/
def published (transcript : List (Exchange Question Answer)) :
    List (Address × Except Failure Entitlement) :=
  transcript.filterMap fun
    | ⟨.entitlement account, answer⟩ => some (account, answer.reply)
    | _ => none

/-- The accounts whose claimed amount was read from the chain. -/
def amountReads (transcript : List (Exchange Question Answer)) : List Address :=
  transcript.filterMap fun
    | ⟨.claimed account, _⟩ => some account
    | _ => none

/-- All that a search brings about is about one account. -/
structure BoundTo (account : Address) (snapshot : Snapshot) (search : Episode)
    (since : List Episode) : Prop where
  /-- The stored snapshot is that account's. -/
  shown : search.after.snapshot = some snapshot ∧ snapshot.entitlement.account = account
  /-- The claimed amount was read for it, unless it was never allocated anything. -/
  read : amountReads search.transcript =
    if snapshot.entitlement.isEmpty then [] else [account]
  /-- Every call submitted since is on its behalf. -/
  claimed : ∀ e ∈ since, ∀ call ∈ submitted e.transcript, call.account = account

theorem Course.found {d left : Desk} {account : Address} {snapshot : Snapshot}
    {transcript : List (Exchange Question Answer)}
    (h : Course d (.search account) transcript (.snapshot (.ok snapshot)) left) :
    published transcript = [(account, .ok snapshot.entitlement)] ∧
      left.snapshot = some snapshot ∧
      amountReads transcript =
        if snapshot.entitlement.isEmpty then [] else [snapshot.entitlement.account] := by
  cases h with
  | search h =>
    cases h with
    | empty hopen hempty =>
      refine ⟨rfl, rfl, ?_⟩
      rw [if_pos (by simpa [Snapshot.of] using hempty)]
      rfl
    | read hopen hempty =>
      refine ⟨rfl, rfl, ?_⟩
      rw [if_neg (by simpa [Snapshot.of] using hempty)]
      rfl

theorem Course.found_of_ne_search {d left : Desk} {action : Action}
    {transcript : List (Exchange Question Answer)} {outcome : Outcome}
    (h : Course d action transcript outcome left) (hother : ∀ account, action ≠ .search account) :
    outcome.found = none := by
  cases h with
  | search h => exact absurd rfl (hother _)
  | claim h => rfl
  | applyConfirmed => rfl
  | settle h => rfl
  | dispose => rfl
  | pause => rfl

theorem lastFound_append {past since : List Episode} (h : ∀ e ∈ since, e.outcome.found = none) :
    lastFound (past ++ since) = lastFound past := by
  have hnone : since.filterMap (fun e => e.outcome.found) = [] := by
    simpa [List.filterMap_eq_nil_iff] using h
  simp only [lastFound, List.filterMap_append, hnone, List.append_nil]

/-- Every call submitted before the next search is on behalf of the account found. -/
theorem account_of_submitted {σ : Type} {answer : (q : Question) → σ → Answer q × σ} {s : σ}
    {links : ClaimLinks} {actions : List Action} {past since later : List Episode} {e x : Episode}
    {entitlement : Entitlement}
    (h : history answer { links := links } s actions = past ++ e :: (since ++ later))
    (hfound : e.outcome.found = some entitlement)
    (hsince : ∀ x ∈ since, ∀ account, x.action ≠ .search account) (hx : x ∈ since) :
    ∀ call ∈ submitted x.transcript, call.account = entitlement.account := by
  obtain ⟨front, back, rfl⟩ := List.append_of_mem hx
  have hsplit : history answer { links := links } s actions =
      (past ++ e :: front) ++ x :: (back ++ later) := by simpa using h
  obtain ⟨hlead, hpossible⟩ := Dialogue.leads_of_history hsplit
  have hquiet : ∀ y ∈ front, y.outcome.found = none := by
    intro y hy
    have hmem : y ∈ history answer { links := links } s actions := by simp [h, hy]
    exact (course_of_possible (Dialogue.possible_of_mem_history hmem)).found_of_ne_search
      (hsince y (by simp [hy]))
  have hlast : lastFound (past ++ e :: front) = some entitlement := by
    rw [List.append_cons, lastFound_append hquiet, lastFound_concat,
      hfound, Option.some_or]
  intro call hcall
  rcases (course_of_possible hpossible).submission with
    ⟨hnone, _⟩ | ⟨snapshot, _, _, hmay, _, hone, _⟩
  · simp [hnone] at hcall
  · have hsame := snapshot_found hlead snapshot hmay.known
    rw [hlast, Option.some.injEq] at hsame
    obtain rfl : call = snapshot.entitlement.claimCall := by simpa [hone] using hcall
    rw [hsame]
    rfl

/-- Whatever is answered, a successful search is bound to the account that the backend named, and
so to its own account if and only if the backend named that one. -/
theorem boundTo_iff_of_history {σ : Type} (answer : (q : Question) → σ → Answer q × σ) (s : σ)
    (links : ClaimLinks) (actions : List Action) (past since later : List Episode) (e : Episode)
    (account : Address) (snapshot : Snapshot)
    (h : history answer { links := links } s actions = past ++ e :: (since ++ later))
    (haction : e.action = .search account) (houtcome : e.outcome = .snapshot (.ok snapshot))
    (hsince : ∀ x ∈ since, ∀ other, x.action ≠ .search other) :
    published e.transcript = [(account, .ok snapshot.entitlement)] ∧
      BoundTo snapshot.entitlement.account snapshot e since ∧
      (BoundTo account snapshot e since ↔ snapshot.entitlement.account = account) := by
  have hcourse := course_of_possible (Dialogue.leads_of_history h).2
  rw [haction, houtcome] at hcourse
  obtain ⟨hpublished, hstored, hread⟩ := hcourse.found
  have hfound : e.outcome.found = some snapshot.entitlement := by rw [houtcome]; rfl
  have hbound : BoundTo snapshot.entitlement.account snapshot e since :=
    ⟨⟨hstored, rfl⟩, hread, fun x hx => account_of_submitted h hfound hsince hx⟩
  refine ⟨hpublished, hbound, ?_⟩
  constructor
  · intro hown
    exact hown.shown.2
  · intro hsame
    rw [hsame] at hbound
    exact hbound

/-- A backend that publishes the entitlement of one account whichever is asked for, and a wallet
that sends the claim. -/
def publishingStage (named : Address) : Rehearsal.ClaimStage where
  wallet := some (Word.ofNat 20 2)
  entitlement := [{ result := some (.ok ⟨named, .ofWord (Word.ofNat 32 5), default, [default]⟩) }]
  claimed := [{ result := some (.ok .zero) }]
  isContract := [{ result := some (.ok false) }]
  send := [{ result := some (.ok (Word.ofNat 32 4)) }]
  confirm := [{ result := some (.ok ⟨Word.ofNat 32 4, some 7⟩) }]

theorem boundTo_iff_of_named :
    ∃ (search claim : Episode) (snapshot : Snapshot),
      history Rehearsal.ClaimStage.answer { links := ⟨"", "", ""⟩ }
          (publishingStage (Word.ofNat 20 1)) [.search (Word.ofNat 20 1), .claim] =
        [search, claim] ∧
      search.outcome = .snapshot (.ok snapshot) ∧
      (submitted claim.transcript).map ClaimCall.account = [Word.ofNat 20 1] ∧
      (BoundTo (Word.ofNat 20 1) snapshot search [claim] ↔
        snapshot.entitlement.account = Word.ofNat 20 1) ∧
      snapshot.entitlement.account = Word.ofNat 20 1 :=
  ⟨_, _, _, rfl, rfl, by decide,
    (boundTo_iff_of_history Rehearsal.ClaimStage.answer (publishingStage (Word.ofNat 20 1))
      ⟨"", "", ""⟩ [.search (Word.ofNat 20 1), .claim] [] [_] [] _ (Word.ofNat 20 1) _ rfl rfl rfl
      (by simp)).2.2,
    rfl⟩

/-- A backend that names another account gets that one shown and claimed for. -/
theorem not_boundTo_of_foreign :
    ∃ (search claim : Episode) (snapshot : Snapshot),
      history Rehearsal.ClaimStage.answer { links := ⟨"", "", ""⟩ }
          (publishingStage (Word.ofNat 20 3)) [.search (Word.ofNat 20 1), .claim] =
        [search, claim] ∧
      search.outcome = .snapshot (.ok snapshot) ∧
      snapshot.entitlement.account = Word.ofNat 20 3 ∧
      (submitted claim.transcript).map ClaimCall.account = [Word.ofNat 20 3] ∧
      ¬BoundTo (Word.ofNat 20 1) snapshot search [claim] :=
  ⟨_, _, _, rfl, rfl, rfl, by decide,
    fun h => absurd h.shown.2 (by decide)⟩

end ClusterDesk.Claim
