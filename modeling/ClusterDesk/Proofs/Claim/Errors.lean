import Mathlib.Data.List.Induction
import ClusterDesk.Proofs.Claim.Epochs

/-!
# The error that is shown

An error that a desk shows comes from the search that began last, from a claim since then, or from
the proposal of such a claim. A search that finds the desk disposed does not begin: from the
disposal on the desk shows what it showed then.
-/

namespace ClusterDesk.Claim

/-- The search that began last in a run, with the episodes before and behind it. -/
structure SinceSearch (run earlier : List Episode) (search : Episode) (since : List Episode) :
    Prop where
  split : run = earlier ++ search :: since
  begins : search.before.Begins search.action
  last : ∀ e ∈ since, ¬e.before.Begins e.action

/-- A claim since the search started the proposal of a number; the episodes from that claim on. -/
inductive ProposedSince (earlier : List Episode) (search : Episode) (since : List Episode) :
    Nat → List Episode → Prop where
  | claimed {front rest : List Episode} {e : Episode} {call : ClaimCall}
      (hsplit : since = front ++ e :: rest) (haction : e.action = .claim)
      (hcall : proposals e.transcript = [call]) :
      ProposedSince earlier search since (watch (earlier ++ search :: front)).started (e :: rest)

/-- Where a failure comes from: from a search, from a claim since, or from what that proposed. -/
inductive Source (earlier : List Episode) (search : Episode) (since : List Episode)
    (failure : Failure) : Prop where
  | search (h : search.outcome = .snapshot (.error failure))
  | claim {e : Episode} (he : e ∈ since) (haction : e.action = .claim)
      (houtcome : e.outcome = .state (.error failure))
  | proposal {number : Nat} {back : List Episode}
      (h : ProposedSince earlier search since number back)
      (htold : (number, .failed failure) ∈ back.flatMap fun e => e.transcript.flatMap told)

theorem sinceSearch_begun (run : List Episode) {e : Episode} (he : e.before.Begins e.action) :
    SinceSearch (run ++ [e]) run e [] :=
  ⟨rfl, he, by simp⟩

theorem SinceSearch.concat {run earlier since : List Episode} {search e : Episode}
    (h : SinceSearch run earlier search since) (he : ¬e.before.Begins e.action) :
    SinceSearch (run ++ [e]) earlier search (since ++ [e]) := by
  refine ⟨by simp [h.split], h.begins, ?_⟩
  intro x hx
  rcases List.mem_append.mp hx with hx | hx
  · exact h.last x hx
  · obtain rfl : x = e := by simpa using hx
    exact he

theorem exists_last {P : Episode → Prop} {run : List Episode} (h : ∃ x ∈ run, P x) :
    ∃ earlier x since, run = earlier ++ x :: since ∧ P x ∧ ∀ y ∈ since, ¬P y := by
  induction run using List.reverseRecOn with
  | nil => simp at h
  | append_singleton run e ih =>
    by_cases he : P e
    · exact ⟨run, e, [], rfl, he, by simp⟩
    · obtain ⟨x, hx, hP⟩ := h
      have hearlier : x ∈ run := by
        rcases List.mem_append.mp hx with hx | hx
        · exact hx
        · obtain rfl : x = e := by simpa using hx
          exact absurd hP he
      obtain ⟨earlier, last, since, rfl, hlast, hsince⟩ := ih ⟨x, hearlier, hP⟩
      refine ⟨earlier, last, since ++ [e], by simp, hlast, ?_⟩
      intro y hy
      rcases List.mem_append.mp hy with hy | hy
      · exact hsince y hy
      · obtain rfl : y = e := by simpa using hy
        exact he

theorem ProposedSince.concat {earlier since back : List Episode} {search : Episode} {number : Nat}
    (h : ProposedSince earlier search since number back) (e : Episode) :
    ProposedSince earlier search (since ++ [e]) number (back ++ [e]) := by
  cases h with
  | claimed hsplit haction hcall => exact .claimed (by simp [hsplit]) haction hcall

theorem Source.concat {earlier since : List Episode} {search : Episode} {failure : Failure}
    (h : Source earlier search since failure) (e : Episode) :
    Source earlier search (since ++ [e]) failure := by
  cases h with
  | search h => exact .search h
  | claim he haction houtcome => exact .claim (List.mem_append_left _ he) haction houtcome
  | proposal h htold =>
    refine .proposal (h.concat e) ?_
    rw [List.flatMap_append]
    exact List.mem_append_left _ htold

variable {links : ClaimLinks} {past : List Episode} {d left : Desk} {action : Action}
  {transcript : List (Exchange Question Answer)} {outcome : Outcome}

theorem Course.begins_of_found {entitlement : Entitlement}
    (h : Course d action transcript outcome left) (hfound : outcome.found = some entitlement) :
    d.Begins action := by
  cases h with
  | search h =>
    cases h with
    | disposed h => simp [Outcome.found] at hfound
    | unpublished h => exact h
    | empty h hempty => exact h
    | unread h hempty => exact h
    | read h hempty => exact h
  | claim h => simp [Outcome.found] at hfound
  | applyConfirmed => simp [Outcome.found] at hfound
  | settle h => simp [Outcome.found] at hfound
  | dispose => simp [Outcome.found] at hfound
  | pause => simp [Outcome.found] at hfound

theorem searched_of_leads (h : Dialogue.Leads Action.perform { links := links } past d)
    {snapshot : Snapshot} (hknown : d.snapshot = some snapshot) :
    ∃ earlier search since, SinceSearch past earlier search since := by
  have hbegun : d.snapshot ≠ none → ∃ x ∈ past, x.before.Begins x.action := by
    refine h.keeps (fun past d => d.snapshot ≠ none → ∃ x ∈ past, x.before.Begins x.action)
      (fun hnone => absurd rfl hnone) ?_
    intro past e hbefore he hsome
    obtain ⟨snapshot, hafter⟩ := Option.ne_none_iff_exists'.mp hsome
    rcases (course_of_possible he).snapshot hafter with hfound | ⟨_, before, hknown, _⟩
    · exact ⟨e, by simp, (course_of_possible he).begins_of_found hfound⟩
    · obtain ⟨x, hx, hbegins⟩ := hbefore (by simp [hknown])
      exact ⟨x, List.mem_append_left _ hx, hbegins⟩
  obtain ⟨earlier, search, since, hsplit, hbegins, hlast⟩ := exists_last (hbegun (by simp [hknown]))
  exact ⟨earlier, search, since, hsplit, hbegins, hlast⟩

theorem claimed_since {e : Episode}
    (h : Dialogue.Leads Action.perform { links := links } past e.before) {snapshot : Snapshot}
    (hmay : e.before.MayClaim snapshot) (haction : e.action = .claim) :
    ∃ earlier search since, SinceSearch (past ++ [e]) earlier search (since ++ [e]) ∧
      e.before.started = (watch (earlier ++ search :: since)).started := by
  obtain ⟨earlier, search, since, hsince⟩ := searched_of_leads h hmay.known
  refine ⟨earlier, search, since, hsince.concat fun hbegins => ?_, ?_⟩
  · exact Desk.not_movesOn_of_claim haction (Desk.movesOn_of_begins hbegins)
  · rw [← hsince.split]
    exact started_of_leads h

/-- A proposal of the current epoch was started by a claim since the search that began last. -/
theorem proposedSince_of_leads (h : Dialogue.Leads Action.perform { links := links } past d) :
    ∀ p ∈ d.inFlight, p.epoch = d.epoch → ∃ earlier search since back,
      SinceSearch past earlier search since ∧ ProposedSince earlier search since p.number back := by
  induction h with
  | start => simp
  | @next past e hlead he ih =>
    intro p hp hepoch
    have hcourse := course_of_possible he
    rcases hcourse.flight.inFlight p hp with hold | ⟨snapshot, call, rfl, haction, hmay, hcall⟩
    · have hearlier := (epoch_of_leads hlead p hold).1
      by_cases hmoves : e.before.MovesOn e.action
      · have hnext := hcourse.epoch_of_movesOn hmoves
        omega
      · have hsame := hcourse.epoch_of_stays hmoves
        obtain ⟨earlier, search, since, back, hsince, hproposed⟩ := ih p hold (by omega)
        exact ⟨earlier, search, since ++ [e], back ++ [e],
          hsince.concat fun hbegins => hmoves (Desk.movesOn_of_begins hbegins),
          hproposed.concat e⟩
    · obtain ⟨earlier, search, since, hsince, hnumber⟩ := claimed_since hlead hmay haction
      refine ⟨earlier, search, since ++ [e], [e], hsince, ?_⟩
      rw [hnumber]
      exact .claimed rfl haction hcall

namespace Desk

/-- Whether a failure of this proposal would be shown. -/
def heeds (d : Desk) (number : Nat) : Bool :=
  (d.inFlight.find? (·.number == number)).any (·.epoch == d.epoch)

theorem lastError_finish (d : Desk) (number : Nat) (ending : Ending) :
    (d.finish number ending).lastError =
      match ending with
      | .failed failure => if d.heeds number then some failure.shown else d.lastError
      | _ => d.lastError := by
  unfold finish heeds
  cases hfound : d.inFlight.find? (·.number == number) with
  | none => cases ending <;> rfl
  | some p =>
    cases ending with
    | submitted transaction => rfl
    | aborted => rfl
    | failed failure =>
      by_cases hepoch : p.epoch = d.epoch
      · simp [hepoch, publish]
      · simp [hepoch]

theorem finish_lastError {number : Nat} {ending : Ending} {message : String}
    (h : (d.finish number ending).lastError = some message) :
    d.lastError = some message ∨ ∃ p ∈ d.inFlight, ∃ failure, p.number = number ∧
      p.epoch = d.epoch ∧ ending = .failed failure ∧ message = failure.shown := by
  rw [lastError_finish] at h
  cases ending with
  | submitted transaction => exact Or.inl h
  | aborted => exact Or.inl h
  | failed failure =>
    by_cases hheeds : d.heeds number = true
    · obtain ⟨p, hfound, hepoch⟩ := (Option.any_eq_true _ _).mp hheeds
      have hnumber : p.number = number := by simpa using List.find?_some hfound
      have hshown : failure.shown = message := by simpa [hheeds] using h
      exact Or.inr ⟨p, List.mem_of_find?_eq_some hfound, failure, hnumber, by simpa using hepoch,
        rfl, hshown.symm⟩
    · exact Or.inl (by simpa [hheeds] using h)

theorem finishAll_lastError {endings : List (Nat × Ending)} {message : String}
    (h : (d.finishAll endings).lastError = some message) :
    d.lastError = some message ∨ ∃ p ∈ d.inFlight, ∃ failure, p.epoch = d.epoch ∧
      (p.number, .failed failure) ∈ endings ∧ message = failure.shown := by
  induction endings generalizing d with
  | nil => exact Or.inl h
  | cons first rest ih =>
    have hepoch : (d.finish first.1 first.2).epoch = d.epoch := finishAll_epoch d [first]
    have hsubset : (d.finish first.1 first.2).inFlight ⊆ d.inFlight := finishAll_subset d [first]
    rcases ih (d := d.finish first.1 first.2) h with hfirst | ⟨p, hp, failure, hp', htold, hshown⟩
    · rcases finish_lastError hfirst with hkept | ⟨p, hp, failure, hnumber, hp', hending, hshown⟩
      · exact Or.inl hkept
      · have htold : (p.number, .failed failure) = first := Prod.ext hnumber hending.symm
        exact Or.inr ⟨p, hp, failure, hp', htold ▸ List.mem_cons_self, hshown⟩
    · exact Or.inr ⟨p, hsubset hp, failure, hp'.trans hepoch, List.mem_cons_of_mem _ htold, hshown⟩

end Desk

/-- Why a desk shows a message behind an action. -/
inductive Shown (d : Desk) (action : Action) (transcript : List (Exchange Question Answer))
    (outcome : Outcome) : String → Prop where
  | kept {message : String} (hquiet : ¬d.Begins action) (h : d.lastError = some message) :
      Shown d action transcript outcome message
  | search {failure : Failure} (hbegins : d.Begins action)
      (houtcome : outcome = .snapshot (.error failure)) :
      Shown d action transcript outcome failure.shown
  | claim {snapshot : Snapshot} {failure : Failure} (haction : action = .claim)
      (hmay : d.MayClaim snapshot) (houtcome : outcome = .state (.error failure)) :
      Shown d action transcript outcome failure.shown
  | ended {p : Proposal} {failure : Failure} (hquiet : ¬d.Begins action) (hp : p ∈ d.inFlight)
      (hepoch : p.epoch = d.epoch)
      (htold : (p.number, .failed failure) ∈ transcript.flatMap told) :
      Shown d action transcript outcome failure.shown
  | proposed {snapshot : Snapshot} {call : ClaimCall} {failure : Failure}
      (haction : action = .claim) (hmay : d.MayClaim snapshot)
      (hcall : proposals transcript = [call])
      (htold : (d.started, .failed failure) ∈ transcript.flatMap told) :
      Shown d action transcript outcome failure.shown

theorem Desk.beginSearch_finishAll_lastError (hepochs : ∀ p ∈ d.inFlight, p.epoch ≤ d.epoch)
    (endings : List (Nat × Ending)) : (d.beginSearch.finishAll endings).lastError = none := by
  rw [Option.eq_none_iff_forall_ne_some]
  intro message h
  rcases Desk.finishAll_lastError h with hkept | ⟨p, hp, failure, hepoch, _, _⟩
  · simp [beginSearch, publish] at hkept
  · have hearlier : p.epoch ≤ d.epoch := hepochs p hp
    have hnext : p.epoch = d.epoch + 1 := hepoch
    omega

theorem Desk.claiming_lastError {first second : List (Nat × Ending)} {message : String}
    (h : (d.claiming first second).lastError = some message) :
    ∃ p ∈ d.inFlight, ∃ failure, p.epoch = d.epoch ∧ (p.number, .failed failure) ∈ second ∧
      message = failure.shown := by
  rcases Desk.finishAll_lastError h with hkept | ⟨p, hp, failure, hepoch, htold, hshown⟩
  · simp [beginClaim, publish] at hkept
  · refine ⟨p, finishAll_subset d first hp, failure, ?_, htold, hshown⟩
    exact hepoch.trans (finishAll_epoch d first)

theorem SearchCourse.shown {account : Address} {result : Except Failure Snapshot}
    (h : SearchCourse d account transcript (result, left))
    (hepochs : ∀ p ∈ d.inFlight, p.epoch ≤ d.epoch) {message : String}
    (hshown : left.lastError = some message) :
    Shown d (.search account) transcript (.snapshot result) message := by
  have hcleared := Desk.beginSearch_finishAll_lastError hepochs
  cases h with
  | disposed h => exact .kept (by simp [Desk.Begins, h]) hshown
  | @unpublished failure first h =>
    obtain rfl : failure.shown = message := by
      simpa [Desk.searchFailed, Desk.publish] using hshown
    exact .search h rfl
  | @empty entitlement first h hempty => simp [Desk.found, hcleared] at hshown
  | @unread entitlement failure first second h hempty =>
    obtain rfl : failure.shown = message := by
      simpa [Desk.searchFailed, Desk.publish] using hshown
    exact .search h rfl
  | @read entitlement claimed first second h hempty =>
    rw [Desk.finishAll_finishAll] at hshown
    simp [Desk.found, hcleared] at hshown

theorem ClaimCourse.shown {result : Except Failure State}
    (h : ClaimCourse d transcript (result, left)) {message : String}
    (hshown : left.lastError = some message) :
    Shown d .claim transcript (.state result) message := by
  cases h with
  | disposed h => exact .kept id hshown
  | unsearched h hready => exact .kept id hshown
  | exhausted h hready hknown hnone => exact .kept id hshown
  | @walletless _ first h =>
    obtain rfl : Failure.walletNotConnected.shown = message := by simpa [Desk.publish] using hshown
    exact .claim rfl h rfl
  | @proposed _ signer first second third fourth left h hleft =>
    rw [Desk.finishAll_finishAll] at hleft
    subst hleft
    rcases Desk.finishAll_lastError hshown with hbefore | ⟨p, hp, failure, hepoch, htold, rfl⟩
    · obtain ⟨p, hp, failure, hepoch, htold, rfl⟩ := Desk.claiming_lastError hbefore
      exact .ended id hp hepoch (by simp [told, htold])
    · -- What fails in the grace period was in flight before, or is the claim's own proposal.
      have hmem : (p.number, .failed failure) ∈ third ∨ (p.number, .failed failure) ∈ fourth :=
        List.mem_append.mp htold
      rcases List.mem_append.mp hp with hold | hnew
      · refine .ended id (d.claiming_subset first second hold) ?_ (by simp [told, hmem])
        simpa [Desk.startProposal] using hepoch
      · obtain rfl : p = ⟨d.started, d.epoch⟩ := by simpa using hnew
        exact .proposed rfl h rfl (by simp [told, hmem])
  | @unsent _ _ failure first second third h =>
    obtain rfl : failure.shown = message := by
      simpa [Desk.claimFailed, Desk.publish] using hshown
    exact .claim rfl h rfl
  | @unconfirmed _ _ _ failure first second third fourth h =>
    obtain rfl : failure.shown = message := by
      simpa [Desk.claimFailed, Desk.publish] using hshown
    exact .claim rfl h rfl
  | @confirmed _ _ _ _ first second third fourth left h hleft =>
    rw [Desk.finishAll_finishAll] at hleft
    subst hleft
    rcases Desk.finishAll_lastError hshown with hbefore | ⟨p, hp, failure, hepoch, htold, rfl⟩
    · obtain ⟨p, hp, failure, hepoch, htold, rfl⟩ := Desk.claiming_lastError hbefore
      exact .ended id hp hepoch (by simp [told, htold])
    · have hmem : (p.number, .failed failure) ∈ third ∨ (p.number, .failed failure) ∈ fourth :=
        List.mem_append.mp htold
      exact .ended id (d.claiming_subset first second hp) (by simpa using hepoch)
        (by simp [told, hmem])

theorem Course.shown (h : Course d action transcript outcome left)
    (hepochs : ∀ p ∈ d.inFlight, p.epoch ≤ d.epoch) {message : String}
    (hshown : left.lastError = some message) : Shown d action transcript outcome message := by
  cases h with
  | search h => exact h.shown hepochs hshown
  | claim h => exact h.shown hshown
  | applyConfirmed => exact .kept id hshown
  | settle h =>
    cases h with
    | nothing h => exact .kept id hshown
    | ended h hended => exact .kept id hshown
    | awaited h hflight hleft =>
      subst hleft
      rcases Desk.finishAll_lastError hshown with hkept | ⟨p, hp, failure, hepoch, htold, rfl⟩
      · exact .kept id hkept
      · exact .ended id hp hepoch (by simpa [told] using htold)
  | dispose => exact .kept id hshown
  | pause =>
    rcases Desk.finishAll_lastError hshown with hkept | ⟨p, hp, failure, hepoch, htold, rfl⟩
    · exact .kept id hkept
    · exact .ended id hp hepoch (by simpa [told] using htold)

/-- Whatever a desk shows has its source in the search that began last or behind it. -/
theorem source_of_leads (h : Dialogue.Leads Action.perform { links := links } past d)
    {message : String} (hshown : d.lastError = some message) :
    ∃ earlier search since failure, SinceSearch past earlier search since ∧
      Source earlier search since failure ∧ message = failure.shown := by
  -- Along the run: what is shown behind an episode was shown before it or comes from it, and the
  -- search that began last stays the same unless the episode begins one.
  induction h generalizing message with
  | start => simp at hshown
  | @next past e hlead he ih =>
    have hcourse := course_of_possible he
    cases hcourse.shown (fun p hp => (epoch_of_leads hlead p hp).1) hshown with
    | kept hquiet hbefore =>
      obtain ⟨earlier, search, since, failure, hsince, hsource, hmessage⟩ := ih hbefore
      exact ⟨earlier, search, since ++ [e], failure, hsince.concat hquiet, hsource.concat e,
        hmessage⟩
    | @search failure hbegins houtcome =>
      exact ⟨past, e, [], failure, sinceSearch_begun past hbegins, .search houtcome, rfl⟩
    | @claim snapshot failure haction hmay houtcome =>
      obtain ⟨earlier, search, since, hsince, _⟩ := claimed_since hlead hmay haction
      exact ⟨earlier, search, since ++ [e], failure, hsince, .claim (by simp) haction houtcome, rfl⟩
    | @ended p failure hquiet hp hepoch htold =>
      obtain ⟨earlier, search, since, back, hsince, hproposed⟩ :=
        proposedSince_of_leads hlead p hp hepoch
      refine ⟨earlier, search, since ++ [e], failure, hsince.concat hquiet,
        .proposal (hproposed.concat e) ?_, rfl⟩
      rw [List.flatMap_append]
      exact List.mem_append_right _ (by simpa using htold)
    | @proposed snapshot call failure haction hmay hcall htold =>
      obtain ⟨earlier, search, since, hsince, hnumber⟩ := claimed_since hlead hmay haction
      refine ⟨earlier, search, since ++ [e], failure, hsince,
        .proposal (.claimed rfl haction hcall) ?_, rfl⟩
      rw [← hnumber]
      simpa using htold

theorem disposed_of_leads (h : Dialogue.Leads Action.perform { links := links } past d) :
    d.disposed = true ↔ ∃ x ∈ past, x.action = .dispose := by
  refine h.keeps (fun past d => d.disposed = true ↔ ∃ x ∈ past, x.action = .dispose) (by simp) ?_
  intro past e hbefore he
  rw [(course_of_possible he).disposed, hbefore]
  simp [or_and_right, exists_or]

theorem Desk.finishAll_lastError_of_outdated (h : ∀ number, d.Outdated number)
    (endings : List (Nat × Ending)) : (d.finishAll endings).lastError = d.lastError := by
  induction endings generalizing d with
  | nil => rfl
  | cons first rest ih =>
    calc ((d.finish first.1 first.2).finishAll rest).lastError
        = (d.finish first.1 first.2).lastError := ih fun number => (h number).finish _ _
      _ = d.lastError := by rw [finish_of_outdated (h first.1)]

/-- Behind a disposal no action but settling the snapshot changes what the desk shows, and neither
a search nor a claim asks anything. -/
theorem Course.frozen (h : Course d action transcript outcome left) (hdisposed : d.disposed = true)
    (hlate : ∀ number, d.Outdated number) (haction : action ≠ .applyConfirmed) :
    left.state = d.state ∧ left.snapshot = d.snapshot ∧ left.lastError = d.lastError ∧
      ((∃ account, action = .search account) ∨ action = .claim → transcript = []) := by
  cases h with
  | search h =>
    cases h with
    | disposed h => exact ⟨rfl, rfl, rfl, fun _ => rfl⟩
    | unpublished h => simp [h] at hdisposed
    | empty h hempty => simp [h] at hdisposed
    | unread h hempty => simp [h] at hdisposed
    | read h hempty => simp [h] at hdisposed
  | claim h =>
    cases h with
    | disposed h => exact ⟨rfl, rfl, rfl, fun _ => rfl⟩
    | unsearched h hready => exact ⟨rfl, rfl, rfl, fun _ => rfl⟩
    | exhausted h hready hknown hnone => exact ⟨rfl, rfl, rfl, fun _ => rfl⟩
    | walletless h => simp [h.undisposed] at hdisposed
    | proposed h hleft => simp [h.undisposed] at hdisposed
    | unsent h => simp [h.undisposed] at hdisposed
    | unconfirmed h => simp [h.undisposed] at hdisposed
    | confirmed h hleft => simp [h.undisposed] at hdisposed
  | applyConfirmed => exact absurd rfl haction
  | settle h =>
    cases h with
    | nothing h => exact ⟨rfl, rfl, rfl, by simp⟩
    | ended h hended => exact ⟨rfl, rfl, rfl, by simp⟩
    | awaited h hflight hleft =>
      subst hleft
      exact ⟨Desk.finishAll_state _ _, Desk.finishAll_snapshot _ _,
        Desk.finishAll_lastError_of_outdated (d := { d with latest := none }) hlate _, by simp⟩
  | dispose => exact ⟨rfl, rfl, rfl, by simp⟩
  | pause =>
    exact ⟨Desk.finishAll_state _ _, Desk.finishAll_snapshot _ _,
      Desk.finishAll_lastError_of_outdated hlate _, by simp⟩

theorem exists_of_lastFound {entitlement : Entitlement} (h : lastFound past = some entitlement) :
    ∃ earlier search since, past = earlier ++ search :: since ∧ search.outcome.found ≠ none ∧
      ∀ x ∈ since, x.outcome.found = none := by
  have hmem := List.mem_of_getLast? h
  obtain ⟨e, he, hfound⟩ := List.mem_filterMap.mp hmem
  have hsome : ∃ x ∈ past, x.outcome.found ≠ none := ⟨e, he, by simp [hfound]⟩
  obtain ⟨earlier, search, since, hsplit, hsearch, hsince⟩ := exists_last hsome
  exact ⟨earlier, search, since, hsplit, hsearch, fun x hx => not_not.mp (hsince x hx)⟩

theorem single_of_history {σ : Type} {answer : (q : Question) → σ → Answer q × σ} {s : σ}
    {actions : List Action} {past later : List Episode} {e : Episode}
    (h : history answer { links := links } s actions = past ++ e :: later)
    (hproposes : proposals e.transcript ≠ []) :
    ∃ call, proposals e.transcript = [call] ∧ ∃ earlier search since,
      past = earlier ++ search :: since ∧ search.outcome.found ≠ none ∧
        ∀ x ∈ since, x.outcome.found = none ∧ proposals x.transcript = [] := by
  obtain ⟨hlead, he⟩ := Dialogue.leads_of_history h
  obtain ⟨snapshot, call, hmay, hcall, _⟩ := (course_of_possible he).flight.proposes hproposes
  obtain ⟨earlier, search, since, hsplit, hsearch, hsince⟩ :=
    exists_of_lastFound (snapshot_found hlead snapshot hmay.known)
  refine ⟨call, hcall, earlier, search, since, hsplit, hsearch, ?_⟩
  intro x hx
  refine ⟨hsince x hx, Classical.byContradiction fun hearlier => ?_⟩
  have hmem : x ∈ history answer { links := links } s actions := by simp [h, hsplit, hx]
  -- A claim that proposed came to a good end, and without another search none starts behind it.
  obtain ⟨_, _, _, _, hsettled⟩ :=
    (course_of_possible (Dialogue.possible_of_mem_history hmem)).flight.proposes hearlier
  obtain ⟨front, back, rfl⟩ := List.append_of_mem hx
  have hspent : Spent past :=
    ⟨earlier ++ search :: front, x, back, by simp [hsplit], hsettled,
      fun y hy => hsince y (by simp [hy])⟩
  have hclosed := mayClaim_of_spent hlead hspent
  simp [hmay.ready] at hclosed

/-- What an episode shows belongs to the search that began last, given the episodes before it. -/
structure ShowsCurrent (past : List Episode) (e : Episode) : Prop where
  /-- The error shown was made by the last search that began, by a claim since, or by the proposal
  of such a claim. -/
  source : ∀ message, e.after.lastError = some message → ∃ earlier search since failure,
    SinceSearch (past ++ [e]) earlier search since ∧ Source earlier search since failure ∧
      message = failure.shown
  /-- One call is proposed for a successful search, and then no other. -/
  single : proposals e.transcript ≠ [] → ∃ call, proposals e.transcript = [call] ∧
    ∃ earlier search since, past = earlier ++ search :: since ∧ search.outcome.found ≠ none ∧
      ∀ x ∈ since, x.outcome.found = none ∧ proposals x.transcript = []
  /-- A late proposal that ends behind the episode leaves the error as it is. -/
  late : ∀ number, Late (past ++ [e]) number → ∀ ending,
    (e.after.finish number ending).lastError = e.after.lastError
  /-- A late proposal that ends during the episode makes no difference by how it ends. -/
  retold : ∀ number, Late (past ++ [e]) number → ∀ ending,
    (e.action.perform e.before).Yields (e.transcript.map (retell number ending))
      (e.outcome, e.after)
  /-- Behind a disposal all that is shown stays as it is. -/
  frozen : (∃ x ∈ past, x.action = .dispose) → e.action ≠ .applyConfirmed →
    e.after.state = e.before.state ∧ e.after.snapshot = e.before.snapshot ∧
      e.after.lastError = e.before.lastError
  /-- And neither a search nor a claim asks anything. -/
  silent : (∃ x ∈ past, x.action = .dispose) →
    (∃ account, e.action = .search account) ∨ e.action = .claim → e.transcript = []

/-- In every run, whatever is answered and whenever proposals end, every episode shows only what
belongs to the search that began last. -/
theorem showsCurrent_of_history {σ : Type} (answer : (q : Question) → σ → Answer q × σ) (s : σ)
    (links : ClaimLinks) (actions : List Action) (past later : List Episode) (e : Episode)
    (h : history answer { links := links } s actions = past ++ e :: later) :
    ShowsCurrent past e := by
  obtain ⟨hlead, he⟩ := Dialogue.leads_of_history h
  have hnext := hlead.next he
  have hfrozen : (∃ x ∈ past, x.action = .dispose) → e.before.disposed = true ∧
      ∀ number, e.before.Outdated number := by
    intro hgone
    have hdisposed := (disposed_of_leads hlead).mpr hgone
    exact ⟨hdisposed, fun number p hp _ => (epoch_of_leads hlead p hp).2 hdisposed⟩
  constructor
  · intro message hshown
    exact source_of_leads hnext hshown
  · intro hproposes
    exact single_of_history h hproposes
  · intro number hlate ending
    rw [Desk.finish_of_outdated (outdated_of_late hnext hlate)]
  · intro number hlate ending
    exact possible_retell hlead he hlate ending
  · intro hgone haction
    obtain ⟨hdisposed, hlate⟩ := hfrozen hgone
    obtain ⟨hstate, hsnapshot, herror, _⟩ :=
      (course_of_possible he).frozen hdisposed hlate haction
    exact ⟨hstate, hsnapshot, herror⟩
  · intro hgone haction
    obtain ⟨hdisposed, hlate⟩ := hfrozen hgone
    refine ((course_of_possible he).frozen hdisposed hlate ?_).2.2.2 haction
    rcases haction with ⟨account, haction⟩ | haction
    · simp [haction]
    · simp [haction]

/-- A wallet of a Safe that refuses two proposals, the first one later than the second. -/
def refusingStage : Rehearsal.ClaimStage where
  wallet := some (Word.ofNat 20 2)
  entitlement :=
    [{ result := some (.ok ⟨Word.ofNat 20 1, .ofWord (Word.ofNat 32 5), default, [default]⟩) }]
  claimed := [{ result := some (.ok .zero) }]
  isContract := [{ result := some (.ok true) }]
  send := [{ delay := 12000, result := some (.error (.chainWrite "first")) },
    { delay := 1000, result := some (.error (.chainWrite "second")) }]
  confirm := []

/-- The second refusal is shown, and goes on being shown when the first one comes in. -/
theorem showsCurrent_of_refusals :
    ∃ search claim research reclaim pause : Episode,
      history Rehearsal.ClaimStage.answer { links := ⟨"", "", ""⟩ } refusingStage
          [.search (Word.ofNat 20 1), .claim, .search (Word.ofNat 20 1), .claim, .pause 5000] =
        [search, claim, research, reclaim, pause] ∧
        reclaim.transcript.flatMap told = [(1, .failed (.chainWrite "second"))] ∧
        pause.transcript.flatMap told = [(0, .failed (.chainWrite "first"))] ∧
        pause.after.lastError = some (Failure.chainWrite "second").shown ∧
        ShowsCurrent [search, claim, research, reclaim] pause :=
  ⟨_, _, _, _, _, rfl, by decide +kernel, by decide +kernel, by decide +kernel,
    showsCurrent_of_history Rehearsal.ClaimStage.answer refusingStage ⟨"", "", ""⟩
      [.search (Word.ofNat 20 1), .claim, .search (Word.ofNat 20 1), .claim, .pause 5000]
      [_, _, _, _] [] _ rfl⟩

end ClusterDesk.Claim
