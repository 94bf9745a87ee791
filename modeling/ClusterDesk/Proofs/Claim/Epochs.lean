import ClusterDesk.Proofs.Claim.Background

/-!
# Late proposals

A desk moves on when it begins a search and when it is disposed. A proposal started before that is
late: it makes no difference any more how it ends.
-/

namespace ClusterDesk.Claim

/-- Whether the action is a search that is let through. -/
def Desk.Begins (d : Desk) : Action → Prop
  | .search _ => d.disposed = false
  | _ => False

/-- Whether the action leaves all that is in flight behind. -/
def Desk.MovesOn (d : Desk) : Action → Prop
  | .dispose => True
  | action => d.Begins action

theorem Desk.movesOn_of_begins {d : Desk} {action : Action} (h : d.Begins action) :
    d.MovesOn action := by
  cases action with
  | search account => exact h
  | _ => exact absurd h id

/-- The desk has moved on since the proposal of this number was started. -/
def Late (run : List Episode) (number : Nat) : Prop :=
  ∃ earlier e rest, run = earlier ++ e :: rest ∧ e.before.MovesOn e.action ∧
    number < (watch earlier).started

theorem split_concat {past earlier rest : List Episode} {e x : Episode}
    (h : past ++ [e] = earlier ++ x :: rest) :
    (past = earlier ∧ e = x ∧ rest = []) ∨
      ∃ front, rest = front ++ [e] ∧ past = earlier ++ x :: front := by
  rcases rest.eq_nil_or_concat with rfl | ⟨front, last, rfl⟩
  · obtain ⟨hpast, hlast⟩ := List.append_inj' h rfl
    exact Or.inl ⟨hpast, List.cons.inj hlast |>.1, rfl⟩
  · rw [List.concat_eq_append, ← List.cons_append, ← List.append_assoc] at h
    obtain ⟨hpast, hlast⟩ := List.append_inj' h rfl
    obtain rfl : e = last := List.cons.inj hlast |>.1
    exact Or.inr ⟨front, List.concat_eq_append, hpast⟩

theorem late_concat {past : List Episode} {e : Episode} {number : Nat}
    (h : Late (past ++ [e]) number) :
    Late past number ∨ (e.before.MovesOn e.action ∧ number < (watch past).started) := by
  obtain ⟨earlier, x, rest, hsplit, hmoves, hnumber⟩ := h
  rcases split_concat hsplit with ⟨rfl, rfl, _⟩ | ⟨front, _, hpast⟩
  · exact Or.inr ⟨hmoves, hnumber⟩
  · exact Or.inl ⟨earlier, x, front, hpast, hmoves, hnumber⟩

namespace Watch

theorem started_le_next (w : Watch) (exchange : Exchange Question Answer) :
    w.started ≤ (w.next exchange).started := by
  obtain ⟨question, answer⟩ := exchange
  cases question with
  | propose call => exact Nat.le_succ _
  | _ => exact Nat.le_refl _

theorem started_le_foldl (w : Watch) (transcript : List (Exchange Question Answer)) :
    w.started ≤ (transcript.foldl next w).started := by
  induction transcript generalizing w with
  | nil => exact Nat.le_refl _
  | cons exchange rest ih => exact Nat.le_trans (w.started_le_next exchange) (ih _)

end Watch

theorem Late.lt_started {run : List Episode} {number : Nat} (h : Late run number) :
    number < (watch run).started := by
  obtain ⟨earlier, e, rest, rfl, _, hnumber⟩ := h
  have hmore := Watch.started_le_foldl (watch earlier) ((e :: rest).flatMap Episode.transcript)
  rw [watch, ← List.foldl_append, ← List.flatMap_append] at hmore
  exact Nat.lt_of_lt_of_le hnumber hmore

variable {links : ClaimLinks} {past : List Episode} {d left : Desk} {action : Action}
  {transcript : List (Exchange Question Answer)} {outcome : Outcome} {number : Nat}

theorem SearchCourse.frame {account : Address} {told : Except Failure Snapshot × Desk}
    (h : SearchCourse d account transcript told) :
    told.2.epoch = (if d.disposed then d.epoch else d.epoch + 1) ∧
      told.2.disposed = d.disposed := by
  cases h with
  | disposed h => simp [h]
  | unpublished h => simp [h, Desk.searchFailed, Desk.publish, Desk.beginSearch]
  | empty h hempty => simp [h, Desk.found, Desk.publish, Desk.beginSearch]
  | unread h hempty => simp [h, Desk.searchFailed, Desk.publish, Desk.beginSearch]
  | read h hempty => simp [h, Desk.found, Desk.publish, Desk.beginSearch]

theorem ClaimCourse.frame {told : Except Failure State × Desk} (h : ClaimCourse d transcript told) :
    told.2.epoch = d.epoch ∧ told.2.disposed = d.disposed := by
  cases h with
  | disposed h => exact ⟨rfl, rfl⟩
  | unsearched h hready => exact ⟨rfl, rfl⟩
  | exhausted h hready hknown hnone => exact ⟨rfl, rfl⟩
  | walletless h => simp [Desk.publish]
  | proposed h hleft => simp [hleft, Desk.proposed, Desk.startProposal]
  | unsent h => simp [Desk.claimFailed, Desk.publish]
  | unconfirmed h => simp [Desk.claimFailed, Desk.publish]
  | confirmed h hleft => simp [hleft, Desk.confirmed, Desk.settleSnapshot]

theorem SettleCourse.frame {told : Option String × Desk} (h : SettleCourse d transcript told) :
    told.2.epoch = d.epoch ∧ told.2.disposed = d.disposed := by
  cases h with
  | nothing h => exact ⟨rfl, rfl⟩
  | ended h hended => exact ⟨rfl, rfl⟩
  | awaited h hflight hleft => simp [hleft]

/-- An action that moves on starts a new epoch, and no other does. -/
theorem Course.epoch (h : Course d action transcript outcome left) :
    (d.MovesOn action ∧ left.epoch = d.epoch + 1) ∨ (¬d.MovesOn action ∧ left.epoch = d.epoch) := by
  cases h with
  | search h =>
    have hepoch := h.frame.1
    cases hopen : d.disposed with
    | false => exact Or.inl ⟨hopen, by simpa [hopen] using hepoch⟩
    | true =>
      refine Or.inr ⟨?_, by simpa [hopen] using hepoch⟩
      simp [Desk.MovesOn, Desk.Begins, hopen]
  | claim h => exact Or.inr ⟨id, h.frame.1⟩
  | applyConfirmed => exact Or.inr ⟨id, rfl⟩
  | settle h => exact Or.inr ⟨id, h.frame.1⟩
  | dispose => exact Or.inl ⟨trivial, rfl⟩
  | pause => exact Or.inr ⟨id, Desk.finishAll_epoch _ _⟩

theorem Course.epoch_of_movesOn (h : Course d action transcript outcome left)
    (hmoves : d.MovesOn action) : left.epoch = d.epoch + 1 := by
  rcases h.epoch with ⟨_, hepoch⟩ | ⟨hstays, _⟩
  · exact hepoch
  · exact absurd hmoves hstays

theorem Course.epoch_of_stays (h : Course d action transcript outcome left)
    (hstays : ¬d.MovesOn action) : left.epoch = d.epoch := by
  rcases h.epoch with ⟨hmoves, _⟩ | ⟨_, hepoch⟩
  · exact absurd hmoves hstays
  · exact hepoch

theorem Course.epoch_le (h : Course d action transcript outcome left) : d.epoch ≤ left.epoch := by
  rcases h.epoch with ⟨_, hepoch⟩ | ⟨_, hepoch⟩
  · omega
  · omega

theorem Desk.not_movesOn_of_claim (h : action = .claim) : ¬d.MovesOn action := by
  rw [h]
  exact id

theorem Course.disposed (h : Course d action transcript outcome left) :
    left.disposed = true ↔ d.disposed = true ∨ action = .dispose := by
  cases h with
  | search h =>
    have hsame : left.disposed = d.disposed := h.frame.2
    simp [hsame]
  | claim h =>
    have hsame : left.disposed = d.disposed := h.frame.2
    simp [hsame]
  | applyConfirmed => simp [Desk.settleSnapshot]
  | settle h =>
    have hsame : left.disposed = d.disposed := h.frame.2
    simp [hsame]
  | dispose => simp [Desk.dispose]
  | pause => simp

theorem epoch_of_leads (h : Dialogue.Leads Action.perform { links := links } past d) :
    ∀ p ∈ d.inFlight, p.epoch ≤ d.epoch ∧ (d.disposed = true → p.epoch < d.epoch) := by
  refine h.keeps (fun _ d => ∀ p ∈ d.inFlight,
    p.epoch ≤ d.epoch ∧ (d.disposed = true → p.epoch < d.epoch)) (by simp) ?_
  intro past e hbefore he p hp
  have hcourse := course_of_possible he
  have hmore := hcourse.epoch_le
  rcases hcourse.flight.inFlight p hp with hold | ⟨snapshot, _, rfl, haction, hmay, _⟩
  · obtain ⟨hle, hlt⟩ := hbefore p hold
    refine ⟨Nat.le_trans hle hmore, fun hleft => ?_⟩
    rcases hcourse.disposed.mp hleft with hearlier | haction
    · exact Nat.lt_of_lt_of_le (hlt hearlier) hmore
    · have hnext := hcourse.epoch_of_movesOn (haction ▸ trivial)
      omega
  · -- A claim that starts a proposal found the desk undisposed, and leaves it so.
    have hsame := hcourse.epoch_of_stays (Desk.not_movesOn_of_claim haction)
    refine ⟨Nat.le_of_eq hsame.symm, fun hleft => ?_⟩
    simp [hcourse.disposed, hmay.undisposed, haction] at hleft

/-- Every proposal of this number was started in an earlier epoch. -/
def Desk.Outdated (d : Desk) (number : Nat) : Prop :=
  ∀ p ∈ d.inFlight, p.number = number → p.epoch < d.epoch

/-- The epochs tell which proposals are late. -/
theorem outdated_of_late (h : Dialogue.Leads Action.perform { links := links } past d)
    (hlate : Late past number) : d.Outdated number := by
  induction h generalizing number with
  | start =>
    intro p hp
    simp at hp
  | @next past e hlead he ih =>
    intro p hp hnumber
    have hcourse := course_of_possible he
    have hflight := hcourse.flight.inFlight p hp
    rcases late_concat hlate with hearlier | ⟨hmoves, _⟩
    · rcases hflight with hold | ⟨_, _, rfl, _, _, _⟩
      · exact Nat.lt_of_lt_of_le (ih hearlier p hold hnumber) hcourse.epoch_le
      · -- What has just been started is numbered behind everything that is late.
        have hknown : number < e.before.started := started_of_leads hlead ▸ hearlier.lt_started
        exact absurd hnumber (Nat.ne_of_gt hknown)
    · rcases hflight with hold | ⟨_, _, rfl, haction, _, _⟩
      · have hknown := (epoch_of_leads hlead p hold).1
        have hnext := hcourse.epoch_of_movesOn hmoves
        omega
      · exact absurd hmoves (Desk.not_movesOn_of_claim haction)

namespace Desk

theorem finish_of_outdated (h : d.Outdated number) (ending : Ending) :
    d.finish number ending =
      { d with inFlight := d.inFlight.filter (·.number != number) } := by
  unfold finish
  split
  case h_1 hnone =>
    rw [List.find?_eq_none] at hnone
    have hkept : d.inFlight.filter (·.number != number) = d.inFlight := by
      rw [List.filter_eq_self]
      intro p hp
      simpa using hnone p hp
    rw [hkept]
  case h_2 p hfound =>
    have hnumber : p.number = number := by simpa using List.find?_some hfound
    have hearlier := h p (List.mem_of_find?_eq_some hfound) hnumber
    cases ending with
    | submitted transaction => rfl
    | aborted => rfl
    | failed failure =>
      dsimp only
      rw [if_neg (Nat.ne_of_lt hearlier)]

theorem Outdated.finish (h : d.Outdated number) (other : Nat) (ending : Ending) :
    (d.finish other ending).Outdated number := by
  intro p hp hnumber
  rw [finish_inFlight] at hp
  have hepoch : (d.finish other ending).epoch = d.epoch := finishAll_epoch d [(other, ending)]
  rw [hepoch]
  exact h p (List.mem_filter.mp hp).1 hnumber

theorem Outdated.finishAll (h : d.Outdated number) (endings : List (Nat × Ending)) :
    (d.finishAll endings).Outdated number := by
  induction endings generalizing d with
  | nil => exact h
  | cons first rest ih => exact ih (h.finish first.1 first.2)

end Desk

/-- One proposal has ended in another way. -/
def otherwise (number : Nat) (ending : Ending) (told : Nat × Ending) : Nat × Ending :=
  if told.1 = number then (number, ending) else told

/-- An exchange that reports another ending of a proposal. -/
def retell (number : Nat) (ending : Ending) :
    Exchange Question Answer → Exchange Question Answer
  | ⟨.settle settled, answer⟩ =>
    ⟨.settle settled, (otherwise number ending (settled, answer.reply)).2,
      answer.ended.map (otherwise number ending)⟩
  | ⟨question, answer⟩ =>
    ⟨question, answer.reply, answer.ended.map (otherwise number ending)⟩

namespace Desk

theorem finishAll_otherwise (h : d.Outdated number) (ending : Ending)
    (endings : List (Nat × Ending)) :
    d.finishAll (endings.map (otherwise number ending)) = d.finishAll endings := by
  induction endings generalizing d with
  | nil => rfl
  | cons first rest ih =>
    obtain ⟨other, told⟩ := first
    calc d.finishAll (((other, told) :: rest).map (otherwise number ending))
        = (d.finish other told).finishAll (rest.map (otherwise number ending)) := by
          by_cases hsame : other = number
          · subst hsame
            simp only [List.map_cons, otherwise, if_true]
            change (d.finish other ending).finishAll _ = _
            rw [finish_of_outdated h, finish_of_outdated h]
          · simp only [List.map_cons, otherwise, if_neg hsame]
            rfl
      _ = (d.finish other told).finishAll rest := ih (h.finish other told)

end Desk

theorem SearchCourse.retell {account : Address} {result : Except Failure Snapshot × Desk}
    (h : SearchCourse d account transcript result)
    (hlate : d.beginSearch.Outdated number) (ending : Ending) :
    SearchCourse d account (transcript.map (retell number ending)) result := by
  have hsame := Desk.finishAll_otherwise hlate ending
  cases h with
  | disposed h => exact .disposed h
  | @unpublished failure first h =>
    rw [← hsame first]
    exact .unpublished h
  | @empty entitlement first h hempty =>
    rw [← hsame first]
    exact .empty h hempty
  | @unread entitlement failure first second h hempty =>
    rw [Desk.finishAll_finishAll, ← hsame, List.map_append, ← Desk.finishAll_finishAll]
    exact .unread h hempty
  | @read entitlement claimed first second h hempty =>
    rw [Desk.finishAll_finishAll, ← hsame, List.map_append, ← Desk.finishAll_finishAll]
    exact .read h hempty

namespace Desk

theorem Outdated.claiming (hlate : d.Outdated number) (first second : List (Nat × Ending)) :
    (d.claiming first second).Outdated number := by
  have hbegun : (d.finishAll first).beginClaim.Outdated number := hlate.finishAll first
  exact hbegun.finishAll second

theorem claiming_otherwise (hlate : d.Outdated number) (ending : Ending)
    (first second : List (Nat × Ending)) :
    d.claiming (first.map (otherwise number ending)) (second.map (otherwise number ending)) =
      d.claiming first second := by
  have hbegun : (d.finishAll first).beginClaim.Outdated number := hlate.finishAll first
  rw [claiming, finishAll_otherwise hlate, finishAll_otherwise hbegun, claiming]

theorem Outdated.startProposal (hlate : d.Outdated number) (hold : number ≠ d.started) :
    d.startProposal.Outdated number := by
  intro p hp hnumber
  rcases List.mem_append.mp hp with hp | hp
  · exact hlate p hp hnumber
  · obtain rfl : p = ⟨d.started, d.epoch⟩ := by simpa using hp
    exact absurd hnumber.symm hold

end Desk

theorem ClaimCourse.retell {result : Except Failure State × Desk}
    (h : ClaimCourse d transcript result)
    (hlate : d.Outdated number) (hold : number ≠ d.started) (ending : Ending) :
    ClaimCourse d (transcript.map (retell number ending)) result := by
  have hclaiming := Desk.claiming_otherwise hlate ending
  cases h with
  | disposed h => exact .disposed h
  | unsearched h hready => exact .unsearched h hready
  | exhausted h hready hknown hnone => exact .exhausted h hready hknown hnone
  | @walletless _ first h =>
    rw [← Desk.finishAll_otherwise hlate ending first]
    exact .walletless h
  | @proposed _ _ first second third fourth left h hleft =>
    have hstarted := (hlate.claiming first second).startProposal (by simpa using hold)
    refine .proposed h ?_
    rw [hleft, hclaiming, Desk.finishAll_otherwise hstarted,
      Desk.finishAll_otherwise (hstarted.finishAll third)]
  | @unsent _ _ _ first second third h =>
    rw [← Desk.finishAll_otherwise (hlate.claiming first second) ending third, ← hclaiming]
    exact .unsent h
  | @unconfirmed _ _ _ _ first second third fourth h =>
    have hsent := (hlate.claiming first second).finishAll third
    rw [← Desk.finishAll_otherwise hsent ending fourth,
      ← Desk.finishAll_otherwise (hlate.claiming first second) ending third, ← hclaiming]
    exact .unconfirmed h
  | @confirmed _ _ _ _ first second third fourth left h hleft =>
    have hsent := (hlate.claiming first second).finishAll third
    refine .confirmed h ?_
    rw [hleft, hclaiming, Desk.finishAll_otherwise (hlate.claiming first second),
      Desk.finishAll_otherwise hsent]

theorem otherwise_fst (ending : Ending) (told : Nat × Ending) :
    (otherwise number ending told).1 = told.1 := by
  unfold otherwise
  split
  case isTrue hsame => exact hsame.symm
  case isFalse hother => rfl

theorem SettleCourse.retell {result : Option String × Desk} (h : SettleCourse d transcript result)
    (hlate : d.Outdated number) (ending : Ending) :
    SettleCourse d (transcript.map (retell number ending)) result := by
  cases h with
  | nothing h => exact .nothing h
  | ended h hended => exact .ended h hended
  | @awaited settled reply before left h hflight hleft =>
    refine .awaited h hflight ?_
    have hsame := Desk.finishAll_otherwise (d := { d with latest := none }) hlate ending
      (before ++ [(settled, reply)])
    have hlast : otherwise number ending (settled, reply) =
        (settled, (otherwise number ending (settled, reply)).2) :=
      Prod.ext (otherwise_fst ending (settled, reply)) rfl
    rw [hleft, ← hsame, List.map_append, List.map_singleton, hlast]

theorem SearchCourse.yields {account : Address} {result : Except Failure Snapshot × Desk}
    (h : SearchCourse d account transcript result) :
    (d.search account).Yields transcript result := by
  unfold Desk.search
  cases h with
  | disposed h => simp [h, Dialogue.yields_done]
  | unpublished h => simp [h, Dialogue.yields_ask_cons, Dialogue.yields_done]
  | empty h hempty => simp [h, hempty, Dialogue.yields_ask_cons, Dialogue.yields_done]
  | unread h hempty => simp [h, hempty, Dialogue.yields_ask_cons, Dialogue.yields_done]
  | read h hempty => simp [h, hempty, Dialogue.yields_ask_cons, Dialogue.yields_done]

private theorem claim_yields {snapshot : Snapshot} (h : d.MayClaim snapshot)
    {first : List (Nat × Ending)} {wallet : Option Address}
    {rest : List (Exchange Question Answer)} {result : Except Failure State × Desk} :
    d.claim.Yields (⟨.signer, ⟨wallet, first⟩⟩ :: rest) result ↔
      (match wallet with
        | none => .done (.error .walletNotConnected,
            (d.finishAll first).publish (some Failure.walletNotConnected.shown))
        | some signer => .ask (.isContract signer) fun answer =>
            if answer.reply
            then (d.claiming first answer.ended).proposeToSafe signer snapshot.entitlement.claimCall
            else (d.claiming first answer.ended).claimDirectly snapshot.entitlement.claimCall :
        Talk (Except Failure State × Desk)).Yields rest result := by
  obtain ⟨hopen, hready, hknown, hsome⟩ := h
  unfold Desk.claim
  simp only [hopen, hready, hknown, hsome, Bool.false_eq_true, Bool.not_true, if_false,
    Dialogue.yields_ask_cons]
  cases wallet with
  | none => rfl
  | some signer => rfl

theorem ClaimCourse.yields {result : Except Failure State × Desk}
    (h : ClaimCourse d transcript result) :
    d.claim.Yields transcript result := by
  cases h with
  | disposed h =>
    unfold Desk.claim
    simp [h, Dialogue.yields_done]
  | unsearched h hready =>
    unfold Desk.claim
    rcases hready with hready | hready
    · simp [h, hready, Dialogue.yields_done]
    · by_cases hmay : d.state.mayClaim = true
      · simp [h, hready, hmay, Dialogue.yields_done]
      · simp [h, hmay, Dialogue.yields_done]
  | exhausted h hready hknown hnone =>
    unfold Desk.claim
    simp [h, hready, hknown, hnone, Dialogue.yields_done]
  | walletless h => simp [claim_yields h, Dialogue.yields_done]
  | proposed h hleft =>
    simp [claim_yields h, hleft, Desk.proposeToSafe, Dialogue.yields_ask_cons, Dialogue.yields_done]
  | unsent h =>
    simp [claim_yields h, Desk.claimDirectly, Dialogue.yields_ask_cons, Dialogue.yields_done]
  | unconfirmed h =>
    simp [claim_yields h, Desk.claimDirectly, Dialogue.yields_ask_cons, Dialogue.yields_done]
  | confirmed h hleft =>
    simp [claim_yields h, hleft, Desk.claimDirectly, Dialogue.yields_ask_cons, Dialogue.yields_done]

theorem SettleCourse.yields {result : Option String × Desk} (h : SettleCourse d transcript result) :
    d.settleBackground.Yields transcript result := by
  unfold Desk.settleBackground
  cases h with
  | nothing h => simp [h, Dialogue.yields_done]
  | ended h hended => simp [h, hended, Dialogue.yields_done]
  | awaited h hflight hleft =>
    simp [h, hflight, hleft, Desk.finishAll_concat, Dialogue.yields_ask_cons, Dialogue.yields_done]

theorem Course.yields (h : Course d action transcript outcome left) :
    (action.perform d).Yields transcript (outcome, left) := by
  cases h with
  | search h =>
    exact (Dialogue.yields_bind _ _ _ _).mpr ⟨_, _, [], by simp, h.yields, rfl, rfl⟩
  | claim h =>
    exact (Dialogue.yields_bind _ _ _ _).mpr ⟨_, _, [], by simp, h.yields, rfl, rfl⟩
  | applyConfirmed => exact ⟨rfl, rfl⟩
  | settle h =>
    exact (Dialogue.yields_bind _ _ _ _).mpr ⟨_, _, [], by simp, h.yields, rfl, rfl⟩
  | dispose => exact ⟨rfl, rfl⟩
  | pause => exact ⟨_, _, rfl, rfl, rfl⟩

theorem Course.retell (h : Course d action transcript outcome left)
    (hbegun : d.beginSearch.Outdated number) (hlate : ¬d.MovesOn action → d.Outdated number)
    (hold : number ≠ d.started) (ending : Ending) :
    Course d action (transcript.map (retell number ending)) outcome left := by
  cases h with
  | search h => exact .search (h.retell hbegun ending)
  | claim h => exact .claim (h.retell (hlate id) hold ending)
  | applyConfirmed => exact .applyConfirmed
  | settle h => exact .settle (h.retell (hlate id) ending)
  | dispose => exact .dispose
  | pause =>
    rw [← Desk.finishAll_otherwise (hlate id) ending]
    exact .pause

/-- However a late proposal is told to have ended, the action comes to the same. -/
theorem possible_retell {e : Episode}
    (hlead : Dialogue.Leads Action.perform { links := links } past e.before)
    (he : e.Possible Action.perform) (hlate : Late (past ++ [e]) number) (ending : Ending) :
    Episode.Possible Action.perform
      { e with transcript := e.transcript.map (retell number ending) } := by
  have hbegun : e.before.beginSearch.Outdated number := by
    intro p hp _
    exact Nat.lt_succ_of_le (epoch_of_leads hlead p hp).1
  refine Course.yields ((course_of_possible he).retell hbegun ?_ ?_ ending)
  · intro hstays
    rcases late_concat hlate with hearlier | ⟨hmoves, _⟩
    · exact outdated_of_late hlead hearlier
    · exact absurd hmoves hstays
  · rw [started_of_leads hlead]
    rcases late_concat hlate with hearlier | ⟨_, hbelow⟩
    · exact Nat.ne_of_lt hearlier.lt_started
    · exact Nat.ne_of_lt hbelow

end ClusterDesk.Claim
