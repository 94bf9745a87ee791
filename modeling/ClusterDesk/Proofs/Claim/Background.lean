import ClusterDesk.Proofs.Claim.Submission

/-!
# Proposals in the background

Which proposals have been started and which of them still run, read off what was asked and answered.
The desk keeps the same count, but it settles the proposal started last only: whatever was started
before that one and has not ended goes on running.
-/

namespace ClusterDesk.Claim

/-- The calls that were proposed. -/
def proposals (transcript : List (Exchange Question Answer)) : List ClaimCall :=
  transcript.filterMap fun
    | ⟨.propose call, _⟩ => some call
    | _ => none

theorem proposals_append (front back : List (Exchange Question Answer)) :
    proposals (front ++ back) = proposals front ++ proposals back :=
  List.filterMap_append

/-- The proposals that an answer reports as ended. -/
def told : Exchange Question Answer → List (Nat × Ending)
  | ⟨.settle number, answer⟩ => answer.ended ++ [(number, answer.reply)]
  | ⟨_, answer⟩ => answer.ended

/-- How many proposals were started, and the numbers of those that have not ended. -/
structure Watch where
  started : Nat := 0
  running : List Nat := []
deriving DecidableEq, Repr

namespace Watch

def start (w : Watch) : Watch :=
  ⟨w.started + 1, w.running ++ [w.started]⟩

def without (w : Watch) (ended : List (Nat × Ending)) : Watch :=
  { w with running := w.running.filter fun n => ended.all (·.1 != n) }

/-- The watch behind one more exchange. -/
def next (w : Watch) (exchange : Exchange Question Answer) : Watch :=
  match exchange with
  | ⟨.propose _, _⟩ => w.start.without (told exchange)
  | _ => w.without (told exchange)

theorem mem_without (w : Watch) (ended : List (Nat × Ending)) (n : Nat) :
    n ∈ (w.without ended).running ↔ n ∈ w.running ∧ ∀ ending, (n, ending) ∉ ended := by
  simp only [without, List.mem_filter, List.all_eq_true, bne_iff_ne, Prod.forall]
  refine and_congr_right fun _ => ?_
  constructor
  · intro hother ending hmem
    exact hother n ending hmem rfl
  · rintro hnone number ending hmem rfl
    exact hnone ending hmem

theorem next_of_quiet {exchange : Exchange Question Answer} (hquiet : proposals [exchange] = [])
    (w : Watch) : w.next exchange = w.without (told exchange) := by
  obtain ⟨question, answer⟩ := exchange
  cases question with
  | propose call => simp [proposals] at hquiet
  | _ => rfl

end Watch

/-- What has been started and what still runs behind some episodes. -/
def watch (past : List Episode) : Watch :=
  (past.flatMap Episode.transcript).foldl Watch.next {}

theorem watch_concat (past : List Episode) (e : Episode) :
    watch (past ++ [e]) = e.transcript.foldl Watch.next (watch past) := by
  simp [watch, List.flatMap_append, List.foldl_append]

namespace Desk

/-- The count that the desk keeps itself. -/
def watch (d : Desk) : Watch :=
  ⟨d.started, d.inFlight.map Proposal.number⟩

theorem finish_inFlight (d : Desk) (number : Nat) (ending : Ending) :
    (d.finish number ending).inFlight = d.inFlight.filter (·.number != number) := by
  unfold finish
  split
  case h_1 hnone =>
    rw [List.find?_eq_none] at hnone
    refine (List.filter_eq_self.mpr ?_).symm
    intro p hp
    simpa using hnone p hp
  case h_2 =>
    cases ending with
    | submitted transaction => rfl
    | aborted => rfl
    | failed failure =>
      dsimp only
      split
      · rfl
      · rfl

theorem finishAll_inFlight (d : Desk) (endings : List (Nat × Ending)) :
    (d.finishAll endings).inFlight =
      d.inFlight.filter fun p => endings.all (·.1 != p.number) := by
  induction endings generalizing d with
  | nil => exact (List.filter_eq_self.mpr fun _ _ => rfl).symm
  | cons ending rest ih =>
    calc ((d.finish ending.1 ending.2).finishAll rest).inFlight
        = (d.inFlight.filter (·.number != ending.1)).filter
            fun p => rest.all (·.1 != p.number) := by rw [ih, finish_inFlight]
      _ = d.inFlight.filter fun p => (ending :: rest).all (·.1 != p.number) := by
          rw [List.filter_filter]
          apply List.filter_congr
          intro p _
          rw [List.all_cons, Bool.and_comm, bne_comm]

@[simp] theorem finishAll_started (d : Desk) (endings : List (Nat × Ending)) :
    (d.finishAll endings).started = d.started := by
  obtain ⟨_, _, _, h⟩ := finishAll_frame d endings
  rw [h]

@[simp] theorem finishAll_latest (d : Desk) (endings : List (Nat × Ending)) :
    (d.finishAll endings).latest = d.latest := by
  obtain ⟨_, _, _, h⟩ := finishAll_frame d endings
  rw [h]

@[simp] theorem finishAll_epoch (d : Desk) (endings : List (Nat × Ending)) :
    (d.finishAll endings).epoch = d.epoch := by
  obtain ⟨_, _, _, h⟩ := finishAll_frame d endings
  rw [h]

@[simp] theorem finishAll_disposed (d : Desk) (endings : List (Nat × Ending)) :
    (d.finishAll endings).disposed = d.disposed := by
  obtain ⟨_, _, _, h⟩ := finishAll_frame d endings
  rw [h]

@[simp] theorem watch_finishAll (d : Desk) (endings : List (Nat × Ending)) :
    (d.finishAll endings).watch = d.watch.without endings := by
  simp only [watch, Watch.without, finishAll_started, finishAll_inFlight, List.filter_map]
  rfl

@[simp] theorem watch_startProposal (d : Desk) : d.startProposal.watch = d.watch.start := by
  simp [watch, startProposal, Watch.start]

@[simp] theorem watch_publish (d : Desk) (error : Option String) :
    (d.publish error).watch = d.watch := rfl

@[simp] theorem watch_beginSearch (d : Desk) : d.beginSearch.watch = d.watch := rfl

@[simp] theorem watch_searchFailed (d : Desk) (failure : Failure) :
    (d.searchFailed failure).watch = d.watch := rfl

@[simp] theorem watch_found (d : Desk) (snapshot : Snapshot) :
    (d.found snapshot).watch = d.watch := rfl

@[simp] theorem watch_claiming (d : Desk) (first second : List (Nat × Ending)) :
    (d.claiming first second).watch = (d.watch.without first).without second := by
  rw [claiming, watch_finishAll]
  exact congrArg (Watch.without · second) (watch_finishAll d first)

@[simp] theorem watch_claimFailed (d : Desk) (failure : Failure) :
    (d.claimFailed failure).watch = d.watch := rfl

@[simp] theorem watch_proposed (d : Desk) (safe : Address) :
    (d.proposed safe).watch = d.watch := rfl

@[simp] theorem watch_confirmed (d : Desk) (transaction : Digest) :
    (d.confirmed transaction).watch = d.watch := rfl

end Desk

variable {links : ClaimLinks} {past : List Episode} {d left : Desk} {action : Action}
  {transcript : List (Exchange Question Answer)} {outcome : Outcome}

/-- Every action changes the desk's count as its answers change the watch. -/
theorem Course.watch (h : Course d action transcript outcome left) :
    left.watch = transcript.foldl Watch.next d.watch := by
  cases h with
  | search h => cases h <;> simp [Watch.next, told]
  | claim h =>
    cases h with
    | disposed h => rfl
    | unsearched h hready => rfl
    | exhausted h hready hknown hnone => rfl
    | walletless h => simp [Watch.next, told]
    | proposed h hleft => simp [hleft, Watch.next, told]
    | unsent h => simp [Watch.next, told]
    | unconfirmed h => simp [Watch.next, told]
    | confirmed h hleft => simp [hleft, Watch.next, told]
  | applyConfirmed => rfl
  | settle h =>
    cases h with
    | nothing h => rfl
    | ended h hended => rfl
    | awaited h hflight hleft => rw [hleft, Desk.watch_finishAll]; rfl
  | dispose => rfl
  | pause => exact Desk.watch_finishAll _ _

theorem watch_of_leads (h : Dialogue.Leads Action.perform { links := links } past d) :
    d.watch = watch past := by
  refine h.keeps (fun past d => d.watch = watch past) rfl ?_
  intro past e hbefore he
  rw [watch_concat, ← hbefore]
  exact (course_of_possible he).watch

theorem started_of_leads (h : Dialogue.Leads Action.perform { links := links } past d) :
    d.started = (watch past).started :=
  congrArg Watch.started (watch_of_leads h)

/-- What an action does to the proposals: it starts one, settles the latest, or only lets some
end. -/
inductive Flight (d : Desk) : Action → List (Exchange Question Answer) → Desk → Prop where
  | started {snapshot : Snapshot} {call : ClaimCall}
      {transcript : List (Exchange Question Answer)} {left : Desk} (hmay : d.MayClaim snapshot)
      (hcall : proposals transcript = [call]) (hstate : left.state.isSettled = true)
      (hcount : left.started = d.started + 1) (hlatest : left.latest = some d.started)
      (hflight : ∀ p ∈ left.inFlight, p ∈ d.inFlight ∨ p = ⟨d.started, d.epoch⟩) :
      Flight d .claim transcript left
  | settled {transcript : List (Exchange Question Answer)} {left : Desk}
      (hquiet : proposals transcript = []) (hcount : left.started = d.started)
      (hlatest : left.latest = none) (hflight : left.inFlight ⊆ d.inFlight)
      (hended : ∀ p ∈ left.inFlight, d.latest ≠ some p.number) :
      Flight d .settle transcript left
  | kept {action : Action} {transcript : List (Exchange Question Answer)} {left : Desk}
      (haction : action ≠ .settle) (hquiet : proposals transcript = [])
      (hcount : left.started = d.started) (hlatest : left.latest = d.latest)
      (hflight : left.inFlight ⊆ d.inFlight) : Flight d action transcript left

namespace Desk

theorem finishAll_finishAll (d : Desk) (first second : List (Nat × Ending)) :
    (d.finishAll first).finishAll second = d.finishAll (first ++ second) :=
  List.foldl_append.symm

theorem finishAll_subset (d : Desk) (endings : List (Nat × Ending)) :
    (d.finishAll endings).inFlight ⊆ d.inFlight := by
  rw [finishAll_inFlight]
  exact (List.filter_sublist).subset

theorem claiming_subset (d : Desk) (first second : List (Nat × Ending)) :
    (d.claiming first second).inFlight ⊆ d.inFlight :=
  List.Subset.trans (finishAll_subset _ second) (finishAll_subset d first)

@[simp] theorem claiming_started (d : Desk) (first second : List (Nat × Ending)) :
    (d.claiming first second).started = d.started := by
  simp [claiming, beginClaim, publish]

@[simp] theorem claiming_latest (d : Desk) (first second : List (Nat × Ending)) :
    (d.claiming first second).latest = d.latest := by
  simp [claiming, beginClaim, publish]

@[simp] theorem claiming_epoch (d : Desk) (first second : List (Nat × Ending)) :
    (d.claiming first second).epoch = d.epoch := by
  simp [claiming, beginClaim, publish]

@[simp] theorem claiming_disposed (d : Desk) (first second : List (Nat × Ending)) :
    (d.claiming first second).disposed = d.disposed := by
  simp [claiming, beginClaim, publish]

end Desk

theorem SearchCourse.flight {account : Address} {told : Except Failure Snapshot × Desk}
    (h : SearchCourse d account transcript told) :
    Flight d (.search account) transcript told.2 := by
  have hbegun := Desk.finishAll_subset d.beginSearch
  cases h with
  | disposed h => exact .kept (by simp) rfl rfl rfl (List.Subset.refl _)
  | @unpublished _ first h =>
    exact .kept (by simp) rfl (Desk.finishAll_started _ _) (Desk.finishAll_latest _ _)
      (hbegun first)
  | @empty _ first h hempty =>
    exact .kept (by simp) rfl (Desk.finishAll_started _ _) (Desk.finishAll_latest _ _)
      (hbegun first)
  | @unread _ _ first second h hempty =>
    rw [Desk.finishAll_finishAll]
    exact .kept (by simp) rfl (Desk.finishAll_started _ _) (Desk.finishAll_latest _ _)
      (hbegun (first ++ second))
  | @read _ _ first second h hempty =>
    rw [Desk.finishAll_finishAll]
    exact .kept (by simp) rfl (Desk.finishAll_started _ _) (Desk.finishAll_latest _ _)
      (hbegun (first ++ second))

theorem ClaimCourse.flight {told : Except Failure State × Desk}
    (h : ClaimCourse d transcript told) :
    Flight d .claim transcript told.2 := by
  have hsent : ∀ first second rest,
      ((d.claiming first second).finishAll rest).inFlight ⊆ d.inFlight := fun first second rest =>
    List.Subset.trans (Desk.finishAll_subset _ rest) (d.claiming_subset first second)
  cases h with
  | disposed h => exact .kept (by simp) rfl rfl rfl (List.Subset.refl _)
  | unsearched h hready => exact .kept (by simp) rfl rfl rfl (List.Subset.refl _)
  | exhausted h hready hknown hnone => exact .kept (by simp) rfl rfl rfl (List.Subset.refl _)
  | @walletless _ first h =>
    exact .kept (by simp) rfl (Desk.finishAll_started _ _) (Desk.finishAll_latest _ _)
      (Desk.finishAll_subset d first)
  | @proposed _ _ first second third fourth left h hleft =>
    rw [Desk.finishAll_finishAll] at hleft
    subst hleft
    refine .started h rfl rfl ?_ ?_ ?_
    · simp [Desk.proposed, Desk.startProposal]
    · simp [Desk.proposed, Desk.startProposal]
    · intro p hp
      have hmem := Desk.finishAll_subset _ (third ++ fourth) hp
      simp only [Desk.startProposal, Desk.claiming_started, Desk.claiming_epoch, List.mem_append,
        List.mem_singleton] at hmem
      exact hmem.imp_left fun hold => d.claiming_subset first second hold
  | @unsent _ _ _ first second third h =>
    refine .kept (by simp) rfl ?_ ?_ (hsent first second third)
    · simp [Desk.claimFailed, Desk.publish]
    · simp [Desk.claimFailed, Desk.publish]
  | @unconfirmed _ _ _ _ first second third fourth h =>
    rw [Desk.finishAll_finishAll]
    refine .kept (by simp) rfl ?_ ?_ (hsent first second (third ++ fourth))
    · simp [Desk.claimFailed, Desk.publish]
    · simp [Desk.claimFailed, Desk.publish]
  | @confirmed _ _ _ _ first second third fourth left h hleft =>
    rw [Desk.finishAll_finishAll] at hleft
    subst hleft
    refine .kept (by simp) rfl ?_ ?_ (hsent first second (third ++ fourth))
    · simp [Desk.confirmed, Desk.settleSnapshot]
    · simp [Desk.confirmed, Desk.settleSnapshot]

theorem SettleCourse.flight {told : Option String × Desk}
    (h : SettleCourse d transcript told) :
    Flight d .settle transcript told.2 := by
  cases h with
  | nothing h =>
    refine .settled rfl rfl h (List.Subset.refl _) ?_
    intro p _
    simp [h]
  | @ended number h hended =>
    refine .settled rfl rfl rfl (List.Subset.refl _) ?_
    intro p hp hsame
    obtain rfl : number = p.number := by simpa [h] using hsame
    rw [List.any_eq_false] at hended
    exact absurd (beq_self_eq_true p.number) (hended p hp)
  | @awaited number ending before left h hflight hleft =>
    subst hleft
    refine .settled rfl (Desk.finishAll_started _ _) (Desk.finishAll_latest _ _)
      (Desk.finishAll_subset _ _) ?_
    intro p hp hsame
    obtain rfl : number = p.number := by simpa [h] using hsame
    simp [Desk.finishAll_inFlight] at hp

theorem Course.flight (h : Course d action transcript outcome left) :
    Flight d action transcript left := by
  cases h with
  | search h => exact h.flight
  | claim h => exact h.flight
  | applyConfirmed => exact .kept (by simp) rfl rfl rfl (List.Subset.refl _)
  | settle h => exact h.flight
  | dispose => exact .kept (by simp) rfl rfl rfl (List.Subset.refl _)
  | pause =>
    exact .kept (by simp) rfl (Desk.finishAll_started _ _) (Desk.finishAll_latest _ _)
      (Desk.finishAll_subset _ _)

/-- Whatever is in flight behind an action was before, or is what a claim started. -/
theorem Flight.inFlight (h : Flight d action transcript left) :
    ∀ p ∈ left.inFlight, p ∈ d.inFlight ∨
      ∃ snapshot call, p = ⟨d.started, d.epoch⟩ ∧ action = .claim ∧ d.MayClaim snapshot ∧
        proposals transcript = [call] := by
  intro p hp
  cases h with
  | started hmay hcall hstate hcount hlatest hflight =>
    exact (hflight p hp).imp_right fun hnew => ⟨_, _, hnew, rfl, hmay, hcall⟩
  | settled hquiet hcount hlatest hflight hended => exact Or.inl (hflight hp)
  | kept haction hquiet hcount hlatest hflight => exact Or.inl (hflight hp)

theorem Flight.proposes (h : Flight d action transcript left)
    (hproposes : proposals transcript ≠ []) :
    ∃ snapshot call, d.MayClaim snapshot ∧ proposals transcript = [call] ∧
      left.state.isSettled = true := by
  cases h with
  | started hmay hcall hstate hcount hlatest hflight => exact ⟨_, _, hmay, hcall, hstate⟩
  | settled hquiet hcount hlatest hflight hended => exact absurd hquiet hproposes
  | kept haction hquiet hcount hlatest hflight => exact absurd hquiet hproposes

/-- The proposal started last is the one to settle, for as long as it runs. -/
structure Settles (d : Desk) : Prop where
  below : ∀ p ∈ d.inFlight, p.number < d.started
  latest : ∀ p ∈ d.inFlight, p.number + 1 = d.started → d.latest = some p.number

theorem Flight.settles (h : Flight d action transcript left)
    (hd : Settles d) : Settles left := by
  cases h with
  | started hmay hcall hstate hcount hlatest hflight =>
    constructor
    · intro p hp
      rcases hflight p hp with hold | rfl
      · have hbelow := hd.below p hold
        omega
      · rw [hcount]
        exact Nat.lt_succ_self d.started
    · intro p hp hlast
      rcases hflight p hp with hold | rfl
      · have hbelow := hd.below p hold
        omega
      · exact hlatest
  | settled hquiet hcount hlatest hflight hended =>
    constructor
    · intro p hp
      rw [hcount]
      exact hd.below p (hflight hp)
    · intro p hp hlast
      rw [hcount] at hlast
      exact absurd (hd.latest p (hflight hp) hlast) (hended p hp)
  | kept haction hquiet hcount hlatest hflight =>
    constructor
    · intro p hp
      rw [hcount]
      exact hd.below p (hflight hp)
    · intro p hp hlast
      rw [hcount] at hlast
      rw [hlatest]
      exact hd.latest p (hflight hp) hlast

theorem settles_of_leads (h : Dialogue.Leads Action.perform { links := links } past d) :
    Settles d := by
  refine h.keeps (fun _ d => Settles d) ⟨by simp, by simp⟩ ?_
  intro past e hbefore he
  exact (course_of_possible he).flight.settles hbefore

theorem mem_running_foldl (hquiet : proposals transcript = []) (w : Watch) (n : Nat) :
    n ∈ (transcript.foldl Watch.next w).running ↔
      n ∈ w.running ∧ ∀ ending, (n, ending) ∉ transcript.flatMap told := by
  induction transcript generalizing w with
  | nil => simp
  | cons exchange rest ih =>
    rw [← List.singleton_append, proposals_append, List.append_eq_nil_iff] at hquiet
    rw [List.foldl_cons, ih hquiet.2, Watch.next_of_quiet hquiet.1, Watch.mem_without]
    simp only [List.flatMap_cons, List.mem_append, not_or, forall_and, and_assoc]

/-- What settling leaves running: `before` and `after` are the watches around it. -/
structure Settled (before : Watch) (transcript : List (Exchange Question Answer)) (after : Watch) :
    Prop where
  /-- The proposal started last has ended, and of the others those that were told to have. -/
  running : ∀ n, n ∈ after.running ↔
    n ∈ before.running ∧ n + 1 ≠ before.started ∧ ∀ ending, (n, ending) ∉ transcript.flatMap told
  /-- So nothing runs on only where every earlier proposal had ended by itself. -/
  nothing : after.running = [] ↔
    ∀ n ∈ before.running, n + 1 = before.started ∨ ∃ ending, (n, ending) ∈ transcript.flatMap told

/-- In every run, whatever is answered, settling waits for the proposal started last and for no
other. -/
theorem settled_of_history {σ : Type} (answer : (q : Question) → σ → Answer q × σ) (s : σ)
    (links : ClaimLinks) (actions : List Action) (past later : List Episode) (e : Episode)
    (h : history answer { links := links } s actions = past ++ e :: later)
    (haction : e.action = .settle) :
    Settled (watch past) e.transcript (watch (past ++ [e])) := by
  obtain ⟨hlead, he⟩ := Dialogue.leads_of_history h
  have hbefore := watch_of_leads hlead
  have hafter := watch_of_leads (hlead.next he)
  have hcourse := course_of_possible he
  rw [haction] at hcourse
  obtain ⟨hquiet, hsubset, hended⟩ : proposals e.transcript = [] ∧
      e.after.inFlight ⊆ e.before.inFlight ∧
      ∀ p ∈ e.after.inFlight, e.before.latest ≠ some p.number := by
    cases hcourse.flight with
    | settled hquiet _ _ hflight hended => exact ⟨hquiet, hflight, hended⟩
    | kept haction => exact absurd rfl haction
  -- The desk's own count carries this: the proposal started last is the one that is settled.
  have hlatest : ∀ n ∈ (watch (past ++ [e])).running, n + 1 ≠ (watch past).started := by
    intro n hn hlast
    rw [← hafter] at hn
    rw [← hbefore] at hlast
    obtain ⟨p, hp, rfl⟩ := List.mem_map.mp hn
    exact hended p hp ((settles_of_leads hlead).latest p (hsubset hp) hlast)
  have hrunning : ∀ n, n ∈ (watch (past ++ [e])).running ↔ n ∈ (watch past).running ∧
      n + 1 ≠ (watch past).started ∧ ∀ ending, (n, ending) ∉ e.transcript.flatMap told := by
    intro n
    have hfold := mem_running_foldl hquiet (watch past) n
    rw [← watch_concat] at hfold
    constructor
    · intro hn
      exact ⟨(hfold.mp hn).1, hlatest n hn, (hfold.mp hn).2⟩
    · rintro ⟨hn, _, htold⟩
      exact hfold.mpr ⟨hn, htold⟩
  refine ⟨hrunning, ?_⟩
  rw [List.eq_nil_iff_forall_not_mem]
  refine forall_congr' fun n => ?_
  rw [hrunning n]
  constructor
  · intro hnot hn
    by_cases hlast : n + 1 = (watch past).started
    · exact Or.inl hlast
    · refine Or.inr (Classical.byContradiction fun htold => ?_)
      exact hnot ⟨hn, hlast, not_exists.mp htold⟩
  · rintro hall ⟨hn, hlast, htold⟩
    rcases hall hn with hsame | ⟨ending, hmem⟩
    · exact hlast hsame
    · exact htold ending hmem

/-- A wallet of a Safe whose first proposal takes a minute, and any further one no time. -/
def slowStage : Rehearsal.ClaimStage where
  wallet := some (Word.ofNat 20 2)
  entitlement :=
    [{ result := some (.ok ⟨Word.ofNat 20 1, .ofWord (Word.ofNat 32 5), default, [default]⟩) }]
  claimed := [{ result := some (.ok .zero) }]
  isContract := [{ result := some (.ok true) }]
  send := [{ delay := 60000, result := some (.ok (Word.ofNat 32 4)) },
    { result := some (.ok (Word.ofNat 32 5)) }]
  confirm := []

/-- A single slow proposal has ended when settling comes back. -/
theorem settled_of_single :
    ∃ search claim settle : Episode,
      history Rehearsal.ClaimStage.answer { links := ⟨"", "", ""⟩ } slowStage
          [.search (Word.ofNat 20 1), .claim, .settle] = [search, claim, settle] ∧
        (watch [search, claim]).running = [0] ∧
        Settled (watch [search, claim]) settle.transcript (watch [search, claim, settle]) ∧
        (watch [search, claim, settle]).running = [] :=
  ⟨_, _, _, rfl, by decide +kernel,
    settled_of_history Rehearsal.ClaimStage.answer slowStage ⟨"", "", ""⟩
      [.search (Word.ofNat 20 1), .claim, .settle] [_, _] [] _ rfl rfl, by decide +kernel⟩

/-- Behind a second proposal the first one is forgotten: settling comes back while it runs. -/
theorem running_of_overtaken :
    ∃ search claim research reclaim settle : Episode,
      history Rehearsal.ClaimStage.answer { links := ⟨"", "", ""⟩ } slowStage
          [.search (Word.ofNat 20 1), .claim, .search (Word.ofNat 20 1), .claim, .settle] =
        [search, claim, research, reclaim, settle] ∧
        settle.action = .settle ∧
        (watch [search, claim, research, reclaim]).started = 2 ∧
        (watch [search, claim, research, reclaim, settle]).running = [0] :=
  ⟨_, _, _, _, _, rfl, rfl, by decide +kernel, by decide +kernel⟩

end ClusterDesk.Claim
