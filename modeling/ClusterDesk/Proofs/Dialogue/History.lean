import ClusterDesk.Proofs.Dialogue.Yields
import Mathlib.Data.List.Induction

/-!
# Histories

A run of actions leaves a history: for every action the state it found, what was asked and answered,
what it gave back and the state it left. A property of a run is proved of the episodes that can lead
from one state to another, so that the environment itself plays no part.
-/

namespace ClusterDesk

/-- One action of a run. -/
structure Episode (D Action Outcome Q : Type) (A : Q → Type) where
  /-- The state that the action found. -/
  before : D
  action : Action
  transcript : List (Exchange Q A)
  outcome : Outcome
  /-- The state that the action left. -/
  after : D

variable {D Action Outcome Q : Type} {A : Q → Type} {σ : Type}

/-- Some answers make the action go this way. -/
def Episode.Possible (perform : D → Action → Dialogue Q A (Outcome × D))
    (e : Episode D Action Outcome Q A) : Prop :=
  (perform e.before e.action).Yields e.transcript (e.outcome, e.after)

theorem Episode.Possible.ensures {perform : D → Action → Dialogue Q A (Outcome × D)}
    {e : Episode D Action Outcome Q A} {P : List (Exchange Q A) → Outcome × D → Prop}
    (he : e.Possible perform) (h : (perform e.before e.action).Ensures P) :
    P e.transcript (e.outcome, e.after) :=
  h e.transcript (e.outcome, e.after) he

namespace Dialogue

/-- Performs the actions one behind the other, each on the state that the one before it left. -/
def chain (perform : D → Action → Dialogue Q A (Outcome × D)) :
    D → List Action → Dialogue Q A (List (Outcome × D))
  | _, [] => .done []
  | d, action :: rest =>
    (perform d action).bind fun (outcome, d) =>
      (chain perform d rest).bind fun more => .done ((outcome, d) :: more)

/-- The episodes of a chain in an environment. -/
def history (perform : D → Action → Dialogue Q A (Outcome × D))
    (answer : (q : Q) → σ → A q × σ) :
    D → σ → List Action → List (Episode D Action Outcome Q A)
  | _, _, [] => []
  | d, s, action :: rest =>
    let told := (perform d action).run answer s
    ⟨d, action, told.2.1, told.1.1, told.1.2⟩ :: history perform answer told.1.2 told.2.2 rest

theorem run_chain (perform : D → Action → Dialogue Q A (Outcome × D))
    (answer : (q : Q) → σ → A q × σ) (d : D) (s : σ) (actions : List Action) :
    ((chain perform d actions).run answer s).1 =
        (history perform answer d s actions).map (fun e => (e.outcome, e.after)) ∧
      ((chain perform d actions).run answer s).2.1 =
        (history perform answer d s actions).flatMap Episode.transcript := by
  induction actions generalizing d s with
  | nil => exact ⟨rfl, rfl⟩
  | cons action rest ih =>
    obtain ⟨hgiven, hasked⟩ :=
      ih ((perform d action).run answer s).1.2 ((perform d action).run answer s).2.2
    simp only [chain, run_bind, history, List.map_cons, List.flatMap_cons, run, List.append_nil]
    rw [hgiven, hasked]
    exact ⟨rfl, rfl⟩

/-- Episodes that lead from a first state to another, each one possible where the one before it
ended. -/
inductive Leads (perform : D → Action → Dialogue Q A (Outcome × D)) (start : D) :
    List (Episode D Action Outcome Q A) → D → Prop where
  | start : Leads perform start [] start
  | next {past : List (Episode D Action Outcome Q A)} {e : Episode D Action Outcome Q A}
      (h : Leads perform start past e.before) (he : e.Possible perform) :
      Leads perform start (past ++ [e]) e.after

private theorem leads_behind {perform : D → Action → Dialogue Q A (Outcome × D)}
    {answer : (q : Q) → σ → A q × σ} {start d : D} {s : σ} {actions : List Action}
    {before past later : List (Episode D Action Outcome Q A)} {e : Episode D Action Outcome Q A}
    (hlead : Leads perform start before d)
    (h : history perform answer d s actions = past ++ e :: later) :
    Leads perform start (before ++ past) e.before ∧ e.Possible perform := by
  induction actions generalizing before past d s with
  | nil => simp [history] at h
  | cons action rest ih =>
    have hfirst : Episode.Possible perform ⟨d, action, ((perform d action).run answer s).2.1,
        ((perform d action).run answer s).1.1, ((perform d action).run answer s).1.2⟩ :=
      yields_run (perform d action) answer s
    rw [history] at h
    cases past with
    | nil =>
      obtain ⟨rfl, rfl⟩ := List.cons.inj h
      exact ⟨by simpa using hlead, hfirst⟩
    | cons x past =>
      obtain ⟨rfl, htail⟩ := List.cons.inj h
      have hmoved := ih (hlead.next hfirst) htail
      simpa using hmoved

/-- Whatever stands before an episode of a history leads to the state that the episode found. -/
theorem leads_of_history {perform : D → Action → Dialogue Q A (Outcome × D)}
    {answer : (q : Q) → σ → A q × σ} {start : D} {s : σ} {actions : List Action}
    {past later : List (Episode D Action Outcome Q A)} {e : Episode D Action Outcome Q A}
    (h : history perform answer start s actions = past ++ e :: later) :
    Leads perform start past e.before ∧ e.Possible perform :=
  leads_behind .start h

theorem possible_of_mem_history {perform : D → Action → Dialogue Q A (Outcome × D)}
    {answer : (q : Q) → σ → A q × σ} {start : D} {s : σ} {actions : List Action}
    {e : Episode D Action Outcome Q A} (he : e ∈ history perform answer start s actions) :
    e.Possible perform := by
  obtain ⟨past, later, h⟩ := List.append_of_mem he
  exact (leads_of_history h).2

/-- What every step of a run keeps, together with the episodes so far, holds after the run. -/
theorem Leads.keeps {perform : D → Action → Dialogue Q A (Outcome × D)} {start d : D}
    {past : List (Episode D Action Outcome Q A)}
    (I : List (Episode D Action Outcome Q A) → D → Prop) (hstart : I [] start)
    (hstep : ∀ past e, I past e.before → e.Possible perform → I (past ++ [e]) e.after)
    (h : Leads perform start past d) : I past d := by
  induction h with
  | start => exact hstart
  | next _ he ih => exact hstep _ _ ih he

theorem leads_concat {perform : D → Action → Dialogue Q A (Outcome × D)} {start d : D}
    {past : List (Episode D Action Outcome Q A)} {e : Episode D Action Outcome Q A} :
    Leads perform start (past ++ [e]) d ↔
      Leads perform start past e.before ∧ e.Possible perform ∧ d = e.after := by
  constructor
  · intro h
    generalize hsplit : past ++ [e] = episodes at h
    cases h with
    | start => simp at hsplit
    | next h he =>
      obtain ⟨rfl, rfl⟩ := List.append_singleton_inj.mp hsplit
      exact ⟨h, he, rfl⟩
  · rintro ⟨h, he, rfl⟩
    exact h.next he

theorem Leads.since {perform : D → Action → Dialogue Q A (Outcome × D)} {start d : D}
    {past since : List (Episode D Action Outcome Q A)} {e : Episode D Action Outcome Q A}
    (P : D → Prop) (hbegin : P e.after)
    (hstep : ∀ x ∈ since, P x.before → x.Possible perform → P x.after)
    (h : Leads perform start (past ++ e :: since) d) : P d := by
  induction since using List.reverseRecOn generalizing d with
  | nil =>
    obtain ⟨-, -, rfl⟩ := leads_concat.mp h
    exact hbegin
  | append_singleton since x ih =>
    rw [← List.cons_append, ← List.append_assoc] at h
    obtain ⟨hlead, hx, rfl⟩ := leads_concat.mp h
    have hbefore := ih (fun y hy => hstep y (by simp [hy])) hlead
    exact hstep x (by simp) hbefore hx

/-- What an episode never leaves behind unless it found it or has a cause for it, has a cause in the
run and has held since. -/
theorem Leads.exists_cause {perform : D → Action → Dialogue Q A (Outcome × D)} {start d : D}
    {past : List (Episode D Action Outcome Q A)} {P : D → Prop}
    {Cause : Episode D Action Outcome Q A → Prop} (h : Leads perform start past d)
    (hstart : ¬P start)
    (hstep : ∀ e : Episode D Action Outcome Q A, e.Possible perform → P e.after →
      P e.before ∨ Cause e)
    (hd : P d) :
    ∃ earlier e since, past = earlier ++ e :: since ∧ Cause e ∧ ∀ x ∈ e :: since, P x.after := by
  induction h with
  | start => exact absurd hd hstart
  | @next past last hlead hlast ih =>
    rcases hstep last hlast hd with hbefore | hcause
    · obtain ⟨earlier, e, since, rfl, hcause, hkept⟩ := ih hbefore
      refine ⟨earlier, e, since ++ [last], by simp, hcause, ?_⟩
      intro x hx
      rw [← List.cons_append, List.mem_append, List.mem_singleton] at hx
      rcases hx with hx | rfl
      · exact hkept x hx
      · exact hd
    · refine ⟨past, last, [], rfl, hcause, ?_⟩
      intro x hx
      obtain rfl : x = last := by simpa using hx
      exact hd

end Dialogue

end ClusterDesk
