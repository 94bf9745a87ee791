import ClusterDesk.Proofs.Alerts.Courses
import ClusterDesk.Rehearsal.AlertStage

/-!
# Coherence of an alert desk

The owner, the summary, the state, the block and the draft of a desk are kept apart and always fit
together: whatever is answered, no operation forgets one of them.
-/

namespace ClusterDesk

namespace Threshold

/-- A number of days that a configuration may have. -/
def Allowed (days : Nat) : Prop :=
  floor ≤ days ∧ days ≤ ceiling

theorem floor_le_ceiling : floor ≤ ceiling := by
  decide

example : floor = 10 ∧ ceiling = 18446744073709551615 / 7200 := by
  decide

theorem allowed_initial : Allowed initial := by
  constructor <;> decide

theorem allowed_clamp (days : Nat) : Allowed (clamp days) := by
  have h := floor_le_ceiling
  constructor
  · exact Nat.le_min.mpr ⟨Nat.le_max_right days floor, h⟩
  · exact Nat.min_le_right _ _

private theorem allowed_typed (below : Bool) (days : Nat) :
    Allowed (if UInt64.size ≤ days then ceiling else if below then floor else clamp days) := by
  split
  · exact ⟨floor_le_ceiling, Nat.le_refl ceiling⟩
  · split
    · exact ⟨Nat.le_refl floor, floor_le_ceiling⟩
    · exact allowed_clamp days

theorem allowed_coerce (text : String) : Allowed (coerce text) := by
  unfold coerce read
  dsimp only
  split
  · exact ⟨Nat.le_refl floor, floor_le_ceiling⟩
  · exact allowed_typed _ _

end Threshold

namespace Draft

theorem allowed_load (payload : Payload) (network : Network) :
    Threshold.Allowed (load (.ofPayload payload network)).days := by
  have h := Threshold.allowed_clamp payload.threshold.toNat
  unfold load
  split
  · exact h
  · exact h

theorem allowed_commitDays (draft : Draft) : Threshold.Allowed draft.commitDays.days :=
  Threshold.allowed_coerce draft.typedDays

end Draft

namespace Alerts

/-- The parts of a desk fit together. -/
structure Coherent (d : Desk) : Prop where
  /-- Nothing is known about an owner as long as nobody is connected. -/
  unknown : d.state = .unknown ↔ d.owner = none ∧ d.summary = none ∧ d.block = none
  /-- Everything is known about an owner that is connected. -/
  known : d.state ≠ .unknown →
    d.owner.isSome = true ∧ d.summary.isSome = true ∧ d.block.isSome = true
  notOwner : ∀ summary, d.summary = some summary →
    (d.state = .notOwner ↔ summary.clusters = 0)
  stored : ∀ summary, d.summary = some summary → d.state.isOwner = true →
    (d.state.hasStored = true ↔ summary.monitored = true)
  editing : d.state = .nothingStored true →
    ∃ summary, d.summary = some summary ∧ 0 < summary.activeClusters
  /-- A form that is not open is empty. -/
  closed : d.state.formOpen = false → d.draft = {}
  days : Threshold.Allowed d.draft.days
  errand : d.errand = none

/-- A desk that stands in an owner's state over a summary. -/
structure Owned (d : Desk) (summary : Summary) : Prop where
  owner : d.owner.isSome = true
  known : d.summary = some summary
  block : d.block.isSome = true
  state : d.state.isOwner = true
  clusters : summary.clusters ≠ 0
  stored : d.state.hasStored = summary.monitored
  editing : d.state = .nothingStored true → 0 < summary.activeClusters

theorem Coherent.owned {d : Desk} (h : Coherent d) (howner : d.state.isOwner = true) :
    ∃ summary, Owned d summary := by
  have hknown : d.state ≠ .unknown := by
    intro hstate
    simp [hstate, State.isOwner] at howner
  obtain ⟨hsome, hsummary, hblock⟩ := h.known hknown
  obtain ⟨summary, hsummary⟩ := Option.isSome_iff_exists.mp hsummary
  refine ⟨summary, hsome, hsummary, hblock, howner, ?_, ?_, ?_⟩
  · intro hnone
    have hstate := (h.notOwner summary hsummary).mpr hnone
    simp [hstate, State.isOwner] at howner
  · exact Bool.eq_iff_iff.mpr (h.stored summary hsummary howner)
  · intro hediting
    obtain ⟨known, hknown, hactive⟩ := h.editing hediting
    obtain rfl : summary = known := by simpa [hsummary] using hknown
    exact hactive

theorem Owned.coherent {d : Desk} {summary : Summary} (h : Owned d summary)
    (hclosed : d.state.formOpen = false → d.draft = {}) (hdays : Threshold.Allowed d.draft.days)
    (herrand : d.errand = none) : Coherent d := by
  have hstate := h.state
  have hknown : d.state ≠ .unknown := by
    intro hunknown
    simp [hunknown, State.isOwner] at hstate
  refine ⟨?_, fun _ => ⟨h.owner, by simp [h.known], h.block⟩, ?_, ?_, ?_, hclosed, hdays, herrand⟩
  · constructor
    · intro hunknown
      exact absurd hunknown hknown
    · rintro ⟨-, hnone, -⟩
      simp [h.known] at hnone
  · intro known hsame
    obtain rfl : summary = known := by simpa [h.known] using hsame
    constructor
    · intro hnot
      simp [hnot, State.isOwner] at hstate
    · intro hnone
      exact absurd hnone h.clusters
  · intro known hsame _
    obtain rfl : summary = known := by simpa [h.known] using hsame
    rw [h.stored]
  · intro hediting
    exact ⟨summary, h.known, h.editing hediting⟩

@[simp] theorem Desk.connected_owner (d : Desk) (owner : Address) (summary : Summary) :
    (d.connected owner summary).owner = some owner :=
  rfl

@[simp] theorem Desk.connected_summary (d : Desk) (owner : Address) (summary : Summary) :
    (d.connected owner summary).summary = some summary :=
  rfl

theorem coherent_start : Coherent ({} : Desk) where
  unknown := by simp
  known h := absurd rfl h
  notOwner summary h := by simp at h
  stored summary h := by simp at h
  editing h := by simp at h
  closed _ := rfl
  days := Threshold.allowed_initial
  errand := rfl

theorem Coherent.notify {d : Desk} (h : Coherent d) (notice : Option Notice) :
    Coherent { d with notice := notice } :=
  ⟨h.unknown, h.known, h.notOwner, h.stored, h.editing, h.closed, h.days, h.errand⟩

theorem Coherent.rested_eq {d : Desk} (h : Coherent d) : d.rested = d := by
  have herrand := h.errand
  cases d
  simp_all [Desk.rested]

theorem Coherent.connected {d : Desk} (h : Coherent d) (hempty : d.draft = {}) (owner : Address)
    (summary : Summary) : Coherent (d.connected owner summary) := by
  by_cases hclusters : summary.clusters = 0
  · have hstate : (d.connected owner summary).state = .notOwner := by
      simp [Desk.connected, Summary.hasClusters, hclusters]
    refine ⟨?_, fun _ => ⟨rfl, rfl, rfl⟩, ?_, ?_, ?_, fun _ => hempty, h.days, h.errand⟩
    · simp [hstate, Desk.connected_owner]
    · intro known hknown
      obtain rfl : summary = known := by simpa using hknown
      simp [hstate, hclusters]
    · simp [hstate, State.isOwner]
    · simp [hstate]
  · have hsome : summary.hasClusters = true := by
      simpa [Summary.hasClusters, UInt64.pos_iff_ne_zero] using hclusters
    have howned : Owned (d.connected owner summary) summary := by
      refine ⟨rfl, rfl, rfl, ?_, hclusters, ?_, ?_⟩
      · cases hmonitored : summary.monitored <;>
          simp [Desk.connected, hsome, hmonitored, State.isOwner]
      · cases hmonitored : summary.monitored <;>
          simp [Desk.connected, hsome, hmonitored, State.hasStored]
      · cases hmonitored : summary.monitored <;> simp [Desk.connected, hsome, hmonitored]
    exact howned.coherent (fun _ => hempty) h.days h.errand

theorem Coherent.viewed {d : Desk} (h : Coherent d) (hstored : d.state.hasStored = true)
    (network : Network) (envelope : Envelope) : Coherent (d.viewed network envelope) := by
  obtain ⟨summary, howned⟩ := h.owned (State.isOwner_of_hasStored hstored)
  have hviewed : Owned (d.viewed network envelope) summary :=
    ⟨howned.owner, howned.known, rfl, rfl, howned.clusters, hstored.symm.trans howned.stored, by
      simp [Desk.viewed]⟩
  exact hviewed.coherent (by simp [Desk.viewed, State.formOpen])
    (Draft.allowed_load envelope.payload network) h.errand

theorem Coherent.saved {d : Desk} (h : Coherent d) (hopen : d.state.formOpen = true)
    (envelope : Envelope) : Coherent (d.saved envelope) := by
  obtain ⟨summary, howned⟩ := h.owned (State.isOwner_of_formOpen hopen)
  have hsaved : Owned (d.saved envelope) { summary with monitored := true } :=
    ⟨howned.owner, by simp [Desk.saved, howned.known], rfl, rfl, howned.clusters, rfl, by
      simp [Desk.saved]⟩
  exact hsaved.coherent (by simp [Desk.saved, State.formOpen]) h.days h.errand

theorem Coherent.deleted {d : Desk} (h : Coherent d) (hstored : d.state.hasStored = true) :
    Coherent d.deleted := by
  obtain ⟨summary, howned⟩ := h.owned (State.isOwner_of_hasStored hstored)
  have hdeleted : Owned d.deleted { summary with monitored := false } :=
    ⟨howned.owner, by simp [Desk.deleted, howned.known], howned.block, rfl, howned.clusters, rfl, by
      simp [Desk.deleted]⟩
  exact hdeleted.coherent (fun _ => rfl) Threshold.allowed_initial h.errand

theorem Coherent.start {d : Desk} (h : Coherent d) : Coherent d.startConfiguration.2 := by
  unfold Desk.startConfiguration
  split
  · exact h
  · split
    · exact h
    case isFalse hactive =>
      split
      case h_1 editing hstate =>
        obtain ⟨summary, howned⟩ := h.owned (by simp [hstate, State.isOwner])
        have hactive : 0 < summary.activeClusters := by
          simpa [Desk.hasActiveClusters, howned.known, Summary.hasActiveClusters,
            UInt64.pos_iff_ne_zero] using hactive
        have hstored : summary.monitored = false := by
          simpa [hstate, State.hasStored] using howned.stored.symm
        have hstarted : Owned { d with state := .nothingStored true } summary :=
          ⟨howned.owner, howned.known, howned.block, rfl, howned.clusters, hstored.symm,
            fun _ => hactive⟩
        exact hstarted.coherent (by simp [State.formOpen]) h.days h.errand
      · exact h

theorem Coherent.redraft {d : Desk} (h : Coherent d) (hopen : d.state.formOpen = true)
    {draft : Draft} (hdays : Threshold.Allowed draft.days) : Coherent { d with draft := draft } :=
  ⟨h.unknown, h.known, h.notOwner, h.stored, h.editing, fun hclosed => by simp [hopen] at hclosed,
    hdays, h.errand⟩

theorem Coherent.edit {d : Desk} (h : Coherent d) {change : Draft → Draft}
    (hchange : (change d.draft).days = d.draft.days) : Coherent (d.edit change).2 := by
  unfold Desk.edit
  split
  · exact h
  case h_2 owner hform =>
    have hopen := ((Desk.requireForm_eq_ok d owner).mp hform).2
    exact h.redraft hopen (by simpa [hchange] using h.days)

theorem Action.change?_days {action : Action} {change : Draft → Draft}
    (h : action.change? = some change) (draft : Draft) : (change draft).days = draft.days := by
  cases action <;> simp only [Action.change?, Option.some.injEq, reduceCtorEq] at h <;> rw [← h]

theorem Coherent.commitDays {d : Desk} (h : Coherent d) : Coherent d.commitDays.2 := by
  unfold Desk.commitDays
  split
  · exact h
  case h_2 owner hform =>
    have hopen := ((Desk.requireForm_eq_ok d owner).mp hform).2
    exact h.redraft hopen d.draft.allowed_commitDays

theorem Coherent.toggleReport {d : Desk} (h : Coherent d) (network : Network) (report : Report) :
    Coherent (d.toggleReport network report).2 := by
  unfold Desk.toggleReport
  split
  · exact h
  case h_2 owner hform =>
    have hopen := ((Desk.requireForm_eq_ok d owner).mp hform).2
    split
    · exact h
    · exact h.redraft hopen h.days

theorem NoticeCourse.coherent {d left : Desk} {success : Option String}
    {result : Except Failure Unit} {ending : List (Exchange Question Reply)}
    (h : NoticeCourse d success result ending left) (hd : Coherent d) : Coherent left := by
  cases h with
  | failed => exact hd.notify _
  | announced htext => exact hd.notify _
  | quiet hnone => exact hd

theorem ErrandCourse.coherent {α : Type} {d : Desk} {owner : Address}
    {payload success : Option String}
    {request : OwnershipProof → Except Failure α → Exchange Question Reply} {finish : α → Desk}
    {transcript : List (Exchange Question Reply)} {told : Except Failure Unit × Desk}
    (h : ErrandCourse d owner payload request finish success transcript told) (hd : Coherent d)
    (hfinish : ∀ named, Coherent (finish named)) : Coherent told.2 := by
  cases h with
  | unproven hproof hnotice => exact hnotice.coherent hd
  | failed hproof hnotice => exact hnotice.coherent hd
  | done hproof hnotice => exact hnotice.coherent (hfinish _)

theorem TestCourse.coherent {d : Desk} {channel : Channel}
    {transcript : List (Exchange Question Reply)} {told : Except Failure Unit × Desk}
    (h : TestCourse d channel transcript told) (hd : Coherent d) : Coherent told.2 := by
  cases h with
  | barred hbarred => exact hd
  | incomplete howner hchannel hnotice => exact hnotice.coherent hd
  | tried howner hchannel hnotice => exact hnotice.coherent hd

theorem SaveCourse.coherent {d : Desk} {network : Network}
    {transcript : List (Exchange Question Reply)} {told : Except Failure Unit × Desk}
    (h : SaveCourse d network transcript told) (hd : Coherent d) : Coherent told.2 := by
  cases h with
  | barred hbarred => exact hd
  | inactive hform hactive hnotice => exact hnotice.coherent hd
  | incomplete hform hactive hchannel hnotice =>
    have hopen := ((Desk.requireForm_eq_ok d _).mp hform).2
    exact hnotice.coherent (hd.redraft hopen d.draft.allowed_commitDays)
  | tried hform hactive hchannel herrand =>
    have hopen := ((Desk.requireForm_eq_ok d _).mp hform).2
    have hcommitted : Coherent d.committed := hd.redraft hopen d.draft.allowed_commitDays
    rw [hcommitted.rested_eq] at herrand
    exact herrand.coherent hcommitted fun envelope => hcommitted.saved hopen envelope

/-- Every action keeps the desk coherent, whatever is answered. -/
theorem Course.coherent {d left : Desk} {network : Network} {action : Action}
    {transcript : List (Exchange Question Reply)} {outcome : Outcome}
    (h : Course d network action transcript outcome left) (hd : Coherent d) : Coherent left := by
  cases h with
  | unconnected => exact coherent_start.notify _
  | connected => exact coherent_start.connected rfl _ _
  | disconnect => exact coherent_start
  | start => exact hd.start
  | view h =>
    cases h with
    | barred hbarred => exact hd
    | tried hstored herrand =>
      rw [hd.rested_eq] at herrand
      have hstored := ((Desk.requireStored_eq_ok d _).mp hstored).2
      exact herrand.coherent hd fun envelope => hd.viewed hstored network envelope
  | save h => exact h.coherent hd
  | delete h =>
    cases h with
    | barred hbarred => exact hd
    | tried hstored herrand =>
      rw [hd.rested_eq] at herrand
      have hstored := ((Desk.requireStored_eq_ok d _).mp hstored).2
      exact herrand.coherent hd fun _ => hd.deleted hstored
  | test h => exact h.coherent hd
  | testDrafted h => exact h.coherent hd
  | edit hchange => exact hd.edit (Action.change?_days hchange d.draft)
  | commitDays => exact hd.commitDays
  | toggleReport => exact hd.toggleReport network _

theorem coherent_of_leads {past : List Episode} {d : Desk}
    (h : Dialogue.Leads performOn {} past d) : Coherent d :=
  h.keeps (fun _ d => Coherent d) coherent_start
    fun _ _ hd he => (course_of_possible he).coherent hd

/-- In every run, whatever is answered, the desk is coherent between any two actions. -/
theorem coherent_of_run {σ : Type} (answer : (q : Question) → σ → Reply q × σ) (s : σ)
    (actions : List (Network × Action)) (d : Desk)
    (h : d ∈ ({} : Desk) :: ((performAll {} actions).run answer s).1.map Prod.snd) :
    Coherent d := by
  rw [(run_performAll answer {} s actions).1, List.map_map] at h
  rcases List.mem_cons.mp h with rfl | hlater
  · exact coherent_start
  · obtain ⟨e, he, rfl⟩ := List.mem_map.mp hlater
    obtain ⟨past, later, hsplit⟩ := List.append_of_mem he
    obtain ⟨hlead, hpossible⟩ := Dialogue.leads_of_history hsplit
    exact coherent_of_leads (hlead.next hpossible)

/-- An owner with a stored configuration that can be fetched and removed. -/
def storedStage : Rehearsal.AlertStage where
  wallet := some (Word.ofNat 20 1)
  summary := [{ result := some (.ok ⟨3, 2, true, 7⟩) }]
  config := [{ result := some (.ok ⟨{ (default : Payload) with channel := "secret" }, 8⟩) }]
  save := []
  delete := [{ result := some (.ok ()) }]
  test := []
  sign := [{ result := some (.ok "signature") }]

/-- Connects, looks at the stored configuration and removes it. -/
def removal : List (Network × Action) :=
  [(.mainnet, .connect (Word.ofNat 20 1)), (.mainnet, .view), (.mainnet, .delete)]

theorem coherent_after_deletion :
    ∃ connected viewed deleted : Desk,
      ((performAll {} removal).run Rehearsal.AlertStage.answer storedStage).1.map Prod.snd =
        [connected, viewed, deleted] ∧
      viewed.draft.webhook = "secret" ∧ deleted.state = .nothingStored false ∧
      deleted.draft = {} ∧ Coherent deleted := by
  refine ⟨_, _, _, rfl, by decide, by decide, by decide,
    coherent_of_run Rehearsal.AlertStage.answer storedStage removal _ ?_⟩
  exact List.mem_cons_of_mem _ (List.mem_cons_of_mem _ (List.mem_cons_of_mem _ List.mem_cons_self))

end Alerts

end ClusterDesk
