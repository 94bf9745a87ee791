import ClusterDesk.Proofs.Alerts.Frames

/-!
# Authority over backend requests

Each request of a run is one that the answers before it entitle the owner to: what counts is the
summary that the last connect was answered with, and whichever of that answer, a save and a deletion
was the last to say whether a configuration is stored.
-/

namespace ClusterDesk.Alerts

/-- What the actions of a run have settled since an owner connected. -/
structure Standing where
  /-- The answer to the connect, as long as the owner stays connected. -/
  summary : Option Summary := none
  stored : Bool := false
  formOpen : Bool := false

/-- The standing behind an action that came to this outcome. -/
def Standing.next (s : Standing) : Action → Outcome → Standing
  | .connect _, .summary (.ok summary) => ⟨some summary, summary.monitored, false⟩
  | .connect _, _ => {}
  | .disconnect, _ => {}
  | .start, .unit (.ok ()) => { s with formOpen := true }
  | .view, .unit (.ok ()) => { s with formOpen := true }
  | .save, .unit (.ok ()) => { s with stored := true, formOpen := true }
  | .delete, .unit (.ok ()) => { s with stored := false, formOpen := false }
  | _, _ => s

def standing (past : List Episode) : Standing :=
  past.foldl (fun s e => s.next e.action.2 e.outcome) {}

theorem standing_concat (past : List Episode) (e : Episode) :
    standing (past ++ [e]) = (standing past).next e.action.2 e.outcome := by
  simp only [standing, List.foldl_append, List.foldl_cons, List.foldl_nil]

def questions (transcript : List (Exchange Question Reply)) : List Question :=
  transcript.map Sigma.fst

theorem mem_ownerRequests_of_asked {request : OwnerRequest}
    {transcript : List (Exchange Question Reply)}
    (h : request.question ∈ questions transcript) : request ∈ ownerRequests transcript := by
  obtain ⟨exchange, hexchange, hquestion⟩ := List.mem_map.mp h
  refine List.mem_filterMap.mpr ⟨exchange, hexchange, ?_⟩
  rw [hquestion, OwnerRequest.ofQuestion?_question]

/-- What a desk asks in the course of an action, and the checks that it was past by then. -/
def Desk.Allows (d : Desk) (action : Action) : Question → Prop
  | .summary owner => action = .connect owner
  | .config _ => action = .view ∧ d.state.hasStored = true
  | .save _ => action = .save ∧ d.MaySave
  | .delete _ => action = .delete ∧ d.state.hasStored = true
  | .test channel =>
    action.isTest = true ∧ d.state.isOwner = true ∧ channel.isComplete = true
  | .signer => action.isTest = false ∧ d.state.isOwner = true
  | .sign _ => action.isTest = false ∧ d.state.isOwner = true
  | .clock => True

variable {d left : Desk} {network : Network} {action : Action} {outcome : Outcome}
  {transcript : List (Exchange Question Reply)}

theorem NoticeCourse.asks {P : Question → Prop} {success : Option String}
    {result : Except Failure Unit} (h : NoticeCourse d success result transcript left)
    (hclock : P .clock) : ∀ q ∈ questions transcript, P q := by
  cases h with
  | failed => simpa [questions] using hclock
  | announced htext => simpa [questions] using hclock
  | quiet hnone => simp [questions]

theorem ProofCourse.asks {P : Question → Prop} {block : Option UInt64} {owner : Address}
    {payload : Option String} {result : Except Failure OwnershipProof}
    (h : ProofCourse block owner payload transcript result) (hsigner : P .signer)
    (hsign : ∀ message, P (.sign message)) : ∀ q ∈ questions transcript, P q := by
  cases h with
  | unnamed hnone => simp [questions]
  | walletless hnamed => simpa [questions] using hsigner
  | refused hnamed => simpa [questions] using ⟨hsigner, hsign _⟩
  | foreign hnamed hother => simpa [questions] using ⟨hsigner, hsign _⟩
  | signed hnamed => simpa [questions] using ⟨hsigner, hsign _⟩

private theorem asks_between {P : Question → Prop} {sent : Exchange Question Reply}
    {proving ending : List (Exchange Question Reply)} (hproving : ∀ q ∈ questions proving, P q)
    (hsent : P sent.1) (hending : ∀ q ∈ questions ending, P q) :
    ∀ q ∈ questions (proving ++ sent :: ending), P q := by
  intro q hq
  rw [questions, List.map_append, List.map_cons, List.mem_append, List.mem_cons] at hq
  rcases hq with hq | rfl | hq
  · exact hproving q hq
  · exact hsent
  · exact hending q hq

theorem ErrandCourse.asks {P : Question → Prop} {α : Type} {owner : Address}
    {payload success : Option String}
    {request : OwnershipProof → Except Failure α → Exchange Question Reply} {finish : α → Desk}
    {told : Except Failure Unit × Desk}
    (h : ErrandCourse d owner payload request finish success transcript told) (hclock : P .clock)
    (hsigner : P .signer) (hsign : ∀ message, P (.sign message))
    (hrequest : ∀ proof reply, P (request proof reply).1) : ∀ q ∈ questions transcript, P q := by
  cases h with
  | unproven hproof hnotice =>
    have hproving := hproof.asks hsigner hsign
    have hending := hnotice.asks hclock
    intro q hq
    rw [questions, List.map_append, List.mem_append] at hq
    exact hq.elim (hproving q) (hending q)
  | failed hproof hnotice =>
    exact asks_between (hproof.asks hsigner hsign) (hrequest _ _) (hnotice.asks hclock)
  | done hproof hnotice =>
    exact asks_between (hproof.asks hsigner hsign) (hrequest _ _) (hnotice.asks hclock)

theorem SaveCourse.allows {told : Except Failure Unit × Desk}
    (h : SaveCourse d network transcript told) :
    ∀ q ∈ questions transcript, d.Allows .save q := by
  cases h with
  | barred hbarred => simp [questions]
  | inactive hform hactive hnotice => exact hnotice.asks trivial
  | incomplete hform hactive hchannel hnotice => exact hnotice.asks trivial
  | tried hform hactive hchannel herrand =>
    have hmay := Desk.maySave_of_checks hform hactive
    have howner : d.state.isOwner = true := State.isOwner_of_formOpen hmay.2.1
    exact herrand.asks trivial ⟨rfl, howner⟩ (fun _ => ⟨rfl, howner⟩) fun _ _ => ⟨rfl, hmay⟩

theorem TestCourse.allows {channel : Channel} {told : Except Failure Unit × Desk}
    (h : TestCourse d channel transcript told) (htest : action.isTest = true) :
    ∀ q ∈ questions transcript, d.Allows action q := by
  cases h with
  | barred hbarred => simp [questions]
  | incomplete howner hchannel hnotice => exact hnotice.asks trivial
  | tried howner hchannel hnotice =>
    have hstate := ((d.requireOwner_eq_ok _).mp howner).2
    have hending := hnotice.asks (P := d.Allows action) trivial
    intro q hq
    rcases List.mem_cons.mp hq with rfl | hq
    · exact ⟨htest, hstate, hchannel⟩
    · exact hending q hq

theorem Course.allows (h : Course d network action transcript outcome left) :
    ∀ q ∈ questions transcript, d.Allows action q := by
  cases h with
  | unconnected => simp [questions, Desk.Allows]
  | connected => simp [questions, Desk.Allows]
  | view h =>
    cases h with
    | barred hbarred => simp [questions]
    | tried hgate herrand =>
      have hstored := ((d.requireStored_eq_ok _).mp hgate).2
      have howner := State.isOwner_of_hasStored hstored
      exact herrand.asks trivial ⟨rfl, howner⟩ (fun _ => ⟨rfl, howner⟩) fun _ _ => ⟨rfl, hstored⟩
  | save h => exact h.allows
  | delete h =>
    cases h with
    | barred hbarred => simp [questions]
    | tried hgate herrand =>
      have hstored := ((d.requireStored_eq_ok _).mp hgate).2
      have howner := State.isOwner_of_hasStored hstored
      exact herrand.asks trivial ⟨rfl, howner⟩ (fun _ => ⟨rfl, howner⟩) fun _ _ => ⟨rfl, hstored⟩
  | test h => exact h.allows rfl
  | testDrafted h => exact h.allows rfl
  | _ => simp [questions]

/-- The desk knows what the run has settled. -/
structure Desk.StandsOn (d : Desk) (s : Standing) : Prop where
  summary : d.summary = s.summary.map fun summary => { summary with monitored := s.stored }
  formOpen : d.state.formOpen = s.formOpen

theorem Desk.StandsOn.congr {s : Standing} (h : d.StandsOn s) (hsummary : left.summary = d.summary)
    (hstate : left.state = d.state) : left.StandsOn s :=
  ⟨hsummary.trans h.summary, by rw [hstate, h.formOpen]⟩

theorem Desk.SameButNotice.standsOn {s : Standing} (h : d.SameButNotice left)
    (hd : d.StandsOn s) : left.StandsOn s := by
  obtain ⟨notice, rfl⟩ := h
  exact hd.congr rfl rfl

theorem Desk.connected_formOpen (owner : Address) (summary : Summary) :
    (d.connected owner summary).state.formOpen = false := by
  unfold Desk.connected
  dsimp only
  split
  · rfl
  · split
    · rfl
    · rfl

theorem ErrandCourse.finished {α : Type} {owner : Address} {payload success : Option String}
    {request : OwnershipProof → Except Failure α → Exchange Question Reply} {finish : α → Desk}
    (h : ErrandCourse d owner payload request finish success transcript (.ok (), left)) :
    ∃ named, (finish named).SameButNotice left := by
  cases h with
  | done hproof hnotice => exact ⟨_, hnotice.sameButNotice⟩

/-- An action moves the desk as its outcome moves the standing. -/
theorem Course.standsOn {s : Standing} (h : Course d network action transcript outcome left)
    (hd : Coherent d) (hs : d.StandsOn s) : left.StandsOn (s.next action outcome) := by
  cases h with
  | unconnected => exact ⟨rfl, rfl⟩
  | connected => exact ⟨rfl, Desk.connected_formOpen _ _⟩
  | disconnect => exact ⟨rfl, rfl⟩
  | start =>
    rcases d.startConfiguration_course with ⟨failure, hfailed⟩ | hstarted
    · rw [hfailed]
      exact hs
    · rw [hstarted]
      exact ⟨hs.summary, rfl⟩
  | @view _ result _ h =>
    cases result with
    | error failure => exact (h.sameButNotice hd).standsOn hs
    | ok =>
      cases h with
      | tried hstored herrand =>
        rw [hd.rested_eq] at herrand
        obtain ⟨envelope, hleft⟩ := herrand.finished
        exact hleft.standsOn ⟨hs.summary, rfl⟩
  | @save _ result _ h =>
    cases result with
    | error failure =>
      rcases h.failed hd with ⟨-, hleft⟩ | ⟨-, hleft⟩
      · exact hleft.standsOn (hs.congr rfl rfl)
      · exact hleft.standsOn hs
    | ok =>
      cases h with
      | tried hform hactive hchannel herrand =>
        obtain ⟨envelope, hleft⟩ := herrand.finished
        refine hleft.standsOn ⟨?_, rfl⟩
        simp [Desk.saved, Desk.committed, Desk.rested, hs.summary, Standing.next, Function.comp_def]
  | @delete _ result _ h =>
    cases result with
    | error failure => exact (h.sameButNotice hd).standsOn hs
    | ok =>
      cases h with
      | tried hstored herrand =>
        obtain ⟨-, hleft⟩ := herrand.finished
        refine hleft.standsOn ⟨?_, rfl⟩
        simp [Desk.deleted, Desk.rested, hs.summary, Standing.next, Function.comp_def]
  | test h => exact h.sameButNotice.standsOn hs
  | testDrafted h => exact h.sameButNotice.standsOn hs
  | @edit _ change hchange =>
    obtain ⟨draft, hleft⟩ := d.edit_frame change
    have hnext : s.next action (.unit (d.edit change).1) = s := by
      cases action <;> simp [Action.change?] at hchange <;> rfl
    rw [hnext]
    exact hs.congr (by simp [hleft]) (by simp [hleft])
  | commitDays =>
    obtain ⟨draft, hleft⟩ := d.commitDays_frame
    exact hs.congr (by simp [hleft]) (by simp [hleft])
  | @toggleReport report =>
    obtain ⟨draft, hleft⟩ := d.toggleReport_frame network report
    exact hs.congr (by simp [hleft]) (by simp [hleft])

theorem standsOn_of_leads {past : List Episode} (h : Dialogue.Leads performOn {} past d) :
    d.StandsOn (standing past) := by
  have hkept : Coherent d ∧ d.StandsOn (standing past) := by
    -- Only a coherent desk has no errand under way that a failed action could leave behind.
    refine h.keeps (fun past d => Coherent d ∧ d.StandsOn (standing past))
      ⟨coherent_start, rfl, rfl⟩ ?_
    rintro past e ⟨hd, hs⟩ he
    have hcourse := course_of_possible he
    rw [standing_concat]
    exact ⟨hcourse.coherent hd, hcourse.standsOn hd hs⟩
  exact hkept.2

/-- The owner is connected, and the connect was answered that it has clusters. -/
def Standing.OwnsClusters (s : Standing) : Prop :=
  ∃ summary, s.summary = some summary ∧ 0 < summary.clusters

theorem Desk.StandsOn.known {s : Standing} {known : Summary} (h : d.StandsOn s)
    (hknown : d.summary = some known) :
    ∃ summary, s.summary = some summary ∧ known = { summary with monitored := s.stored } := by
  have hsame := h.summary
  rw [hknown] at hsame
  obtain ⟨summary, hsummary, hmap⟩ := Option.map_eq_some_iff.mp hsame.symm
  exact ⟨summary, hsummary, hmap.symm⟩

theorem Coherent.ownsClusters {s : Standing} (hd : Coherent d) (hs : d.StandsOn s)
    (howner : d.state.isOwner = true) : s.OwnsClusters := by
  obtain ⟨known, howned⟩ := hd.owned howner
  obtain ⟨summary, hsummary, rfl⟩ := hs.known howned.known
  exact ⟨summary, hsummary, UInt64.pos_iff_ne_zero.mpr howned.clusters⟩

theorem Coherent.standsStored {s : Standing} (hd : Coherent d) (hs : d.StandsOn s)
    (hstored : d.state.hasStored = true) : s.OwnsClusters ∧ s.stored = true := by
  have howner := State.isOwner_of_hasStored hstored
  obtain ⟨known, howned⟩ := hd.owned howner
  obtain ⟨summary, hsummary, rfl⟩ := hs.known howned.known
  exact ⟨hd.ownsClusters hs howner, howned.stored.symm.trans hstored⟩

/-- What an episode requests is what the episodes before it entitle the owner to. -/
structure Authorised (past : List Episode) (e : Episode) : Prop where
  save : ∀ request, .save request ∈ questions e.transcript →
    (standing past).formOpen = true ∧ e.before.state.formOpen = true ∧
      ∃ summary, (standing past).summary = some summary ∧ 0 < summary.activeClusters
  config : ∀ proof, .config proof ∈ questions e.transcript →
    (standing past).OwnsClusters ∧ (standing past).stored = true
  delete : ∀ proof, .delete proof ∈ questions e.transcript →
    (standing past).OwnsClusters ∧ (standing past).stored = true
  test : ∀ channel, .test channel ∈ questions e.transcript →
    (standing past).OwnsClusters ∧ channel.isComplete = true ∧ e.action.2.isTest = true
  /-- A test never prompts for a signature. -/
  unprompted : e.action.2.isTest = true →
    signers e.transcript = [] ∧ prompts e.transcript = []
  /-- With nobody connected, a summary is all that is ever requested. -/
  disconnected : (standing past).summary = none →
    ∀ q ∈ questions e.transcript, q = .clock ∨ ∃ owner, q = .summary owner

theorem Course.unprompted (h : Course d network action transcript outcome left)
    (htest : action.isTest = true) : signers transcript = [] ∧ prompts transcript = [] := by
  cases h with
  | test h => exact ⟨h.unsigned.signers, h.unsigned.prompts⟩
  | testDrafted h => exact ⟨h.unsigned.signers, h.unsigned.prompts⟩
  | edit hchange => exact ⟨rfl, rfl⟩
  | _ => simp [Action.isTest] at htest

/-- In every run, whatever is answered, nothing is requested without the authority for it. -/
theorem authorised_of_history {σ : Type} (answer : (q : Question) → σ → Reply q × σ) (s : σ)
    (actions : List (Network × Action)) (past later : List Episode) (e : Episode)
    (h : history answer {} s actions = past ++ e :: later) : Authorised past e := by
  obtain ⟨hlead, he⟩ := Dialogue.leads_of_history h
  have hd := coherent_of_leads hlead
  have hs := standsOn_of_leads hlead
  have hcourse := course_of_possible he
  have hallows := hcourse.allows
  constructor
  case save =>
    intro request hasked
    obtain ⟨-, -, hopen, known, hknown, hactive⟩ := hallows _ hasked
    obtain ⟨summary, hsummary, rfl⟩ := hs.known hknown
    exact ⟨hs.formOpen.symm.trans hopen, hopen, summary, hsummary, hactive⟩
  case config => exact fun proof hasked => hd.standsStored hs (hallows _ hasked).2
  case delete => exact fun proof hasked => hd.standsStored hs (hallows _ hasked).2
  case test =>
    intro channel hasked
    obtain ⟨htest, howner, hcomplete⟩ := hallows _ hasked
    exact ⟨hd.ownsClusters hs howner, hcomplete, htest⟩
  case unprompted => exact hcourse.unprompted
  case disconnected =>
    intro hnone q hasked
    have hno : ¬e.before.state.isOwner = true := by
      intro howner
      obtain ⟨summary, hsummary, -⟩ := hd.ownsClusters hs howner
      simp [hnone] at hsummary
    have hallowed := hallows q hasked
    cases q with
    | summary owner => exact Or.inr ⟨owner, rfl⟩
    | clock => exact Or.inl rfl
    | config proof => exact absurd (State.isOwner_of_hasStored hallowed.2) hno
    | save request => exact absurd (State.isOwner_of_formOpen hallowed.2.2.1) hno
    | delete proof => exact absurd (State.isOwner_of_hasStored hallowed.2) hno
    | test channel => exact absurd hallowed.2.1 hno
    | signer => exact absurd hallowed.2 hno
    | sign message => exact absurd hallowed.2 hno

/-- An owner whose clusters were all liquidated, with a configuration left behind. -/
def liquidatedStage : Rehearsal.AlertStage where
  wallet := some (Word.ofNat 20 1)
  summary := [{ result := some (.ok ⟨3, 0, true, 7⟩) }]
  config := [{ result := some (.ok ⟨{ (default : Payload) with channel := "hook" }, 8⟩) }]
  save := []
  delete := [{ result := some (.ok ()) }]
  test := []
  sign := [{ result := some (.ok "first") }, { result := some (.ok "second") }]

/-- Looks at the stored configuration, tries to save it and removes it. -/
def cleanup : List (Network × Action) :=
  [(.mainnet, .connect (Word.ofNat 20 1)), (.mainnet, .view), (.mainnet, .save), (.mainnet, .delete)]

/-- A liquidated owner has the authority to delete but not to save. -/
theorem authorised_of_cleanup :
    ∃ connect view save delete : Episode,
      history Rehearsal.AlertStage.answer {} liquidatedStage cleanup =
        [connect, view, save, delete] ∧
      questions save.transcript = [.clock] ∧
      .delete ⟨Word.ofNat 20 1, 8, "second"⟩ ∈ questions delete.transcript ∧
      Authorised [connect, view, save] delete :=
  ⟨_, _, _, _, rfl, by decide, by decide,
    authorised_of_history Rehearsal.AlertStage.answer liquidatedStage cleanup [_, _, _] [] _ rfl⟩

end ClusterDesk.Alerts
