import ClusterDesk.Proofs.Alerts.Authority
import ClusterDesk.Proofs.Alerts.Loading
import ClusterDesk.Proofs.Alerts.Messages

/-!
# Configurations that are stored again

From a view on, the form shows the stored configuration as it was loaded, until something is typed
or switched, the form is closed, or another configuration is loaded. A save in that time offers the
same configuration to be signed and sent, or it is refused for a channel with a blank field.
-/

namespace ClusterDesk.Alerts

/-- A coherent desk shows a stored configuration as it was loaded, and its owner may store it. -/
structure Desk.Shows (d : Desk) (p : Payload) (network : Network) : Prop where
  coherent : Coherent d
  state : d.state = .storedVisible
  active : d.hasActiveClusters = true
  draft : d.draft = .ofPayload p network

variable {d left : Desk} {p : Payload} {network selected : Network} {action : Action}
  {outcome : Outcome} {transcript : List (Exchange Question Reply)}

namespace Desk.Shows

theorem committed_eq (h : d.Shows p network) : d.committed = d := by
  rw [Desk.committed, h.draft, Draft.commitDays_ofPayload, ← h.draft]

theorem commitDays_eq (h : d.Shows p network) : d.commitDays.2 = d := by
  unfold Desk.commitDays
  split
  · rfl
  · exact h.committed_eq

theorem sameButNotice (h : d.Shows p network) (hleft : d.SameButNotice left) :
    left.Shows p network := by
  obtain ⟨notice, rfl⟩ := hleft
  exact ⟨h.coherent.notify notice, h.state, h.active, h.draft⟩

theorem saved (h : d.Shows p network) (envelope : Envelope) :
    (d.saved envelope).Shows p network := by
  have hopen : d.state.formOpen = true := by rw [h.state]; rfl
  refine ⟨h.coherent.saved hopen envelope, rfl, ?_, h.draft⟩
  have hactive := h.active
  cases hsummary : d.summary <;>
    simp_all [Desk.hasActiveClusters, Desk.saved, Summary.hasActiveClusters]

theorem viewed (hd : Coherent d) (hstored : d.state.hasStored = true)
    (hactive : d.hasActiveClusters = true) (envelope : Envelope) :
    (d.viewed network envelope).Shows envelope.payload network :=
  ⟨hd.viewed hstored network envelope, rfl, hactive, rfl⟩

end Desk.Shows

/-- The actions that take nothing new into an open form and leave it open. -/
def Action.sparesForm : Action → Bool
  | .save => true
  | .test _ => true
  | .testDrafted => true
  | .commitDays => true
  | _ => false

/-- An episode in which nothing is edited: its action takes nothing in, or it failed. A connect
forgets the form even when it fails. -/
def SparesForm (e : Episode) : Prop :=
  e.action.2.sparesForm = true ∨
    e.outcome.failure?.isSome = true ∧ ∀ owner, e.action.2 ≠ .connect owner

theorem SaveCourse.shows {told : Except Failure Unit × Desk}
    (h : SaveCourse d selected transcript told) (hd : d.Shows p network) :
    told.2.Shows p network := by
  cases h with
  | barred hbarred => exact hd
  | inactive hform hactive hnotice => exact hd.sameButNotice hnotice.sameButNotice
  | incomplete hform hactive hchannel hnotice =>
    rw [hd.committed_eq] at hnotice
    exact hd.sameButNotice hnotice.sameButNotice
  | tried hform hactive hchannel herrand =>
    rw [hd.committed_eq, hd.coherent.rested_eq] at herrand
    cases herrand with
    | unproven hproof hnotice => exact hd.sameButNotice hnotice.sameButNotice
    | failed hproof hnotice => exact hd.sameButNotice hnotice.sameButNotice
    | done hproof hnotice => exact (hd.saved _).sameButNotice hnotice.sameButNotice

theorem Course.shows (h : Course d selected action transcript outcome left)
    (hd : d.Shows p network)
    (hspared : action.sparesForm = true ∨
      outcome.failure?.isSome = true ∧ ∀ owner, action ≠ .connect owner) :
    left.Shows p network := by
  -- A save keeps the form whether it fails or not; of the others, those that failed count too.
  by_cases hsave : action = .save
  · subst hsave
    obtain ⟨result, -, hcourse⟩ := h.exists_save
    exact hcourse.shows hd
  rcases hspared with hspared | ⟨hfailed, hconnect⟩
  · cases h with
    | save h => exact absurd rfl hsave
    | test h => exact hd.sameButNotice h.sameButNotice
    | testDrafted h => exact hd.sameButNotice h.sameButNotice
    | edit hchange => cases action <;> simp [Action.sparesForm, Action.change?] at hspared hchange
    | commitDays => exact hd.commitDays_eq.symm ▸ hd
    | _ => simp [Action.sparesForm] at hspared
  · exact hd.sameButNotice (h.sameButNotice hd.coherent hfailed hconnect hsave)

/-- Between exchanges that request nothing in the owner's name there is one that may. -/
theorem eq_of_mem_between {proving ending : List (Exchange Question Reply)}
    {sent asked : Exchange Question Reply} (hproving : ownerRequests proving = [])
    (hending : ownerRequests ending = []) (hasked : asked ∈ proving ++ sent :: ending)
    (hrequest : OwnerRequest.ofQuestion? asked.1 ≠ none) : asked = sent := by
  have hnot (part : List (Exchange Question Reply)) (hnone : ownerRequests part = []) :
      asked ∉ part := fun hmem => hrequest (List.filterMap_eq_nil_iff.mp hnone asked hmem)
  rcases List.mem_append.mp hasked with hmem | hmem
  · exact absurd hmem (hnot proving hproving)
  · rcases List.mem_cons.mp hmem with hsame | hmem
    · exact hsame
    · exact absurd hmem (hnot ending hending)

theorem ErrandCourse.answered {α : Type} {owner : Address} {payload success : Option String}
    {exchange : OwnershipProof → Except Failure α → Exchange Question Reply} {finish : α → Desk}
    {told : Except Failure Unit × Desk}
    (h : ErrandCourse d owner payload exchange finish success transcript told)
    {asked : Exchange Question Reply} (hasked : asked ∈ transcript)
    (hrequest : OwnerRequest.ofQuestion? asked.1 ≠ none) :
    ∃ proof, (∃ failure, asked = exchange proof (.error failure)) ∨
      ∃ named, asked = exchange proof (.ok named) ∧ (finish named).SameButNotice told.2 := by
  cases h with
  | unproven hproof hnotice =>
    rcases List.mem_append.mp hasked with hmem | hmem
    · exact absurd (List.filterMap_eq_nil_iff.mp hproof.noRequest.1 asked hmem) hrequest
    · exact absurd (List.filterMap_eq_nil_iff.mp hnotice.unsigned.requests asked hmem) hrequest
  | failed hproof hnotice =>
    exact ⟨_, .inl ⟨_, eq_of_mem_between hproof.noRequest.1 hnotice.unsigned.requests hasked
      hrequest⟩⟩
  | done hproof hnotice =>
    exact ⟨_, .inr ⟨_, eq_of_mem_between hproof.noRequest.1 hnotice.unsigned.requests hasked
      hrequest, hnotice.sameButNotice⟩⟩

theorem ViewCourse.shows {told : Except Failure Unit × Desk} {proof : OwnershipProof}
    {envelope : Envelope} (h : ViewCourse d network transcript told) (hd : Coherent d)
    (hactive : d.hasActiveClusters = true)
    (hshown : ⟨.config proof, .ok envelope⟩ ∈ transcript) :
    told.2.Shows envelope.payload network := by
  cases h with
  | barred hbarred => simp at hshown
  | tried hgate herrand =>
    have hstored := ((d.requireStored_eq_ok _).mp hgate).2
    rw [hd.rested_eq] at herrand
    obtain ⟨known, ⟨failure, hfailed⟩ | ⟨named, hnamed, hleft⟩⟩ :=
      herrand.answered hshown (Option.some_ne_none _)
    · simp at hfailed
    · obtain rfl : named = envelope := by
        cases hnamed
        rfl
      exact (Desk.Shows.viewed hd hstored hactive named).sameButNotice hleft

/-- Either the request of an errand is made, or the wallet is not there, does not sign or is not the
owner's. -/
theorem ErrandCourse.consulted {α : Type} {owner : Address} {payload success : Option String}
    {exchange : OwnershipProof → Except Failure α → Exchange Question Reply} {finish : α → Desk}
    {told : Except Failure Unit × Desk}
    (h : ErrandCourse d owner payload exchange finish success transcript told)
    (hblock : d.block ≠ none) :
    .signer ∈ questions transcript ∧
      ((∃ proof reply, exchange proof reply ∈ transcript) ∨ none ∈ signers transcript ∨
        (∃ message failure, (message, .error failure) ∈ prompts transcript) ∨
        ∃ wallet, wallet ≠ owner ∧ some wallet ∈ signers transcript) := by
  cases h with
  | unproven hproof hnotice =>
    cases hproof with
    | unnamed hnone => exact absurd hnone hblock
    | walletless hnamed => exact ⟨.head _, .inr (.inl (.head _))⟩
    | refused hnamed => exact ⟨.head _, .inr (.inr (.inl ⟨_, _, .head _⟩))⟩
    | foreign hnamed hother => exact ⟨.head _, .inr (.inr (.inr ⟨_, hother, .head _⟩))⟩
  | failed hproof hnotice =>
    cases hproof with
    | signed hnamed => exact ⟨.head _, .inl ⟨_, _, List.mem_append_cons_self⟩⟩
  | done hproof hnotice =>
    cases hproof with
    | signed hnamed => exact ⟨.head _, .inl ⟨_, _, List.mem_append_cons_self⟩⟩

/-- A text is put before the wallet, and sent unless the wallet is not there, does not sign or is not
the owner's. -/
structure Offers (transcript : List (Exchange Question Reply)) (owner : Address) (text : String) :
    Prop where
  asked : .signer ∈ questions transcript
  prompted : ∀ asked ∈ prompts transcript, ∃ block, asked.1 = ownershipMessage block (some text)
  sent : ∀ request, .save request ∈ questions transcript → request.text = text
  unsent : (∀ request, .save request ∉ questions transcript) → none ∈ signers transcript ∨
    (∃ message failure, (message, .error failure) ∈ prompts transcript) ∨
    ∃ wallet, wallet ≠ owner ∧ some wallet ∈ signers transcript

theorem ErrandCourse.offers {owner : Address} {text : String} {success : Option String}
    {finish : Envelope → Desk} {told : Except Failure Unit × Desk}
    (h : ErrandCourse d owner (some text) (fun proof reply => ⟨.save ⟨proof, text⟩, reply⟩) finish
      success transcript told)
    (hblock : d.block ≠ none) : Offers transcript owner text := by
  obtain ⟨hasked, hwallet⟩ := h.consulted hblock
  refine ⟨hasked, fun asked => h.prompt_mem (carries_save text), ?_, ?_⟩
  · intro request hmem
    have hmem : .save request ∈ ownerRequests transcript := mem_ownerRequests_of_asked hmem
    rcases h.signedFor (carries_save text) with hnone | ⟨proof, block, -, hsigned⟩
    · simp [hnone] at hmem
    · obtain rfl : request = ⟨proof, text⟩ := by simpa [hsigned.only] using hmem
      rfl
  · intro hnone
    rcases hwallet with ⟨proof, reply, hsent⟩ | hwallet
    · exact absurd (List.mem_map_of_mem hsent) (hnone _)
    · exact hwallet

/-- How a save goes of a form that shows a stored configuration. -/
inductive SavesShown (p : Payload) (network : Network) (e : Episode) : Prop where
  | refused {fields : List String} (hfields : p.Fields fields)
      (hblank : ∃ field ∈ fields, Text.trim field = "")
      (houtcome : e.outcome = .unit (.error incompleteChannelFailure))
      (hquiet : questions e.transcript = [.clock])
  | offered {fields : List String} {q : Payload} {owner : Address} (hfields : p.Fields fields)
      (hfilled : ∀ field ∈ fields, Text.trim field ≠ "") (hq : p.StoredAgain network fields q)
      (howner : e.before.owner = some owner) (hoffers : Offers e.transcript owner q.text)

theorem Desk.Shows.requireForm_ne_error (h : d.Shows p network) (failure : Failure) :
    d.requireForm ≠ .error failure := by
  intro hbarred
  have hknown := (h.coherent.known (by simp [h.state])).1
  obtain ⟨owner, howner⟩ := Option.isSome_iff_exists.mp hknown
  have hform := (d.requireForm_eq_ok owner).mpr ⟨howner, by rw [h.state]; rfl⟩
  simp [hbarred] at hform

theorem SaveCourse.savesShown {e : Episode} {result : Except Failure Unit}
    (hresult : e.outcome = .unit result)
    (h : SaveCourse e.before network e.transcript (result, left))
    (hd : e.before.Shows p network) : SavesShown p network e := by
  have hfields : p.Fields e.before.draft.fields := hd.draft ▸ Draft.fields_ofPayload p network
  have hcomplete := e.before.draft.channelComplete_iff
  generalize htranscript : e.transcript = transcript at h
  cases h with
  | barred hbarred => exact absurd hbarred (hd.requireForm_ne_error _)
  | inactive hform hactive hnotice => simp [hd.active] at hactive
  | incomplete hform hactive hchannel hnotice =>
    rw [hd.committed_eq] at hchannel
    have hblank : ∃ field ∈ e.before.draft.fields, Text.trim field = "" := by
      by_contra hnone
      push Not at hnone
      simp [hcomplete.mpr hnone] at hchannel
    refine .refused hfields hblank hresult ?_
    rw [htranscript]
    cases hnotice with
    | failed => rfl
  | tried hform hactive hchannel herrand =>
    rw [hd.committed_eq] at hchannel
    rw [hd.committed_eq, hd.coherent.rested_eq] at herrand
    have howner := ((e.before.requireForm_eq_ok _).mp hform).1
    have hblock := (hd.coherent.known (by simp [hd.state])).2.2
    have hstored : p.StoredAgain network e.before.draft.fields
        (e.before.draft.config.toPayload network) := by
      rw [hd.draft] at hchannel ⊢
      exact Draft.storedAgain_ofPayload p network hchannel
    refine .offered hfields (hcomplete.mp hchannel) hstored howner ?_
    rw [htranscript]
    exact herrand.offers (Option.isSome_iff_ne_none.mp hblock)

/-- In every run, whatever is answered, a save behind a view, with nothing edited since, stores again
what was looked at, or is refused for its channel; and the threshold that is displayed is read as the
one that was loaded. -/
theorem savesShown_of_history {σ : Type} (answer : (q : Question) → σ → Reply q × σ) (s : σ)
    (actions : List (Network × Action)) (past between later : List Episode) (view save : Episode)
    (network : Network) (proof : OwnershipProof) (p : Payload) (block : UInt64)
    (h : history answer {} s actions = past ++ view :: between ++ save :: later)
    (hview : view.action = (network, .view)) (hsave : save.action = (network, .save))
    (hshown : ⟨.config proof, .ok ⟨p, block⟩⟩ ∈ view.transcript)
    (hactive : view.before.hasActiveClusters = true) (hspared : ∀ e ∈ between, SparesForm e) :
    SavesShown p network save ∧
      Threshold.coerce save.before.draft.typedDays = view.after.draft.days := by
  have hfirst : history answer {} s actions = past ++ view :: (between ++ save :: later) := by
    rw [h, List.append_assoc, List.cons_append]
  obtain ⟨hlead, hviewed⟩ := Dialogue.leads_of_history hfirst
  obtain ⟨hreached, hsaved⟩ := Dialogue.leads_of_history h
  -- The view makes the desk show the configuration, and each episode up to the save keeps it so.
  have hbegin : view.after.Shows p network := by
    have hcourse := course_of_possible hviewed
    rw [hview] at hcourse
    obtain ⟨result, -, hcourse⟩ := hcourse.exists_view
    exact hcourse.shows (coherent_of_leads hlead) hactive hshown
  have hbefore : save.before.Shows p network :=
    hreached.since (fun d => d.Shows p network) hbegin fun e he hd hpossible =>
      (course_of_possible hpossible).shows hd (hspared e he)
  constructor
  · have hcourse := course_of_possible hsaved
    rw [hsave] at hcourse
    obtain ⟨result, hresult, hcourse⟩ := hcourse.exists_save
    exact hcourse.savesShown hresult hbefore
  · rw [hbefore.draft, hbegin.draft]
    exact Draft.coerce_typedDays_ofPayload p network

/-- A configuration with a foreign method, blanks around its fields, a threshold that no form takes
and a report that not every network offers. -/
def wildPayload : Payload :=
  { (default : Payload) with
    method := 7, channel := " token, chat,2 ", threshold := 18446744073709551615,
    proposedBlock := true, weekly := true }

/-- What is stored in its place on a network without telemetry. -/
def tamedPayload : Payload :=
  { (default : Payload) with
    method := 1, channel := "token,chat,2", threshold := 2562047788015215, weekly := true }

/-- An owner who looks at that configuration, sends a test alert and saves. -/
def wildStage : Rehearsal.AlertStage where
  wallet := some (Word.ofNat 20 1)
  summary := [{ result := some (.ok ⟨3, 2, true, 7⟩) }]
  config := [{ result := some (.ok ⟨wildPayload, 8⟩) }]
  save := [{ result := some (.ok ⟨default, 9⟩) }]
  delete := []
  test := [{ result := some (.ok ()) }]
  sign := [{ result := some (.ok "first") }, { result := some (.ok "second") }]

/-- Between the view and the save nothing is edited, though an edit is tried. -/
def inspection : List (Network × Action) :=
  [(.holesky, .connect (Word.ofNat 20 1)), (.holesky, .view), (.holesky, .testDrafted),
    (.holesky, .toggleReport .missedBlocks), (.holesky, .commitDays), (.holesky, .save)]

/-- What is stored behind a view, a test and an edit that failed is the configuration, brought into
the bounds of the form and the network. -/
theorem savesShown_of_inspection :
    ∃ connect view test toggle commit save : Episode,
      history Rehearsal.AlertStage.answer {} wildStage inspection =
        [connect, view, test, toggle, commit, save] ∧
      (∀ e ∈ [test, toggle, commit], SparesForm e) ∧
      .save ⟨⟨Word.ofNat 20 1, 8, "second"⟩, tamedPayload.text⟩ ∈ questions save.transcript ∧
      SavesShown wildPayload .holesky save := by
  obtain ⟨connect, view, test, toggle, commit, save, hrun, hview, hsave, hshown, hactive,
      htest, htoggle, hcommit, hrequest⟩ :
      ∃ connect view test toggle commit save : Episode,
        history Rehearsal.AlertStage.answer {} wildStage inspection =
          [connect, view, test, toggle, commit, save] ∧
        view.action = (.holesky, .view) ∧ save.action = (.holesky, .save) ∧
        ⟨.config ⟨Word.ofNat 20 1, 7, "first"⟩, .ok ⟨wildPayload, 8⟩⟩ ∈ view.transcript ∧
        view.before.hasActiveClusters = true ∧ SparesForm test ∧ SparesForm toggle ∧
        SparesForm commit ∧
        .save ⟨⟨Word.ofNat 20 1, 8, "second"⟩, tamedPayload.text⟩ ∈ questions save.transcript :=
    ⟨_, _, _, _, _, _, rfl, rfl, rfl, .tail _ (.tail _ (.head _)), rfl, .inl rfl,
      .inr ⟨rfl, nofun⟩, .inl rfl, .tail _ (.tail _ (.head _))⟩
  have hspared : ∀ e ∈ [test, toggle, commit], SparesForm e := by
    simp [htest, htoggle, hcommit]
  have hsaved := savesShown_of_history Rehearsal.AlertStage.answer wildStage inspection [connect]
    [test, toggle, commit] [] view save .holesky _ wildPayload 8 hrun hview hsave hshown hactive
    hspared
  exact ⟨connect, view, test, toggle, commit, save, hrun, hspared, hrequest, hsaved.1⟩

end ClusterDesk.Alerts
