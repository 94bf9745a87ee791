import ClusterDesk.Alerts.Operations
import ClusterDesk.Proofs.Dialogue.History

/-!
# The courses of an alert desk

Everything that an action of the desk can come to. A view, a save and a deletion go the same way
once they are let through: a proof, one request that carries it, and a notice.
-/

namespace ClusterDesk.Alerts

/-- An action under the network selected at that moment. -/
def performOn (d : Desk) : Network × Action → Talk (Outcome × Desk)
  | (network, action) => action.perform d network

/-- One action at the desk. -/
abbrev Episode := ClusterDesk.Episode Desk (Network × Action) Outcome Question Reply

/-- What happens to a desk in an environment. -/
abbrev history {σ : Type} (answer : (q : Question) → σ → Reply q × σ) (d : Desk) (s : σ)
    (actions : List (Network × Action)) : List Episode :=
  Dialogue.history performOn answer d s actions

theorem performAll_eq_chain (d : Desk) (actions : List (Network × Action)) :
    performAll d actions = Dialogue.chain performOn d actions := by
  induction actions generalizing d with
  | nil => rfl
  | cons action rest ih => simp only [performAll, Dialogue.chain, performOn, ih]

/-- The history is that of the run: it tells everything the run gives back and asks. -/
theorem run_performAll {σ : Type} (answer : (q : Question) → σ → Reply q × σ) (d : Desk) (s : σ)
    (actions : List (Network × Action)) :
    ((performAll d actions).run answer s).1 =
        (history answer d s actions).map (fun e => (e.outcome, e.after)) ∧
      ((performAll d actions).run answer s).2.1 =
        (history answer d s actions).flatMap Episode.transcript := by
  rw [performAll_eq_chain]
  exact Dialogue.run_chain performOn answer d s actions

namespace State

theorem isOwner_of_formOpen {state : State} (h : state.formOpen = true) :
    state.isOwner = true := by
  cases state <;> simp_all [formOpen, isOwner]

theorem isOwner_of_hasStored {state : State} (h : state.hasStored = true) :
    state.isOwner = true := by
  cases state <;> simp_all [hasStored, isOwner]

end State

namespace Desk

theorem requireOwner_eq_ok (d : Desk) (owner : Address) :
    d.requireOwner = .ok owner ↔ d.owner = some owner ∧ d.state.isOwner = true := by
  unfold requireOwner
  cases d.owner with
  | none => simp
  | some known =>
    dsimp only
    split
    case isTrue h => simp [h]
    case isFalse h => simp [h]

theorem requireState_eq_ok (d : Desk) {lets : State → Bool} (refusal : Failure)
    (hlets : ∀ state, lets state = true → state.isOwner = true) (owner : Address) :
    d.requireState lets refusal = .ok owner ↔ d.owner = some owner ∧ lets d.state = true := by
  have howner := requireOwner_eq_ok d
  unfold requireState
  cases hgate : d.requireOwner with
  | error failure =>
    simp only [reduceCtorEq, false_iff]
    rintro ⟨hknown, hlet⟩
    simpa [hgate] using (howner owner).mpr ⟨hknown, hlets d.state hlet⟩
  | ok known =>
    obtain ⟨hknown, -⟩ := (howner known).mp hgate
    dsimp only
    split
    case isTrue h => simp [h, hknown]
    case isFalse h => simp [h]

theorem requireForm_eq_ok (d : Desk) (owner : Address) :
    d.requireForm = .ok owner ↔ d.owner = some owner ∧ d.state.formOpen = true :=
  d.requireState_eq_ok closedFormFailure (fun _ => State.isOwner_of_formOpen) owner

theorem requireStored_eq_ok (d : Desk) (owner : Address) :
    d.requireStored = .ok owner ↔ d.owner = some owner ∧ d.state.hasStored = true :=
  d.requireState_eq_ok nothingStoredFailure (fun _ => State.isOwner_of_hasStored) owner

theorem startConfiguration_frame (d : Desk) :
    ∃ state, d.startConfiguration.2 = { d with state := state } := by
  unfold startConfiguration
  split
  · exact ⟨_, rfl⟩
  · split
    · exact ⟨_, rfl⟩
    · split
      · exact ⟨_, rfl⟩
      · exact ⟨_, rfl⟩

theorem edit_frame (d : Desk) (change : Draft → Draft) :
    ∃ draft, (d.edit change).2 = { d with draft := draft } := by
  unfold edit
  split
  · exact ⟨_, rfl⟩
  · exact ⟨_, rfl⟩

theorem commitDays_frame (d : Desk) : ∃ draft, d.commitDays.2 = { d with draft := draft } := by
  unfold commitDays
  split
  · exact ⟨_, rfl⟩
  · exact ⟨_, rfl⟩

theorem toggleReport_frame (d : Desk) (network : Network) (report : Report) :
    ∃ draft, (d.toggleReport network report).2 = { d with draft := draft } := by
  unfold toggleReport
  split
  · exact ⟨_, rfl⟩
  · split
    · exact ⟨_, rfl⟩
    · exact ⟨_, rfl⟩

/-- The desk when no errand is on its way. -/
def rested (d : Desk) : Desk :=
  { d with errand := none }

/-- The desk with the typed threshold committed. -/
def committed (d : Desk) : Desk :=
  { d with draft := d.draft.commitDays }

end Desk

/-- How a notice is raised. -/
inductive NoticeCourse (d : Desk) (success : Option String) :
    Except Failure Unit → List (Exchange Question Reply) → Desk → Prop where
  | failed {failure : Failure} {now : Nat} :
      NoticeCourse d success (.error failure) [⟨.clock, now⟩] (d.raiseError now failure)
  | announced {text : String} {now : Nat} (h : success = some text) :
      NoticeCourse d success (.ok ()) [⟨.clock, now⟩] (d.raiseSuccess now text)
  | quiet (h : success = none) : NoticeCourse d success (.ok ()) [] d

theorem conclude_course (d : Desk) (result : Except Failure Unit) (success : Option String) :
    (d.conclude result success).Ensures fun ending told =>
      told.1 = result ∧ NoticeCourse d success result ending told.2 := by
  cases result with
  | error failure =>
    simp only [Desk.conclude, Dialogue.ensures_ask, Dialogue.ensures_done]
    intro now
    exact ⟨trivial, .failed⟩
  | ok =>
    cases success with
    | none =>
      simp only [Desk.conclude, Dialogue.ensures_done]
      exact ⟨trivial, .quiet rfl⟩
    | some text =>
      simp only [Desk.conclude, Dialogue.ensures_ask, Dialogue.ensures_done]
      intro now
      exact ⟨trivial, .announced rfl⟩

theorem NoticeCourse.frame {d left : Desk} {success : Option String}
    {result : Except Failure Unit} {ending : List (Exchange Question Reply)}
    (h : NoticeCourse d success result ending left) :
    ∃ notice, left = { d with notice := notice } := by
  cases h with
  | failed => exact ⟨_, rfl⟩
  | announced htext => exact ⟨_, rfl⟩
  | quiet hnone => exact ⟨_, rfl⟩

/-- How a proof over a block comes about. -/
inductive ProofCourse (block : Option UInt64) (owner : Address) (payload : Option String) :
    List (Exchange Question Reply) → Except Failure OwnershipProof → Prop where
  | unnamed (h : block = none) : ProofCourse block owner payload [] (.error .missingBlock)
  | walletless {named : UInt64} (h : block = some named) :
      ProofCourse block owner payload [⟨.signer, none⟩] (.error .walletNotConnected)
  | refused {named : UInt64} {wallet : Address} {failure : Failure} (h : block = some named) :
      ProofCourse block owner payload
        [⟨.signer, some wallet⟩, ⟨.sign (ownershipMessage named payload), .error failure⟩]
        (.error failure)
  | foreign {named : UInt64} {wallet : Address} {signature : String} (h : block = some named)
      (hother : wallet ≠ owner) :
      ProofCourse block owner payload
        [⟨.signer, some wallet⟩, ⟨.sign (ownershipMessage named payload), .ok signature⟩]
        (.error (foreignWalletFailure wallet owner))
  | signed {named : UInt64} {signature : String} (h : block = some named) :
      ProofCourse block owner payload
        [⟨.signer, some owner⟩, ⟨.sign (ownershipMessage named payload), .ok signature⟩]
        (.ok ⟨owner, named, signature⟩)

theorem proveOwner_course (d : Desk) (owner : Address) (payload : Option String) :
    (d.proveOwner owner payload).Ensures (ProofCourse d.block owner payload) := by
  unfold Desk.proveOwner
  split
  case h_1 h => simpa using ProofCourse.unnamed h
  case h_2 named h =>
    simp only [prove, Dialogue.ensures_bind, Dialogue.ensures_ask]
    intro wallet
    cases wallet with
    | none => simpa using ProofCourse.walletless h
    | some wallet =>
      simp only [Dialogue.ensures_ask]
      intro reply
      cases reply with
      | error failure => simpa using ProofCourse.refused h
      | ok signature =>
        simp only [Dialogue.ensures_done]
        split
        case isTrue hother => simpa using ProofCourse.foreign h hother
        case isFalse hsame =>
          obtain rfl : wallet = owner := by simpa using hsame
          simpa using ProofCourse.signed h

/-- How an errand goes that was let through: a proof, the request that carries it, and the notice
at the end. -/
inductive ErrandCourse {α : Type} (d : Desk) (owner : Address) (payload : Option String)
    (request : OwnershipProof → Except Failure α → Exchange Question Reply) (finish : α → Desk)
    (success : Option String) :
    List (Exchange Question Reply) → Except Failure Unit × Desk → Prop where
  | unproven {proving ending : List (Exchange Question Reply)} {failure : Failure} {left : Desk}
      (h : ProofCourse d.block owner payload proving (.error failure))
      (hnotice : NoticeCourse d success (.error failure) ending left) :
      ErrandCourse d owner payload request finish success (proving ++ ending)
        (.error failure, left)
  | failed {proving ending : List (Exchange Question Reply)} {proof : OwnershipProof}
      {failure : Failure} {left : Desk}
      (h : ProofCourse d.block owner payload proving (.ok proof))
      (hnotice : NoticeCourse d success (.error failure) ending left) :
      ErrandCourse d owner payload request finish success
        (proving ++ request proof (.error failure) :: ending) (.error failure, left)
  | done {proving ending : List (Exchange Question Reply)} {proof : OwnershipProof} {named : α}
      {left : Desk} (h : ProofCourse d.block owner payload proving (.ok proof))
      (hnotice : NoticeCourse (finish named) success (.ok ()) ending left) :
      ErrandCourse d owner payload request finish success
        (proving ++ request proof (.ok named) :: ending) (.ok (), left)

private theorem errand_course {α : Type} {d : Desk} {errand : Errand} {owner : Address}
    {payload : Option String}
    {request : OwnershipProof → Except Failure α → Exchange Question Reply} {finish : α → Desk}
    {success : Option String}
    {proved : Except Failure OwnershipProof → Talk (Except Failure Unit × Desk)}
    (hunproven : ∀ failure,
      proved (.error failure) = .done (.error failure, { d with errand := some errand }))
    (hproved : ∀ proof, (proved (.ok proof)).Ensures fun sent told =>
      (∃ failure, sent = [request proof (.error failure)] ∧
        told = (.error failure, { d with errand := some errand })) ∨
      ∃ named, sent = [request proof (.ok named)] ∧
        told.1 = .ok () ∧ told.2.rested = finish named) :
    ((({ d with errand := some errand } : Desk).proveOwner owner payload).bind proved |>.bind
      fun (result, d) => d.rested.conclude result success).Ensures
      (ErrandCourse d.rested owner payload request finish success) := by
  simp only [Dialogue.ensures_bind]
  refine (proveOwner_course _ owner payload).mono ?_
  intro proving proof hproof
  cases proof with
  | error failure =>
    rw [hunproven, Dialogue.ensures_done]
    refine (conclude_course _ _ success).mono ?_
    rintro ending ⟨result, left⟩ ⟨hresult, hnotice⟩
    obtain rfl : result = .error failure := hresult
    rw [List.append_nil]
    exact .unproven hproof hnotice
  | ok proof =>
    refine (hproved proof).mono ?_
    rintro sent ⟨result, reached⟩ hsent
    refine (conclude_course _ result success).mono ?_
    rintro ending ⟨given, left⟩ ⟨hgiven, hnotice⟩
    obtain rfl : given = result := hgiven
    rcases hsent with ⟨failure, rfl, htold⟩ | ⟨named, rfl, hresult, hreached⟩
    · obtain ⟨rfl, rfl⟩ := Prod.mk.inj htold
      rw [List.append_assoc, List.singleton_append]
      exact .failed hproof hnotice
    · obtain rfl : given = .ok () := hresult
      rw [show reached.rested = finish named from hreached] at hnotice
      rw [List.append_assoc, List.singleton_append]
      exact .done hproof hnotice

/-- How a view goes. -/
inductive ViewCourse (d : Desk) (network : Network) :
    List (Exchange Question Reply) → Except Failure Unit × Desk → Prop where
  | barred {failure : Failure} (h : d.requireStored = .error failure) :
      ViewCourse d network [] (.error failure, d)
  | tried {owner : Address} {transcript : List (Exchange Question Reply)}
      {told : Except Failure Unit × Desk} (h : d.requireStored = .ok owner)
      (herrand : ErrandCourse d.rested owner none (fun proof reply => ⟨.config proof, reply⟩)
        (d.rested.viewed network) none transcript told) :
      ViewCourse d network transcript told

theorem view_course (d : Desk) (network : Network) :
    (d.view network).Ensures (ViewCourse d network) := by
  unfold Desk.view
  split
  case h_1 failure h => simpa using ViewCourse.barred h
  case h_2 owner h =>
    refine Dialogue.Ensures.mono (errand_course (fun failure => rfl) ?_)
      fun transcript told herrand => .tried h herrand
    intro proof
    simp only [Dialogue.ensures_ask]
    intro reply
    cases reply with
    | error failure => simp
    | ok envelope => simp [Desk.rested, Desk.viewed]

/-- The text that a save of the form signs and sends. -/
def Desk.payloadText (d : Desk) (network : Network) : String :=
  (d.draft.config.toPayload network).text

/-- How a save goes. The typed threshold is committed even where the channel is incomplete. -/
inductive SaveCourse (d : Desk) (network : Network) :
    List (Exchange Question Reply) → Except Failure Unit × Desk → Prop where
  | barred {failure : Failure} (h : d.requireForm = .error failure) :
      SaveCourse d network [] (.error failure, d)
  | inactive {owner : Address} {ending : List (Exchange Question Reply)} {left : Desk}
      (h : d.requireForm = .ok owner) (hactive : d.hasActiveClusters = false)
      (hnotice : NoticeCourse d none (.error .notClusterOwner) ending left) :
      SaveCourse d network ending (.error .notClusterOwner, left)
  | incomplete {owner : Address} {ending : List (Exchange Question Reply)} {left : Desk}
      (h : d.requireForm = .ok owner) (hactive : d.hasActiveClusters = true)
      (hchannel : d.committed.draft.channelComplete = false)
      (hnotice : NoticeCourse d.committed none (.error incompleteChannelFailure) ending left) :
      SaveCourse d network ending (.error incompleteChannelFailure, left)
  | tried {owner : Address} {transcript : List (Exchange Question Reply)}
      {told : Except Failure Unit × Desk} (h : d.requireForm = .ok owner)
      (hactive : d.hasActiveClusters = true)
      (hchannel : d.committed.draft.channelComplete = true)
      (herrand : ErrandCourse d.committed.rested owner (some (d.committed.payloadText network))
        (fun proof reply => ⟨.save ⟨proof, d.committed.payloadText network⟩, reply⟩)
        d.committed.rested.saved (some "Monitor configuration saved") transcript told) :
      SaveCourse d network transcript told

theorem save_course (d : Desk) (network : Network) :
    (d.save network).Ensures (SaveCourse d network) := by
  unfold Desk.save
  split
  case h_1 failure h => simpa using SaveCourse.barred h
  case h_2 owner h =>
    split
    case isTrue hactive =>
      refine (conclude_course d _ none).mono ?_
      rintro ending ⟨result, left⟩ ⟨hresult, hnotice⟩
      obtain rfl : result = .error .notClusterOwner := hresult
      exact .inactive h (by simpa using hactive) hnotice
    case isFalse hactive =>
      have hactive : d.hasActiveClusters = true := by simpa using hactive
      dsimp only
      split
      case isTrue hchannel =>
        refine (conclude_course d.committed _ none).mono ?_
        rintro ending ⟨result, left⟩ ⟨hresult, hnotice⟩
        obtain rfl : result = .error incompleteChannelFailure := hresult
        exact .incomplete h hactive (by simpa [Desk.committed] using hchannel) hnotice
      case isFalse hchannel =>
        have hchannel : d.committed.draft.channelComplete = true := by
          simpa [Desk.committed] using hchannel
        refine Dialogue.Ensures.mono (errand_course (d := d.committed) (fun failure => rfl) ?_)
          fun transcript told herrand => .tried h hactive hchannel herrand
        intro proof
        simp only [Dialogue.ensures_ask]
        intro reply
        cases reply with
        | error failure => simp [Desk.committed, Desk.payloadText]
        | ok envelope => simp [Desk.committed, Desk.payloadText, Desk.rested, Desk.saved]

/-- How a deletion goes. -/
inductive DeleteCourse (d : Desk) :
    List (Exchange Question Reply) → Except Failure Unit × Desk → Prop where
  | barred {failure : Failure} (h : d.requireStored = .error failure) :
      DeleteCourse d [] (.error failure, d)
  | tried {owner : Address} {transcript : List (Exchange Question Reply)}
      {told : Except Failure Unit × Desk} (h : d.requireStored = .ok owner)
      (herrand : ErrandCourse d.rested owner none (fun proof reply => ⟨.delete proof, reply⟩)
        (fun _ => d.rested.deleted) (some "Monitor configuration deleted") transcript told) :
      DeleteCourse d transcript told

theorem delete_course (d : Desk) : d.delete.Ensures (DeleteCourse d) := by
  unfold Desk.delete
  split
  case h_1 failure h => simpa using DeleteCourse.barred h
  case h_2 owner h =>
    refine Dialogue.Ensures.mono (errand_course (fun failure => rfl) ?_)
      fun transcript told herrand => .tried h herrand
    intro proof
    simp only [Dialogue.ensures_ask]
    intro reply
    cases reply with
    | error failure => simp
    | ok => simp [Desk.rested, Desk.deleted]

/-- How the test of a channel goes. -/
inductive TestCourse (d : Desk) (channel : Channel) :
    List (Exchange Question Reply) → Except Failure Unit × Desk → Prop where
  | barred {failure : Failure} (h : d.requireOwner = .error failure) :
      TestCourse d channel [] (.error failure, d)
  | incomplete {owner : Address} {ending : List (Exchange Question Reply)} {left : Desk}
      (h : d.requireOwner = .ok owner) (hchannel : channel.isComplete = false)
      (hnotice : NoticeCourse d none (.error incompleteChannelFailure) ending left) :
      TestCourse d channel ending (.error incompleteChannelFailure, left)
  | tried {owner : Address} {result : Except Failure Unit}
      {ending : List (Exchange Question Reply)} {left : Desk} (h : d.requireOwner = .ok owner)
      (hchannel : channel.isComplete = true)
      (hnotice : NoticeCourse d (some "Test alert sent") result ending left) :
      TestCourse d channel (⟨.test channel, result⟩ :: ending) (result, left)

theorem test_course (d : Desk) (channel : Channel) :
    (d.test channel).Ensures (TestCourse d channel) := by
  unfold Desk.test
  split
  case h_1 failure h => simpa using TestCourse.barred h
  case h_2 owner h =>
    split
    case isTrue hchannel =>
      refine (conclude_course d _ none).mono ?_
      rintro ending ⟨result, left⟩ ⟨hresult, hnotice⟩
      obtain rfl : result = .error incompleteChannelFailure := hresult
      exact .incomplete h (by simpa using hchannel) hnotice
    case isFalse hchannel =>
      simp only [Dialogue.ensures_ask]
      intro reply
      refine (conclude_course d reply _).mono ?_
      rintro ending ⟨result, left⟩ ⟨hresult, hnotice⟩
      obtain rfl : result = reply := hresult
      exact .tried h (by simpa using hchannel) hnotice

/-- What an action writes into the draft, where it is one of those that write a field. -/
def Action.change? : Action → Option (Draft → Draft)
  | .setMethod method => some fun draft => { draft with method := method }
  | .setWebhook text => some fun draft => { draft with webhook := text }
  | .setToken text => some fun draft => { draft with token := text }
  | .setChat text => some fun draft => { draft with chat := text }
  | .typeDays text => some fun draft => { draft with typedDays := text }
  | _ => none

/-- How an action goes: what it asks, what it gives back and the desk that it leaves. -/
inductive Course (d : Desk) (network : Network) :
    Action → List (Exchange Question Reply) → Outcome → Desk → Prop where
  | unconnected {owner : Address} {failure : Failure} {now : Nat} :
      Course d network (.connect owner) [⟨.summary owner, .error failure⟩, ⟨.clock, now⟩]
        (.summary (.error failure)) (({} : Desk).raiseError now failure)
  | connected {owner : Address} {summary : Summary} :
      Course d network (.connect owner) [⟨.summary owner, .ok summary⟩]
        (.summary (.ok summary)) (({} : Desk).connected owner summary)
  | disconnect : Course d network .disconnect [] .nothing {}
  | start :
      Course d network .start [] (.unit d.startConfiguration.1) d.startConfiguration.2
  | view {transcript : List (Exchange Question Reply)} {result : Except Failure Unit} {left : Desk}
      (h : ViewCourse d network transcript (result, left)) :
      Course d network .view transcript (.unit result) left
  | save {transcript : List (Exchange Question Reply)} {result : Except Failure Unit} {left : Desk}
      (h : SaveCourse d network transcript (result, left)) :
      Course d network .save transcript (.unit result) left
  | delete {transcript : List (Exchange Question Reply)} {result : Except Failure Unit}
      {left : Desk} (h : DeleteCourse d transcript (result, left)) :
      Course d network .delete transcript (.unit result) left
  | test {channel : Channel} {transcript : List (Exchange Question Reply)}
      {result : Except Failure Unit} {left : Desk}
      (h : TestCourse d channel transcript (result, left)) :
      Course d network (.test channel) transcript (.unit result) left
  | testDrafted {transcript : List (Exchange Question Reply)} {result : Except Failure Unit}
      {left : Desk} (h : TestCourse d d.draft.channel transcript (result, left)) :
      Course d network .testDrafted transcript (.unit result) left
  | edit {action : Action} {change : Draft → Draft} (h : action.change? = some change) :
      Course d network action [] (.unit (d.edit change).1) (d.edit change).2
  | commitDays : Course d network .commitDays [] (.days d.commitDays.1) d.commitDays.2
  | toggleReport {report : Report} :
      Course d network (.toggleReport report) [] (.switched (d.toggleReport network report).1)
        (d.toggleReport network report).2

theorem perform_course (d : Desk) (network : Network) (action : Action) :
    (action.perform d network).Ensures fun transcript told =>
      Course d network action transcript told.1 told.2 := by
  cases action with
  | connect owner =>
    simp only [Action.perform, Desk.connect, Dialogue.ensures_bind, Dialogue.ensures_ask]
    intro reply
    cases reply with
    | error failure =>
      simp only [Dialogue.ensures_ask, Dialogue.ensures_done]
      intro now
      exact .unconnected
    | ok summary =>
      simp only [Dialogue.ensures_done]
      exact .connected
  | disconnect => exact (Dialogue.ensures_done _ _).mpr .disconnect
  | start => exact (Dialogue.ensures_done _ _).mpr .start
  | view =>
    simp only [Action.perform, Dialogue.ensures_bind, Dialogue.ensures_done, List.append_nil]
    exact (view_course d network).mono fun transcript told h => .view h
  | save =>
    simp only [Action.perform, Dialogue.ensures_bind, Dialogue.ensures_done, List.append_nil]
    exact (save_course d network).mono fun transcript told h => .save h
  | delete =>
    simp only [Action.perform, Dialogue.ensures_bind, Dialogue.ensures_done, List.append_nil]
    exact (delete_course d).mono fun transcript told h => .delete h
  | test channel =>
    simp only [Action.perform, Dialogue.ensures_bind, Dialogue.ensures_done, List.append_nil]
    exact (test_course d channel).mono fun transcript told h => .test h
  | testDrafted =>
    simp only [Action.perform, Dialogue.ensures_bind, Dialogue.ensures_done, List.append_nil]
    exact (test_course d d.draft.channel).mono fun transcript told h => .testDrafted h
  | setMethod method =>
    simp only [Action.perform, Dialogue.ensures_done]
    exact .edit rfl
  | setWebhook text =>
    simp only [Action.perform, Dialogue.ensures_done]
    exact .edit rfl
  | setToken text =>
    simp only [Action.perform, Dialogue.ensures_done]
    exact .edit rfl
  | setChat text =>
    simp only [Action.perform, Dialogue.ensures_done]
    exact .edit rfl
  | typeDays text =>
    simp only [Action.perform, Dialogue.ensures_done]
    exact .edit rfl
  | commitDays => exact (Dialogue.ensures_done _ _).mpr .commitDays
  | toggleReport report => exact (Dialogue.ensures_done _ _).mpr .toggleReport

theorem Course.exists_view {d left : Desk} {network : Network}
    {transcript : List (Exchange Question Reply)} {outcome : Outcome}
    (h : Course d network .view transcript outcome left) :
    ∃ result, outcome = .unit result ∧ ViewCourse d network transcript (result, left) := by
  cases h with
  | view h => exact ⟨_, rfl, h⟩
  | edit hchange => simp [Action.change?] at hchange

theorem Course.exists_save {d left : Desk} {network : Network}
    {transcript : List (Exchange Question Reply)} {outcome : Outcome}
    (h : Course d network .save transcript outcome left) :
    ∃ result, outcome = .unit result ∧ SaveCourse d network transcript (result, left) := by
  cases h with
  | save h => exact ⟨_, rfl, h⟩
  | edit hchange => simp [Action.change?] at hchange

theorem course_of_possible {e : Episode} (he : e.Possible performOn) :
    Course e.before e.action.1 e.action.2 e.transcript e.outcome e.after :=
  he.ensures (perform_course e.before e.action.1 e.action.2)

end ClusterDesk.Alerts
