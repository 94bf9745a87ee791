import ClusterDesk.Proofs.Alerts.Courses
import ClusterDesk.Rehearsal.AlertStage

/-!
# Signatures of an alert desk

Every request that only the owner may make carries a proof that was signed for it: by one prompt in
the same action, over the block that the backend named last and over the payload that is sent.
-/

namespace ClusterDesk.Alerts

/-- A request that only the owner may make. -/
inductive OwnerRequest where
  | config (proof : OwnershipProof)
  | save (request : SaveRequest)
  | delete (proof : OwnershipProof)

namespace OwnerRequest

def question : OwnerRequest → Question
  | .config proof => .config proof
  | .save request => .save request
  | .delete proof => .delete proof

def ofQuestion? : Question → Option OwnerRequest
  | .config proof => some (.config proof)
  | .save request => some (.save request)
  | .delete proof => some (.delete proof)
  | _ => none

def proof : OwnerRequest → OwnershipProof
  | .config proof => proof
  | .save request => request.proof
  | .delete proof => proof

/-- The text that is sent, where one is. -/
def payload : OwnerRequest → Option String
  | .save request => some request.text
  | _ => none

/-- The action that makes the request. -/
def action : OwnerRequest → Action
  | .config _ => .view
  | .save _ => .save
  | .delete _ => .delete

end OwnerRequest

/-- The requests made that only the owner may make. -/
def ownerRequests (transcript : List (Exchange Question Reply)) : List OwnerRequest :=
  transcript.filterMap fun exchange => OwnerRequest.ofQuestion? exchange.1

/-- The addresses that the wallet named as its own. -/
def signers (transcript : List (Exchange Question Reply)) : List (Option Address) :=
  transcript.filterMap fun
    | ⟨.signer, wallet⟩ => some wallet
    | _ => none

/-- The messages put before the wallet to be signed, with what came of them. -/
def prompts (transcript : List (Exchange Question Reply)) :
    List (String × Except Failure String) :=
  transcript.filterMap fun
    | ⟨.sign message, reply⟩ => some (message, reply)
    | _ => none

/-- The blocks named in summaries. -/
def summaryBlocks (transcript : List (Exchange Question Reply)) : List UInt64 :=
  transcript.filterMap fun
    | ⟨.summary _, .ok summary⟩ => some summary.block
    | _ => none

/-- The blocks named by views and saves that succeeded. -/
def envelopeBlocks (transcript : List (Exchange Question Reply)) : List UInt64 :=
  transcript.filterMap fun
    | ⟨.config _, .ok envelope⟩ => some envelope.block
    | ⟨.save _, .ok envelope⟩ => some envelope.block
    | _ => none

/-- The owner connected and the block named last, behind an action. -/
def sessionAfter (known : Option (Address × UInt64)) (action : Action)
    (transcript : List (Exchange Question Reply)) : Option (Address × UInt64) :=
  match action with
  | .connect owner => (summaryBlocks transcript).getLast?.map fun block => (owner, block)
  | .disconnect => none
  | _ => known.map fun (owner, block) => (owner, (envelopeBlocks transcript).getLast?.getD block)

/-- The owner connected last, if it still is, and the block that the backend named last since. -/
def session (past : List Episode) : Option (Address × UInt64) :=
  past.foldl (fun known e => sessionAfter known e.action.2 e.transcript) none

/-- A request is the only one in the owner's name, and it was signed before it was sent: by one
prompt, over the block and over what is sent. -/
structure SignedFor (transcript : List (Exchange Question Reply)) (owner : Address) (block : UInt64)
    (request : OwnerRequest) : Prop where
  only : ownerRequests transcript = [request]
  signer : signers transcript = [some owner]
  prompt : ∃ signature, request.proof = ⟨owner, block, signature⟩ ∧
    prompts transcript = [(ownershipMessage block request.payload, .ok signature)]
  order : (transcript.map Sigma.fst).take 3 =
    [.signer, .sign (ownershipMessage block request.payload), request.question]

/-- What an episode requests in the owner's name was signed for it, given the episodes before. -/
structure FreshlySigned (past : List Episode) (e : Episode) : Prop where
  signed : ∀ request ∈ ownerRequests e.transcript, ∃ owner block,
    session past = some (owner, block) ∧ e.before.owner = some owner ∧
      e.action.2 = request.action ∧ SignedFor e.transcript owner block request
  /-- Without a wallet nothing is requested. -/
  absent : none ∈ signers e.transcript → ownerRequests e.transcript = []
  /-- Nor is anything when the wallet refuses to sign. -/
  refused : ∀ message failure, (message, .error failure) ∈ prompts e.transcript →
    ownerRequests e.transcript = []
  /-- Nor is anything when the wallet is not the connected owner's. -/
  foreign : ∀ wallet, some wallet ∈ signers e.transcript →
    (session past).map Prod.fst ≠ some wallet → ownerRequests e.transcript = []

theorem session_concat (past : List Episode) (e : Episode) :
    session (past ++ [e]) = sessionAfter (session past) e.action.2 e.transcript := by
  simp only [session, List.foldl_append, List.foldl_cons, List.foldl_nil]

/-- A transcript in which nothing is signed, requested or named for an owner. -/
structure Unsigned (transcript : List (Exchange Question Reply)) : Prop where
  requests : ownerRequests transcript = []
  signers : signers transcript = []
  prompts : prompts transcript = []
  blocks : envelopeBlocks transcript = []

theorem NoticeCourse.unsigned {d left : Desk} {success : Option String}
    {result : Except Failure Unit} {ending : List (Exchange Question Reply)}
    (h : NoticeCourse d success result ending left) : Unsigned ending := by
  cases h with
  | failed => exact ⟨rfl, rfl, rfl, rfl⟩
  | announced htext => exact ⟨rfl, rfl, rfl, rfl⟩
  | quiet hnone => exact ⟨rfl, rfl, rfl, rfl⟩

theorem TestCourse.unsigned {d : Desk} {channel : Channel}
    {transcript : List (Exchange Question Reply)} {told : Except Failure Unit × Desk}
    (h : TestCourse d channel transcript told) : Unsigned transcript := by
  cases h with
  | barred hbarred => exact ⟨rfl, rfl, rfl, rfl⟩
  | incomplete howner hchannel hnotice => exact hnotice.unsigned
  | tried howner hchannel hnotice =>
    have hending := hnotice.unsigned
    exact ⟨hending.requests, hending.signers, hending.prompts, hending.blocks⟩

theorem ProofCourse.noRequest {block : Option UInt64} {owner : Address} {payload : Option String}
    {proving : List (Exchange Question Reply)} {result : Except Failure OwnershipProof}
    (h : ProofCourse block owner payload proving result) :
    ownerRequests proving = [] ∧ envelopeBlocks proving = [] := by
  cases h with
  | unnamed hnone => exact ⟨rfl, rfl⟩
  | walletless hnamed => exact ⟨rfl, rfl⟩
  | refused hnamed => exact ⟨rfl, rfl⟩
  | foreign hnamed hother => exact ⟨rfl, rfl⟩
  | signed hnamed => exact ⟨rfl, rfl⟩

theorem OwnerRequest.ofQuestion?_question (request : OwnerRequest) :
    OwnerRequest.ofQuestion? request.question = some request := by
  cases request <;> rfl

theorem views_of_request {exchange : Exchange Question Reply} {request : OwnerRequest}
    (h : exchange.1 = request.question) (rest : List (Exchange Question Reply)) :
    ownerRequests (exchange :: rest) = request :: ownerRequests rest ∧
      signers (exchange :: rest) = signers rest ∧ prompts (exchange :: rest) = prompts rest := by
  obtain ⟨question, reply⟩ := exchange
  obtain rfl : question = request.question := h
  refine ⟨?_, ?_, ?_⟩
  · simp [ownerRequests, OwnerRequest.ofQuestion?_question]
  · cases request <;> rfl
  · cases request <;> rfl

theorem ProofCourse.signedFor {block : Option UInt64} {owner : Address}
    {proving ending : List (Exchange Question Reply)} {proof : OwnershipProof}
    {exchange : Exchange Question Reply} {request : OwnerRequest}
    (h : ProofCourse block owner request.payload proving (.ok proof))
    (hexchange : exchange.1 = request.question) (hproof : request.proof = proof)
    (hending : Unsigned ending) :
    ∃ named, block = some named ∧
      SignedFor (proving ++ exchange :: ending) owner named request := by
  obtain ⟨hrequests, hsigners, hprompts⟩ := views_of_request hexchange ending
  cases h with
  | @signed named signature hnamed =>
    refine ⟨named, hnamed, ?_, ?_, ⟨signature, hproof, ?_⟩, ?_⟩
    · change ownerRequests (exchange :: ending) = [request]
      rw [hrequests, hending.requests]
    · change some owner :: signers (exchange :: ending) = [some owner]
      rw [hsigners, hending.signers]
    · change (_, Except.ok signature) :: prompts (exchange :: ending) = [(_, .ok signature)]
      rw [hprompts, hending.prompts]
    · simp [hexchange]

/-- An exchange that carries a proof makes a request of it, with this payload. -/
structure Carries {α : Type}
    (exchange : OwnershipProof → Except Failure α → Exchange Question Reply)
    (payload : Option String) (request : OwnershipProof → OwnerRequest) : Prop where
  question : ∀ proof reply, (exchange proof reply).1 = (request proof).question
  proof : ∀ proof, (request proof).proof = proof
  payload : ∀ proof, (request proof).payload = payload

theorem carries_config :
    Carries (fun proof reply => ⟨.config proof, reply⟩) none OwnerRequest.config :=
  ⟨fun _ _ => rfl, fun _ => rfl, fun _ => rfl⟩

theorem carries_save (text : String) :
    Carries (fun proof reply => ⟨.save ⟨proof, text⟩, reply⟩) (some text)
      fun proof => OwnerRequest.save ⟨proof, text⟩ :=
  ⟨fun _ _ => rfl, fun _ => rfl, fun _ => rfl⟩

theorem carries_delete :
    Carries (fun proof reply => ⟨.delete proof, reply⟩) none OwnerRequest.delete :=
  ⟨fun _ _ => rfl, fun _ => rfl, fun _ => rfl⟩

theorem ErrandCourse.signedFor {α : Type} {d : Desk} {owner : Address}
    {payload success : Option String}
    {exchange : OwnershipProof → Except Failure α → Exchange Question Reply} {finish : α → Desk}
    {transcript : List (Exchange Question Reply)} {told : Except Failure Unit × Desk}
    {request : OwnershipProof → OwnerRequest}
    (h : ErrandCourse d owner payload exchange finish success transcript told)
    (hcarries : Carries exchange payload request) :
    ownerRequests transcript = [] ∨
      ∃ proof block, d.block = some block ∧ SignedFor transcript owner block (request proof) := by
  cases h with
  | unproven hproof hnotice =>
    refine Or.inl ?_
    rw [ownerRequests, List.filterMap_append]
    exact List.append_eq_nil_iff.mpr ⟨hproof.noRequest.1, hnotice.unsigned.requests⟩
  | @failed _ _ proof _ _ hproof hnotice =>
    rw [← hcarries.payload proof] at hproof
    obtain ⟨block, hblock, hsigned⟩ := hproof.signedFor (hcarries.question proof _)
      (hcarries.proof proof) hnotice.unsigned
    exact Or.inr ⟨proof, block, hblock, hsigned⟩
  | @done _ _ proof _ _ hproof hnotice =>
    rw [← hcarries.payload proof] at hproof
    obtain ⟨block, hblock, hsigned⟩ := hproof.signedFor (hcarries.question proof _)
      (hcarries.proof proof) hnotice.unsigned
    exact Or.inr ⟨proof, block, hblock, hsigned⟩

/-- Nothing is requested in the owner's name, or what the action stands for is, signed for. -/
theorem Course.signedFor {d left : Desk} {network : Network} {action : Action}
    {transcript : List (Exchange Question Reply)} {outcome : Outcome}
    (h : Course d network action transcript outcome left) :
    ownerRequests transcript = [] ∨
      ∃ owner block request, d.owner = some owner ∧ d.block = some block ∧
        action = request.action ∧ SignedFor transcript owner block request := by
  cases h with
  | unconnected => exact Or.inl rfl
  | connected => exact Or.inl rfl
  | disconnect => exact Or.inl rfl
  | start => exact Or.inl rfl
  | view h =>
    cases h with
    | barred hbarred => exact Or.inl rfl
    | tried hstored herrand =>
      have howner := ((Desk.requireStored_eq_ok d _).mp hstored).1
      rcases herrand.signedFor carries_config with hnone | ⟨proof, block, hblock, hsigned⟩
      · exact Or.inl hnone
      · exact Or.inr ⟨_, block, _, howner, hblock, rfl, hsigned⟩
  | save h =>
    cases h with
    | barred hbarred => exact Or.inl rfl
    | inactive hform hactive hnotice => exact Or.inl hnotice.unsigned.requests
    | incomplete hform hactive hchannel hnotice => exact Or.inl hnotice.unsigned.requests
    | tried hform hactive hchannel herrand =>
      have howner := ((Desk.requireForm_eq_ok d _).mp hform).1
      rcases herrand.signedFor (carries_save _) with hnone | ⟨proof, block, hblock, hsigned⟩
      · exact Or.inl hnone
      · exact Or.inr ⟨_, block, _, howner, hblock, rfl, hsigned⟩
  | delete h =>
    cases h with
    | barred hbarred => exact Or.inl rfl
    | tried hstored herrand =>
      have howner := ((Desk.requireStored_eq_ok d _).mp hstored).1
      rcases herrand.signedFor carries_delete with hnone | ⟨proof, block, hblock, hsigned⟩
      · exact Or.inl hnone
      · exact Or.inr ⟨_, block, _, howner, hblock, rfl, hsigned⟩
  | test h => exact Or.inl h.unsigned.requests
  | testDrafted h => exact Or.inl h.unsigned.requests
  | edit hchange => exact Or.inl rfl
  | commitDays => exact Or.inl rfl
  | toggleReport => exact Or.inl rfl

/-- The desk goes on with its owner, and with the block that a view or a save named, if one did. -/
structure Continues (d : Desk) (transcript : List (Exchange Question Reply)) (left : Desk) :
    Prop where
  owner : left.owner = d.owner
  block : left.block = (envelopeBlocks transcript).getLast?.or d.block
  quiet : d.owner = none → envelopeBlocks transcript = []

theorem Unsigned.continues {d left : Desk} {transcript : List (Exchange Question Reply)}
    (h : Unsigned transcript) (howner : left.owner = d.owner) (hblock : left.block = d.block) :
    Continues d transcript left :=
  ⟨howner, by simp [h.blocks, hblock], fun _ => h.blocks⟩

theorem Continues.congr {d known left : Desk} {transcript : List (Exchange Question Reply)}
    (h : Continues d transcript left) (howner : d.owner = known.owner)
    (hblock : d.block = known.block) : Continues known transcript left :=
  ⟨h.owner.trans howner, hblock ▸ h.block, fun hnone => h.quiet (howner.trans hnone)⟩

theorem unsigned_nil : Unsigned [] :=
  ⟨rfl, rfl, rfl, rfl⟩

theorem NoticeCourse.continues {d left : Desk} {success : Option String}
    {result : Except Failure Unit} {ending : List (Exchange Question Reply)}
    (h : NoticeCourse d success result ending left) : Continues d ending left := by
  obtain ⟨notice, hleft⟩ := h.frame
  exact h.unsigned.continues (by simp [hleft]) (by simp [hleft])

theorem envelopeBlocks_between {proving ending : List (Exchange Question Reply)}
    {sent : Exchange Question Reply} (hproving : envelopeBlocks proving = [])
    (hending : envelopeBlocks ending = []) :
    envelopeBlocks (proving ++ sent :: ending) = envelopeBlocks [sent] := by
  have hsplit : proving ++ sent :: ending = proving ++ ([sent] ++ ending) := by simp
  simp only [envelopeBlocks, List.filterMap_append, hsplit] at *
  rw [hproving, hending, List.nil_append, List.append_nil]

theorem ErrandCourse.continues {α : Type} {d : Desk} {owner : Address}
    {payload success : Option String}
    {exchange : OwnershipProof → Except Failure α → Exchange Question Reply} {finish : α → Desk}
    {transcript : List (Exchange Question Reply)} {told : Except Failure Unit × Desk}
    (h : ErrandCourse d owner payload exchange finish success transcript told)
    (howner : d.owner = some owner)
    (hfailed : ∀ proof failure, envelopeBlocks [exchange proof (.error failure)] = [])
    (hdone : ∀ proof named, (finish named).owner = d.owner ∧
      (finish named).block = (envelopeBlocks [exchange proof (.ok named)]).getLast?.or d.block) :
    Continues d transcript told.2 := by
  have hquiet : d.owner ≠ none := by simp [howner]
  cases h with
  | @unproven proving ending _ _ hproof hnotice =>
    obtain ⟨notice, hleft⟩ := hnotice.frame
    have hnone : envelopeBlocks (proving ++ ending) = [] := by
      rw [envelopeBlocks, List.filterMap_append]
      exact List.append_eq_nil_iff.mpr ⟨hproof.noRequest.2, hnotice.unsigned.blocks⟩
    exact ⟨by simp [hleft], by simp [hleft, hnone], fun hnone => absurd hnone hquiet⟩
  | failed hproof hnotice =>
    obtain ⟨notice, hleft⟩ := hnotice.frame
    refine ⟨by simp [hleft], ?_, fun hnone => absurd hnone hquiet⟩
    rw [envelopeBlocks_between hproof.noRequest.2 hnotice.unsigned.blocks, hfailed]
    simp [hleft]
  | @done _ _ proof named _ hproof hnotice =>
    obtain ⟨notice, hleft⟩ := hnotice.frame
    obtain ⟨hsame, hblock⟩ := hdone proof named
    refine ⟨by simp [hleft, hsame], ?_, fun hnone => absurd hnone hquiet⟩
    rw [envelopeBlocks_between hproof.noRequest.2 hnotice.unsigned.blocks, ← hblock]
    simp [hleft]

theorem SaveCourse.continues {d : Desk} {network : Network}
    {transcript : List (Exchange Question Reply)} {told : Except Failure Unit × Desk}
    (h : SaveCourse d network transcript told) : Continues d transcript told.2 := by
  cases h with
  | barred hbarred => exact unsigned_nil.continues rfl rfl
  | inactive hform hactive hnotice => exact hnotice.continues
  | incomplete hform hactive hchannel hnotice =>
    exact hnotice.continues.congr rfl rfl
  | tried hform hactive hchannel herrand =>
    have howner := ((Desk.requireForm_eq_ok d _).mp hform).1
    exact (herrand.continues howner (fun _ _ => rfl) fun _ _ => ⟨rfl, rfl⟩).congr rfl rfl

theorem TestCourse.continues {d : Desk} {channel : Channel}
    {transcript : List (Exchange Question Reply)} {told : Except Failure Unit × Desk}
    (h : TestCourse d channel transcript told) : Continues d transcript told.2 := by
  have hunsigned := h.unsigned
  cases h with
  | barred hbarred => exact hunsigned.continues rfl rfl
  | incomplete howner hchannel hnotice => exact hnotice.continues
  | tried howner hchannel hnotice =>
    obtain ⟨notice, hleft⟩ := hnotice.frame
    exact hunsigned.continues (by simp [hleft]) (by simp [hleft])

theorem Course.continues {d left : Desk} {network : Network} {action : Action}
    {transcript : List (Exchange Question Reply)} {outcome : Outcome}
    (h : Course d network action transcript outcome left)
    (hconnect : ∀ owner, action ≠ .connect owner) (hdisconnect : action ≠ .disconnect) :
    Continues d transcript left := by
  cases h with
  | unconnected => exact absurd rfl (hconnect _)
  | connected => exact absurd rfl (hconnect _)
  | disconnect => exact absurd rfl hdisconnect
  | start =>
    obtain ⟨state, hleft⟩ := d.startConfiguration_frame
    exact unsigned_nil.continues (by simp [hleft]) (by simp [hleft])
  | view h =>
    cases h with
    | barred hbarred => exact unsigned_nil.continues rfl rfl
    | tried hstored herrand =>
      have howner := ((Desk.requireStored_eq_ok d _).mp hstored).1
      exact (herrand.continues howner (fun _ _ => rfl) fun _ _ => ⟨rfl, rfl⟩).congr rfl rfl
  | save h => exact h.continues
  | delete h =>
    cases h with
    | barred hbarred => exact unsigned_nil.continues rfl rfl
    | tried hstored herrand =>
      have howner := ((Desk.requireStored_eq_ok d _).mp hstored).1
      exact (herrand.continues howner (fun _ _ => rfl) fun _ _ => ⟨rfl, rfl⟩).congr rfl rfl
  | test h => exact h.continues
  | testDrafted h => exact h.continues
  | @edit _ change hchange =>
    obtain ⟨draft, hleft⟩ := d.edit_frame change
    exact unsigned_nil.continues (by simp [hleft]) (by simp [hleft])
  | commitDays =>
    obtain ⟨draft, hleft⟩ := d.commitDays_frame
    exact unsigned_nil.continues (by simp [hleft]) (by simp [hleft])
  | @toggleReport report =>
    obtain ⟨draft, hleft⟩ := d.toggleReport_frame network report
    exact unsigned_nil.continues (by simp [hleft]) (by simp [hleft])

/-- The desk knows the owner and the block of a session. -/
structure Follows (d : Desk) (known : Option (Address × UInt64)) : Prop where
  owner : d.owner = known.map Prod.fst
  block : d.block = known.map Prod.snd

theorem Follows.eq_some {d : Desk} {known : Option (Address × UInt64)} {owner : Address}
    {block : UInt64} (h : Follows d known) (howner : d.owner = some owner)
    (hblock : d.block = some block) : known = some (owner, block) := by
  have hfirst := h.owner.symm.trans howner
  have hsecond := h.block.symm.trans hblock
  cases known with
  | none => simp at hfirst
  | some session =>
    obtain rfl : session.1 = owner := by simpa using hfirst
    obtain rfl : session.2 = block := by simpa using hsecond
    rfl

theorem Follows.continues {d left : Desk} {known : Option (Address × UInt64)}
    {transcript : List (Exchange Question Reply)} (h : Follows d known)
    (hleft : Continues d transcript left) :
    Follows left (known.map fun (owner, block) =>
      (owner, (envelopeBlocks transcript).getLast?.getD block)) := by
  obtain ⟨howner, hblock⟩ := h
  cases known with
  | none =>
    have hquiet := hleft.quiet howner
    exact ⟨hleft.owner.trans howner, by simpa [hquiet, hblock] using hleft.block⟩
  | some session =>
    refine ⟨hleft.owner.trans howner, ?_⟩
    rw [hleft.block, hblock]
    cases (envelopeBlocks transcript).getLast? with
    | none => rfl
    | some block => rfl

theorem Course.follows {d left : Desk} {network : Network} {action : Action}
    {transcript : List (Exchange Question Reply)} {outcome : Outcome}
    (h : Course d network action transcript outcome left) {known : Option (Address × UInt64)}
    (hknown : Follows d known) : Follows left (sessionAfter known action transcript) := by
  cases action with
  | connect owner =>
    cases h with
    | unconnected => exact ⟨rfl, rfl⟩
    | connected => exact ⟨rfl, rfl⟩
    | edit hchange => simp [Action.change?] at hchange
  | disconnect =>
    cases h with
    | disconnect => exact ⟨rfl, rfl⟩
    | edit hchange => simp [Action.change?] at hchange
  | _ => exact hknown.continues (h.continues (by simp) (by simp))

/-- The desk always knows the owner connected last and the block named last. -/
theorem follows_session {past : List Episode} {d : Desk}
    (h : Dialogue.Leads performOn {} past d) : Follows d (session past) := by
  refine h.keeps (fun past d => Follows d (session past)) ⟨rfl, rfl⟩ ?_
  intro past e hd he
  rw [session_concat]
  exact (course_of_possible he).follows hd

/-- In every run, whatever is answered, every request in the owner's name is signed for itself. -/
theorem freshlySigned_of_history {σ : Type} (answer : (q : Question) → σ → Reply q × σ) (s : σ)
    (actions : List (Network × Action)) (past later : List Episode) (e : Episode)
    (h : history answer {} s actions = past ++ e :: later) : FreshlySigned past e := by
  obtain ⟨hlead, he⟩ := Dialogue.leads_of_history h
  have hknown := follows_session hlead
  rcases (course_of_possible he).signedFor with
    hnone | ⟨owner, block, request, howner, hblock, haction, hsigned⟩
  · constructor <;> simp [hnone]
  · have hsession := hknown.eq_some howner hblock
    obtain ⟨signature, hproof, hprompt⟩ := hsigned.prompt
    constructor
    · intro asked hasked
      obtain rfl : asked = request := by simpa [hsigned.only] using hasked
      exact ⟨owner, block, hsession, howner, haction, hsigned⟩
    · intro habsent
      simp [hsigned.signer] at habsent
    · intro message failure hrefused
      simp [hprompt] at hrefused
    · intro wallet hwallet hforeign
      obtain rfl : wallet = owner := by simpa [hsigned.signer] using hwallet
      simp [hsession] at hforeign

/-- An owner whose stored configuration is looked at and saved, each time with a fresh block. -/
def resaveStage : Rehearsal.AlertStage where
  wallet := some (Word.ofNat 20 1)
  summary := [{ result := some (.ok ⟨3, 2, true, 7⟩) }]
  config := [{ result := some (.ok ⟨{ (default : Payload) with channel := "hook" }, 8⟩) }]
  save := [{ result := some (.ok ⟨default, 9⟩) }]
  delete := []
  test := []
  sign := [{ result := some (.ok "first") }, { result := some (.ok "second") }]

/-- A save signs over the block that the view before it was answered with. -/
theorem freshlySigned_of_resave :
    ∃ connect view save : Episode,
      history Rehearsal.AlertStage.answer {} resaveStage
          [(.mainnet, .connect (Word.ofNat 20 1)), (.mainnet, .view), (.mainnet, .save)] =
        [connect, view, save] ∧
      session [connect, view] = some (Word.ofNat 20 1, 8) ∧
      (ownerRequests save.transcript).map OwnerRequest.proof =
        [⟨Word.ofNat 20 1, 8, "second"⟩] ∧
      FreshlySigned [connect, view] save :=
  ⟨_, _, _, rfl, by decide, by decide,
    freshlySigned_of_history Rehearsal.AlertStage.answer resaveStage
      [(.mainnet, .connect (Word.ofNat 20 1)), (.mainnet, .view), (.mainnet, .save)] [_, _] [] _
      rfl⟩

end ClusterDesk.Alerts
