import ClusterDesk.Proofs.Alerts.Signatures

/-!
# Messages under a signature

A signed message tells the block and the payload apart from every other, and nothing else: a save is
never signed over the text of a view or of a deletion, while a view and a deletion over one block
have one text.
-/

namespace ClusterDesk

/-- What stands behind the block in an ownership message. -/
def messageTail : Option String → List Char
  | some text => '\n' :: text.toList
  | none => []

theorem messageTail_injective : Function.Injective messageTail := by
  intro payload other htail
  cases payload with
  | none => cases other with
    | none => rfl
    | some text => simp [messageTail] at htail
  | some text => cases other with
    | none => simp [messageTail] at htail
    | some text' =>
      have htext : text.toList = text'.toList := (List.cons.inj htail).2
      rw [String.toList_inj.mp htext]

theorem toList_ownershipMessage (block : UInt64) (payload : Option String) :
    (ownershipMessage block payload).toList =
      ownershipPreamble.toList ++ (Nat.toDigits 10 block.toNat ++ messageTail payload) := by
  cases payload with
  | none => simp [ownershipMessage, messageTail, Nat.toString_eq_repr, Nat.repr_eq_ofList_toDigits]
  | some text =>
    simp [ownershipMessage, messageTail, Nat.toString_eq_repr, Nat.repr_eq_ofList_toDigits]

/-- The block of a message is the run of digits behind the preamble. -/
theorem takeWhile_isDigit_message (block : UInt64) (payload : Option String) :
    (Nat.toDigits 10 block.toNat ++ messageTail payload).takeWhile Char.isDigit =
      Nat.toDigits 10 block.toNat := by
  have hdigits : ∀ c ∈ Nat.toDigits 10 block.toNat, c.isDigit = true := fun c hc =>
    Nat.isDigit_of_mem_toDigits (by decide) (by decide) hc
  rw [List.takeWhile_append_of_pos hdigits]
  cases payload with
  | none => simp [messageTail]
  | some text => simp [messageTail]

theorem ownershipMessage_inj (block other : UInt64) (payload otherPayload : Option String) :
    ownershipMessage block payload = ownershipMessage other otherPayload ↔
      block = other ∧ payload = otherPayload := by
  constructor
  · intro hsame
    have hlists := congrArg String.toList hsame
    rw [toList_ownershipMessage, toList_ownershipMessage] at hlists
    have hbehind := List.append_cancel_left hlists
    -- The block ends where its digits end, so the payload cannot continue it.
    have hdigits : Nat.toDigits 10 block.toNat = Nat.toDigits 10 other.toNat := by
      rw [← takeWhile_isDigit_message block payload, hbehind, takeWhile_isDigit_message]
    have htails := hbehind
    rw [hdigits] at htails
    refine ⟨?_, messageTail_injective (List.append_cancel_left htails)⟩
    apply UInt64.toNat_inj.mp
    calc block.toNat = Nat.ofDigitChars 10 (Nat.toDigits 10 block.toNat) 0 :=
          Nat.ofDigitChars_ten_toDigits.symm
      _ = Nat.ofDigitChars 10 (Nat.toDigits 10 other.toNat) 0 := by rw [hdigits]
      _ = other.toNat := Nat.ofDigitChars_ten_toDigits
  · rintro ⟨rfl, rfl⟩
    rfl

/-- A message binds its block and its payload, and to have none is not to have an empty one. -/
theorem ownershipMessage_binds :
    Function.Injective (fun signed : UInt64 × Option String =>
      ownershipMessage signed.1 signed.2) ∧
    ∀ (block other : UInt64) (text : String),
      ownershipMessage block none ≠ ownershipMessage other (some text) := by
  constructor
  · rintro ⟨block, payload⟩ ⟨other, otherPayload⟩ hsame
    obtain ⟨rfl, rfl⟩ := (ownershipMessage_inj block other payload otherPayload).mp hsame
    rfl
  · intro block other text hsame
    obtain ⟨-, habsent⟩ := (ownershipMessage_inj block other none (some text)).mp hsame
    exact Option.some_ne_none text habsent.symm

namespace Alerts

theorem prompts_append_of_nil {front back : List (Exchange Question Reply)}
    (hback : prompts back = []) : prompts (front ++ back) = prompts front := by
  calc prompts (front ++ back) = prompts front ++ prompts back := List.filterMap_append
    _ = prompts front := by rw [hback, List.append_nil]

theorem ProofCourse.prompt_mem {block : Option UInt64} {owner : Address}
    {payload : Option String} {proving : List (Exchange Question Reply)}
    {result : Except Failure OwnershipProof} (h : ProofCourse block owner payload proving result)
    {asked : String × Except Failure String} (hasked : asked ∈ prompts proving) :
    ∃ named, asked.1 = ownershipMessage named payload := by
  cases h with
  | unnamed hnone => simp [prompts] at hasked
  | walletless hnamed => simp [prompts] at hasked
  | refused hnamed =>
    obtain rfl : asked = _ := by simpa [prompts] using hasked
    exact ⟨_, rfl⟩
  | foreign hnamed hother =>
    obtain rfl : asked = _ := by simpa [prompts] using hasked
    exact ⟨_, rfl⟩
  | signed hnamed =>
    obtain rfl : asked = _ := by simpa [prompts] using hasked
    exact ⟨_, rfl⟩

theorem ErrandCourse.prompt_mem {α : Type} {d : Desk} {owner : Address}
    {payload success : Option String}
    {exchange : OwnershipProof → Except Failure α → Exchange Question Reply} {finish : α → Desk}
    {transcript : List (Exchange Question Reply)} {told : Except Failure Unit × Desk}
    {request : OwnershipProof → OwnerRequest}
    (h : ErrandCourse d owner payload exchange finish success transcript told)
    (hcarries : Carries exchange payload request)
    {asked : String × Except Failure String} (hasked : asked ∈ prompts transcript) :
    ∃ named, asked.1 = ownershipMessage named payload := by
  cases h with
  | unproven hproof hnotice =>
    rw [prompts_append_of_nil hnotice.unsigned.prompts] at hasked
    exact hproof.prompt_mem hasked
  | @failed _ ending proof failure _ hproof hnotice =>
    have hsent := (views_of_request (hcarries.question proof (.error failure)) ending).2.2
    rw [prompts_append_of_nil (hsent.trans hnotice.unsigned.prompts)] at hasked
    exact hproof.prompt_mem hasked
  | @done _ ending proof named _ hproof hnotice =>
    have hsent := (views_of_request (hcarries.question proof (.ok named)) ending).2.2
    rw [prompts_append_of_nil (hsent.trans hnotice.unsigned.prompts)] at hasked
    exact hproof.prompt_mem hasked

theorem SaveCourse.prompt_mem {d : Desk} {network : Network}
    {transcript : List (Exchange Question Reply)} {told : Except Failure Unit × Desk}
    (h : SaveCourse d network transcript told)
    {asked : String × Except Failure String} (hasked : asked ∈ prompts transcript) :
    ∃ named text, asked.1 = ownershipMessage named (some text) := by
  cases h with
  | barred hbarred => simp [prompts] at hasked
  | inactive hform hactive hnotice => simp [hnotice.unsigned.prompts] at hasked
  | incomplete hform hactive hchannel hnotice => simp [hnotice.unsigned.prompts] at hasked
  | tried hform hactive hchannel herrand =>
    obtain ⟨named, hmessage⟩ := herrand.prompt_mem (carries_save _) hasked
    exact ⟨named, _, hmessage⟩

theorem Course.prompt_mem_save {d left : Desk} {network : Network}
    {transcript : List (Exchange Question Reply)} {outcome : Outcome}
    (h : Course d network .save transcript outcome left)
    {asked : String × Except Failure String} (hasked : asked ∈ prompts transcript) :
    ∃ named text, asked.1 = ownershipMessage named (some text) := by
  obtain ⟨result, -, hcourse⟩ := h.exists_save
  exact hcourse.prompt_mem hasked

theorem OwnerRequest.payload_eq_none {request : OwnerRequest} (h : request.action ≠ .save) :
    request.payload = none := by
  cases request with
  | config proof => rfl
  | save request => exact absurd rfl h
  | delete proof => rfl

/-- The text signed for a request, beside the texts that an episode puts before the wallet. -/
structure ToldApart (request : OwnerRequest) (text : String) (e : Episode) : Prop where
  /-- A request of the episode is signed over the same text only for the same block and payload. -/
  requests : ∀ other ∈ ownerRequests e.transcript, ∀ asked ∈ prompts e.transcript,
    asked.1 = text ↔ other.proof.block = request.proof.block ∧ other.payload = request.payload
  /-- A save never asks for the text of a view or of a deletion, even where nothing is sent. -/
  saves : e.action.2 = .save → request.action ≠ .save →
    ∀ asked ∈ prompts e.transcript, asked.1 ≠ text

theorem signed_of_mem_ownerRequests {e : Episode} (he : e.Possible performOn)
    {request : OwnerRequest} (hrequest : request ∈ ownerRequests e.transcript) :
    signers e.transcript = [some request.proof.owner] ∧
      prompts e.transcript =
        [(ownershipMessage request.proof.block request.payload, .ok request.proof.signature)] := by
  rcases (course_of_possible he).signedFor with hnone | ⟨owner, block, known, _, _, _, hsigned⟩
  · simp [hnone] at hrequest
  · obtain rfl : request = known := by simpa [hsigned.only] using hrequest
    obtain ⟨signature, hproof, hprompt⟩ := hsigned.prompt
    constructor
    · rw [hsigned.signer, hproof]
    · rw [hprompt, hproof]

/-- In every run, whatever is answered, the block and the payload tell the signed texts apart. -/
theorem toldApart_of_history {σ : Type} (answer : (q : Question) → σ → Reply q × σ) (s : σ)
    (actions : List (Network × Action)) (first second : Episode) (request : OwnerRequest)
    (hfirst : first ∈ history answer {} s actions) (hsecond : second ∈ history answer {} s actions)
    (hrequest : request ∈ ownerRequests first.transcript) :
    ∃ text, prompts first.transcript = [(text, .ok request.proof.signature)] ∧
      ToldApart request text second := by
  have hpossible := Dialogue.possible_of_mem_history hsecond
  obtain ⟨-, hprompts⟩ :=
    signed_of_mem_ownerRequests (Dialogue.possible_of_mem_history hfirst) hrequest
  refine ⟨_, hprompts, ?_⟩
  constructor
  · intro other hother asked hasked
    obtain rfl : asked = _ := by
      simpa [(signed_of_mem_ownerRequests hpossible hother).2] using hasked
    exact ownershipMessage_inj _ _ _ _
  · intro haction hread asked hasked hsame
    have hcourse := course_of_possible hpossible
    rw [haction] at hcourse
    obtain ⟨named, text, hmessage⟩ := hcourse.prompt_mem_save hasked
    rw [hmessage, OwnerRequest.payload_eq_none hread, ownershipMessage_inj] at hsame
    exact Option.some_ne_none text hsame.2

/-- An owner whose stored configuration is looked at over block 7 and deleted over another. -/
def removalStage (shown : UInt64) : Rehearsal.AlertStage where
  wallet := some (Word.ofNat 20 1)
  summary := [{ result := some (.ok ⟨3, 2, true, 7⟩) }]
  config := [{ result := some (.ok ⟨default, shown⟩) }]
  save := []
  delete := [{ result := some (.ok ()) }]
  test := []
  sign := [{ result := some (.ok "first") }, { result := some (.ok "second") }]

theorem toldApart_of_removal :
    ∃ connect view delete : Episode,
      history Rehearsal.AlertStage.answer {} (removalStage 8)
          [(.mainnet, .connect (Word.ofNat 20 1)), (.mainnet, .view), (.mainnet, .delete)] =
        [connect, view, delete] ∧
      ownerRequests view.transcript = [.config ⟨Word.ofNat 20 1, 7, "first"⟩] ∧
      ownerRequests delete.transcript = [.delete ⟨Word.ofNat 20 1, 8, "second"⟩] ∧
      ∃ text, prompts view.transcript = [(text, .ok "first")] ∧
        ToldApart (.config ⟨Word.ofNat 20 1, 7, "first"⟩) text delete :=
  ⟨_, _, _, rfl, rfl, rfl,
    toldApart_of_history Rehearsal.AlertStage.answer (removalStage 8)
      [(.mainnet, .connect (Word.ofNat 20 1)), (.mainnet, .view), (.mainnet, .delete)] _ _
      (.config ⟨Word.ofNat 20 1, 7, "first"⟩) (List.mem_cons_of_mem _ List.mem_cons_self)
      (List.mem_cons_of_mem _ (List.mem_cons_of_mem _ List.mem_cons_self)) List.mem_cons_self⟩

/-- Where the view names the block that it was asked with, the deletion signs the view's text. -/
theorem sameText_of_repeatedBlock :
    ∃ connect view delete : Episode,
      history Rehearsal.AlertStage.answer {} (removalStage 7)
          [(.mainnet, .connect (Word.ofNat 20 1)), (.mainnet, .view), (.mainnet, .delete)] =
        [connect, view, delete] ∧
      ownerRequests view.transcript = [.config ⟨Word.ofNat 20 1, 7, "first"⟩] ∧
      ownerRequests delete.transcript = [.delete ⟨Word.ofNat 20 1, 7, "second"⟩] ∧
      ∃ text, prompts view.transcript = [(text, .ok "first")] ∧
        prompts delete.transcript = [(text, .ok "second")] :=
  ⟨_, _, _, rfl, rfl, rfl, _, rfl, rfl⟩

end Alerts

end ClusterDesk
