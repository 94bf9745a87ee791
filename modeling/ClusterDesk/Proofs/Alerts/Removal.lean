import ClusterDesk.Carriers
import ClusterDesk.Proofs.Alerts.Courses
import ClusterDesk.Proofs.Backend.Uniform

/-!
# Acknowledged removals

A configuration counts as removed behind the one request for it and an acknowledgement that is
taken for a success. As long as none comes, the desk keeps its draft and what it knows.
-/

namespace ClusterDesk.Alerts

open Backend (Accepted Operation RefusedAsList Succeeds accepted_iff)

theorem ProofCourse.silent {block : Option UInt64} {owner : Address} {payload : Option String}
    {proving : List (Exchange Question Reply)} {result : Except Failure OwnershipProof}
    (h : ProofCourse block owner payload proving result) (c : Carrier) :
    ∀ exchange ∈ proving, ∃ r, c.answer exchange.1 = .done r := by
  cases h <;> simp [Carrier.answer]

theorem NoticeCourse.silent {d left : Desk} {success : Option String}
    {result : Except Failure Unit} {ending : List (Exchange Question Reply)}
    (h : NoticeCourse d success result ending left) (c : Carrier) :
    ∀ exchange ∈ ending, ∃ r, c.answer exchange.1 = .done r := by
  cases h <;> simp [Carrier.answer]

-- Without this, asking for the form of a yield takes addresses apart and multiplies points.
attribute [local irreducible] Operation.request Secp256k1.Key.address

/-- What a deletion comes to at the backend: either it was acknowledged, or nothing is forgotten. -/
theorem carried_delete (c : Carrier) (d : Desk) :
    (c.carry d.delete).Ensures fun transcript (result, left) =>
      (result = .ok () ∧ ∃ request reply, transcript = [⟨.backend request, reply⟩] ∧
        Accepted reply) ∨
      ((∃ failure, result = .error failure) ∧ left.draft = d.draft ∧ left.summary = d.summary ∧
        left.state = d.state) := by
  refine (delete_course d).relay ?_
  rintro inner outer ⟨result, left⟩ hcourse hrelayed
  cases hcourse with
  | barred h => exact Or.inr ⟨⟨_, rfl⟩, rfl, rfl, rfl⟩
  | tried h herrand =>
    cases herrand with
    | unproven hproof hnotice =>
      obtain ⟨notice, rfl⟩ := hnotice.frame
      exact Or.inr ⟨⟨_, rfl⟩, rfl, rfl, rfl⟩
    | failed hproof hnotice =>
      obtain ⟨notice, rfl⟩ := hnotice.frame
      exact Or.inr ⟨⟨_, rfl⟩, rfl, rfl, rfl⟩
    | @done proving ending proof _ _ hproof hnotice =>
      obtain ⟨first, rest, rfl, hfirst, hrest⟩ :=
        Dialogue.relayed_cons.mp (hrelayed.append_silent (hproof.silent c))
      obtain rfl : rest = [] := hrest.eq_nil_of_silent (hnotice.silent c)
      rcases (Surroundings.yields_performAt c.backend (.delete proof) first _).mp hfirst with
        ⟨fault, -, -, hresult⟩ | ⟨request, reply, -, rfl, hresult⟩
      · simp [Operation.conclude] at hresult
      · have hread := (Operation.conclude_eq_ok _ _ _).mp hresult.symm
        exact Or.inl ⟨rfl, request, reply, rfl,
          (Operation.read_delete_eq_ok proof _ reply).mp hread⟩

/-- A deletion and a test are done by what the backend calls a success, and by that only, exactly
where it refuses nothing in a list; and a desk goes on as it is until its deletion is done. -/
theorem done_iff_succeeds (base : String) (proof : OwnershipProof) (channel : Channel)
    (transcript : List (Exchange Backend.Request fun _ => Web.Reply)) (c : Carrier) (d : Desk) :
    ((((Operation.delete proof).perform base).Yields transcript (.ok ()) ↔
        (Operation.delete proof).Answered base Succeeds transcript) ↔
      ¬(Operation.delete proof).Answered base RefusedAsList transcript) ∧
    ((((Operation.test channel).perform base).Yields transcript (.ok ()) ↔
        (Operation.test channel).Answered base Succeeds transcript) ↔
      ¬(Operation.test channel).Answered base RefusedAsList transcript) ∧
    (c.carry d.delete).Ensures fun transcript (result, left) =>
      (result = .ok () ∧ ∃ request reply, transcript = [⟨.backend request, reply⟩] ∧
        (Succeeds reply ∨ RefusedAsList reply)) ∨
      ((∃ failure, result = .error failure) ∧ left.draft = d.draft ∧ left.summary = d.summary ∧
        left.state = d.state) :=
  ⟨Operation.done_iff_succeeds_iff base transcript (Operation.read_delete_eq_ok proof),
    Operation.done_iff_succeeds_iff base transcript (Operation.read_test_eq_ok channel),
    (carried_delete c d).mono fun _ _ h => h.imp_left fun ⟨hdone, request, reply, hsent, h⟩ =>
      ⟨hdone, request, reply, hsent, accepted_iff.mp h⟩⟩

theorem delete_yields {d : Desk} {owner : Address} {block : UInt64}
    (hstored : d.requireStored = .ok owner) (hblock : d.block = some block) (signature : String)
    (now : Nat) :
    d.delete.Yields
      [⟨.signer, some owner⟩, ⟨.sign (ownershipMessage block none), .ok signature⟩,
        ⟨.delete ⟨owner, block, signature⟩, .ok ()⟩, ⟨.clock, now⟩]
      (.ok (), d.rested.deleted.raiseSuccess now "Monitor configuration deleted") := by
  simp only [Desk.delete, hstored, Desk.erase, Desk.proveOwner, hblock, prove, Dialogue.bind,
    Dialogue.yields_ask_cons, ne_eq, not_true, if_false, Desk.conclude, Dialogue.yields_done]
  simp [Desk.rested, Desk.deleted, hblock]

theorem carried_delete_of_accepted (c : Carrier) {d : Desk} {owner : Address} {block : UInt64}
    {signature : String} {request : Backend.Request} {reply : Web.Reply}
    (hstored : d.requireStored = .ok owner) (hblock : d.block = some block)
    (hwallet : c.wallet.address = some owner)
    (hsign : c.wallet.sign (ownershipMessage block none) = .ok signature)
    (hrequest : (Operation.delete ⟨owner, block, signature⟩).request c.backend = .ok request)
    (haccepted : Accepted reply) :
    (c.carry d.delete).Yields [⟨.backend request, reply⟩]
      (.ok (), d.rested.deleted.raiseSuccess 0 "Monitor configuration deleted") := by
  have hread := (Operation.read_delete_eq_ok ⟨owner, block, signature⟩ request.url reply).mpr
    haccepted
  have hasked : (c.answer (.delete ⟨owner, block, signature⟩)).Yields [⟨.backend request, reply⟩]
      (.ok ()) :=
    (Surroundings.yields_performAt c.backend (.delete ⟨owner, block, signature⟩) _ _).mpr
      (Or.inr ⟨request, reply, hrequest, rfl, by rw [hread]; rfl⟩)
  have hsigner : (c.answer .signer).Yields [] (some owner) := ⟨rfl, hwallet.symm⟩
  have hsigned : (c.answer (.sign (ownershipMessage block none))).Yields [] (.ok signature) :=
    ⟨rfl, hsign.symm⟩
  have hclock : (c.answer .clock).Yields [] 0 := ⟨rfl, rfl⟩
  exact (Dialogue.yields_relay c.answer d.delete _ _).mpr
    ⟨_, delete_yields hstored hblock signature 0,
      .cons hsigner (.cons hsigned (.cons hasked (.cons hclock .nil)))⟩

/-- The fields of a refusal, sent as a list. -/
def refusalFields : Json :=
  .arr [.nat 500, .str "Internal Server Error"]

def refusalList : Web.Reply :=
  .answered 200 "[500,\"Internal Server Error\"]"

theorem acknowledges_refusalList (body : Json) (notice : Backend.Notice) :
    Backend.Acknowledges refusalList body notice ↔
      body = refusalFields ∧ notice = ⟨500, "Internal Server Error"⟩ := by
  have htext : "[500,\"Internal Server Error\"]" = refusalFields.compact := by decide +kernel
  have hparse : Json.parse? refusalFields.compact = some refusalFields := Json.parse?_compact rfl
  have hwhole : Json.parseWhole? refusalFields.compact = some refusalFields := by
    rw [Json.parseWhole?, hparse]
    rfl
  have hread : Backend.Notice.decoder refusalFields = .ok ⟨500, "Internal Server Error"⟩ := rfl
  constructor
  · rintro ⟨_, _, hreply, -, -, hbody, hnotice⟩
    obtain ⟨rfl, rfl⟩ := Web.Reply.answered.inj hreply
    rw [htext, hwhole] at hbody
    obtain rfl := Option.some.inj hbody
    exact ⟨rfl, (Except.ok.inj (hread.symm.trans hnotice)).symm⟩
  · rintro ⟨rfl, rfl⟩
    exact ⟨200, _, rfl, by decide, by decide, htext ▸ hwhole, hread⟩

/-- A wallet with the least of all keys. -/
def leastWallet : Wallet where
  chain := ⟨.mainnet, 1, "", "", Word.ofNat 20 2, "", "", "", 0, 0⟩
  session := some ⟨⟨1, by decide, by decide⟩, ⟨"http", none, none, [], none, none⟩, none⟩

/-- The owner of the wallet has stored a configuration and looks at it. -/
def hookDesk : Desk where
  owner := leastWallet.address
  summary := some ⟨1, 1, true, 7⟩
  state := .storedVisible
  block := some 7
  draft := { webhook := "hook" }

/-- A refusal that is sent as a list removes the draft and the mark of the owner. -/
theorem deleted_by_refusalList :
    (∀ body notice, Backend.Acknowledges refusalList body notice →
      notice.code ≠ Backend.successCode) ∧
    (∃ proof request, ((Operation.delete proof).perform "http://stub").Yields
      [⟨request, refusalList⟩] (.ok ())) ∧
    ∃ (request : Backend.Request) (left : Desk),
      (Carrier.carry ⟨"http://stub", leastWallet⟩ hookDesk.delete).Yields
        [⟨.backend request, refusalList⟩] (.ok (), left) ∧
      left.draft = {} ∧ left.summary.map Summary.monitored = some false := by
  have haccepted : Accepted refusalList :=
    ⟨refusalFields, _, (acknowledges_refusalList _ _).mpr ⟨rfl, rfl⟩, Or.inr ⟨_, rfl⟩⟩
  refine ⟨?_, ?_, ?_⟩
  · intro body notice h
    obtain ⟨rfl, rfl⟩ := (acknowledges_refusalList body notice).mp h
    decide
  · obtain ⟨request, hrequest⟩ := Operation.exists_request Operation.isSite_stub
      (.delete ⟨Word.ofNat 20 1, 7, "signature"⟩)
    exact ⟨_, request, (Operation.yields_perform_ok _ _ _ _).mpr
      ⟨request, refusalList, hrequest, rfl, (Operation.read_delete_eq_ok _ _ _).mpr haccepted⟩⟩
  · obtain ⟨owner, howner⟩ : ∃ owner, leastWallet.address = some owner := ⟨_, rfl⟩
    obtain ⟨signature, hsign⟩ :
      ∃ signature, leastWallet.sign (ownershipMessage 7 none) = .ok signature := ⟨_, rfl⟩
    have hstored : hookDesk.requireStored = .ok owner :=
      (Desk.requireStored_eq_ok hookDesk owner).mpr ⟨howner, rfl⟩
    have hblock : hookDesk.block = some 7 := rfl
    obtain ⟨request, hrequest⟩ := Operation.exists_request Operation.isSite_stub
      (.delete ⟨owner, 7, signature⟩)
    have hremoved := carried_delete_of_accepted ⟨"http://stub", leastWallet⟩ hstored hblock howner
      hsign hrequest haccepted
    exact ⟨request, _, hremoved, rfl, rfl⟩

end ClusterDesk.Alerts
