import ClusterDesk.Proofs.Dialogue.Relays
import ClusterDesk.Surroundings

/-!
# Performed operations

An operation either cannot be asked for, and then nothing is sent, or it sends its one request and
tells what the reply was read as.
-/

namespace ClusterDesk

theorem Dialogue.yields_single {Q : Type} {A : Q → Type} {α : Type} (q : Q) (f : A q → α)
    (transcript : List (Exchange Q A)) (a : α) :
    (Dialogue.ask q fun r => .done (f r)).Yields transcript a ↔
      ∃ r, transcript = [⟨q, r⟩] ∧ a = f r := by
  constructor
  · rintro ⟨r, rest, hsplit, rfl, hsame⟩
    exact ⟨r, hsplit, hsame⟩
  · rintro ⟨r, hsplit, hsame⟩
    exact ⟨r, [], hsplit, rfl, hsame⟩

@[simp] theorem Web.Url.withQuery_scheme (url : Web.Url) (parameters : Web.Query) :
    (url.withQuery parameters).scheme = url.scheme := by
  unfold withQuery
  split
  · rfl
  · split <;> rfl

namespace Backend.Operation

theorem request_eq_ok {base : String} {op : Operation} {url : Web.Url}
    (hparse : Web.Url.parse? (op.address base) = some url) (hhost : url.hasHost = true)
    (hserved : Web.Url.isServed url.scheme = true) :
    op.request base = .ok ⟨url.withQuery op.parameters, op.posted.map Json.compact⟩ := by
  simp [request, hparse, hhost, hserved]

theorem address_of_request {base : String} {op : Operation} {request : Request}
    (h : op.request base = .ok request) :
    ∃ url, Web.Url.parse? (op.address base) = some url ∧ Web.Url.isServed url.scheme = true ∧
      request = ⟨url.withQuery op.parameters, op.posted.map Json.compact⟩ := by
  unfold Operation.request at h
  split at h
  case h_1 => simp at h
  case h_2 url hparse =>
    split at h
    case isTrue => simp at h
    case isFalse =>
      dsimp only at h
      split at h
      case isTrue hserved => exact ⟨url, hparse, by simpa using hserved, (Except.ok.inj h).symm⟩
      case isFalse => simp at h

theorem conclude_eq_ok (op : Operation) (result : Except Fault op.Result) (a : op.Result) :
    op.conclude result = .ok a ↔ result = .ok a := by
  cases result <;> simp [conclude]

/-- An operation succeeds with the one reply that is read as a success. -/
theorem yields_perform_ok (base : String) (op : Operation)
    (transcript : List (Exchange Request fun _ => Web.Reply)) (a : op.Result) :
    (op.perform base).Yields transcript (.ok a) ↔
      ∃ request reply, op.request base = .ok request ∧ transcript = [⟨request, reply⟩] ∧
        op.read request.url reply = .ok a := by
  unfold perform
  cases hrequest : op.request base with
  | error fault => simp [Dialogue.yields_done, conclude]
  | ok request =>
    simp only [Dialogue.yields_single]
    constructor
    · rintro ⟨reply, hsent, hresult⟩
      exact ⟨request, reply, rfl, hsent, (op.conclude_eq_ok _ a).mp hresult.symm⟩
    · rintro ⟨asked, reply, hsame, hsent, hread⟩
      obtain rfl : request = asked := Except.ok.inj hsame
      exact ⟨reply, hsent, ((op.conclude_eq_ok _ a).mpr hread).symm⟩

end Backend.Operation

namespace Surroundings

theorem yields_performAt (base : String) (op : Backend.Operation)
    (transcript : List (Exchange Question Answer)) (result : Except Failure op.Result) :
    (performAt base op).Yields transcript result ↔
      (∃ fault, op.request base = .error fault ∧ transcript = [] ∧
        result = op.conclude (.error fault)) ∨
      ∃ request reply, op.request base = .ok request ∧ transcript = [⟨.backend request, reply⟩] ∧
        result = op.conclude (op.read request.url reply) := by
  unfold performAt Backend.Operation.perform
  cases hrequest : op.request base with
  | error fault =>
    simp [atBackend, Dialogue.relay, Dialogue.yields_done]
  | ok request =>
    simp only [atBackend, Dialogue.relay, Dialogue.bind, Dialogue.yields_single]
    constructor
    · rintro ⟨reply, hsent, hresult⟩
      exact Or.inr ⟨request, reply, rfl, hsent, hresult⟩
    · rintro (⟨fault, hfault, -⟩ | ⟨asked, reply, hsame, hsent, hresult⟩)
      · simp at hfault
      · obtain rfl : request = asked := Except.ok.inj hsame
        exact ⟨reply, hsent, hresult⟩

end Surroundings

end ClusterDesk
