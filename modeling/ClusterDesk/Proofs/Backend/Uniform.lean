import ClusterDesk.Proofs.Backend.Acknowledgements
import ClusterDesk.Proofs.Web.Addresses

/-!
# What all operations have in common

An operation sends one request to its own resource, if any. It gives a result exactly where the
backend answers with success, reports no other code, and sends what the operation decodes; every
failure names the resource.
-/

namespace ClusterDesk.Backend

/-- A record with a whole number of 64 bits, with a sign, as its code. -/
inductive ReportsCode : Json → Int → Prop where
  | natural {members : List (String × Json)} {n : UInt64}
      (h : members.lookup "code" = some (.num (.natural n))) (hn : n.toNat < Nat.pow 2 63) :
      ReportsCode (.obj members) n.toNat
  | negative {members : List (String × Json)} {n : Int64}
      (h : members.lookup "code" = some (.num (.negative n))) :
      ReportsCode (.obj members) n.toInt

namespace Notice

theorem reportsCode_iff {body : Json} {code : Int} :
    ReportsCode body code ↔ ∃ found, codeOf? body = some found ∧ found.toInt = code := by
  constructor
  · intro h
    cases h with
    | @natural members n hlookup hn =>
      refine ⟨Int64.ofNat n.toNat, ?_, Int64.toInt_ofNat_of_lt hn⟩
      exact codeOf?_eq_some_iff.mpr ⟨members, _, rfl, hlookup, if_pos hn⟩
    | @negative members n hlookup =>
      exact ⟨n, codeOf?_eq_some_iff.mpr ⟨members, _, rfl, hlookup, rfl⟩, rfl⟩
  · rintro ⟨found, hfound, rfl⟩
    obtain ⟨members, n, rfl, hlookup, hread⟩ := codeOf?_eq_some_iff.mp hfound
    cases n with
    | natural n =>
      by_cases hn : n.toNat < Nat.pow 2 63
      · obtain rfl : Int64.ofNat n.toNat = found := by
          simpa [Json.Decoder.integer64, hn] using hread
        rw [Int64.toInt_ofNat_of_lt hn]
        exact .natural hlookup hn
      · simp [Json.Decoder.integer64, hn] at hread
    | negative n =>
      obtain rfl : n = found := by simpa [Json.Decoder.integer64] using hread
      exact .negative hlookup
    | float x => simp [Json.Decoder.integer64] at hread

/-- A body passes for no error unless it reports a code other than success. -/
theorem errorOf?_eq_none_iff_codes (body : Json) :
    errorOf? body = none ↔ ∀ code, ReportsCode body code → code = 200 := by
  simp only [reportsCode_iff]
  unfold errorOf?
  cases hcode : codeOf? body with
  | none => simp
  | some code =>
    have hsuccess : code = successCode ↔ code.toInt = 200 := Int64.toInt_inj.symm
    by_cases hsame : code = successCode
    · simp [hsame, show successCode.toInt = 200 from rfl]
    · have hother := mt hsuccess.mpr hsame
      cases decoder body <;> simp [hsame, hother]

end Notice

namespace Operation

theorem resource_isSegment (op : Operation) : Web.Url.IsSegment op.resource.toList := by
  cases op with
  | page listing query => cases listing <;> (simp only [resource, Listing.resource]; decide)
  | _ => simp only [resource]; decide

/-- The resources of a site lie behind one path of it. -/
theorem exists_root_of_isSite {base : String} {site : Web.Url} (h : Web.Url.IsSite base site) :
    ∃ root, ∀ op : Operation, op.request base =
      .ok ⟨{ site with path := root ++ ("/api/" ++ op.resource).toList }.withQuery op.parameters,
        op.posted.map Json.compact⟩ := by
  obtain ⟨-, root, hroot⟩ := h.exists_root
  refine ⟨root, fun op => ?_⟩
  have hspread : Web.Url.spread ["api".toList, op.resource.toList] =
      ("/api/" ++ op.resource).toList := by
    simp [Web.Url.spread, String.toList_append]
  have hparse := hroot ["api".toList, op.resource.toList] (by simp) (by
    intro segment hsegment
    rcases List.mem_cons.mp hsegment with rfl | hlast
    · decide
    · obtain rfl := List.mem_singleton.mp hlast
      exact op.resource_isSegment)
  rw [hspread, String.ofList_toList, ← String.append_assoc] at hparse
  exact request_eq_ok hparse h.hasHost h.served

theorem exists_request {base : String} {site : Web.Url} (h : Web.Url.IsSite base site)
    (op : Operation) : ∃ request, op.request base = .ok request := by
  obtain ⟨root, hroot⟩ := exists_root_of_isSite h
  exact ⟨_, hroot op⟩

theorem isSite_stub :
    Web.Url.IsSite "http://stub" ⟨"http", some "stub".toList, none, "/".toList, none, none⟩ := by
  refine ⟨?_, ?_, rfl, rfl⟩
  · decide +kernel
  · decide +kernel

/-- What an operation asks, and what it comes to. -/
structure Uniform (base : String) (op : Operation)
    (asked : List (Exchange Request fun _ => Web.Reply)) (result : Except Failure op.Result) :
    Prop where
  once : asked.length ≤ 1
  /-- A request is sent to the resource of the operation. -/
  own : ∀ exchange ∈ asked, ∃ url,
    Web.Url.parse? (Text.trimSlashes base ++ "/api/" ++ op.resource) = some url ∧
      exchange.1 = ⟨url.withQuery op.parameters, op.posted.map Json.compact⟩
  /-- On a site one is sent, to the site itself. -/
  below : ∀ site, Web.Url.IsSite base site → ∃ root reply, asked =
    [⟨⟨{ site with path := root ++ ("/api/" ++ op.resource).toList }.withQuery op.parameters,
      op.posted.map Json.compact⟩, reply⟩]
  result_eq_ok_iff : ∀ a, result = .ok a ↔ ∃ request status text body,
    asked = [⟨request, .answered status text⟩] ∧ 200 ≤ status ∧ status < 300 ∧
      Json.parseWhole? text = some body ∧ (∀ code, ReportsCode body code → code = 200) ∧
        op.decode body = .ok a
  failure : ∀ failure, result = .error failure →
    ∃ reason, failure = .remoteFetch op.resource reason
  /-- A record with another code than success is a failure, whatever else it holds. -/
  reported : ∀ request status text body code, asked = [⟨request, .answered status text⟩] →
    Json.parseWhole? text = some body → ReportsCode body code → code ≠ 200 →
      ∃ reason, result = .error (.remoteFetch op.resource reason)

theorem exists_reason_of_conclude {op : Operation} {read : Except Fault op.Result}
    {failure : Failure} (h : op.conclude read = .error failure) :
    ∃ reason, failure = .remoteFetch op.resource reason := by
  cases read with
  | ok a => simp [conclude] at h
  | error fault => exact ⟨fault.reason, (Except.error.inj h).symm⟩

theorem conclude_read_eq_ok_iff {op : Operation} {url : Web.Url} {reply : Web.Reply}
    {a : op.Result} : op.conclude (op.read url reply) = .ok a ↔
      ∃ status text body, reply = .answered status text ∧ 200 ≤ status ∧ status < 300 ∧
        Json.parseWhole? text = some body ∧ (∀ code, ReportsCode body code → code = 200) ∧
          op.decode body = .ok a := by
  rw [conclude_eq_ok]
  cases reply with
  | dropped => simp [read]
  | answered status text =>
    simp only [read_answered_eq_ok, Notice.errorOf?_eq_none_iff_codes]
    constructor
    · rintro ⟨hlow, hhigh, body, hbody⟩
      exact ⟨status, text, body, rfl, hlow, hhigh, hbody⟩
    · rintro ⟨_, _, body, hreply, hlow, hhigh, hbody⟩
      obtain ⟨rfl, rfl⟩ := Web.Reply.answered.inj hreply
      exact ⟨hlow, hhigh, body, hbody⟩

theorem uniform_of_read {base : String} {op : Operation} {request : Request}
    (h : op.request base = .ok request) (reply : Web.Reply) :
    Uniform base op [⟨request, reply⟩] (op.conclude (op.read request.url reply)) where
  once := Nat.le_refl 1
  own exchange hmem := by
    obtain rfl := List.mem_singleton.mp hmem
    obtain ⟨url, hparse, -, hrequest⟩ := address_of_request h
    exact ⟨url, hparse, hrequest⟩
  below site hsite := by
    obtain ⟨root, hroot⟩ := exists_root_of_isSite hsite
    obtain rfl := Except.ok.inj (h.symm.trans (hroot op))
    exact ⟨root, reply, rfl⟩
  result_eq_ok_iff a := by
    rw [conclude_read_eq_ok_iff]
    constructor
    · rintro ⟨status, text, body, rfl, hbody⟩
      exact ⟨request, status, text, body, rfl, hbody⟩
    · rintro ⟨_, status, text, body, hasked, hbody⟩
      cases hasked
      exact ⟨status, text, body, rfl, hbody⟩
  failure failure hfailed := exists_reason_of_conclude hfailed
  reported := by
    intro _ status text body code hasked hparse hcode hother
    cases hasked
    cases hresult : op.conclude (op.read request.url (.answered status text)) with
    | ok a =>
      obtain ⟨_, _, found, hreply, -, -, hfound, hcodes, -⟩ := conclude_read_eq_ok_iff.mp hresult
      obtain ⟨rfl, rfl⟩ := Web.Reply.answered.inj hreply
      obtain rfl := Option.some.inj (hparse.symm.trans hfound)
      exact absurd (hcodes code hcode) hother
    | error failure =>
      obtain ⟨reason, rfl⟩ := exists_reason_of_conclude hresult
      exact ⟨reason, rfl⟩

theorem uniform_of_unaddressed {base : String} {op : Operation} {fault : Fault}
    (h : op.request base = .error fault) :
    Uniform base op [] (op.conclude (.error fault)) where
  once := Nat.zero_le 1
  own exchange hmem := absurd hmem List.not_mem_nil
  below site hsite := by
    obtain ⟨root, hroot⟩ := exists_root_of_isSite hsite
    simp [hroot op] at h
  result_eq_ok_iff a := by simp [conclude]
  failure failure hfailed := exists_reason_of_conclude hfailed
  reported := by
    intro request status text body code hasked
    simp at hasked

/-- Every operation is performed in the same way, whatever the backend does. -/
theorem uniform_of_perform (base : String) (op : Operation) :
    (op.perform base).Ensures (Uniform base op) := by
  unfold perform
  cases hrequest : op.request base with
  | ok request =>
    simp only [Dialogue.ensures_ask, Dialogue.ensures_done]
    exact uniform_of_read hrequest
  | error fault =>
    rw [Dialogue.ensures_done]
    exact uniform_of_unaddressed hrequest

end Operation

end ClusterDesk.Backend
