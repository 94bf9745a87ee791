import ClusterDesk.Proofs.Backend.Performed
import ClusterDesk.Proofs.Json.Records

/-!
# Acknowledgements

A deletion and a test are done when the backend acknowledges them. The code of an acknowledgement
is looked at in a record only: one that comes as a list is taken whatever its code is.
-/

namespace ClusterDesk.Backend

namespace Notice

theorem codeOf?_eq_some_iff {body : Json} {code : Int64} :
    codeOf? body = some code ↔ ∃ members n, body = .obj members ∧
      members.lookup "code" = some (.num n) ∧ Json.Decoder.integer64 (.num n) = .ok code := by
  constructor
  · intro h
    unfold codeOf? at h
    split at h
    case h_1 n hmember =>
      cases body with
      | obj members => exact ⟨members, n, rfl, hmember, Json.toOption_eq_some_iff.mp h⟩
      | _ => simp [Json.member?] at hmember
    case h_2 => simp at h
  · rintro ⟨members, n, rfl, hlookup, hread⟩
    simp [codeOf?, Json.member?, hlookup, Json.toOption_eq_some_iff, hread]

theorem codeOf?_of_decoder {members : List (String × Json)} {notice : Notice}
    (h : decoder (.obj members) = .ok notice) : codeOf? (.obj members) = some notice.code := by
  obtain ⟨withMessage, message, hcode, rfl, -⟩ :=
    Json.Record.ofMembers_fieldWith (Json.Record.ofMembers_of_decode h)
  obtain ⟨withCode, code, hmk, rfl, hread⟩ := Json.Record.ofMembers_fieldWith hcode
  obtain rfl : Notice.mk = withCode := Except.ok.inj hmk
  rcases hread with ⟨j, hlookup, hread⟩ | ⟨-, hnone⟩
  · cases j with
    | num n => exact codeOf?_eq_some_iff.mpr ⟨members, n, rfl, hlookup, hread⟩
    | _ => simp [Json.Decoder.integer64] at hread
  · simp at hnone

/-- The two readings of a body agree on the code, unless the body is a list. -/
theorem errorOf?_eq_none_iff {body : Json} {notice : Notice} (h : decoder body = .ok notice) :
    errorOf? body = none ↔ notice.code = successCode ∨ ∃ items, body = .arr items := by
  cases body with
  | obj members =>
    simp only [errorOf?, codeOf?_of_decoder h, h]
    by_cases hcode : notice.code = successCode
    · simp [hcode]
    · simp [hcode]
  | arr items => simp [errorOf?, codeOf?, Json.member?]
  | _ => simp [decoder, Json.Record.decode] at h

end Notice

/-- A reply with a status of success, whose body is read as a notice. -/
def Acknowledges (reply : Web.Reply) (body : Json) (notice : Notice) : Prop :=
  ∃ status text, reply = .answered status text ∧ 200 ≤ status ∧ status < 300 ∧
    Json.parseWhole? text = some body ∧ Notice.decoder body = .ok notice

/-- An acknowledgement that is taken for a success: its code is, or it is a list. -/
def Accepted (reply : Web.Reply) : Prop :=
  ∃ body notice, Acknowledges reply body notice ∧
    (notice.code = successCode ∨ ∃ items, body = .arr items)

/-- The backend says that it did what was asked for. -/
def Succeeds (reply : Web.Reply) : Prop :=
  ∃ body notice, Acknowledges reply body notice ∧ notice.code = successCode

/-- The backend says, in a list, that it did not. -/
def RefusedAsList (reply : Web.Reply) : Prop :=
  ∃ items notice, Acknowledges reply (.arr items) notice ∧ notice.code ≠ successCode

theorem Acknowledges.unique {reply : Web.Reply} {body other : Json} {notice note : Notice}
    (h : Acknowledges reply body notice) (hother : Acknowledges reply other note) :
    notice = note := by
  obtain ⟨status, text, rfl, -, -, hparse, hnotice⟩ := h
  obtain ⟨_, _, hreply, -, -, hreparse, hnote⟩ := hother
  obtain ⟨rfl, rfl⟩ := Web.Reply.answered.inj hreply
  obtain rfl : body = other := Option.some.inj (hparse.symm.trans hreparse)
  exact Except.ok.inj (hnotice.symm.trans hnote)

theorem not_refusedAsList_of_succeeds {reply : Web.Reply} (h : Succeeds reply) :
    ¬RefusedAsList reply := by
  rintro ⟨items, note, hnote, hrefused⟩
  obtain ⟨body, notice, hnotice, hcode⟩ := h
  exact hrefused (hnotice.unique hnote ▸ hcode)

theorem accepted_iff {reply : Web.Reply} :
    Accepted reply ↔ Succeeds reply ∨ RefusedAsList reply := by
  constructor
  · rintro ⟨body, notice, hnotice, hcode⟩
    by_cases hsuccess : notice.code = successCode
    · exact Or.inl ⟨body, notice, hnotice, hsuccess⟩
    · obtain ⟨items, rfl⟩ := hcode.resolve_left hsuccess
      exact Or.inr ⟨items, notice, hnotice, hsuccess⟩
  · rintro (⟨body, notice, hnotice, hcode⟩ | ⟨items, notice, hnotice, -⟩)
    · exact ⟨body, notice, hnotice, Or.inl hcode⟩
    · exact ⟨_, notice, hnotice, Or.inr ⟨items, rfl⟩⟩

namespace Operation

/-- The one request was sent, and a reply of this kind came back. -/
def Answered (op : Operation) (base : String) (P : Web.Reply → Prop)
    (transcript : List (Exchange Request fun _ => Web.Reply)) : Prop :=
  ∃ request reply, op.request base = .ok request ∧ transcript = [⟨request, reply⟩] ∧ P reply

theorem answered_or {op : Operation} {base : String} {P R : Web.Reply → Prop}
    {transcript : List (Exchange Request fun _ => Web.Reply)} :
    op.Answered base (fun reply => P reply ∨ R reply) transcript ↔
      op.Answered base P transcript ∨ op.Answered base R transcript := by
  constructor
  · rintro ⟨request, reply, hrequest, hsent, hP | hR⟩
    · exact Or.inl ⟨request, reply, hrequest, hsent, hP⟩
    · exact Or.inr ⟨request, reply, hrequest, hsent, hR⟩
  · rintro (⟨request, reply, hrequest, hsent, hP⟩ | ⟨request, reply, hrequest, hsent, hR⟩)
    · exact ⟨request, reply, hrequest, hsent, Or.inl hP⟩
    · exact ⟨request, reply, hrequest, hsent, Or.inr hR⟩

theorem Answered.not {op : Operation} {base : String} {P R : Web.Reply → Prop}
    {transcript : List (Exchange Request fun _ => Web.Reply)}
    (h : op.Answered base P transcript) (himp : ∀ reply, P reply → ¬R reply) :
    ¬op.Answered base R transcript := by
  rintro ⟨_, _, -, hother, hR⟩
  obtain ⟨request, reply, -, rfl, hP⟩ := h
  cases hother
  exact himp _ hP hR

theorem read_answered_eq_ok (op : Operation) (url : Web.Url) (status : Nat) (text : String)
    (a : op.Result) :
    op.read url (.answered status text) = .ok a ↔
      200 ≤ status ∧ status < 300 ∧ ∃ body, Json.parseWhole? text = some body ∧
        Notice.errorOf? body = none ∧ op.decode body = .ok a := by
  by_cases hstatus : Web.isSuccess status = true
  · obtain ⟨hlow, hhigh⟩ : 200 ≤ status ∧ status < 300 := by simpa [Web.isSuccess] using hstatus
    cases hparse : Json.parseWhole? text with
    | none => simp [read, hstatus, hparse]
    | some body =>
      cases herror : Notice.errorOf? body with
      | none => simp [read, hstatus, hparse, herror, hlow, hhigh]
      | some notice => simp [read, hstatus, hparse, herror]
  · have hrange : 200 ≤ status → ¬ status < 300 := by simpa [Web.isSuccess] using hstatus
    simp only [read, hstatus, Bool.not_false, if_true, reduceCtorEq, false_iff]
    rintro ⟨hlow, hhigh, -⟩
    exact hrange hlow hhigh

theorem take_map_eq_ok {body : Json} :
    (take Notice.decoder body).map (fun _ => ()) = .ok () ↔
      ∃ notice, Notice.decoder body = .ok notice := by
  cases hread : Notice.decoder body <;> simp [take, hread, Except.map]

private theorem read_eq_ok_iff_accepted {op : Operation} {done : op.Result} (url : Web.Url)
    (reply : Web.Reply)
    (hdecode : ∀ body, op.decode body = .ok done ↔ ∃ notice, Notice.decoder body = .ok notice) :
    op.read url reply = .ok done ↔ Accepted reply := by
  cases reply with
  | dropped => simp [read, Accepted, Acknowledges]
  | answered status text =>
    rw [read_answered_eq_ok]
    constructor
    · rintro ⟨hlow, hhigh, body, hparse, herror, hdone⟩
      obtain ⟨notice, hnotice⟩ := (hdecode body).mp hdone
      exact ⟨body, notice, ⟨status, text, rfl, hlow, hhigh, hparse, hnotice⟩,
        (Notice.errorOf?_eq_none_iff hnotice).mp herror⟩
    · rintro ⟨body, notice, ⟨_, _, hreply, hlow, hhigh, hparse, hnotice⟩, hcode⟩
      obtain ⟨rfl, rfl⟩ := Web.Reply.answered.inj hreply
      exact ⟨hlow, hhigh, body, hparse, (Notice.errorOf?_eq_none_iff hnotice).mpr hcode,
        (hdecode body).mpr ⟨notice, hnotice⟩⟩

theorem read_delete_eq_ok (proof : OwnershipProof) (url : Web.Url) (reply : Web.Reply) :
    (Operation.delete proof).read url reply = .ok () ↔ Accepted reply :=
  read_eq_ok_iff_accepted url reply fun _ => take_map_eq_ok

theorem read_test_eq_ok (channel : Channel) (url : Web.Url) (reply : Web.Reply) :
    (Operation.test channel).read url reply = .ok () ↔ Accepted reply :=
  read_eq_ok_iff_accepted url reply fun _ => take_map_eq_ok

/-- An operation that succeeds with what is accepted succeeds with what the backend calls a success,
and with that only, unless it was refused in a list. -/
theorem done_iff_succeeds_iff {op : Operation} {done : op.Result} (base : String)
    (transcript : List (Exchange Request fun _ => Web.Reply))
    (hread : ∀ url reply, op.read url reply = .ok done ↔ Accepted reply) :
    ((op.perform base).Yields transcript (.ok done) ↔ op.Answered base Succeeds transcript) ↔
      ¬op.Answered base RefusedAsList transcript := by
  have hdone : (op.perform base).Yields transcript (.ok done) ↔
      op.Answered base Succeeds transcript ∨ op.Answered base RefusedAsList transcript := by
    rw [yields_perform_ok, ← answered_or]
    simp only [hread, accepted_iff, Answered]
  have hapart : op.Answered base Succeeds transcript →
      ¬op.Answered base RefusedAsList transcript :=
    fun h => h.not fun _ => not_refusedAsList_of_succeeds
  rw [hdone]
  constructor
  · intro h hrefused
    exact hapart (h.mp (Or.inr hrefused)) hrefused
  · exact or_iff_left

end Operation

end ClusterDesk.Backend
