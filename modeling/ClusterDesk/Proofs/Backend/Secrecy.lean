import ClusterDesk.Proofs.Backend.Performed
import ClusterDesk.Proofs.Web.Queries

/-!
# Secrecy of signatures

Two proofs that differ in their signature only come to the same, unless a view fails with its whole
address: the signature is a parameter of that address, and a text shows all of it.
-/

namespace ClusterDesk

namespace Web.Url

theorem encode_eq_of_text_eq {url : Url} {p q : Query} (hp : p ≠ []) (hq : q ≠ [])
    (h : (url.withQuery p).text = (url.withQuery q).text) : p.encode = q.encode := by
  have hchars := congrArg String.toList h
  rcases hquery : url.query with _ | _ | ⟨c, before⟩
  all_goals
    simpa [withQuery, hp, hq, hquery, text, String.toList_append] using hchars

end Web.Url

namespace Backend

namespace Operation

/-- What an operation comes to at a backend that answers everything alike. -/
def under (base : String) (reply : Web.Reply) (op : Operation) : Except Failure op.Result :=
  ((op.perform base).run (fun _ s => (reply, s)) ()).1

/-- What is read at a resource, as a result that names the resource where it fails. -/
def reach {α : Type} (base resource : String) (parameters : Web.Query)
    (read : Web.Url → Except Fault α) : Except Failure α :=
  Except.mapError (fun fault => .remoteFetch resource fault.reason)
    (match Web.Url.parse? (Text.trimSlashes base ++ "/api/" ++ resource) with
    | none => .error .noAddress
    | some url =>
      if !url.hasHost then .error (.notServed url.text)
      else if Web.Url.isServed url.scheme then read (url.withQuery parameters)
      else .error (.notServed (url.withQuery parameters).text))

theorem conclude_eq_mapError (op : Operation) (result : Except Fault op.Result) :
    op.conclude result =
      result.mapError fun fault => .remoteFetch op.resource fault.reason := by
  cases result <;> rfl

theorem under_eq (base : String) (reply : Web.Reply) (op : Operation) :
    op.under base reply =
      reach base op.resource op.parameters fun url => op.read url reply := by
  unfold under perform request reach address
  cases Web.Url.parse? (Text.trimSlashes base ++ "/api/" ++ op.resource) with
  | none => rfl
  | some url =>
    cases hhost : url.hasHost with
    | false => simp [hhost, Dialogue.run, conclude_eq_mapError]
    | true =>
      cases hserved : Web.Url.isServed url.scheme <;>
        simp [hhost, hserved, Dialogue.run, conclude_eq_mapError]

attribute [local irreducible] reach

section

variable (base : String) (reply : Web.Reply) (owner : Address) (block : UInt64)

theorem under_save (s t text : String) :
    (Operation.save ⟨⟨owner, block, s⟩, text⟩).under base reply =
      (Operation.save ⟨⟨owner, block, t⟩, text⟩).under base reply := by
  have hread : (Operation.save ⟨⟨owner, block, s⟩, text⟩).read =
      (Operation.save ⟨⟨owner, block, t⟩, text⟩).read := by
    funext url reply
    cases reply <;> rfl
  rw [under_eq, under_eq]
  exact congrArg (fun read => reach base "saveClusterMonitorConfig" [] fun url => read url reply)
    hread

theorem under_delete (s t : String) :
    (Operation.delete ⟨owner, block, s⟩).under base reply =
      (Operation.delete ⟨owner, block, t⟩).under base reply := by
  have hread : (Operation.delete ⟨owner, block, s⟩).read =
      (Operation.delete ⟨owner, block, t⟩).read := by
    funext url reply
    cases reply <;> rfl
  rw [under_eq, under_eq]
  exact congrArg (fun read => reach base "deleteClusterMonitorConfig" [] fun url => read url reply)
    hread

end

/-- The parameters of a view. -/
def viewParameters (owner : Address) (block : UInt64) (signature : String) : Web.Query :=
  [("owner", owner.checksummed), ("block", toString block.toNat), ("signature", signature)]

theorem viewParameters_encode_injective {owner : Address} {block : UInt64} {s t : String}
    (h : (viewParameters owner block s).encode = (viewParameters owner block t).encode) :
    s = t := by
  simp only [viewParameters, Web.Query.encode, Web.Query.encodePair, List.append_cancel_left_eq,
    List.cons.injEq, true_and] at h
  exact Web.Query.encodeText_injective h

/-- A view shows its whole address when it fails: nothing is served there, or no answer came. -/
def ShowsAddress (base : String) (reply : Web.Reply) : Prop :=
  ∃ url, Web.Url.parse? (Text.trimSlashes base ++ "/api/clusterMonitorConfig") = some url ∧
    url.hasHost = true ∧ (Web.Url.isServed url.scheme = false ∨ reply = .dropped)

theorem framed_inj (front back a b : String) : front ++ a ++ back = front ++ b ++ back ↔ a = b := by
  rw [String.append_left_inj, String.append_right_inj]

theorem reason_dropped_inj (a b : String) :
    (Fault.dropped a).reason = (Fault.dropped b).reason ↔ a = b :=
  framed_inj "error sending request for url (" ")" a b

theorem reason_notServed_inj (a b : String) :
    (Fault.notServed a).reason = (Fault.notServed b).reason ↔ a = b :=
  framed_inj "builder error for url (" ")" a b

theorem mapError_reason_inj {α : Type} (resource : String) (a b : Fault) :
    Except.mapError (fun fault => Failure.remoteFetch resource fault.reason)
        (Except.error a : Except Fault α) =
      Except.mapError (fun fault => Failure.remoteFetch resource fault.reason) (Except.error b) ↔
      a.reason = b.reason := by
  change (Except.error (Failure.remoteFetch resource a.reason) : Except Failure α) =
    Except.error (Failure.remoteFetch resource b.reason) ↔ _
  rw [Except.error.injEq, Failure.remoteFetch.injEq, and_iff_right rfl]

theorem text_withQuery_view_inj (url : Web.Url) (owner : Address) (block : UInt64) (s t : String) :
    (url.withQuery (viewParameters owner block s)).text =
        (url.withQuery (viewParameters owner block t)).text ↔ s = t := by
  constructor
  · intro h
    exact viewParameters_encode_injective
      (Web.Url.encode_eq_of_text_eq (by simp [viewParameters]) (by simp [viewParameters]) h)
  · rintro rfl
    rfl

theorem under_config_iff (base : String) (reply : Web.Reply) (owner : Address) (block : UInt64)
    (s t : String) :
    (Operation.config ⟨owner, block, s⟩).under base reply =
        (Operation.config ⟨owner, block, t⟩).under base reply ↔
      s = t ∨ ¬ ShowsAddress base reply := by
  have hread : (Operation.config ⟨owner, block, s⟩).read =
      (Operation.config ⟨owner, block, t⟩).read := by
    funext url reply
    cases reply <;> rfl
  rw [under_eq, under_eq, hread]
  change reach base "clusterMonitorConfig" (viewParameters owner block s) _ =
    reach base "clusterMonitorConfig" (viewParameters owner block t) _ ↔ _
  have haddress : Text.trimSlashes base ++ "/api/" ++ "clusterMonitorConfig" =
      Text.trimSlashes base ++ "/api/clusterMonitorConfig" := by
    rw [String.append_assoc]
    rfl
  unfold reach ShowsAddress
  rw [haddress]
  cases Web.Url.parse? (Text.trimSlashes base ++ "/api/clusterMonitorConfig") with
  | none => simp
  | some url =>
    cases hhost : url.hasHost with
    | false => simp [hhost]
    | true =>
      cases hserved : Web.Url.isServed url.scheme with
      | false =>
        simp [hhost, hserved, mapError_reason_inj, reason_notServed_inj, text_withQuery_view_inj]
      | true =>
        cases reply with
        | dropped =>
          simp [hhost, hserved, read, mapError_reason_inj, reason_dropped_inj,
            text_withQuery_view_inj]
        | answered status body => simp [hhost, hserved, read]

/-- Whatever the backend does, a save and a deletion come to the same whichever signature they
carry. So does a view, unless it fails with its whole address. -/
theorem sameOutcome_iff_hidden (base : String) (reply : Web.Reply) (owner : Address)
    (block : UInt64) (s t : String) :
    (∀ text, (Operation.save ⟨⟨owner, block, s⟩, text⟩).under base reply =
      (Operation.save ⟨⟨owner, block, t⟩, text⟩).under base reply) ∧
    (Operation.delete ⟨owner, block, s⟩).under base reply =
      (Operation.delete ⟨owner, block, t⟩).under base reply ∧
    ((Operation.config ⟨owner, block, s⟩).under base reply =
        (Operation.config ⟨owner, block, t⟩).under base reply ↔
      s = t ∨ ¬ ShowsAddress base reply) :=
  ⟨under_save base reply owner block s t, under_delete base reply owner block s t,
    under_config_iff base reply owner block s t⟩

/-- A view whose connection ends without an answer tells signatures apart. -/
theorem config_shows_signature :
    (Operation.config ⟨Word.ofNat 20 1, 42, "first"⟩).under "http://stub" .dropped ≠
      (Operation.config ⟨Word.ofNat 20 1, 42, "second"⟩).under "http://stub" .dropped := by
  have hbase : Text.trimSlashes "http://stub" ++ "/api/clusterMonitorConfig" =
      "http://stub/api/clusterMonitorConfig" := by decide +kernel
  have hparse : Web.Url.parse? "http://stub/api/clusterMonitorConfig" =
      some ⟨"http", some "stub".toList, none, "/api/clusterMonitorConfig".toList, none, none⟩ := by
    decide +kernel
  have hshown : ShowsAddress "http://stub" .dropped :=
    ⟨_, hbase ▸ hparse, rfl, Or.inr rfl⟩
  rw [Ne, under_config_iff]
  simp [hshown]

end Operation

end Backend

end ClusterDesk
