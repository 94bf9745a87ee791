import ClusterDesk.Node.Reading

/-!
# Readings of a node's answers

What is read from a reply was its result: the status is one of success, and the record that the
node sent holds that result and no error.
-/

namespace ClusterDesk.Node

open Json (Decoder)

variable {α : Type}

theorem readBody_eq_ok (d : Decoder α) (text : String) (a : α) :
    readBody d text = .ok a ↔
      ∃ result, Json.read? Envelope.decoder text = some ⟨some result, none⟩ ∧ d result = .ok a := by
  unfold readBody
  split
  case h_1 result hread =>
    cases hresult : d result with
    | error fault => simp [hread, hresult]
    | ok value => simp [hread, hresult]
  case h_2 complaint hread => simp [hread]
  case h_3 hother _ =>
    simp only [reduceCtorEq, false_iff]
    rintro ⟨result, hread, -⟩
    exact hother result hread

theorem read_eq_ok (node : Web.Url) (d : Decoder α) (reply : Web.Reply) (a : α) :
    read node d reply = .ok a ↔
      ∃ status text result, reply = .answered status text ∧ 200 ≤ status ∧ status < 300 ∧
        Json.read? Envelope.decoder text = some ⟨some result, none⟩ ∧ d result = .ok a := by
  cases reply with
  | dropped => simp [read]
  | answered status text =>
    have hrange : Web.isSuccess status = true ↔ 200 ≤ status ∧ status < 300 := by
      simp [Web.isSuccess]
    constructor
    · intro hread
      by_cases hstatus : Web.isSuccess status = true
      · obtain ⟨hlow, hhigh⟩ := hrange.mp hstatus
        rw [read, if_pos hstatus, readBody_eq_ok] at hread
        obtain ⟨result, htext, hresult⟩ := hread
        exact ⟨status, text, result, rfl, hlow, hhigh, htext, hresult⟩
      · rw [read, if_neg hstatus] at hread
        exact absurd hread (by simp)
    · rintro ⟨_, _, result, hreply, hlow, hhigh, htext, hresult⟩
      obtain ⟨rfl, rfl⟩ := Web.Reply.answered.inj hreply
      rw [read, if_pos (hrange.mpr ⟨hlow, hhigh⟩), readBody_eq_ok]
      exact ⟨result, htext, hresult⟩

/-- A reply whose result is exactly one word. -/
def HoldsWord (reply : Web.Reply) (word : Digest) : Prop :=
  ∃ status text result, reply = .answered status text ∧ 200 ≤ status ∧ status < 300 ∧
    Json.read? Envelope.decoder text = some ⟨some result, none⟩ ∧
    byteString result = .ok word.bytes

theorem read_byteString_eq_ok (node : Web.Url) (reply : Web.Reply) (word : Digest) :
    read node byteString reply = .ok word.bytes ↔ HoldsWord reply word :=
  read_eq_ok node byteString reply word.bytes

end ClusterDesk.Node
