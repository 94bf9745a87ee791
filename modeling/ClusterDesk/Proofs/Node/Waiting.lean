import Mathlib.Data.Nat.Find
import ClusterDesk.Node.Receipt
import ClusterDesk.Proofs.Dialogue.Yields
import ClusterDesk.Proofs.Node.Readings

/-!
# Waiting for a receipt

The looks for a receipt go by a timetable: each starts with its beat at the earliest, and behind the
one before it. The first receipt that is answered in time ends the wait, and the number of looks
leaves none out that could be.
-/

namespace ClusterDesk.Node

/-- The nanoseconds of a millisecond. -/
def millisecond : Nat := 1000000

/-- When the looks for a receipt are answered, in nanoseconds from the start of the wait, and with
what. -/
structure Timetable (beatMilliseconds : Nat) where
  ends : Nat → Nat
  reply : Nat → Web.Reply
  beat_le : ∀ k, k * (beatMilliseconds * millisecond) ≤ ends k
  monotone : ∀ j k, j ≤ k → ends j ≤ ends k

/-- A reply whose result is a receipt. -/
def HoldsReceipt (reply : Web.Reply) (receipt : MinedReceipt) : Prop :=
  ∃ status text result, reply = .answered status text ∧ 200 ≤ status ∧ status < 300 ∧
    Json.read? Envelope.decoder text = some ⟨some result, none⟩ ∧
    MinedReceipt.decoder result = .ok receipt

theorem orNull_eq_ok_some {α : Type} {d : Json.Decoder α} {j : Json} {a : α}
    (h : ∀ b, d .null ≠ .ok b) : orNull d j = .ok (some a) ↔ d j = .ok a := by
  unfold orNull
  split
  case h_1 => simp [h a]
  case h_2 =>
    cases d j <;> simp [Except.map]

theorem receiptOf?_eq_some_iff {node : Web.Url} {reply : Web.Reply} {receipt : MinedReceipt} :
    receiptOf? node reply = some receipt ↔ HoldsReceipt reply receipt := by
  have hread : receiptOf? node reply = some receipt ↔
      read node (orNull MinedReceipt.decoder) reply = .ok (some receipt) := by
    unfold receiptOf?
    split
    case h_1 found hfound => simp [hfound]
    case h_2 fault hfault => simp [hfault]
  rw [hread, read_eq_ok]
  simp only [orNull_eq_ok_some (d := MinedReceipt.decoder) (by simp [MinedReceipt.decoder]),
    HoldsReceipt]

theorem receiptOf?_eq_none_iff {node : Web.Url} {reply : Web.Reply} :
    receiptOf? node reply = none ↔ ∀ receipt, ¬HoldsReceipt reply receipt := by
  simp only [Option.eq_none_iff_forall_ne_some, ne_eq, receiptOf?_eq_some_iff]

namespace Timetable

variable {beat deadline : Nat}

/-- What a wait gets to hear: a look that is answered too late has no answer. -/
def answer (t : Timetable beat) (deadline : Nat) : (q : Question) → Nat → Answer q × Nat
  | ⟨_, .receipt _⟩, k => (if t.ends k < deadline then some (t.reply k) else none, k + 1)
  | ⟨_, request⟩, k => (request.answered (t.reply k), k)

/-- A look that is answered in time, the first one whose answer holds a receipt. -/
structure First (t : Timetable beat) (deadline k : Nat) (receipt : MinedReceipt) : Prop where
  inTime : t.ends k < deadline
  holds : HoldsReceipt (t.reply k) receipt
  before : ∀ j < k, ∀ other, ¬HoldsReceipt (t.reply j) other

variable {t : Timetable beat} {node : Web.Url} {transaction : Digest} {left k : Nat}

theorem exists_first {receipt : MinedReceipt} (h : t.ends k < deadline)
    (hreceipt : HoldsReceipt (t.reply k) receipt) :
    ∃ j ≤ k, ∃ first, t.First deadline j first := by
  classical
  have hsome : ∃ k receipt, HoldsReceipt (t.reply k) receipt := ⟨k, receipt, hreceipt⟩
  obtain ⟨first, hfirst⟩ := Nat.find_spec hsome
  have hle : Nat.find hsome ≤ k := Nat.find_min' hsome ⟨receipt, hreceipt⟩
  refine ⟨Nat.find hsome, hle, first, ?_, hfirst, fun j hj => ?_⟩
  · exact Nat.lt_of_le_of_lt (t.monotone _ _ hle) h
  · exact not_exists.mp (Nat.find_min hsome hj)

theorem run_of_late (h : ¬t.ends k < deadline) :
    (awaitReceipt node transaction (left + 1)).run (t.answer deadline) k =
      (none, [⟨⟨node, .receipt transaction⟩, none⟩], k + 1) := by
  simp only [awaitReceipt, Dialogue.run, answer, if_neg h]

theorem run_of_holds {receipt : MinedReceipt} (h : t.ends k < deadline)
    (hreceipt : HoldsReceipt (t.reply k) receipt) :
    (awaitReceipt node transaction (left + 1)).run (t.answer deadline) k =
      (some receipt, [⟨⟨node, .receipt transaction⟩, some (t.reply k)⟩], k + 1) := by
  have hfound : receiptOf? node (t.reply k) = some receipt := receiptOf?_eq_some_iff.mpr hreceipt
  simp only [awaitReceipt, Dialogue.run, answer, if_pos h, hfound]

theorem run_of_not_holds (h : t.ends k < deadline)
    (hnone : ∀ receipt, ¬HoldsReceipt (t.reply k) receipt) :
    (awaitReceipt node transaction (left + 1)).run (t.answer deadline) k =
      let rest := (awaitReceipt node transaction left).run (t.answer deadline) (k + 1)
      (rest.1, ⟨⟨node, .receipt transaction⟩, some (t.reply k)⟩ :: rest.2.1, rest.2.2) := by
  have hpassed : receiptOf? node (t.reply k) = none := receiptOf?_eq_none_iff.mpr hnone
  simp only [awaitReceipt, Dialogue.run, answer, if_pos h, hpassed]

/-- Some looks in a row, all of them answered in time. -/
def heard (t : Timetable beat) (node : Web.Url) (transaction : Digest) (start n : Nat) :
    List (Exchange Question Answer) :=
  (List.range' start n).map fun k => ⟨⟨node, .receipt transaction⟩, some (t.reply k)⟩

private theorem run_of_found {receipt : MinedReceipt} {n start : Nat}
    (h : t.ends (start + n) < deadline) (hreceipt : HoldsReceipt (t.reply (start + n)) receipt)
    (hbefore : ∀ j < n, ∀ other, ¬HoldsReceipt (t.reply (start + j)) other) (hleft : n < left) :
    (awaitReceipt node transaction left).run (t.answer deadline) start =
      (some receipt, t.heard node transaction start (n + 1), start + n + 1) := by
  obtain ⟨left, rfl⟩ : ∃ fewer, left = fewer + 1 := ⟨left - 1, by omega⟩
  -- Each look in front of the receipt is in time because the receipt is, and moves the start on.
  induction n generalizing start left with
  | zero => exact run_of_holds h hreceipt
  | succ n ih =>
    have hstart : t.ends start < deadline :=
      Nat.lt_of_le_of_lt (t.monotone _ _ (Nat.le_add_right start (n + 1))) h
    have hmoved (j : Nat) : start + (j + 1) = start + 1 + j := by omega
    rw [hmoved] at h hreceipt
    have hrest := ih h hreceipt (fun j hj => hmoved j ▸ hbefore (j + 1) (by omega)) (left - 1)
      (by omega)
    rw [Nat.sub_add_cancel (by omega)] at hrest
    rw [run_of_not_holds hstart (hbefore 0 (by omega)), hrest, ← hmoved n]
    rfl

/-- A wait ends with its first receipt, and asks nothing behind it. -/
theorem run_of_first {receipt : MinedReceipt} (h : t.First deadline k receipt) (hleft : k < left) :
    (awaitReceipt node transaction left).run (t.answer deadline) 0 =
      (some receipt, t.heard node transaction 0 (k + 1), k + 1) := by
  have hfound : (awaitReceipt node transaction left).run (t.answer deadline) 0 =
      (some receipt, t.heard node transaction 0 (k + 1), 0 + k + 1) := by
    refine run_of_found ?_ ?_ (fun j hj => ?_) hleft
    · rw [Nat.zero_add]
      exact h.inTime
    · rw [Nat.zero_add]
      exact h.holds
    · rw [Nat.zero_add]
      exact h.before j hj
  rwa [Nat.zero_add] at hfound

theorem run_of_none (h : ∀ k, t.ends k < deadline → ∀ receipt, ¬HoldsReceipt (t.reply k) receipt)
    (left start : Nat) :
    ((awaitReceipt node transaction left).run (t.answer deadline) start).1 = none := by
  induction left generalizing start with
  | zero => rfl
  | succ left ih =>
    by_cases hin : t.ends start < deadline
    · rw [run_of_not_holds hin (h start hin)]
      exact ih (start + 1)
    · rw [run_of_late hin]

theorem lt_looks {seconds : Nat} (hbeat : 0 < beat)
    (h : t.ends k < seconds * 1000 * millisecond) : k < looks beat seconds := by
  have hstarted := Nat.lt_of_le_of_lt (t.beat_le k) h
  rw [← Nat.mul_assoc] at hstarted
  have hbefore : k * beat < seconds * 1000 := Nat.lt_of_mul_lt_mul_right hstarted
  rw [looks, Nat.lt_iff_add_one_le, Nat.le_div_iff_mul_le hbeat, Nat.succ_mul]
  omega

end Timetable

end ClusterDesk.Node
