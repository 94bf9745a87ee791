import ClusterDesk.Proofs.Json.RoundTrip
import ClusterDesk.Proofs.Node.Waiting
import ClusterDesk.Wallet.Sending

/-!
# What decides a confirmation

The first receipt that is answered in time decides a confirmation by its status alone. The answers
in front of it are passed over, whatever they are, and nothing is asked behind it.
-/

namespace ClusterDesk.Wallet

open Node (Timetable HoldsReceipt millisecond)

/-- When a confirmation is given up, in nanoseconds from its start. -/
def deadline (w : Wallet) : Nat :=
  w.chain.confirmationSeconds.toNat * 1000 * millisecond

theorem confirm_run {w : Wallet} {s : Session} (hsession : w.session = some s)
    (transaction : Digest) {σ : Type}
    (answer : (q : Node.Question) → σ → Node.Answer q × σ) (state : σ) :
    (w.confirm transaction).run answer state =
      let wait := (Node.awaitReceipt s.node transaction
        (Node.looks w.chain.pollMilliseconds.toNat w.chain.confirmationSeconds.toNat)).run
          answer state
      (judge transaction wait.1, wait.2) := by
  simp only [confirm, hsession, Dialogue.run_bind, Dialogue.run, List.append_nil]

/-- What a confirmation comes to, and what it asked, when its looks go by a timetable. -/
structure Decided (w : Wallet) (s : Session) (transaction : Digest)
    (t : Timetable w.chain.pollMilliseconds.toNat) (result : Except Failure Claim.Receipt)
    (asked : List (Exchange Node.Question Node.Answer)) : Prop where
  mined : ∀ k receipt, t.First w.deadline k receipt → receipt.succeeded →
    result = .ok ⟨transaction, receipt.block⟩
  reverted : ∀ k receipt, t.First w.deadline k receipt → ¬receipt.succeeded →
    result = .error (.chainWrite "transaction reverted")
  /-- The looks up to the first receipt, and no other. -/
  heard : ∀ k receipt, t.First w.deadline k receipt →
    asked = t.heard s.node transaction 0 (k + 1)
  inTime : ∀ k receipt, t.ends k < w.deadline → HoldsReceipt (t.reply k) receipt →
    ∃ j ≤ k, ∃ first, t.First w.deadline j first
  late : (∀ k, t.ends k < w.deadline → ∀ receipt, ¬HoldsReceipt (t.reply k) receipt) →
    result = .error (.chainWrite "timed out waiting for confirmation")
  sound : ∀ found, result = .ok found → ∃ k receipt, t.First w.deadline k receipt ∧
    receipt.succeeded ∧ found = ⟨transaction, receipt.block⟩

variable {w : Wallet} {s : Session} {t : Timetable w.chain.pollMilliseconds.toNat}

theorem confirm_of_first (hsession : w.session = some s) (hpoll : w.chain.pollMilliseconds ≠ 0)
    (transaction : Digest) {k : Nat} {receipt : Node.MinedReceipt}
    (hfirst : t.First w.deadline k receipt) :
    (w.confirm transaction).run (t.answer w.deadline) 0 =
      (judge transaction (some receipt), t.heard s.node transaction 0 (k + 1), k + 1) := by
  have hbeat : 0 < w.chain.pollMilliseconds.toNat :=
    Nat.pos_of_ne_zero fun h => hpoll (UInt64.toNat_inj.mp h)
  have hlooks := Timetable.lt_looks hbeat hfirst.inTime
  rw [confirm_run hsession, Timetable.run_of_first hfirst hlooks]

theorem confirm_of_none (hsession : w.session = some s) (transaction : Digest)
    (hnone : ∀ k, t.ends k < w.deadline → ∀ receipt, ¬HoldsReceipt (t.reply k) receipt) :
    ((w.confirm transaction).run (t.answer w.deadline) 0).1 = .error timeoutFailure := by
  rw [confirm_run hsession]
  simp only [Timetable.run_of_none hnone, judge]

theorem one_lt_order : 1 < Secp256k1.n := by
  decide

def hastySession : Session where
  key := ⟨1, Nat.one_pos, one_lt_order⟩
  node := ⟨"http", some "localhost".toList, some 8545, ['/'], none, none⟩

/-- A wallet that looks for receipts every two seconds and gives up after ten. -/
def hastyWallet : Wallet where
  chain :=
    { network := .holesky
      chainId := 17000
      apiUrl := "http://localhost:3000"
      rpcUrl := "http://localhost:8545"
      contract := Word.ofNat 20 1
      explorerUrl := "http://localhost:4000"
      safeAppUrl := "http://localhost:5000"
      safeChain := "holesky"
      confirmationSeconds := 10 }
  session := some hastySession

def receiptRecord (status block : String) : Json :=
  .obj [("type", .str "0x2"), ("status", .str status), ("blockNumber", .str block),
    ("cumulativeGasUsed", .str "0x1"), ("gasUsed", .str "0x1"), ("effectiveGasPrice", .str "0x1"),
    ("logs", .arr []), ("logsBloom", .str "0x"),
    ("transactionHash", .str (Hex.text (List.replicate 32 0))),
    ("from", .str (Hex.text (List.replicate 20 0)))]

/-- An answer with a receipt. -/
def receiptReply (status block : String) : Web.Reply :=
  .answered 200 (Json.obj [("result", receiptRecord status block)]).compact

/-- A lost connection, an error of the node, no receipt yet, a mined transaction, and a reverted
one for ever. Every answer takes 150 milliseconds. -/
def stutter : Timetable hastyWallet.chain.pollMilliseconds.toNat where
  ends k := (k * 2000 + 150) * millisecond
  reply
    | 0 => .dropped
    | 1 => .answered 200 "\x7b\"error\":\x7b\"code\":-32000,\"message\":\"busy\"\x7d\x7d"
    | 2 => .answered 200 "\x7b\"result\":null\x7d"
    | 3 => receiptReply "0x1" "0x7"
    | _ => receiptReply "0x0" "0x8"
  beat_le k := by
    rw [show hastyWallet.chain.pollMilliseconds.toNat = 2000 from rfl, ← Nat.mul_assoc]
    exact Nat.mul_le_mul_right _ (Nat.le_add_right _ _)
  monotone j k h := Nat.mul_le_mul_right _ (by omega)

theorem holdsReceipt_reply {status block : String} {receipt : Node.MinedReceipt}
    (h : Node.MinedReceipt.decoder (receiptRecord status block) = .ok receipt) :
    HoldsReceipt (receiptReply status block) receipt := by
  refine ⟨200, _, receiptRecord status block, rfl, by omega, by omega, ?_, h⟩
  rw [Json.read?, Json.parse?_compact rfl]
  rfl

end ClusterDesk.Wallet
