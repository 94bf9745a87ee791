import ClusterDesk.Claim.Operations
import ClusterDesk.Dialogue

/-!
# A stage for the claim desk

An environment of cues on a virtual clock. Time moves only while an answer is awaited, and
proposals end as it passes their due time.
-/

namespace ClusterDesk.Rehearsal

open Claim

structure ClaimStage where
  now : Nat := 0
  wallet : Option Address
  entitlement : List (Cue Entitlement)
  claimed : List (Cue Amount)
  isContract : List (Cue Bool)
  send : List (Cue Digest)
  confirm : List (Cue Receipt)
  /-- Proposals by number, with the time at which they end. -/
  due : List (Nat × Nat × Ending) := []
  proposals : Nat := 0
  /-- An answer that was awaited broke off. -/
  broken : Bool := false

namespace ClaimStage

/-- Lets time pass; the proposals that end before its end, earliest first. -/
def pass (s : ClaimStage) (milliseconds : Nat) : List (Nat × Ending) × ClaimStage :=
  if milliseconds = 0 then ([], s)
  else
    let now := s.now + milliseconds
    let (ended, left) := s.due.partition fun (_, time, _) => time < now
    let ended := ended.mergeSort fun (_, a, _) (_, b, _) => a ≤ b
    (ended.map fun (number, _, ending) => (number, ending), { s with now := now, due := left })

/-- Plays a cue whose answer is awaited. -/
def play (s : ClaimStage) (cue : Cue α) : Except Failure α × List (Nat × Ending) × ClaimStage :=
  let (ended, s) := s.pass cue.delay
  match cue.result with
  | some result => (result, ended, s)
  | none => (.error exhausted, ended, { s with broken := true })

/-- Starts a proposal that ends by itself. -/
def start (s : ClaimStage) (cue : Cue Digest) : ClaimStage :=
  let ending := match cue.result with
    | some (.ok transaction) => .submitted transaction
    | some (.error failure) => .failed failure
    | none => .aborted
  { s with due := s.due ++ [(s.proposals, s.now + cue.delay, ending)], proposals := s.proposals + 1 }

/-- Waits for a proposal; the others that end before it. -/
def await (s : ClaimStage) (number : Nat) : Ending × List (Nat × Ending) × ClaimStage :=
  match s.due.find? fun (n, _, _) => n == number with
  | none => (.aborted, [], s)
  | some (_, time, ending) =>
    let (ended, left) := (s.due.filter fun (n, _, _) => n != number).partition
      fun (n, t, _) => t < time || (t == time && n < number)
    let ended := ended.mergeSort fun (_, a, _) (_, b, _) => a ≤ b
    (ending, ended.map fun (n, _, e) => (n, e), { s with now := max s.now time, due := left })

/-- Answers a question of the desk. -/
def answer (q : Question) (s : ClaimStage) : Answer q × ClaimStage :=
  match q with
  | .entitlement _ =>
    let (cue, rest) := takeCue s.entitlement
    let (reply, ended, s) := { s with entitlement := rest }.play cue
    (⟨reply, ended⟩, s)
  | .claimed _ =>
    let (cue, rest) := takeCue s.claimed
    let (reply, ended, s) := { s with claimed := rest }.play cue
    (⟨reply, ended⟩, s)
  | .signer => (⟨s.wallet, []⟩, s)
  | .isContract _ =>
    let (cue, rest) := takeCue s.isContract
    let (reply, ended, s) := { s with isContract := rest }.play cue
    (⟨match reply with
      | .ok yes => yes
      | .error _ => false, ended⟩, s)
  | .send _ =>
    let (cue, rest) := takeCue s.send
    let (reply, ended, s) := { s with send := rest }.play cue
    (⟨reply, ended⟩, s)
  | .confirm _ =>
    let (cue, rest) := takeCue s.confirm
    let (reply, ended, s) := { s with confirm := rest }.play cue
    (⟨reply, ended⟩, s)
  | .propose _ =>
    let (cue, rest) := takeCue s.send
    (⟨(), []⟩, { s with send := rest }.start cue)
  | .wait milliseconds =>
    let (ended, s) := s.pass milliseconds
    (⟨(), ended⟩, s)
  | .settle number =>
    let (ending, ended, s) := s.await number
    (⟨ending, ended⟩, s)

end ClaimStage

end ClusterDesk.Rehearsal
