import ClusterDesk.Alerts.Operations
import ClusterDesk.Dialogue

/-!
# A stage for the alert desk

An environment of cues on a virtual clock, which moves only while an answer is awaited.
-/

namespace ClusterDesk.Rehearsal

open Alerts

structure AlertStage where
  now : Nat := 0
  wallet : Option Address
  summary : List (Cue Summary)
  config : List (Cue Envelope)
  save : List (Cue Envelope)
  delete : List (Cue Unit)
  test : List (Cue Unit)
  sign : List (Cue String)
  /-- An answer that was awaited broke off. -/
  broken : Bool := false

namespace AlertStage

/-- Plays a cue whose answer is awaited. -/
def play (s : AlertStage) (cue : Cue α) : Except Failure α × AlertStage :=
  let s := { s with now := s.now + cue.delay }
  match cue.result with
  | some result => (result, s)
  | none => (.error exhausted, { s with broken := true })

/-- Answers a question of the desk. -/
def answer (q : Question) (s : AlertStage) : Reply q × AlertStage :=
  match q with
  | .summary _ =>
    let (cue, rest) := takeCue s.summary
    { s with summary := rest }.play cue
  | .config _ =>
    let (cue, rest) := takeCue s.config
    { s with config := rest }.play cue
  | .save _ =>
    let (cue, rest) := takeCue s.save
    { s with save := rest }.play cue
  | .delete _ =>
    let (cue, rest) := takeCue s.delete
    { s with delete := rest }.play cue
  | .test _ =>
    let (cue, rest) := takeCue s.test
    { s with test := rest }.play cue
  | .signer => (s.wallet, s)
  | .sign _ =>
    let (cue, rest) := takeCue s.sign
    { s with sign := rest }.play cue
  | .clock => (s.now, s)

end AlertStage

end ClusterDesk.Rehearsal
