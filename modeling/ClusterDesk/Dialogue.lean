import ClusterDesk.Failure

/-!
# Dialogues

A program that puts questions to its environment and goes on with the answers. Nothing is assumed
of an environment: it is any function from its own state and a question to an answer and a new
state. A run keeps the transcript of all that was asked and answered.

An environment can be prepared from cues, answers that each come with a delay. They are taken one by
one, and the last one is given again and again.
-/

namespace ClusterDesk

inductive Dialogue (Q : Type) (A : Q → Type) (α : Type) where
  | done (result : α)
  | ask (question : Q) (next : A question → Dialogue Q A α)

abbrev Exchange (Q : Type) (A : Q → Type) := (question : Q) × A question

namespace Dialogue

variable {Q : Type} {A : Q → Type} {α β ε σ : Type}

def bind : Dialogue Q A α → (α → Dialogue Q A β) → Dialogue Q A β
  | .done a, f => f a
  | .ask q next, f => .ask q fun r => (next r).bind f

instance : Monad (Dialogue Q A) where
  pure := .done
  bind := bind

/-- Goes on with a result and stops at a failure. -/
def andThen (talk : Dialogue Q A (Except ε α)) (f : α → Dialogue Q A (Except ε β)) :
    Dialogue Q A (Except ε β) :=
  talk.bind fun
    | .ok a => f a
    | .error e => .done (.error e)

def question (q : Q) : Dialogue Q A (A q) :=
  .ask q .done

/-- Puts every question to an environment: the result, the transcript, and the state the
environment is left in. -/
def run (answer : (q : Q) → σ → A q × σ) :
    Dialogue Q A α → σ → α × List (Exchange Q A) × σ
  | .done a, s => (a, [], s)
  | .ask q next, s =>
    let (r, s) := answer q s
    let (a, transcript, s) := (next r).run answer s
    (a, ⟨q, r⟩ :: transcript, s)

/-- Puts other questions in the place of every question. -/
def relay {Q' : Type} {A' : Q' → Type} (f : (q : Q) → Dialogue Q' A' (A q)) :
    Dialogue Q A α → Dialogue Q' A' α
  | .done a => .done a
  | .ask q next => (f q).bind fun r => (next r).relay f

/-- Puts other questions in the place of every question, with a state that each of them can
change. -/
def relayWith {Q' : Type} {A' : Q' → Type} (f : (q : Q) → σ → Dialogue Q' A' (A q × σ)) :
    Dialogue Q A α → σ → Dialogue Q' A' (α × σ)
  | .done a, s => .done (a, s)
  | .ask q next, s => (f q s).bind fun (r, s) => (next r).relayWith f s

end Dialogue

namespace Rehearsal

/-- A prepared answer; none stands for breaking off. -/
structure Cue (α : Type) where
  delay : Nat := 0
  result : Option (Except Failure α)

/-- What is answered without any cue. -/
def exhausted : Failure :=
  .remoteFetch "script" "exhausted"

/-- The next cue, and the cues left. -/
def takeCue : List (Cue α) → Cue α × List (Cue α)
  | [] => ({ result := some (.error exhausted) }, [])
  | [cue] => (cue, [cue])
  | cue :: rest => (cue, rest)

end Rehearsal

end ClusterDesk
