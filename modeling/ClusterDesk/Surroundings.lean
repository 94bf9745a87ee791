import ClusterDesk.Backend.Exchange
import ClusterDesk.Node.Request

/-!
# Surroundings

Everything that a run of the program asks for: files, variables, the backend, a node, and time.
-/

namespace ClusterDesk.Surroundings

inductive Question where
  /-- The text of a file, none if it cannot be read. -/
  | file (path : String)
  /-- The value of an environment variable, if it is set. -/
  | variable (name : String)
  | backend (request : Backend.Request)
  | node (question : Node.Question)
  /-- Waits some milliseconds. -/
  | wait (milliseconds : Nat)

abbrev Answer : Question → Type
  | .file _ => Option String
  | .variable _ => Option String
  | .backend _ => Web.Reply
  | .node question => Node.Answer question
  | .wait _ => Unit

abbrev Talk := Dialogue Question Answer

/-- Puts every request to the backend. -/
def atBackend (talk : Backend.Talk α) : Talk α :=
  talk.relay fun request => .ask (.backend request) .done

/-- Puts every question to its node. -/
def atNode (talk : Node.Talk α) : Talk α :=
  talk.relay fun question => .ask (.node question) .done

/-- Carries an operation of the backend out. -/
def performAt (base : String) (op : Backend.Operation) : Talk (Except Failure op.Result) :=
  atBackend (op.perform base)

end ClusterDesk.Surroundings
