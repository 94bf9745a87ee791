import ClusterDesk.Command.Run

/-!
# The program

Runs the command line. Files and variables are those of the machine; there is no network here, so
every request comes back without an answer.
-/

namespace ClusterDesk.Program

def readFile? (path : String) : IO (Option String) := do
  try
    let text ← IO.FS.readFile path
    return some text
  catch _ => return none

def answer : (q : Surroundings.Question) → IO (Surroundings.Answer q)
  | .file path => readFile? path
  | .variable name => IO.getEnv name
  | .backend _ => return .dropped
  | .node question => return question.request.answered .dropped
  | .wait milliseconds => IO.sleep milliseconds.toUInt32

def perform : Surroundings.Talk α → IO α
  | .done a => return a
  | .ask q next => do
    let reply ← answer q
    perform (next reply)

end ClusterDesk.Program

def main (arguments : List String) : IO UInt32 := do
  let outcome ← ClusterDesk.Program.perform (ClusterDesk.Command.run arguments)
  for line in outcome.errors do
    IO.eprintln line
  for line in outcome.output do
    IO.println line
  return outcome.code.toUInt32
