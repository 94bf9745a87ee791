import ClusterDesk.Backend.Client
import ClusterDesk.Claim.Contract
import ClusterDesk.Command.Level
import ClusterDesk.Wallet.Session

/-!
# Outcomes

What a run leaves behind: its exit code, and the lines it wrote as results and as errors.
-/

namespace ClusterDesk.Command

structure Outcome where
  code : UInt8
  output : List String := []
  errors : List String := []
deriving DecidableEq, Repr

/-- The name of the program. -/
def programName : String := "monitorssv-client"

def programVersion : String := "0.3.0"

def usage : String :=
  "Usage: " ++ programName ++ " [--config <CONFIG>] [--network <NETWORK>] <COMMAND>"

namespace ArgumentFault

/-- The first line of the report. -/
def message : ArgumentFault → String
  | .invalidValue value shown reason =>
    "invalid value '" ++ value ++ "' for '" ++ shown ++ "': " ++ reason
  | .noValue shown => "a value is required for '" ++ shown ++ "' but none was supplied"
  | .repeated shown => "the argument '" ++ shown ++ "' cannot be used multiple times"
  | .needlessValue value shown =>
    "unexpected value '" ++ value ++ "' for '" ++ shown ++ "' found; no more were expected"
  | .unexpected argument => "unexpected argument '" ++ argument ++ "' found"
  | .unknownCommand name => "unrecognized subcommand '" ++ name ++ "'"
  | .missing _ => "the following required arguments were not provided:"
  | .nothing => usage
  | .noCommand => "'" ++ programName ++ "' requires a subcommand but one was not provided"
  | .help => usage
  | .version => programName ++ " " ++ programVersion

/-- Lines behind the first one. -/
def details : ArgumentFault → List String
  | .missing shown => ["  " ++ shown]
  | _ => []

def outcome (fault : ArgumentFault) : Outcome :=
  match fault with
  | .help => { code := 0, output := [fault.message] }
  | .version => { code := 0, output := [fault.message] }
  | .nothing => { code := 2, errors := [fault.message] }
  | _ => { code := 2, errors := ("error: " ++ fault.message) :: fault.details }

end ArgumentFault

/-- Why a command did not come to its end. -/
inductive Fault where
  | config
  | noChain (network : Network)
  | noClient
  | contract (fault : ClaimContract.ConnectFault)
  | wallet (fault : Wallet.ConnectFault)
  | operation (failure : Failure)
  /-- The contract expects another distribution than the published one. -/
  | foreignRoot (published accepted : Digest)
  /-- Nobody to inform about. -/
  | noOwner
  | noWallet
  | noCluster
deriving DecidableEq

def Fault.message : Fault → String
  | .config => "Failed to load configuration"
  | .noChain network => "No [[chains]] entry for " ++ network.name
  | .noClient => "Failed to create API client"
  | .contract fault => fault.message
  | .wallet fault => fault.message
  | .operation failure => failure.message
  | .foreignRoot published accepted =>
    "Published merkle root " ++ published.text ++ " does not match the contract root " ++
      accepted.text ++ ", try again after the next distribution"
  | .noOwner => "Pass --owner or connect a wallet"
  | .noWallet => "Monitor configuration needs a connected wallet"
  | .noCluster => "Connected wallet owns no cluster"

namespace Outcome

/-- A line that reports an error. -/
def errorLine (message : String) : String :=
  "Error: " ++ message

def success (output : List String) : Outcome :=
  { code := 0, output := output }

def failed (output : List String) (fault : Fault) : Outcome :=
  { code := 1, output := output, errors := [errorLine fault.message] }

/-- The program breaks off. -/
def broken (message : String) : Outcome :=
  { code := 101, errors := [message] }

/-- The outcome with an error reported before all others. -/
def report (o : Outcome) (shown : Option String) : Outcome :=
  { o with errors := (shown.map errorLine).toList ++ o.errors }

end Outcome

end ClusterDesk.Command
