import ClusterDesk.Chain.Account
import ClusterDesk.Network

/-!
# Configurations

What the configuration file holds, and the rules it has to keep. The first broken rule, in the
order of the file, is reported.
-/

namespace ClusterDesk

/-- The endpoints and contracts of one network. -/
structure Chain where
  network : Network
  chainId : UInt64
  apiUrl : String
  rpcUrl : String
  contract : Address
  explorerUrl : String
  safeAppUrl : String
  /-- The name of the chain in the Safe app. -/
  safeChain : String
  /-- How long to wait between two looks for a receipt. -/
  pollMilliseconds : UInt64 := 2000
  /-- How long to wait for a receipt. -/
  confirmationSeconds : UInt64 := 600
deriving DecidableEq

namespace Chain

def links (c : Chain) : ClaimLinks :=
  ⟨c.explorerUrl, c.safeAppUrl, c.safeChain⟩

inductive Fault where
  | foreignId (found expected : UInt64)
  | noApiUrl
  | noRpcUrl
  | noExplorerUrl
  | noSafe
  | noPoll
  | noConfirmation
deriving DecidableEq, Repr

def Fault.message : Fault → String
  | .foreignId found expected =>
    "has chain_id " ++ toString found.toNat ++ ", expected " ++ toString expected.toNat
  | .noApiUrl => "has empty api_url"
  | .noRpcUrl => "has empty rpc_url"
  | .noExplorerUrl => "has empty explorer_url"
  | .noSafe => "needs safe_app_url and safe_chain_prefix"
  | .noPoll => "receipt_poll_ms must be positive"
  | .noConfirmation => "confirmation_timeout_seconds must be positive"

def fault? (c : Chain) : Option Fault :=
  if c.chainId ≠ c.network.chainId then some (.foreignId c.chainId c.network.chainId)
  else if Text.allBlank c.apiUrl then some .noApiUrl
  else if Text.allBlank c.rpcUrl then some .noRpcUrl
  else if Text.allBlank c.explorerUrl then some .noExplorerUrl
  else if Text.allBlank c.safeAppUrl || Text.allBlank c.safeChain then some .noSafe
  else if c.pollMilliseconds = 0 then some .noPoll
  else if c.confirmationSeconds = 0 then some .noConfirmation
  else none

end Chain

structure ApiLimits where
  timeoutSeconds : UInt64 := 30
  concurrent : UInt64 := 4
  rate : UInt32 := 10
deriving DecidableEq, Repr

/-- Name and look of the program. -/
structure Appearance where
  name : String := "monitorssv"
  logLevel : String := "info"
  darkMode : Bool := true
deriving DecidableEq, Repr

structure Config where
  appearance : Appearance := {}
  api : ApiLimits := {}
  active : Network := .mainnet
  chains : List Chain
  /-- The environment variable that holds the private key. -/
  keyVariable : String := "MONITORSSV_PRIVATE_KEY"
deriving DecidableEq

namespace Config

/-- The entry of a network, the first of several. -/
def chain? (c : Config) (network : Network) : Option Chain :=
  c.chains.find? (·.network == network)

def activeChain? (c : Config) : Option Chain :=
  c.chain? c.active

def apiUrl? (c : Config) (network : Network) : Option String :=
  (c.chain? network).map Chain.apiUrl

inductive Fault where
  /-- The text is no TOML, or does not hold a configuration. -/
  | malformed
  | unreadable (path : String)
  | noRate
  | noConcurrency
  | noTimeout
  | noActiveChain (network : Network)
  | chain (index : Nat) (network : Network) (fault : Chain.Fault)
  | duplicate (network : Network)
  | noKeyVariable
deriving DecidableEq, Repr

def Fault.message : Fault → String
  | .malformed => "Failed to parse config.toml"
  | .unreadable path => "Failed to read config file: " ++ path
  | .noRate => "requests_per_second must be positive"
  | .noConcurrency => "max_concurrent must be positive"
  | .noTimeout => "timeout_seconds must be positive"
  | .noActiveChain network => "No [[chains]] entry for active network " ++ network.name
  | .chain index network fault =>
    "Chain " ++ toString index ++ " (" ++ network.name ++ ") " ++ fault.message
  | .duplicate network => "Duplicate [[chains]] entry for " ++ network.name
  | .noKeyVariable => "wallet.private_key_env must not be empty"

/-- The first fault of some entries that start at an index. -/
def chainFault? (index : Nat) : List Chain → Option Fault
  | [] => none
  | c :: rest =>
    match c.fault? with
    | some fault => some (.chain index c.network fault)
    | none => chainFault? (index + 1) rest

/-- The first network that has been seen before. -/
def duplicate? (seen : List Network) : List Chain → Option Network
  | [] => none
  | c :: rest => if c.network ∈ seen then some c.network else duplicate? (c.network :: seen) rest

def validate (c : Config) : Except Fault Unit :=
  if c.api.rate = 0 then .error .noRate
  else if c.api.concurrent = 0 then .error .noConcurrency
  else if c.api.timeoutSeconds = 0 then .error .noTimeout
  else if c.activeChain?.isNone then .error (.noActiveChain c.active)
  else
    match chainFault? 0 c.chains with
    | some fault => .error fault
    | none =>
      match duplicate? [] c.chains with
      | some network => .error (.duplicate network)
      | none => if Text.allBlank c.keyVariable then .error .noKeyVariable else .ok ()

end Config

end ClusterDesk
