import ClusterDesk.Json.Decoder
import ClusterDesk.Text.Basic


/-!
# Networks

Validator telemetry is collected for the primary network only. On every network the time until a
cluster is liquidated is counted in blocks of twelve seconds.
-/

namespace ClusterDesk

inductive Network where
  | mainnet
  | holesky
deriving DecidableEq, Repr, Inhabited

namespace Network

def name : Network → String
  | .mainnet => "mainnet"
  | .holesky => "holesky"

def ofName? : String → Option Network
  | "mainnet" => some .mainnet
  | "holesky" => some .holesky
  | _ => none

def chainId : Network → UInt64
  | .mainnet => 1
  | .holesky => 17000

def isPrimary : Network → Bool
  | .mainnet => true
  | .holesky => false

/-- Whether proposals, missed blocks and balances of validators are observed. -/
def hasTelemetry (network : Network) : Bool :=
  network.isPrimary

/-- Reads a typed name in any letter case. -/
def parse (s : String) : Except String Network :=
  match ofName? (Text.lower s) with
  | some network => .ok network
  | none => .error ("unknown network: " ++ Text.lower s)

end Network

/-- Reads one of several names, alone or as the only key of a record that holds null. -/
def Json.Decoder.named (ofName? : String → Option α) : Json.Decoder α
  | .str s =>
    match ofName? s with
    | some a => .ok a
    | none => .error (.invalid "unknown variant")
  | .obj [(s, .null)] =>
    match ofName? s with
    | some a => .ok a
    | none => .error (.invalid "unknown variant")
  | j => .error (.wrongType j .text)

/-! ### Blocks -/

def blocksPerDay : Nat := 7200

def secondsPerBlock : Nat := 12

/-- Whole days and hours of a number of blocks. -/
def runwayText (blocks : Nat) : String :=
  toString (blocks / blocksPerDay) ++ "d " ++
    toString (blocks % blocksPerDay * secondsPerBlock / 3600) ++ "h"

end ClusterDesk
