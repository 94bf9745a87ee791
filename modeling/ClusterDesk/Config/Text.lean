import ClusterDesk.Config.Basic
import ClusterDesk.Toml.Document

/-!
# Configuration texts

The TOML form of a configuration. Only the chains have to be there; unknown keys are skipped.
-/

namespace ClusterDesk

open Json (Decoder Record)

/-- Reads a network by its name, alone or as the only key of a table that holds something empty. -/
def Network.tomlDecoder : Decoder Network
  | .obj [(name, .obj [])] => Decoder.named ofName? (.str name)
  | .obj [(name, .arr [])] => Decoder.named ofName? (.str name)
  | .str name => Decoder.named ofName? (.str name)
  | j => .error (.wrongType j .text)

def Chain.decoder : Decoder Chain :=
  ((Record.of Chain.mk)
    |>.field "network" Network.tomlDecoder
    |>.field "chain_id" Decoder.natural64
    |>.field "api_url" Decoder.text
    |>.field "rpc_url" Decoder.text
    |>.field "claim_contract" (Word.decoder 20)
    |>.field "explorer_url" Decoder.text
    |>.field "safe_app_url" Decoder.text
    |>.field "safe_chain_prefix" Decoder.text
    |>.optional "receipt_poll_ms" Decoder.natural64 2000
    |>.optional "confirmation_timeout_seconds" Decoder.natural64 600).decodeFront "chain"

def ApiLimits.decoder : Decoder ApiLimits :=
  let absent : ApiLimits := {}
  ((Record.of ApiLimits.mk)
    |>.optional "timeout_seconds" Decoder.natural64 absent.timeoutSeconds
    |>.optional "max_concurrent" Decoder.natural64 absent.concurrent
    |>.optional "requests_per_second" Decoder.natural32 absent.rate).decodeFront "api"

def Appearance.decoder : Decoder Appearance :=
  let absent : Appearance := {}
  ((Record.of Appearance.mk)
    |>.optional "name" Decoder.text absent.name
    |>.optional "log_level" Decoder.text absent.logLevel
    |>.optional "dark_mode" Decoder.boolean absent.darkMode).decodeFront "app"

namespace Config

def lone (name key : String) (d : Decoder α) (absent : α) : Decoder α :=
  ((Record.of fun a => a) |>.optional key d absent).decodeFront name

def decoder : Decoder Config :=
  let absent : Config := { chains := [] }
  ((Record.of Config.mk)
    |>.optional "app" Appearance.decoder absent.appearance
    |>.optional "api" ApiLimits.decoder absent.api
    |>.optional "network" (lone "network" "active" Network.tomlDecoder absent.active)
      absent.active
    |>.field "chains" (Decoder.listOf Chain.decoder)
    |>.optional "wallet" (lone "wallet" "private_key_env" Decoder.text absent.keyVariable)
      absent.keyVariable).decodeFront "config"

/-- Reads a configuration and checks its rules. -/
def parse (s : String) : Except Fault Config :=
  match (Toml.parse? s).map fun t => decoder t.tree with
  | some (.ok c) =>
    match c.validate with
    | .ok () => .ok c
    | .error fault => .error fault
  | _ => .error .malformed

end Config

end ClusterDesk
