import ClusterDesk.Alerts.Channel
import ClusterDesk.Alerts.Report
import ClusterDesk.Backend.Listing
import ClusterDesk.Bytes.Word
import ClusterDesk.Command.Level
import ClusterDesk.Text.Basic

/-!
# Arguments

What the command line of the program says.
-/

namespace ClusterDesk.Command

/-- What is said about an alert configuration. -/
structure ChannelFlags where
  method : Option Method := none
  webhook : Option String := none
  token : Option String := none
  chat : Option String := none
  days : Option String := none
  reports : List Report := []
deriving DecidableEq, Repr

/-- The channel that is named. Without a method, any field of a bot names the bot. -/
def ChannelFlags.channel (f : ChannelFlags) : Channel :=
  let inferred := if f.token.isSome || f.chat.isSome then Method.telegram else .discord
  match f.method.getD inferred with
  | .discord => .discord (f.webhook.getD "")
  | .telegram => .telegram (f.token.getD "") (f.chat.getD "")

inductive MonitorCommand where
  | info (owner : Option Address)
  | view
  | save (flags : ChannelFlags)
  | delete
  | test (flags : ChannelFlags)
deriving DecidableEq

inductive ExploreCommand where
  | status
  | dashboard
  | page (listing : Backend.Listing) (query : PageQuery)
  | cluster (id : String)
  | account (account : Address)
  /-- The ranking, a line for each cluster. -/
  | ranking (query : PageQuery)
deriving DecidableEq

inductive Task where
  | claim (account : Address) (submit : Bool)
  | monitor (command : MonitorCommand)
  | explore (command : ExploreCommand)
deriving DecidableEq

/-- What is said in front of the command. -/
structure Setting where
  config : Option String := none
  network : Option Network := none
deriving DecidableEq

structure Arguments where
  config : String
  network : Option Network
  task : Task
deriving DecidableEq

/-! Values -/

def slot (shown : String) (parse : String → Except String α) (set : α → σ → σ) : Slot σ where
  shown := shown
  take s values := (parse s).map fun a => set a values

def textSlot (shown : String) (set : String → σ → σ) : Slot σ :=
  slot shown .ok set

def parseAddress (s : String) : Except String Address :=
  match Address.parse s with
  | .ok address => .ok address
  | .error fault => .error fault.message

/-- Reads the digits behind a number below `2 ^ 64`. -/
def readNatural (value : Nat) : List Char → Except String Nat
  | [] => .ok value
  | c :: rest =>
    match Text.digitBelow? 10 c with
    | none => .error "invalid digit found in string"
    | some d =>
      if value * 10 + d < UInt64.size then readNatural (value * 10 + d) rest
      else .error "number too large to fit in target type"

/-- Reads a number below `2 ^ 64`; a plus sign may stand in front of its digits. -/
def parseNatural (s : String) : Except String UInt64 :=
  match s.toList with
  | [] => .error "cannot parse integer from empty string"
  | '+' :: c :: rest => (readNatural 0 (c :: rest)).map Nat.toUInt64
  | cs => (readNatural 0 cs).map Nat.toUInt64

/-! Levels -/

def channelLevel : Level ChannelFlags where
  options := [
    ("method", slot "--method <METHOD>" Method.parse fun m f => { f with method := some m }),
    ("webhook", textSlot "--webhook <WEBHOOK>" fun s f => { f with webhook := some s }),
    ("telegram-token", textSlot "--telegram-token <TELEGRAM_TOKEN>" fun s f =>
      { f with token := some s }),
    ("chat-id", textSlot "--chat-id <CHAT_ID>" fun s f => { f with chat := some s }),
    ("threshold", textSlot "--threshold <THRESHOLD>" fun s f => { f with days := some s }),
    ("report", { slot "--report <REPORTS>" Report.parse fun r f =>
        { f with reports := f.reports ++ [r] } with repeats := true })]

/-- A page is at least the first one. -/
def pageLevel : Level PageQuery where
  options := [
    ("page", slot "--page <PAGE>" parseNatural fun n q => { q with page := max n 1 }),
    ("limit", slot "--limit <LIMIT>" parseNatural fun n q => { q with limit := n }),
    ("search", textSlot "--search <SEARCH>" fun s q => { q with search := some s })]

def ownerLevel : Level (Option Address) where
  options := [("owner", slot "--owner <OWNER>" parseAddress fun a _ => some a)]

def accountLevel : Level Address where
  place := some (slot "<ADDRESS>" parseAddress fun a _ => a)

def clusterLevel : Level String where
  place := some (textSlot "<ID>" fun s _ => s)

def claimLevel : Level (Address × Bool) where
  switches := [("submit", textSlot "--submit" fun _ (a, _) => (a, true))]
  place := some (slot "<ACCOUNT>" parseAddress fun a (_, submit) => (a, submit))

/-- A command that says nothing more. -/
def plainLevel : Level Unit := {}

def settingLevel : Level Setting where
  options := [
    ("config", textSlot "--config <CONFIG>" fun s r => { r with config := some s }),
    ("network", slot "--network <NETWORK>" Network.parse fun n r => { r with network := some n })]
  hasVersion := true

/-! Commands -/

/-- Every command by the names that lead to it. -/
def paths : List (List String) := [
  ["claim"], ["monitor"], ["explore"], ["help"],
  ["monitor", "info"], ["monitor", "view"], ["monitor", "save"], ["monitor", "delete"],
  ["monitor", "test"], ["monitor", "help"],
  ["explore", "status"], ["explore", "dashboard"], ["explore", "operators"],
  ["explore", "clusters"], ["explore", "validators"], ["explore", "events"],
  ["explore", "cluster"], ["explore", "account"], ["explore", "ranking"], ["explore", "help"]]

/-- Help is given on a command that names lead to. -/
def helpOn (path : List String) : List String → ArgumentFault
  | [] => .help
  | name :: rest =>
    if path ++ [name] ∈ paths then helpOn (path ++ [name]) rest else .unknownCommand name

/-- Commands of which each reads the rest in its own way, and help on them. -/
def commandsAt (path : List String) (table : List (String × (List String → Except ArgumentFault γ))) :
    Commands γ where
  find? name :=
    if name == "help" then some fun rest => .error (helpOn path rest) else table.lookup name
  any := true

def monitorCommands : Commands MonitorCommand :=
  commandsAt ["monitor"] [
    ("info", fun rest => (ownerLevel.read none rest).map .info),
    ("view", fun rest => (plainLevel.read () rest).map fun _ => .view),
    ("save", fun rest => (channelLevel.read {} rest).map .save),
    ("delete", fun rest => (plainLevel.read () rest).map fun _ => .delete),
    ("test", fun rest => (channelLevel.read {} rest).map .test)]

def readPage (make : PageQuery → ExploreCommand) (rest : List String) :
    Except ArgumentFault ExploreCommand :=
  (pageLevel.read {} rest).map make

def exploreCommands : Commands ExploreCommand :=
  commandsAt ["explore"] [
    ("status", fun rest => (plainLevel.read () rest).map fun _ => .status),
    ("dashboard", fun rest => (plainLevel.read () rest).map fun _ => .dashboard),
    ("operators", readPage (.page .operators)),
    ("clusters", readPage (.page .clusters)),
    ("validators", readPage (.page .validators)),
    ("events", readPage (.page .events)),
    ("cluster", fun rest => (clusterLevel.read "" rest).map .cluster),
    ("account", fun rest => (accountLevel.read default rest).map .account),
    ("ranking", readPage .ranking)]

def readMonitor (rest : List String) : Except ArgumentFault Task :=
  (plainLevel.readWith monitorCommands () false rest).map fun (_, c) => .monitor c

def readExplore (rest : List String) : Except ArgumentFault Task :=
  (plainLevel.readWith exploreCommands () false rest).map fun (_, c) => .explore c

def commands : Commands Task :=
  commandsAt [] [
    ("claim", fun rest =>
      (claimLevel.read (default, false) rest).map fun (account, submit) => .claim account submit),
    ("monitor", readMonitor),
    ("explore", readExplore)]

/-- The configuration file that is read when none is named. -/
def usualConfig : String := "config.toml"

/-- Reads a command line. The environment may name a configuration file. -/
def Arguments.parse (preset : Option String) (arguments : List String) :
    Except ArgumentFault Arguments :=
  (settingLevel.readWith commands {} preset.isSome arguments).map fun (setting, task) =>
    ⟨(setting.config <|> preset).getD usualConfig, setting.network, task⟩

end ClusterDesk.Command
