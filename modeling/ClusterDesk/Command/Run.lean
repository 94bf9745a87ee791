import ClusterDesk.Carriers
import ClusterDesk.Command.Arguments
import ClusterDesk.Command.Outcome
import ClusterDesk.Config.Text
import ClusterDesk.Explorer.Overview

/-!
# Running commands

A run reads its arguments and its configuration, connects what the command needs, and writes what
came of it. Results that were written before a fault stay written.
-/

namespace ClusterDesk.Command

open Surroundings (Talk atBackend atNode)

/-- Where a command works: a configured chain, and a client for its backend. -/
structure Place where
  config : Config
  chain : Chain
  client : Backend.Client

/-- Goes on with a result; a fault ends the run behind the lines written so far. -/
def proceed (output : List String) (result : Except Fault α) (next : α → Talk Outcome) :
    Talk Outcome :=
  match result with
  | .ok a => next a
  | .error fault => .done (.failed output fault)

def ofDesk : Except Failure α → Except Fault α
  | .ok a => .ok a
  | .error failure => .error (.operation failure)

/-! Wallets -/

/-- Connects the wallet with the key in the environment. Without one it stays disconnected. -/
def connectWallet (p : Place) : Talk (Except Fault Wallet) :=
  .ask (.variable p.config.keyVariable) fun key =>
    let wallet : Wallet := { chain := p.chain }
    match key with
    | none => .done (.ok wallet)
    | some key =>
      if Text.allBlank key then .done (.ok wallet)
      else
        match wallet.connect key with
        | .ok wallet => .done (.ok wallet)
        | .error fault => .done (.error (.wallet fault))

/-! Claims -/

/-- How the token is called. -/
def tokenSymbol : String := "SSV"

def tokens (a : Amount) : String :=
  a.shown ++ " " ++ tokenSymbol

def snapshotLines (account : Address) (s : Snapshot) : List String := [
  "Account:   " ++ account.checksummed,
  "Eligible:  " ++ tokens s.eligible,
  "Claimed:   " ++ tokens s.claimed,
  "Claimable: " ++ tokens s.claimable]

def stateLine : Claim.State → String
  | .confirmed _ link => "Claim confirmed: " ++ link
  | .proposed link => "Claim proposed to your Safe, awaiting co-signers: " ++ link
  | .idle => "Claim state: Idle"
  | .searching => "Claim state: Searching"
  | .ready => "Claim state: Ready"
  | .claiming => "Claim state: Claiming"
  | .failed message => "Claim state: Failed " ++ message

/-- Claims a snapshot that was found and shown, unless its root is not the contract's. -/
def submitClaim (c : Claim.Carrier) (desk : Claim.Desk) (snapshot : Snapshot)
    (shown : List String) : Talk Outcome :=
  (atNode c.contract.root).bind fun root =>
  proceed shown (ofDesk root) fun root =>
    if root ≠ snapshot.entitlement.root then
      .done (.failed shown (.foreignRoot snapshot.entitlement.root root))
    else
      (c.carry desk.claim).bind fun ((result, desk), c) =>
      (c.carry desk.settleBackground).bind fun ((error, _), _) =>
        let outcome := match result with
          | .ok state => .success (shown ++ [stateLine state])
          | .error failure => .failed shown (.operation failure)
        .done (Outcome.report outcome error)

/-- Looks an account up, and claims its rewards if that is wanted. -/
def claim (p : Place) (account : Address) (submit : Bool) : Talk Outcome :=
  (atNode (ClaimContract.connect p.chain)).bind fun
    | .error fault => .done (.failed [] (.contract fault))
    | .ok contract =>
      (connectWallet p).bind fun wallet =>
      proceed [] wallet fun wallet =>
      (atNode contract.isHealthy).bind fun _ =>
        let c : Claim.Carrier :=
          { backend := p.client.base, contract := contract, wallet := wallet }
        let desk : Claim.Desk := { links := p.chain.links }
        (c.carry (desk.search account)).bind fun ((result, desk), c) =>
        proceed [] (ofDesk result) fun snapshot =>
          let shown := snapshotLines account snapshot
          if submit then submitClaim c desk snapshot shown else .done (.success shown)

/-! Alerts -/

/-- The desk after a change that may be refused. -/
def changed : Except Failure α × Alerts.Desk → Except Failure Alerts.Desk
  | (.ok _, d) => .ok d
  | (.error failure, _) => .error failure

/-- A change that is made only if it was asked for. -/
def given (value : Option α) (change : α → Alerts.Desk → Except Failure α' × Alerts.Desk)
    (d : Alerts.Desk) : Except Failure Alerts.Desk :=
  match value with
  | none => .ok d
  | some a => changed (change a d)

/-- Switches a report on. -/
def enableReport (network : Network) (d : Alerts.Desk) (report : Report) :
    Except Failure Alerts.Desk :=
  if d.draft.reports.get report then .ok d else changed (d.toggleReport network report)

namespace ChannelFlags

/-- Lays what was said over the open form. -/
def applyTo (f : ChannelFlags) (network : Network) (d : Alerts.Desk) :
    Except Failure Alerts.Desk := do
  let d ← given f.method (fun a d => d.setMethod a) d
  let d ← given f.webhook (fun s d => d.setWebhook s) d
  let d ← given f.token (fun s d => d.setToken s) d
  let d ← given f.chat (fun s d => d.setChat s) d
  let d ← given f.days (fun s d => d.typeDays s) d
  let d ← given f.days (fun _ d => d.commitDays) d
  f.reports.foldlM (enableReport network) d

end ChannelFlags

/-- Fetches the stored configuration into the form, or opens an empty one. -/
def openForm (d : Alerts.Desk) (network : Network) : Alerts.Talk (Except Fault Alerts.Desk) :=
  match d.state with
  | .storedHidden => (d.view network).bind fun r => .done (ofDesk (changed r))
  | .nothingStored _ => .done (ofDesk (changed d.startConfiguration))
  | .notOwner => .done (.error .noCluster)
  | .unknown => .done (.ok d)
  | .storedVisible => .done (.ok d)

def summaryLines (owner : Address) (s : Alerts.Summary) : List String := [
  "Owner:           " ++ owner.checksummed,
  "Clusters:        " ++ toString s.clusters.toNat,
  "Active clusters: " ++ toString s.activeClusters.toNat,
  "Monitoring:      " ++ (if s.monitored then "true" else "false"),
  "Latest block:    " ++ toString s.block.toNat]

def draftLines (d : Draft) : List String :=
  ["Method:      " ++ d.method.name, "Threshold:   " ++ toString d.days ++ " days"] ++
    Report.all.map (fun report =>
      (if d.reports.get report then "[x] " else "[ ] ") ++ report.label) ++
    (if d.reports = {} then ["(no reports enabled)"] else [])

def noticeLines (d : Alerts.Desk) : List String :=
  ((d.noticeAt 0).map Alerts.Notice.text).toList

/-- What the connected owner asks for, and the lines that tell of it. -/
def monitorConnected (network : Network) (d : Alerts.Desk) :
    MonitorCommand → Alerts.Talk (Except Fault (List String))
  | .info _ => .done (.ok [])
  | .view =>
    (d.view network).bind fun r =>
      .done (ofDesk (changed r) |>.map fun d => draftLines d.draft)
  | .save flags =>
    (openForm d network).andThen fun d =>
      match flags.applyTo network d with
      | .error failure => .done (.error (.operation failure))
      | .ok d =>
        (d.save network).bind fun r =>
          .done (ofDesk (changed r) |>.map fun d => draftLines d.draft ++ noticeLines d)
  | .delete =>
    d.delete.bind fun r => .done (ofDesk (changed r) |>.map noticeLines)
  | .test flags =>
    (d.test flags.channel).bind fun r => .done (ofDesk (changed r) |>.map noticeLines)

/-- Informs about an owner. -/
def monitorInfo (owner : Address) : Alerts.Talk (Except Fault (List String)) :=
  (Alerts.Desk.connect {} owner).bind fun (r, _) =>
    .done (ofDesk r |>.map (summaryLines owner))

/-- Connects the owner and does what it asks for. -/
def monitorOwner (network : Network) (owner : Address) (command : MonitorCommand) :
    Alerts.Talk (Except Fault (List String)) :=
  (Alerts.Desk.connect {} owner).bind fun r =>
    match changed r with
    | .error failure => .done (.error (.operation failure))
    | .ok d => monitorConnected network d command

/-- The alert operation that a command needs, given the connected address. -/
def monitorTalk (network : Network) (connected : Option Address) :
    MonitorCommand → Alerts.Talk (Except Fault (List String))
  | .info owner =>
    match owner <|> connected with
    | some owner => monitorInfo owner
    | none => .done (.error .noOwner)
  | command =>
    match connected with
    | some owner => monitorOwner network owner command
    | none => .done (.error .noWallet)

def monitor (p : Place) (command : MonitorCommand) : Talk Outcome :=
  (connectWallet p).bind fun wallet =>
  proceed [] wallet fun wallet =>
    let c : Alerts.Carrier := { backend := p.client.base, wallet := wallet }
    (c.carry (monitorTalk p.chain.network wallet.address command)).bind fun lines =>
      proceed [] lines fun lines => .done (.success lines)

/-! Explorer -/

def rankingLine (c : ClusterDetails) : String :=
  c.id ++ "  runway " ++ c.runwayText ++ "  owner " ++ c.owner

/-- A value of the backend that has to be there. -/
def required (op : Backend.Operation) (write : op.Result → Json) :
    Explorer.Talk (Except Failure (List String)) :=
  .ask op fun r => .done (r.map fun a => [(write a).indented])

def exploreTalk : ExploreCommand → Explorer.Talk (Except Failure (List String))
  | .status => required .status fun s => s.toJson
  | .dashboard => required .dashboard fun d => d.toJson
  | .page listing query =>
    (Explorer.listing listing query).bind fun page =>
      .done (.ok [(page.toJson listing.rowJson).indented])
  | .cluster id =>
    (Explorer.clusterOverview id).bind fun r => .done (r.map fun o => [o.toJson.indented])
  | .account account =>
    (Explorer.accountOverview account.checksummed).bind fun o => .done (.ok [o.toJson.indented])
  | .ranking query =>
    (Explorer.listing .ranking query).bind fun page => .done (.ok (page.items.map rankingLine))

def explore (p : Place) (command : ExploreCommand) : Talk Outcome :=
  (atBackend ((exploreTalk command).relay fun op => op.perform p.client.base)).bind fun r =>
    proceed [] (ofDesk r) fun lines => .done (.success lines)

/-! Runs -/

def execute (p : Place) : Task → Talk Outcome
  | .claim account submit => claim p account submit
  | .monitor command => monitor p command
  | .explore command => explore p command

/-- The backend client of a chain. -/
def clientPlan (config : Config) (chain : Chain) : Backend.ClientPlan where
  base := chain.apiUrl
  concurrent := config.api.concurrent.toNat
  rate := config.api.rate.toNat

/-- Does a task under a configuration. -/
def runWith (config : Config) (arguments : Arguments) : Talk Outcome :=
  let network := arguments.network.getD config.active
  match config.chain? network with
  | none => .done (.failed [] (.noChain network))
  | some chain =>
    match (clientPlan config chain).client with
    | .error .noRate => .done (.failed [] .noClient)
    | .error .tooManyPermits =>
      .done (.broken Backend.ClientFault.tooManyPermits.message)
    | .ok client => execute ⟨config, chain, client⟩ arguments.task

/-- The environment variable that may name the configuration file. -/
def configVariable : String := "MONITORSSV_CONFIG"

/-- A whole run. -/
def run (arguments : List String) : Talk Outcome :=
  .ask (.variable configVariable) fun preset =>
    match Arguments.parse preset arguments with
    | .error fault => .done fault.outcome
    | .ok arguments =>
      .ask (.file arguments.config) fun text =>
        match text.map Config.parse with
        | some (.ok config) => runWith config arguments
        | _ => .done (.failed [] .config)

end ClusterDesk.Command
