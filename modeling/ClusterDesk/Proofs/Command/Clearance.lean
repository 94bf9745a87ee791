import ClusterDesk.Command.Run
import ClusterDesk.Proofs.Claim.Dispatch
import ClusterDesk.Proofs.Command.Switches

/-!
# Clearance of a submission

A run of the program hands in one transaction at most. Before it does, the node has named the chain
that was selected, something was left to claim, and the contract has shown the root of the
entitlement.
-/

namespace ClusterDesk

open Surroundings (atBackend atNode decisive)

/-- All that was asked and told so far. -/
abbrev Surroundings.Asked := List (Exchange Surroundings.Question Surroundings.Answer)

theorem Wallet.connect_eq_ok {w connected : Wallet} {text : String} :
    w.connect text = .ok connected ↔ ∃ key node, Wallet.key? text = some key ∧
      Node.endpoint? w.chain.rpcUrl = some node ∧
        connected = { w with session := some { key := key, node := node } } := by
  unfold connect
  cases hkey : key? text with
  | none => simp
  | some key =>
    cases hnode : Node.endpoint? w.chain.rpcUrl with
    | none => simp
    | some node => simp [eq_comm]

namespace Command

-- Without this, comparing what is asked takes the addresses of the backend and the key apart.
attribute [local irreducible] Backend.Operation.request Secp256k1.Key.address

/-- The wallet of a place, with the key that the environment has told. -/
structure Connected (p : Place) (value : Option String) (w : Wallet) : Prop where
  chain : w.chain = p.chain
  unnamed : ∀ s, w.session = some s → s.chainId = none
  endpoint : ∀ s, w.session = some s → Node.endpoint? p.chain.rpcUrl = some s.node
  key : ∀ s, w.session = some s → ∃ text, value = some text ∧ Wallet.key? text = some s.key

theorem connected_of_none (p : Place) (value : Option String) :
    Connected p value { chain := p.chain } :=
  ⟨rfl, by simp, by simp, by simp⟩

theorem connectWallet_course (p : Place) :
    (connectWallet p).Ensures fun asked result => ∃ value,
      asked = [⟨.variable p.config.keyVariable, value⟩] ∧
        ∀ w, result = .ok w → Connected p value w := by
  simp only [connectWallet, Dialogue.ensures_ask]
  intro value
  cases value with
  | none =>
    rw [Dialogue.ensures_done]
    refine ⟨none, rfl, ?_⟩
    rintro w ⟨rfl⟩
    exact connected_of_none p none
  | some text =>
    dsimp only
    split
    case isTrue hblank =>
      rw [Dialogue.ensures_done]
      refine ⟨some text, rfl, ?_⟩
      rintro w ⟨rfl⟩
      exact connected_of_none p (some text)
    case isFalse hsome =>
      split
      case h_1 connected hconnected =>
        rw [Dialogue.ensures_done]
        refine ⟨some text, rfl, ?_⟩
        rintro w ⟨rfl⟩
        obtain ⟨key, node, hkey, hnode, rfl⟩ := Wallet.connect_eq_ok.mp hconnected
        exact ⟨rfl, by simp, by simp [hnode], by simp [hkey]⟩
      case h_2 fault hfailed =>
        rw [Dialogue.ensures_done]
        exact ⟨some text, rfl, by simp⟩

theorem ensures_proceed {α : Type} {output : List String} {result : Except Fault α}
    {next : α → Surroundings.Talk Outcome} {P : Surroundings.Asked → Prop} (hfailed : P [])
    (hnext : ∀ a, result = .ok a → (next a).Ensures fun asked _ => P asked) :
    (proceed output result next).Ensures fun asked _ => P asked := by
  cases result with
  | error fault => exact (Dialogue.ensures_done _ _).mpr hfailed
  | ok a => exact hnext a rfl

theorem ofDesk_eq_ok {α : Type} {result : Except Failure α} {a : α} (h : ofDesk result = .ok a) :
    result = .ok a := by
  cases result with
  | error failure => simp [ofDesk] at h
  | ok b => simpa [ofDesk] using h

/-- How a snapshot that was found is handed in: the contract shows its root first. -/
structure Submits (c : Claim.Carrier) (snapshot : Snapshot) (asked : Surroundings.Asked)
    (x : Exchange Surroundings.Question Surroundings.Answer) (s : Wallet.Session) : Prop where
  claimable : snapshot.hasClaimable = true
  root : ∃ reply rest,
    asked = ⟨.node ⟨c.contract.node, .call c.contract.address Calldata.root⟩, reply⟩ :: rest ∧
      Node.HoldsWord reply snapshot.entitlement.root ∧
        c.HandsIn snapshot.entitlement.claimCall rest x s

theorem submitClaim_course (c : Claim.Carrier) (hunnamed : c.Unnamed) (desk : Claim.Desk)
    (snapshot : Snapshot) (hknown : desk.snapshot = some snapshot) (shown : List String) :
    (submitClaim c desk snapshot shown).Ensures fun asked _ =>
      Dialogue.Once Surroundings.Question.isSubmission
        (fun asked x => ∃ s, Submits c snapshot asked x s) asked := by
  simp only [submitClaim, Dialogue.ensures_bind, Surroundings.ensures_atNode]
  refine (c.contract.word_course _ _).mono ?_
  rintro log root ⟨reply, rfl, hword⟩
  have hread : ∀ x ∈ [(⟨.node ⟨c.contract.node, .call c.contract.address Calldata.root⟩, reply⟩ :
      Exchange Surroundings.Question Surroundings.Answer)], x.1.isSubmission = false := by
    simp [Surroundings.Question.isSubmission, Node.Request.isSubmission]
  refine (ensures_proceed (P := fun asked => Dialogue.Once _ _ (_ ++ asked)) ?_ ?_)
  · rw [List.append_nil]
    exact .never hread
  · intro root hroot
    have hroot := hword root (ofDesk_eq_ok hroot)
    split
    case isTrue hforeign =>
      rw [Dialogue.ensures_done, List.append_nil]
      exact .never hread
    case isFalse hsame =>
      obtain rfl : root = snapshot.entitlement.root := by simpa using hsame
      simp only [Dialogue.ensures_bind, Dialogue.ensures_done, List.append_nil]
      refine (c.carry_claim hunnamed desk).mono ?_
      rintro carried ⟨⟨result, left⟩, t⟩ honce settled ⟨error, c⟩ hsettled
      have hlater := (t.carry_settle left).of_yields hsettled
      refine .behind hread (.ahead ?_ fun x hx =>
        Surroundings.Question.isSubmission_of_aside (hlater x hx))
      refine honce.mono ?_
      rintro asked x ⟨known, s, hmay, hin⟩
      obtain rfl : snapshot = known := Option.some.inj (hknown.symm.trans hmay.known)
      exact ⟨s, hmay.claimable, reply, asked, rfl, hroot, hin⟩

/-- What has been asked and told when a claim for an account is handed in to a node. -/
structure Cleared (chain : Chain) (keyVariable : String) (account : Address)
    (asked : Surroundings.Asked) (node : Web.Url) (handed : SignedTransaction)
    (entitlement : Entitlement) : Prop where
  endpoint : Node.endpoint? chain.rpcUrl = some node
  entitled : Claim.decoded account asked = some entitlement
  /-- The node has named the chain, at first and again for the transaction, and it was read for what
  was claimed and for the root. -/
  told : ∃ named claimed root renamed word,
    decisive asked = [⟨.node ⟨node, .chainId⟩, named⟩,
      ⟨.node ⟨node, .call chain.contract (Calldata.claimed entitlement.account)⟩, claimed⟩,
      ⟨.node ⟨node, .call chain.contract Calldata.root⟩, root⟩,
      ⟨.node ⟨node, .chainId⟩, renamed⟩] ∧
    Node.NamesChain named chain.chainId ∧ Node.HoldsWord claimed word ∧
    (Amount.ofWord word).wei < entitlement.cumulative.wei ∧
    Node.HoldsWord root entitlement.root ∧ Node.NamesChain renamed chain.chainId
  signed : ∃ text key t, ⟨.variable keyVariable, some text⟩ ∈ asked ∧
    Wallet.key? text = some key ∧ handed = t.sign key ∧
      Wallet.Makes t chain.chainId chain.contract (Calldata.claim entitlement.claimCall)

def HandsInCleared (chain : Chain) (keyVariable : String) (account : Address)
    (asked : Surroundings.Asked) (x : Exchange Surroundings.Question Surroundings.Answer) : Prop :=
  ∃ node handed entitlement, x.1 = .node ⟨node, .submit handed⟩ ∧
    Cleared chain keyVariable account asked node handed entitlement

private theorem cleared_of_submits {p : Place} {account : Address} {node : Web.Url}
    {named : Web.Reply} {value : Option String} {c : Claim.Carrier}
    {pinged : List (Exchange Node.Question Node.Answer)} {searching front : Surroundings.Asked}
    {snapshot : Snapshot} {x : Exchange Surroundings.Question Surroundings.Answer}
    {s : Wallet.Session} (hnode : Node.endpoint? p.chain.rpcUrl = some node)
    (hnamed : Node.NamesChain named p.chain.chainId) (hwallet : Connected p value c.wallet)
    (hcontract : c.contract = ⟨node, p.chain.chainId, p.chain.contract⟩)
    (haside : ∀ y ∈ pinged, y.1.IsAside) (hlookup : Claim.Lookup c account searching (.ok snapshot))
    (hsubmits : Submits c snapshot front x s) :
    HandsInCleared p.chain p.config.keyVariable account
      ([⟨.node ⟨node, .chainId⟩, named⟩] ++ ([⟨.variable p.config.keyVariable, value⟩] ++
        (pinged.map Surroundings.ofNode ++ (searching ++ front)))) x := by
  obtain ⟨backend, contract, w, endings⟩ := c
  obtain rfl : contract = ⟨node, p.chain.chainId, p.chain.contract⟩ := hcontract
  obtain ⟨hclaimable, root, rest, rfl, hroot, hin⟩ := hsubmits
  obtain ⟨renamed, hasked, hrenamed⟩ := hin.named
  obtain ⟨t, hx, hmakes⟩ := hin.signed
  obtain ⟨hdecoded, claimed, word, hread, hword, hless⟩ := hlookup.of_claimable hclaimable
  obtain ⟨text, rfl, hkey⟩ := hwallet.key s hin.session
  obtain rfl : node = s.node :=
    Option.some.inj (hnode.symm.trans (hwallet.endpoint s hin.session))
  rw [hwallet.chain] at hmakes hrenamed
  refine ⟨s.node, t.sign s.key, snapshot.entitlement, hx, ?_⟩
  constructor
  case endpoint => exact hnode
  case entitled =>
    simp only [Claim.decoded_append, Claim.decoded_ofNode, hdecoded]
    rfl
  case told =>
    refine ⟨named, claimed, root, renamed, word, ?_, hnamed, hword, hless, hroot, hrenamed⟩
    have hpinged : decisive (pinged.map Surroundings.ofNode) = [] :=
      Surroundings.decisive_eq_nil.mpr (List.forall_mem_map.mpr haside)
    have hbehind : decisive (⟨.node ⟨s.node, .call p.chain.contract Calldata.root⟩, root⟩ :: rest) =
        _ :: decisive rest := List.filter_cons_of_pos rfl
    simp only [Surroundings.decisive_append, hpinged, hread, hbehind, hasked]
    rfl
  case signed => exact ⟨text, s.key, t, by simp, hkey, rfl, hmakes⟩

theorem claim_cleared (p : Place) (account : Address) (submit : Bool) :
    (claim p account submit).Ensures fun asked _ =>
      Dialogue.Once Surroundings.Question.isSubmission (fun asked x => submit = true ∧
        HandsInCleared p.chain p.config.keyVariable account asked x) asked := by
  -- The chain is connected to, then the wallet; the node is pinged and the rewards are searched.
  -- None of this hands anything in, so that all is left to the last part.
  refine Dialogue.Once.ensures_bind ?_
  rw [Surroundings.ensures_atNode]
  refine (ClaimContract.connect_course p.chain).mono ?_
  rintro log result (@⟨_, fault, hfailed⟩ | @⟨node, named, hnode, hnamed⟩)
  · refine ⟨List.forall_mem_map.mpr hfailed, ?_⟩
    rw [Dialogue.ensures_done]
    exact .never (by simp)
  · refine ⟨List.forall_mem_singleton.mpr rfl, ?_⟩
    refine Dialogue.Once.ensures_bind ((connectWallet_course p).mono ?_)
    rintro _ result ⟨value, rfl, hwallet⟩
    refine ⟨List.forall_mem_singleton.mpr rfl, ?_⟩
    refine ensures_proceed (.never (by simp)) fun w hw => ?_
    have hconnected := hwallet w hw
    refine Dialogue.Once.ensures_bind ?_
    rw [Surroundings.ensures_atNode]
    refine (Node.asks_isHealthy node).ensures.mono ?_
    intro pinged healthy haside
    refine ⟨List.forall_mem_map.mpr fun y hy => Node.Request.isSubmission_of_aside (haside y hy), ?_⟩
    refine Dialogue.Once.ensures_bind ((Claim.Carrier.carry_search _ _ account).mono ?_)
    rintro searching ⟨⟨result, desk⟩, c⟩ ⟨rfl, hunsubmitted, hlookup, hfound⟩
    refine ⟨hunsubmitted, ?_⟩
    refine ensures_proceed (.never (by simp)) fun snapshot hsnapshot => ?_
    obtain rfl := ofDesk_eq_ok hsnapshot
    split
    case isTrue hsubmit =>
      refine (submitClaim_course _ (by exact hconnected.unnamed) desk snapshot (hfound _ rfl)
        _).mono ?_
      intro front _ honce
      refine honce.mono fun asked x ⟨s, hsubmits⟩ => ⟨hsubmit, ?_⟩
      exact cleared_of_submits hnode hnamed hconnected rfl haside hlookup hsubmits
    case isFalse hshow =>
      rw [Dialogue.ensures_done]
      exact .never (by simp)

theorem asks_proceed {α : Type} {output : List String} {result : Except Fault α}
    {next : α → Surroundings.Talk Outcome} {P : Surroundings.Question → Prop}
    (hnext : ∀ a, (next a).Asks P) : (proceed output result next).Asks P := by
  cases result with
  | error fault => trivial
  | ok a => exact hnext a

theorem asks_connectWallet (p : Place) :
    (connectWallet p).Asks fun q => q.isDecisive = false := by
  refine ⟨rfl, fun key => ?_⟩
  cases key with
  | none => trivial
  | some text =>
    dsimp only
    split
    · trivial
    · split
      · trivial
      · trivial

theorem asks_monitor (p : Place) (command : MonitorCommand) :
    (monitor p command).Asks fun q => q.isDecisive = false := by
  refine (asks_connectWallet p).bind fun wallet => asks_proceed fun w => ?_
  refine Dialogue.Asks.bind ?_ fun lines => asks_proceed fun lines => trivial
  refine (Dialogue.asks_true _).relay fun q _ => ?_
  cases q with
  | signer => trivial
  | sign message => trivial
  | clock => trivial
  | _ => exact Surroundings.asks_atBackend _

theorem asks_explore (p : Place) (command : ExploreCommand) :
    (explore p command).Asks fun q => q.isDecisive = false :=
  (Surroundings.asks_atBackend _).bind fun _ => asks_proceed fun _ => trivial

theorem execute_cleared (p : Place) (task : Task) :
    (execute p task).Ensures fun asked _ =>
      Dialogue.Once Surroundings.Question.isSubmission (fun asked x => ∃ account,
        task = .claim account true ∧
          HandsInCleared p.chain p.config.keyVariable account asked x) asked := by
  cases task with
  | claim account submit =>
    refine (claim_cleared p account submit).mono fun asked _ honce => honce.mono ?_
    rintro front x ⟨rfl, hcleared⟩
    exact ⟨account, rfl, hcleared⟩
  | monitor command =>
    refine (asks_monitor p command).ensures.mono fun asked _ h => .never fun x hx => ?_
    exact Surroundings.Question.isSubmission_of_aside (h x hx)
  | explore command =>
    refine (asks_explore p command).ensures.mono fun asked _ h => .never fun x hx => ?_
    exact Surroundings.Question.isSubmission_of_aside (h x hx)

theorem runWith_cleared (config : Config) (arguments : Arguments) :
    (runWith config arguments).Ensures fun asked _ =>
      Dialogue.Once Surroundings.Question.isSubmission (fun asked x => ∃ chain account,
        config.chain? (arguments.network.getD config.active) = some chain ∧
          arguments.task = .claim account true ∧
            HandsInCleared chain config.keyVariable account asked x) asked := by
  unfold runWith
  dsimp only
  split
  case h_1 hnone =>
    rw [Dialogue.ensures_done]
    exact .never (by simp)
  case h_2 chain hchain =>
    split
    case h_3 client hclient =>
      refine (execute_cleared ⟨config, chain, client⟩ arguments.task).mono
        fun asked _ honce => honce.mono ?_
      rintro front x ⟨account, htask, hcleared⟩
      exact ⟨chain, account, hchain, htask, hcleared⟩
    all_goals
      rw [Dialogue.ensures_done]
      exact .never (by simp)

/-- A claim that is to be submitted, as arguments and a configuration file select it. -/
structure Selection (arguments : List String) where
  /-- The configuration file that the environment names. -/
  preset : Option String
  parsed : Arguments
  text : String
  config : Config
  chain : Chain
  account : Address
  parse_eq : Arguments.parse preset arguments = .ok parsed
  config_eq : Config.parse text = .ok config
  chain_eq : config.chain? (parsed.network.getD config.active) = some chain
  task_eq : parsed.task = .claim account true

def Selection.opening {arguments : List String} (s : Selection arguments) : Surroundings.Asked :=
  [⟨.variable configVariable, s.preset⟩, ⟨.file s.parsed.config, some s.text⟩]

/-- A run hands in one transaction at most, and only when it was cleared for what it selected. -/
structure Gated (arguments : List String) (asked : Surroundings.Asked) : Prop where
  once : (asked.filter fun x => x.1.isSubmission).length ≤ 1
  wanted : (∃ x ∈ asked, x.1.isSubmission = true) →
    ∃ front rest, arguments = front ++ "claim" :: rest ∧ "--submit" ∈ rest
  cleared : ∀ front back node handed reply,
    asked = front ++ ⟨.node ⟨node, .submit handed⟩, reply⟩ :: back →
      ∃ (s : Selection arguments) (entitlement : Entitlement) (behind : Surroundings.Asked),
        front = s.opening ++ behind ∧
          Cleared s.chain s.config.keyVariable s.account behind node handed entitlement

theorem run_cleared (arguments : List String) :
    (run arguments).Ensures fun asked _ =>
      Dialogue.Once Surroundings.Question.isSubmission (fun asked x =>
        ∃ (s : Selection arguments) (behind : Surroundings.Asked), asked = s.opening ++ behind ∧
          HandsInCleared s.chain s.config.keyVariable s.account behind x) asked := by
  simp only [run, Dialogue.ensures_ask]
  intro preset
  cases hparse : Arguments.parse preset arguments with
  | error fault =>
    rw [Dialogue.ensures_done]
    exact .never (List.forall_mem_singleton.mpr rfl)
  | ok parsed =>
    simp only [Dialogue.ensures_ask]
    intro text
    have hopening : ∀ x ∈ ([⟨.variable configVariable, preset⟩, ⟨.file parsed.config, text⟩] :
        Surroundings.Asked), x.1.isSubmission = false :=
      List.forall_mem_cons.mpr ⟨rfl, List.forall_mem_singleton.mpr rfl⟩
    split
    case h_1 config htext =>
      obtain ⟨text, rfl, hconfig⟩ := Option.map_eq_some_iff.mp htext
      refine (runWith_cleared config parsed).mono fun asked _ honce => ?_
      refine .behind hopening (honce.mono ?_)
      rintro front x ⟨chain, account, hchain, htask, hcleared⟩
      exact ⟨⟨preset, parsed, text, config, chain, account, hparse, hconfig, hchain, htask⟩, front,
        rfl, hcleared⟩
    case h_2 hnone =>
      rw [Dialogue.ensures_done]
      exact .never hopening

/-- A configuration with a single chain, its fields in a row. -/
def frugalConfig : String :=
  "chains=[['mainnet',1,'http://a','http://n','0000000000000000000000000000000000000002'," ++
    "'e','s','c']]"

def frugalReward : String :=
  "[[\"0000000000000000000000000000000000000003\",\"5\"]]"

/-- A node of the first chain, with a contract that holds nothing but zeros. -/
def zeroNode : Node.Request → Web.Reply
  | .chainId => .answered 200 "\x7b\"result\":\"1\"\x7d"
  | .call _ _ => .answered 200
    "\x7b\"result\":\"0000000000000000000000000000000000000000000000000000000000000000\"\x7d"
  | .feeHistory => .answered 200 "\x7b\"result\":\x7b\"baseFeePerGas\":[1,1]\x7d\x7d"
  | .submit _ => .dropped
  | _ => .answered 200 "\x7b\"result\":\"0x1\"\x7d"

def willing : (q : Surroundings.Question) → Unit → Surroundings.Answer q × Unit
  | .file _, s => (some frugalConfig, s)
  | .variable name, s => (if name = configVariable then none else some
      "0000000000000000000000000000000000000000000000000000000000000001", s)
  | .backend _, s => (.answered 200 frugalReward, s)
  | .node q, s => (q.request.answered (zeroNode q.request), s)
  | .wait _, s => ((), s)

def submission : List String :=
  ["claim", "0000000000000000000000000000000000000003", "--submit"]

end Command

end ClusterDesk
