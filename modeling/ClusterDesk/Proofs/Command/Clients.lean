import ClusterDesk.Command.Run
import ClusterDesk.Proofs.Config.Rules
import ClusterDesk.Proofs.Json.Records

/-!
# Clients of accepted configurations

The rules of a configuration see to it that a client can be made, but for one number: they put no
upper bound on how many requests may be under way at once, and a client does.
-/

namespace ClusterDesk

namespace Backend.ClientPlan

theorem exists_client_iff (p : ClientPlan) :
    (∃ client, p.client = .ok client) ↔ 0 < p.rate ∧ max p.concurrent 1 ≤ permitBound := by
  unfold client
  split
  case isTrue hrate =>
    split
    case isTrue hpermits => simp [hrate, hpermits]
    case isFalse hpermits => simp [hpermits]
  case isFalse hrate => simp [hrate]

theorem client_eq_tooManyPermits_iff (p : ClientPlan) :
    p.client = .error .tooManyPermits ↔ 0 < p.rate ∧ permitBound < max p.concurrent 1 := by
  unfold client
  split
  case isTrue hrate =>
    split
    case isTrue hpermits => simp [Nat.not_lt.mpr hpermits]
    case isFalse hpermits => simp [hrate, Nat.not_le.mp hpermits]
  case isFalse hrate => simp [hrate]

/-- A client is made of its plan; without permits it gets one. -/
theorem fields_of_client {p : ClientPlan} {client : Client} (h : p.client = .ok client) :
    client.base = p.base ∧ client.permits = max p.concurrent 1 ∧ client.rate = p.rate := by
  unfold ClientPlan.client at h
  split at h
  case isTrue =>
    split at h
    case isTrue =>
      obtain rfl := Except.ok.inj h
      exact ⟨rfl, rfl, rfl⟩
    case isFalse => simp at h
  case isFalse => simp at h

end Backend.ClientPlan

namespace Config

theorem validate_of_parse {text : String} {config : Config} (h : parse text = .ok config) :
    config.validate = .ok () := by
  unfold parse at h
  split at h
  case h_1 c hdecoded =>
    split at h
    case h_1 hvalid =>
      obtain rfl := Except.ok.inj h
      exact hvalid
    case h_2 => simp at h
  case h_2 => simp at h

end Config

namespace Command

open Backend (permitBound)

/-- What a run on a chain comes to: it works with a client of just the configured limits, or there
are more permits than a client can hold and it breaks off. -/
structure Equipped (config : Config) (arguments : Arguments) (chain : Chain) : Prop where
  client_iff : (∃ client, (clientPlan config chain).client = .ok client) ↔
    config.api.concurrent.toNat ≤ permitBound
  made : ∀ client, (clientPlan config chain).client = .ok client →
    client.base = chain.apiUrl ∧ client.permits = config.api.concurrent.toNat ∧
      client.rate = config.api.rate.toNat ∧
      runWith config arguments = execute ⟨config, chain, client⟩ arguments.task
  broken : permitBound < config.api.concurrent.toNat →
    (clientPlan config chain).client = .error .tooManyPermits ∧
      runWith config arguments = .done (.broken Backend.ClientFault.tooManyPermits.message)

theorem equipped_of_validate {config : Config} {arguments : Arguments} {chain : Chain}
    (h : config.validate = .ok ())
    (hchain : config.chain? (arguments.network.getD config.active) = some chain) :
    Equipped config arguments chain := by
  obtain ⟨hrate, hconcurrent, -⟩ := config.validate_eq_ok_iff.mp h
  have hstarts : 0 < (clientPlan config chain).rate := UInt32.pos_iff_ne_zero.mpr hrate
  have hpermits : max (clientPlan config chain).concurrent 1 = config.api.concurrent.toNat :=
    Nat.max_eq_left (UInt64.pos_iff_ne_zero.mpr hconcurrent)
  constructor
  case client_iff => rw [Backend.ClientPlan.exists_client_iff, hpermits, and_iff_right hstarts]
  case made =>
    intro client hclient
    obtain ⟨hbase, hheld, hrate⟩ := Backend.ClientPlan.fields_of_client hclient
    refine ⟨hbase, hheld.trans hpermits, hrate, ?_⟩
    simp only [runWith, hchain, hclient]
  case broken =>
    intro hmore
    have hclient : (clientPlan config chain).client = .error .tooManyPermits := by
      rw [Backend.ClientPlan.client_eq_tooManyPermits_iff, hpermits]
      exact ⟨hstarts, hmore⟩
    refine ⟨hclient, ?_⟩
    simp only [runWith, hchain, hclient]

/-- An accepted configuration has a chain for its network, and gives a client for every chain
exactly if that can hold the configured permits. -/
theorem equipped_of_parse {text : String} {config : Config} (h : Config.parse text = .ok config) :
    (∃ chain, config.activeChain? = some chain) ∧
      ∀ arguments chain, config.chain? (arguments.network.getD config.active) = some chain →
        Equipped config arguments chain := by
  have hvalid := Config.validate_of_parse h
  obtain ⟨-, -, -, hactive, -⟩ := config.validate_eq_ok_iff.mp hvalid
  exact ⟨hactive, fun arguments chain hchain => equipped_of_validate hvalid hchain⟩

/-- A configuration with one chain and some number of permits. -/
def sharedConfig (permits : UInt64) : Config where
  api := { concurrent := permits }
  chains := [⟨.mainnet, 1, "http://a", "http://n", Word.ofNat 20 2, "e", "s", "c", 2000, 600⟩]

/-- Its text, the fields of every part in a row. -/
def sharedText (permits : UInt64) : String :=
  "api=[30," ++ toString permits.toNat ++ "]\nchains=[['mainnet',1,'http://a','http://n'," ++
    "'0000000000000000000000000000000000000002','e','s','c']]"

/-- As many permits as a client can hold are just enough. -/
theorem equipped_of_bound :
    Config.parse (sharedText 2305843009213693951) = .ok (sharedConfig 2305843009213693951) ∧
      ((∃ chain, (sharedConfig 2305843009213693951).activeChain? = some chain) ∧
        ∀ arguments chain, (sharedConfig 2305843009213693951).chain?
            (arguments.network.getD .mainnet) = some chain →
          Equipped (sharedConfig 2305843009213693951) arguments chain) := by
  have h : Config.parse (sharedText 2305843009213693951) =
      .ok (sharedConfig 2305843009213693951) := Json.toOption_eq_some_iff.mp (by decide +kernel)
  exact ⟨h, equipped_of_parse h⟩

/-- One permit more is accepted all the same, and there is no client of its chain. -/
theorem no_client_past_bound :
    Config.parse (sharedText 2305843009213693952) = .ok (sharedConfig 2305843009213693952) ∧
      ∃ chain, (sharedConfig 2305843009213693952).activeChain? = some chain ∧
        (clientPlan (sharedConfig 2305843009213693952) chain).client =
          .error .tooManyPermits := by
  refine ⟨Json.toOption_eq_some_iff.mp (by decide +kernel), _, rfl, ?_⟩
  rw [Backend.ClientPlan.client_eq_tooManyPermits_iff]
  exact ⟨by decide, by decide⟩

end Command

end ClusterDesk
