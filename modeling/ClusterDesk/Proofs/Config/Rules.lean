import Mathlib.Data.List.Pairwise
import ClusterDesk.Config.Basic
import ClusterDesk.Proofs.Text.Blank

/-!
# Rules of configurations

The checks of a configuration go through its entries one by one and report the first fault. Whether
there is a fault at all, and which entry an accepted configuration has for a network, does not
depend on the order of the entries.
-/

namespace ClusterDesk

namespace Chain

/-- The rules of an entry. -/
structure Sound (c : Chain) : Prop where
  chainId : c.chainId = c.network.chainId
  filled : ∀ field ∈ [c.apiUrl, c.rpcUrl, c.explorerUrl, c.safeAppUrl, c.safeChain],
    Text.trim field ≠ ""
  poll : 0 < c.pollMilliseconds
  confirmation : 0 < c.confirmationSeconds

theorem check_eq_none {α : Type} {p : Prop} [Decidable p] {fault : α} {behind : Option α} :
    (if p then some fault else behind) = none ↔ ¬p ∧ behind = none := by
  by_cases h : p
  · simp [h]
  · simp [h]

theorem fault?_eq_none_iff (c : Chain) : c.fault? = none ↔ c.Sound := by
  simp only [fault?, check_eq_none, Bool.or_eq_true, ← Text.trim_eq_empty_iff, not_or,
    Decidable.not_not, and_true]
  constructor
  · rintro ⟨hid, hapi, hrpc, hexplorer, ⟨happ, hprefix⟩, hpoll, hconfirmation⟩
    refine ⟨hid, ?_, UInt64.pos_iff_ne_zero.mpr hpoll, UInt64.pos_iff_ne_zero.mpr hconfirmation⟩
    simp [hapi, hrpc, hexplorer, happ, hprefix]
  · intro h
    have hfilled := h.filled
    simp only [List.forall_mem_cons] at hfilled
    obtain ⟨hapi, hrpc, hexplorer, happ, hprefix, -⟩ := hfilled
    exact ⟨h.chainId, hapi, hrpc, hexplorer, ⟨happ, hprefix⟩, UInt64.pos_iff_ne_zero.mp h.poll,
      UInt64.pos_iff_ne_zero.mp h.confirmation⟩

end Chain

namespace Config

/-- The rules of a configuration. -/
structure Sound (c : Config) : Prop where
  limits : 0 < c.api.rate ∧ 0 < c.api.concurrent ∧ 0 < c.api.timeoutSeconds
  active : ∃ chain ∈ c.chains, chain.network = c.active
  chains : ∀ chain ∈ c.chains, chain.Sound
  distinct : c.chains.Pairwise fun a b => a.network ≠ b.network
  keyVariable : Text.trim c.keyVariable ≠ ""

theorem validate_eq_ok_iff (config : Config) :
    config.validate = .ok () ↔
      config.api.rate ≠ 0 ∧ config.api.concurrent ≠ 0 ∧ config.api.timeoutSeconds ≠ 0 ∧
        (∃ chain, config.activeChain? = some chain) ∧ chainFault? 0 config.chains = none ∧
        duplicate? [] config.chains = none ∧ Text.allBlank config.keyVariable = false := by
  unfold validate
  by_cases hrate : config.api.rate = 0
  · simp [hrate]
  by_cases hconcurrent : config.api.concurrent = 0
  · simp [hrate, hconcurrent]
  by_cases htimeout : config.api.timeoutSeconds = 0
  · simp [hrate, hconcurrent, htimeout]
  cases hactive : config.activeChain? with
  | none => simp [hrate, hconcurrent, htimeout]
  | some chain =>
    cases hfault : chainFault? 0 config.chains with
    | some fault => simp [hrate, hconcurrent, htimeout]
    | none =>
      cases hduplicate : duplicate? [] config.chains with
      | some network => simp [hrate, hconcurrent, htimeout]
      | none => simp [hrate, hconcurrent, htimeout]

theorem chainFault?_eq_none_iff (index : Nat) (chains : List Chain) :
    chainFault? index chains = none ↔ ∀ chain ∈ chains, chain.Sound := by
  induction chains generalizing index with
  | nil => simp [chainFault?]
  | cons first rest ih =>
    rw [List.forall_mem_cons, ← first.fault?_eq_none_iff, ← ih (index + 1), chainFault?]
    cases hfault : first.fault? with
    | none => simp
    | some fault => simp

/-- No entry has a network that was seen before it, neither in the scan nor ahead of it. -/
theorem duplicate?_eq_none_iff (seen : List Network) (chains : List Chain) :
    duplicate? seen chains = none ↔
      (∀ chain ∈ chains, chain.network ∉ seen) ∧
        chains.Pairwise fun a b => a.network ≠ b.network := by
  induction chains generalizing seen with
  | nil => simp [duplicate?]
  | cons first rest ih =>
    rw [duplicate?, Chain.check_eq_none, ih, List.forall_mem_cons, List.pairwise_cons]
    have hlater : (∀ chain ∈ rest, chain.network ∉ first.network :: seen) ↔
        (∀ chain ∈ rest, first.network ≠ chain.network) ∧ ∀ chain ∈ rest, chain.network ∉ seen := by
      simp only [List.mem_cons, not_or, forall_and, ne_comm]
    rw [hlater]
    tauto

theorem exists_activeChain_iff (c : Config) :
    (∃ chain, c.activeChain? = some chain) ↔ ∃ chain ∈ c.chains, chain.network = c.active := by
  rw [← Option.isSome_iff_exists, activeChain?, chain?, List.find?_isSome]
  simp

theorem validate_eq_ok_iff_sound (c : Config) : c.validate = .ok () ↔ c.Sound := by
  have hnamed : Text.allBlank c.keyVariable = false ↔ Text.trim c.keyVariable ≠ "" := by
    rw [Ne, Text.trim_eq_empty_iff, Bool.not_eq_true]
  rw [validate_eq_ok_iff, exists_activeChain_iff, chainFault?_eq_none_iff, duplicate?_eq_none_iff,
    hnamed]
  constructor
  · rintro ⟨hrate, hconcurrent, htimeout, hactive, hchains, ⟨-, hdistinct⟩, hvariable⟩
    exact ⟨⟨UInt32.pos_iff_ne_zero.mpr hrate, UInt64.pos_iff_ne_zero.mpr hconcurrent,
      UInt64.pos_iff_ne_zero.mpr htimeout⟩, hactive, hchains, hdistinct, hvariable⟩
  · rintro ⟨⟨hrate, hconcurrent, htimeout⟩, hactive, hchains, hdistinct, hvariable⟩
    exact ⟨UInt32.pos_iff_ne_zero.mp hrate, UInt64.pos_iff_ne_zero.mp hconcurrent,
      UInt64.pos_iff_ne_zero.mp htimeout, hactive, hchains, ⟨by simp, hdistinct⟩, hvariable⟩

section Order

variable {c : Config} {chains : List Chain}

theorem Sound.perm (h : c.Sound) (horder : chains.Perm c.chains) :
    ({ c with chains := chains } : Config).Sound := by
  obtain ⟨chain, hchain, hactive⟩ := h.active
  constructor
  case limits => exact h.limits
  case active => exact ⟨chain, horder.mem_iff.mpr hchain, hactive⟩
  case chains => exact fun chain hchain => h.chains chain (horder.mem_iff.mp hchain)
  case distinct => exact h.distinct.perm horder.symm fun hother => hother.symm
  case keyVariable => exact h.keyVariable

theorem chain?_eq_some_iff
    (hdistinct : c.chains.Pairwise fun a b => a.network ≠ b.network) (network : Network)
    (chain : Chain) :
    c.chain? network = some chain ↔ chain ∈ c.chains ∧ chain.network = network := by
  have hunique : ∀ other ∈ c.chains, other.network = chain.network → chain ∈ c.chains →
      other = chain := by
    intro other hother hsame hchain
    by_contra hdifferent
    have hsymm : Std.Symm fun a b : Chain => a.network ≠ b.network := ⟨fun _ _ h => h.symm⟩
    exact hdistinct.forall hother hchain hdifferent hsame
  constructor
  · intro hfound
    exact ⟨List.mem_of_find?_eq_some hfound, by simpa using List.find?_some hfound⟩
  · rintro ⟨hchain, rfl⟩
    have hsome : (c.chain? chain.network).isSome = true :=
      List.find?_isSome.mpr ⟨chain, hchain, by simp⟩
    obtain ⟨other, hfound⟩ := Option.isSome_iff_exists.mp hsome
    have hother : other.network = chain.network := by simpa using List.find?_some hfound
    rw [hfound, hunique other (List.mem_of_find?_eq_some hfound) hother hchain]

theorem Sound.chain?_perm (h : c.Sound) (horder : chains.Perm c.chains) (network : Network) :
    ({ c with chains := chains } : Config).chain? network = c.chain? network := by
  have hdistinct := (h.perm horder).distinct
  refine Option.ext fun chain => ?_
  rw [chain?_eq_some_iff hdistinct, chain?_eq_some_iff h.distinct, horder.mem_iff]

end Order

/-- A configuration is accepted exactly if it keeps the rules. In another order its entries are
accepted as well or refused as well, and if they are accepted, each network has the entry that it
had. -/
theorem validate_of_perm (c : Config) :
    (c.validate = .ok () ↔ c.Sound) ∧
      ∀ chains : List Chain, chains.Perm c.chains →
        (({ c with chains := chains } : Config).validate = .ok () ↔ c.validate = .ok ()) ∧
          (c.validate = .ok () → ∀ network,
            ({ c with chains := chains } : Config).chain? network = c.chain? network ∧
              ({ c with chains := chains } : Config).activeChain? = c.activeChain? ∧
              ({ c with chains := chains } : Config).apiUrl? network = c.apiUrl? network) := by
  refine ⟨c.validate_eq_ok_iff_sound, fun chains horder => ⟨?_, ?_⟩⟩
  · rw [validate_eq_ok_iff_sound, validate_eq_ok_iff_sound]
    constructor
    · intro h
      exact h.perm horder.symm
    · intro h
      exact h.perm horder
  · intro haccepted network
    have hsame := (c.validate_eq_ok_iff_sound.mp haccepted).chain?_perm horder
    exact ⟨hsame network, hsame c.active, congrArg (Option.map Chain.apiUrl) (hsame network)⟩

/-- A configuration with one entry for each of two networks. -/
def twoNetworks : Config where
  active := .holesky
  chains :=
    [⟨.mainnet, 1, "http://a", "http://n", Word.ofNat 20 2, "e", "s", "c", 2000, 600⟩,
      ⟨.holesky, 17000, "http://b", "http://m", Word.ofNat 20 3, "e", "s", "h", 2000, 600⟩]

theorem validate_reverse_twoNetworks :
    twoNetworks.chains.reverse ≠ twoNetworks.chains ∧
      ({ twoNetworks with chains := twoNetworks.chains.reverse } : Config).validate = .ok () ∧
      ({ twoNetworks with chains := twoNetworks.chains.reverse } : Config).activeChain? =
        twoNetworks.activeChain? := by
  have haccepted : twoNetworks.validate = .ok () := by decide +kernel
  obtain ⟨hsame, hkept⟩ :=
    (validate_of_perm twoNetworks).2 twoNetworks.chains.reverse (List.reverse_perm _)
  exact ⟨by decide, hsame.mpr haccepted, (hkept haccepted .holesky).2.1⟩

end Config

end ClusterDesk
