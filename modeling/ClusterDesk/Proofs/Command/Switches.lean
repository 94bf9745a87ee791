import ClusterDesk.Command.Arguments

/-!
# Switches of a command line

A claim is submitted only if the command line says so: behind the name of the command stands the
switch for it.
-/

namespace ClusterDesk.Command

variable {σ γ : Type}

namespace Progress

theorem stop_ne_ok {p q : Progress σ} {fault : ArgumentFault} : p.stop fault ≠ .ok q := by
  unfold stop
  split
  · simp
  · simp

end Progress

namespace Level

theorem splitAttached_eq_none {cs : List Char} {name : String}
    (h : splitAttached cs = (name, none)) : cs = name.toList := by
  unfold splitAttached at h
  dsimp only at h
  split at h
  case h_1 hrest => simp at h
  case h_2 hrest =>
    obtain ⟨rfl, -⟩ := Prod.mk.inj h
    have hwhole := List.takeWhile_append_dropWhile (p := (· != '=')) (l := cs)
    rw [hrest, List.append_nil] at hwhole
    rw [String.toList_ofList, hwhole]

theorem exists_command_of_readFrom {level : Level σ} {commands : Commands γ} {p q : Progress σ}
    {arguments : List String} {c : γ}
    (h : level.readFrom commands p arguments = .ok (q, some c)) :
    ∃ front name rest command, arguments = front ++ name :: rest ∧
      commands.find? name = some command ∧ command rest = .ok c := by
  -- On the way to the command all that changes is the progress.
  induction arguments generalizing p with
  | nil =>
    unfold readFrom at h
    cases hsettled : p.settle <;> simp [hsettled, Except.map] at h
  | cons argument rest ih =>
    unfold readFrom at h
    split at h
    case h_1 command hcommand =>
      refine ⟨[], argument, rest, command, rfl, ?_, ?_⟩
      · split at hcommand
        · simp at hcommand
        · exact hcommand
      · split at h
        · simp at h
        case h_2 read hread =>
          cases hsettled : p.settle <;> simp [hsettled, Except.map] at h
          rw [hread, h.2]
    case h_2 hnone =>
      split at h
      case isTrue hdashes =>
        cases hread : level.readRest commands.strayBehind p rest <;> simp [hread, Except.map] at h
      case isFalse hdashes =>
        dsimp only at h
        split at h
        · simp at h
        · obtain ⟨front, name, later, command, rfl, hfind, hread⟩ := ih h
          exact ⟨argument :: front, name, later, command, rfl, hfind, hread⟩

end Level

/-- Nothing that was read so far asks for a submission. -/
structure Unswitched (p : Progress (Address × Bool)) : Prop where
  values : p.values.2 = false
  pending : ∀ slot value, p.pending = some (slot, value) →
    claimLevel.place = some slot ∧ value.isSome = true

theorem place_take {slot : Slot (Address × Bool)} {text : String} {values taken : Address × Bool}
    (hslot : claimLevel.place = some slot) (h : slot.take text values = .ok taken) :
    taken.2 = values.2 := by
  obtain rfl := Option.some.inj hslot
  cases hparse : parseAddress text with
  | error reason => simp [Command.slot, hparse, Except.map] at h
  | ok account =>
    obtain rfl : (account, values.2) = taken := by simpa [Command.slot, hparse, Except.map] using h
    rfl

namespace Unswitched

variable {p q : Progress (Address × Bool)}

theorem settle (hp : Unswitched p) (h : p.settle = .ok q) : Unswitched q := by
  unfold Progress.settle at h
  split at h
  case h_1 hnone =>
    obtain rfl := Except.ok.inj h
    exact hp
  case h_2 slot hpending => simp at h
  case h_3 slot value hpending =>
    obtain ⟨hslot, -⟩ := hp.pending slot _ hpending
    unfold Progress.put at h
    split at h
    · simp at h
    · split at h
      · simp at h
      case h_2 values htaken =>
        obtain rfl := Except.ok.inj h
        exact ⟨(place_take hslot htaken).trans hp.values, by simp⟩

theorem readPlaced (hp : Unswitched p) {argument : String} {stray : ArgumentFault}
    (h : claimLevel.readPlaced p argument stray = .ok q) : Unswitched q := by
  unfold Level.readPlaced at h
  split at h
  case h_1 slot hslot hplaced =>
    cases hsettled : p.settle with
    | error fault => simp [Progress.start, hsettled, Except.map] at h
    | ok r =>
      have hr := hp.settle hsettled
      obtain rfl : { r with pending := some (slot, some argument), placed := true } = q := by
        simpa [Progress.start, hsettled, Except.map] using h
      refine ⟨hr.values, ?_⟩
      rintro _ _ ⟨⟩
      exact ⟨hslot, rfl⟩
  case h_2 => simp at h

theorem readRest (hp : Unswitched p) {stray : String → ArgumentFault} {arguments : List String}
    (h : claimLevel.readRest stray p arguments = .ok q) : Unswitched q := by
  induction arguments generalizing p with
  | nil => exact hp.settle h
  | cons argument rest ih =>
    unfold Level.readRest at h
    split at h
    · simp at h
    case h_2 r hplaced => exact ih (hp.readPlaced hplaced) h

theorem awaits (hp : Unswitched p) : p.awaits = false := by
  unfold Progress.awaits
  split
  case h_1 slot hpending =>
    have hsome := (hp.pending slot none hpending).2
    simp at hsome
  case h_2 => rfl

end Unswitched

theorem name_of_readOption {p q : Progress (Address × Bool)} {name : String}
    {attached : Option String} (h : claimLevel.readOption p name attached = .ok q) :
    name = "submit" ∧ attached = none := by
  unfold Level.readOption at h
  split at h
  case h_1 fault _ _ _ =>
    split at h
    · simp at h
    · exact absurd h Progress.stop_ne_ok
  case h_2 _ _ _ slot _ hslot => simp [claimLevel] at hslot
  case h_3 slot _ _ hslot =>
    have hname : name = "submit" := by
      rw [claimLevel, List.lookup_cons] at hslot
      split at hslot
      case h_1 hsame => exact eq_of_beq hsame
      case h_2 => simp at hslot
    split at h
    · simp at h
    · exact ⟨hname, rfl⟩
  case h_4 => simp at h

theorem readLetter_ne_ok {p q : Progress σ} {level : Level σ} {letter : Char} :
    level.readLetter p letter ≠ .ok q := by
  unfold Level.readLetter
  split
  · exact Progress.stop_ne_ok
  · split
    · exact Progress.stop_ne_ok
    · simp

theorem mem_of_readFrom {p q : Progress (Address × Bool)} {arguments : List String}
    {c : Option Unit} (hp : Unswitched p)
    (h : claimLevel.readFrom (Commands.none : Commands Unit) p arguments = .ok (q, c))
    (hsubmit : q.values.2 = true) : "--submit" ∈ arguments := by
  have hnot : ∀ {r : Progress (Address × Bool)}, Unswitched r → r.values.2 = true → False := by
    intro r hr htrue
    simp [hr.values] at htrue
  -- As long as nothing was switched, what is still to be read has to hold the switch.
  induction arguments generalizing p with
  | nil =>
    cases hsettled : p.settle with
    | error fault => simp [Level.readFrom, hsettled, Except.map] at h
    | ok r =>
      obtain ⟨rfl, -⟩ : r = q ∧ none = c := by
        simpa [Level.readFrom, hsettled, Except.map] using h
      exact (hnot (hp.settle hsettled) hsubmit).elim
  | cons argument rest ih =>
    unfold Level.readFrom at h
    simp only [hp.awaits, Commands.none, Bool.false_eq_true, if_false] at h
    split at h
    case isTrue hdashes =>
      cases hread : claimLevel.readRest
          ({ find? := fun _ => none, any := false } : Commands Unit).strayBehind p rest with
      | error fault => simp [hread, Except.map] at h
      | ok r =>
        obtain ⟨rfl, -⟩ : r = q ∧ none = c := by simpa [hread, Except.map] using h
        exact (hnot (hp.readRest hread) hsubmit).elim
    case isFalse hdashes =>
      split at h
      case h_1 => simp at h
      case h_2 r hnext =>
        split at hnext
        case h_1 cs htext =>
          obtain ⟨hname, hattached⟩ := name_of_readOption hnext
          have hcs : cs = "submit".toList :=
            Level.splitAttached_eq_none (Prod.ext hname hattached)
          have hargument : argument = "--submit" := by
            apply String.toList_injective
            rw [htext, hcs]
            rfl
          exact hargument ▸ List.mem_cons_self
        case h_2 letter tail htext => exact absurd hnext readLetter_ne_ok
        case h_3 => exact List.mem_cons_of_mem _ (ih (hp.readPlaced hnext) h)

theorem mem_of_read {account : Address} {arguments : List String}
    (h : claimLevel.read (default, false) arguments = .ok (account, true)) :
    "--submit" ∈ arguments := by
  unfold Level.read at h
  split at h
  · simp at h
  case h_2 q c hread =>
    have hstart : Unswitched { values := ((default, false) : Address × Bool) } := ⟨rfl, by simp⟩
    refine mem_of_readFrom hstart hread ?_
    have hvalues : q.values = (account, true) := by
      split at h
      · split at h
        · exact Except.ok.inj h
        · simp at h
      · exact Except.ok.inj h
    rw [hvalues]

theorem name_of_command {name : String} {rest : List String} {account : Address} {submit : Bool}
    {command : List String → Except ArgumentFault Task} (hfind : commands.find? name = some command)
    (h : command rest = .ok (.claim account submit)) :
    name = "claim" ∧ claimLevel.read (default, false) rest = .ok (account, submit) := by
  simp only [commands, commandsAt, List.lookup_cons, List.lookup_nil] at hfind
  split at hfind
  case isTrue hhelp =>
    obtain rfl := Option.some.inj hfind
    simp at h
  case isFalse =>
    split at hfind
    case h_1 hclaim =>
      obtain rfl := Option.some.inj hfind
      refine ⟨eq_of_beq hclaim, ?_⟩
      cases hread : claimLevel.read (default, false) rest with
      | error fault => simp [hread, Except.map] at h
      | ok values => simpa [hread, Except.map, Prod.ext_iff] using h
    case h_2 =>
      split at hfind
      case h_1 =>
        obtain rfl := Option.some.inj hfind
        unfold readMonitor at h
        cases hread : plainLevel.readWith monitorCommands () false rest <;>
          simp [hread, Except.map] at h
      case h_2 =>
        split at hfind
        case h_1 =>
          obtain rfl := Option.some.inj hfind
          unfold readExplore at h
          cases hread : plainLevel.readWith exploreCommands () false rest <;>
            simp [hread, Except.map] at h
        case h_2 => simp at hfind

/-- A claim is submitted only if the command line names the command, and behind it the switch. -/
theorem submit_of_parse {preset : Option String} {arguments : List String} {parsed : Arguments}
    {account : Address} (h : Arguments.parse preset arguments = .ok parsed)
    (htask : parsed.task = .claim account true) :
    ∃ front rest, arguments = front ++ "claim" :: rest ∧ "--submit" ∈ rest := by
  unfold Arguments.parse Level.readWith at h
  cases hread : settingLevel.readFrom commands { values := {} } arguments with
  | error fault => simp [hread, Except.map] at h
  | ok told =>
    obtain ⟨p, c⟩ := told
    cases c with
    | none => simp [hread, Except.map] at h
    | some task =>
      obtain ⟨front, name, rest, command, rfl, hfind, hcommand⟩ :=
        Level.exists_command_of_readFrom hread
      have hsame : task = .claim account true := by
        simp only [hread, Except.map, Except.ok.injEq] at h
        rw [← htask, ← h]
      rw [hsame] at hcommand
      obtain ⟨rfl, hclaim⟩ := name_of_command hfind hcommand
      exact ⟨front, rest, rfl, mem_of_read hclaim⟩

end ClusterDesk.Command
