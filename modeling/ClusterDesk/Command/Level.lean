/-!
# Levels of a command line

A level reads options, at most one argument by its place, and the name of a command that reads the
rest. What was given is checked once the next known part starts, so that an unknown part is
reported first, and so is every fault of the command behind.
-/

namespace ClusterDesk.Command

/-- Why a command line is not read. -/
inductive ArgumentFault where
  | invalidValue (value shown reason : String)
  /-- An option without the value it needs. -/
  | noValue (shown : String)
  | repeated (shown : String)
  /-- A switch that was given a value. -/
  | needlessValue (value shown : String)
  | unexpected (argument : String)
  | unknownCommand (name : String)
  /-- The argument by its place is missing. -/
  | missing (shown : String)
  /-- Nothing at all where a command has to be. -/
  | nothing
  /-- Options, but no command behind them. -/
  | noCommand
  | help
  | version
deriving DecidableEq, Repr

/-- A part of a level and what it does to the values of the level. -/
structure Slot (σ : Type) where
  /-- How messages name it. -/
  shown : String
  repeats : Bool := false
  take : String → σ → Except String σ

structure Level (σ : Type) where
  options : List (String × Slot σ) := []
  /-- Options without one. -/
  switches : List (String × Slot σ) := []
  place : Option (Slot σ) := none
  hasVersion : Bool := false

/-- How far a level was read. -/
structure Progress (σ : Type) where
  values : σ
  /-- What was given and checked. -/
  given : List String := []
  /-- What was given last, with its value as soon as there is one. -/
  pending : Option (Slot σ × Option String) := none
  placed : Bool := false

namespace Progress

def awaits (p : Progress σ) : Bool :=
  match p.pending with
  | some (_, none) => true
  | _ => false

def put (p : Progress σ) (slot : Slot σ) (value : String) : Except ArgumentFault (Progress σ) :=
  if !slot.repeats && slot.shown ∈ p.given then .error (.repeated slot.shown)
  else
    match slot.take value p.values with
    | .error reason => .error (.invalidValue value slot.shown reason)
    | .ok values => .ok { p with values := values, given := slot.shown :: p.given }

/-- Checks what was given last. -/
def settle (p : Progress σ) : Except ArgumentFault (Progress σ) :=
  match p.pending with
  | none => .ok p
  | some (slot, none) => .error (.noValue slot.shown)
  | some (slot, some value) => { p with pending := none }.put slot value

/-- Starts a part, whose value may come later. -/
def start (p : Progress σ) (slot : Slot σ) (value : Option String) :
    Except ArgumentFault (Progress σ) :=
  p.settle.map fun p => { p with pending := some (slot, value) }

def supply (p : Progress σ) (value : String) : Progress σ :=
  { p with pending := p.pending.map fun (slot, _) => (slot, some value) }

def finish (p : Progress σ) (slot : Slot σ) (value : String) :
    Except ArgumentFault (Progress σ) :=
  match p.settle with
  | .error fault => .error fault
  | .ok p => p.put slot value

/-- Breaks off once what was given last is checked. -/
def stop (p : Progress σ) (fault : ArgumentFault) : Except ArgumentFault α :=
  match p.settle with
  | .error first => .error first
  | .ok _ => .error fault

end Progress

namespace Level

/-- The switches that every level has, and those of the first one. -/
def special? (level : Level σ) (name : String) : Option ArgumentFault :=
  if name == "help" then some .help
  else if name == "version" && level.hasVersion then some .version
  else none

/-- Reads an option by its name, with the value that is attached to it. -/
def readOption (level : Level σ) (p : Progress σ) (name : String) (attached : Option String) :
    Except ArgumentFault (Progress σ) :=
  match level.special? name, level.options.lookup name, level.switches.lookup name with
  | some fault, _, _ =>
    match attached with
    | some value => .error (.needlessValue value ("--" ++ name))
    | none => p.stop fault
  | none, some slot, _ =>
    match attached with
    | some value => p.finish slot value
    | none => p.start slot none
  | none, none, some slot =>
    match attached with
    | some value => .error (.needlessValue value slot.shown)
    | none => p.finish slot ""
  | none, none, none => .error (.unexpected ("--" ++ name))

def readLetter (level : Level σ) (p : Progress σ) (letter : Char) :
    Except ArgumentFault (Progress σ) :=
  if letter == 'h' then p.stop .help
  else if letter == 'V' && level.hasVersion then p.stop .version
  else .error (.unexpected (String.ofList ['-', letter]))

/-- The name of an option and the value attached to it. -/
def splitAttached (cs : List Char) : String × Option String :=
  let name := String.ofList (cs.takeWhile (· != '='))
  match cs.dropWhile (· != '=') with
  | _ :: value => (name, some (String.ofList value))
  | [] => (name, none)

/-- Reads an argument by its place; `stray` is the fault where there is no place for it. -/
def readPlaced (level : Level σ) (p : Progress σ) (argument : String) (stray : ArgumentFault) :
    Except ArgumentFault (Progress σ) :=
  match level.place, p.placed with
  | some slot, false => (p.start slot (some argument)).map fun p => { p with placed := true }
  | _, _ => .error stray

def readRest (level : Level σ) (stray : String → ArgumentFault) (p : Progress σ) :
    List String → Except ArgumentFault (Progress σ)
  | [] => p.settle
  | argument :: rest =>
    match level.readPlaced p argument (stray argument) with
    | .error fault => .error fault
    | .ok p => level.readRest stray p rest

end Level

structure Commands (γ : Type) where
  /-- Reads the rest behind the name of a command; none for any other name. -/
  find? : String → Option (List String → Except ArgumentFault γ)
  any : Bool

namespace Commands

def none : Commands γ :=
  ⟨fun _ => .none, false⟩

/-- The fault of an argument that has no place in front of a command. -/
def stray (commands : Commands γ) (argument : String) : ArgumentFault :=
  if commands.any then .unknownCommand argument else .unexpected argument

/-- The fault of such an argument where no command can follow any more. -/
def strayBehind (commands : Commands γ) (argument : String) : ArgumentFault :=
  if (commands.find? argument).isSome then .unexpected argument else commands.stray argument

end Commands

namespace Level

def readFrom (level : Level σ) (commands : Commands γ) (p : Progress σ) :
    List String → Except ArgumentFault (Progress σ × Option γ)
  | [] => p.settle.map fun p => (p, none)
  | argument :: rest =>
    match if p.awaits then none else commands.find? argument with
    | some command =>
      match command rest with
      | .error fault => .error fault
      | .ok c => p.settle.map fun p => (p, some c)
    | none =>
      if argument == "--" then
        (level.readRest commands.strayBehind p rest).map fun p => (p, none)
      else
        let next := match argument.toList with
          | '-' :: '-' :: cs =>
            let (name, attached) := splitAttached cs
            level.readOption p name attached
          | '-' :: letter :: _ => level.readLetter p letter
          | _ =>
            if p.awaits then .ok (p.supply argument)
            else level.readPlaced p argument (commands.stray argument)
        match next with
        | .error fault => .error fault
        | .ok p => level.readFrom commands p rest

/-- Reads a level behind which no command follows. -/
def read (level : Level σ) (initial : σ) (arguments : List String) :
    Except ArgumentFault σ :=
  match level.readFrom (Commands.none : Commands Unit) { values := initial } arguments with
  | .error fault => .error fault
  | .ok (p, _) =>
    match level.place with
    | some slot => if p.placed then .ok p.values else .error (.missing slot.shown)
    | none => .ok p.values

/-- Reads a level and the command behind it. Something may have been given beforehand. -/
def readWith (level : Level σ) (commands : Commands γ) (initial : σ) (preset : Bool)
    (arguments : List String) : Except ArgumentFault (σ × γ) :=
  match level.readFrom commands { values := initial } arguments with
  | .error fault => .error fault
  | .ok (p, some c) => .ok (p.values, c)
  | .ok (p, none) => .error (if p.given.isEmpty && !preset then .nothing else .noCommand)

end Level

end ClusterDesk.Command
