import ClusterDesk.Network

/-!
# Session settings

The selected network and theme. Every observer can tell whether something was published since it
last looked; selecting the network that is already selected publishes nothing.
-/

namespace ClusterDesk

structure Settings where
  network : Network := .mainnet
  darkMode : Bool := true
deriving DecidableEq, Repr, Inhabited

/-- Settings and how often they were published. -/
structure Session where
  settings : Settings := {}
  version : Nat := 0
deriving DecidableEq, Repr, Inhabited

/-- The last version someone has looked at. -/
structure Observer where
  seen : Nat
deriving DecidableEq, Repr

namespace Session

def network (s : Session) : Network :=
  s.settings.network

def selectNetwork (network : Network) (s : Session) : Session :=
  if s.settings.network = network then s
  else { settings := { s.settings with network := network }, version := s.version + 1 }

def toggleDarkMode (s : Session) : Session :=
  { settings := { s.settings with darkMode := !s.settings.darkMode }, version := s.version + 1 }

/-- An observer that has seen everything so far. -/
def observe (s : Session) : Observer :=
  ⟨s.version⟩

def hasNews (s : Session) (o : Observer) : Bool :=
  o.seen != s.version

end Session

end ClusterDesk
