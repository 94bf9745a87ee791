import ClusterDesk.Network
import ClusterDesk.Text.Basic

/-!
# Liquidation threshold

Days of runway below which an alert is sent. A typed threshold is its leading integer, brought
between the floor and the largest number of days whose blocks can be counted in 64 bits.
-/

namespace ClusterDesk.Threshold

def floor : Nat := 10

def ceiling : Nat := (UInt64.size - 1) / blocksPerDay

def initial : Nat := 30

def clamp (days : Nat) : Nat :=
  min (max days floor) ceiling

/-- Reads a typed threshold. No digits and negative numbers give the floor. -/
def read (cs : List Char) : Nat :=
  let rest := cs.dropWhile Text.isBlank
  let (below, rest) := match rest with
    | '-' :: r => (true, r)
    | '+' :: r => (false, r)
    | r => (false, r)
  match rest.takeWhile Char.isDigit with
  | [] => floor
  | ds =>
    let n := Nat.ofDigitChars 10 ds 0
    if UInt64.size ≤ n then ceiling
    else if below then floor
    else clamp n

def coerce (text : String) : Nat :=
  read text.toList

end ClusterDesk.Threshold
