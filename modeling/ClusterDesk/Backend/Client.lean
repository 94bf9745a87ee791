import ClusterDesk.Backend.Exchange

/-!
# Backend clients

A client is made for a base address. It needs a positive rate, and cannot hold more permits than
the bound; no permits count as one.
-/

namespace ClusterDesk.Backend

/-- What a client is made of. -/
structure ClientPlan where
  base : String
  /-- How many requests may be under way at once. -/
  concurrent : Nat := 4
  /-- How many requests may start in a second. -/
  rate : Nat := 10
deriving DecidableEq, Repr

/-- The most permits a client can hold. -/
def permitBound : Nat := Nat.pow 2 61 - 1

inductive ClientFault where
  | noRate
  /-- More permits than can be held; the program breaks off. -/
  | tooManyPermits
deriving DecidableEq, Repr

def ClientFault.message : ClientFault → String
  | .noRate => "requests_per_second must be positive"
  | .tooManyPermits => "a semaphore may not have more permits than MAX_PERMITS (2305843009213693951)"

structure Client where
  base : String
  permits : Nat
  rate : Nat
  permits_pos : 0 < permits
  rate_pos : 0 < rate
  permits_le : permits ≤ permitBound

def ClientPlan.client (p : ClientPlan) : Except ClientFault Client :=
  if rate_pos : 0 < p.rate then
    if permits_le : max p.concurrent 1 ≤ permitBound then
      .ok { base := p.base, permits := max p.concurrent 1, rate := p.rate,
            permits_pos := by omega, rate_pos, permits_le }
    else .error .tooManyPermits
  else .error .noRate

end ClusterDesk.Backend
