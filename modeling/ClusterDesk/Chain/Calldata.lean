import ClusterDesk.Rewards.Entitlement

/-!
# Contract calls

The bytes sent to the claim contract and the words it returns. Head words are followed by the tail
of the proof list: its length and its elements.
-/

namespace ClusterDesk

structure ClaimCall where
  account : Address
  cumulative : Amount
  root : Digest
  proof : List Digest
deriving DecidableEq, Inhabited

def Entitlement.claimCall (e : Entitlement) : ClaimCall :=
  ⟨e.account, e.cumulative, e.root, e.proof⟩

namespace Calldata

def wordSize : Nat := 32

/-- The first bytes of the hash of `claim(address,uint256,bytes32,bytes32[])`. -/
def claimSelector : List UInt8 := [0x1d, 0x7d, 0x4e, 0xbc]

/-- The first bytes of the hash of `merkleRoot()`. -/
def rootSelector : List UInt8 := [0x2e, 0xb4, 0xa7, 0xab]

/-- The first bytes of the hash of `cumulativeClaimed(address)`. -/
def claimedSelector : List UInt8 := [0xa9, 0x91, 0x95, 0x76]

def natWord (n : Nat) : List UInt8 :=
  bytesOf wordSize n

/-- An address is filled up in front. -/
def addressWord (a : Address) : List UInt8 :=
  List.replicate 12 0 ++ a.bytes

/-- Where the tail starts, behind four head words. -/
def tailOffset : Nat := 4 * wordSize

def claim (c : ClaimCall) : List UInt8 :=
  claimSelector ++ (addressWord c.account ++ (natWord c.cumulative.wei ++ (c.root.bytes ++
    (natWord tailOffset ++ (natWord c.proof.length ++ c.proof.flatMap Word.bytes)))))

def root : List UInt8 :=
  rootSelector

def claimed (account : Address) : List UInt8 :=
  claimedSelector ++ addressWord account

def wordAt? (data : List UInt8) (offset : Nat) : Option Digest :=
  let bytes := (data.drop offset).take wordSize
  if h : bytes.length = 32 then some ⟨bytes, h⟩ else none

/-- An address, none when the bytes in front are not zero. -/
def addressOf? (w : Digest) : Option Address :=
  let bytes := w.bytes.drop 12
  if h : bytes.length = 20 ∧ w.bytes.take 12 = List.replicate 12 0 then some ⟨bytes, h.1⟩ else none

def wordsFrom? (data : List UInt8) (offset : Nat) : Nat → Option (List Digest)
  | 0 => some []
  | n + 1 => do
    let w ← wordAt? data offset
    let rest ← wordsFrom? data (offset + wordSize) n
    return w :: rest

def decodeClaim? (data : List UInt8) : Option ClaimCall :=
  if data.take 4 = claimSelector then do
    let arguments := data.drop 4
    let account ← (wordAt? arguments 0).bind addressOf?
    let cumulative ← wordAt? arguments wordSize
    let cumulative ← Amount.ofNat? cumulative.toNat
    let root ← wordAt? arguments (2 * wordSize)
    let offset ← wordAt? arguments (3 * wordSize)
    let length ← wordAt? arguments offset.toNat
    let proof ← wordsFrom? arguments (offset.toNat + wordSize) length.toNat
    return ⟨account, cumulative, root, proof⟩
  else none

inductive Fault where
  | tooShort
  | tooLong
deriving DecidableEq, Repr

def Fault.message : Fault → String
  | .tooShort => "ABI decoding failed: buffer overrun while deserializing"
  | .tooLong => "ABI decoding failed: reserialization did not match original"

/-- A returned word must be all of the data. -/
def decodeWord (data : List UInt8) : Except Fault Digest :=
  if h : data.length = 32 then .ok ⟨data, h⟩
  else if data.length < wordSize then .error .tooShort
  else .error .tooLong

end Calldata

end ClusterDesk
