import ClusterDesk.Config.Basic
import ClusterDesk.Curve.Secp256k1
import ClusterDesk.Failure
import ClusterDesk.Node.Reading

/-!
# Wallet sessions

A wallet holds at most one private key. Connecting checks the key and the endpoint but sends
nothing, and a failed connection leaves the session as it was.
-/

namespace ClusterDesk

namespace Wallet

structure Session where
  key : Secp256k1.Key
  node : Web.Url
  /-- The chain that the node named, once it was asked. -/
  chainId : Option UInt64 := none

inductive ConnectFault where
  | badKey
  | noEndpoint
deriving DecidableEq, Repr

def ConnectFault.message : ConnectFault → String
  | .badKey => "Invalid private key"
  | .noEndpoint => "Failed to connect signing provider"

/-- Reads a key from the digits of its 32 bytes. -/
def key? (s : String) : Option Secp256k1.Key :=
  match Digest.parse (Text.trim s) with
  | .ok word => Secp256k1.Key.ofNat? word.toNat
  | .error _ => none

end Wallet

structure Wallet where
  chain : Chain
  session : Option Wallet.Session := none

namespace Wallet

def address (w : Wallet) : Option Address :=
  w.session.map fun session => session.key.address

def connect (w : Wallet) (key : String) : Except ConnectFault Wallet :=
  match key? key with
  | none => .error .badKey
  | some key =>
    match Node.endpoint? w.chain.rpcUrl with
    | none => .error .noEndpoint
    | some node => .ok { w with session := some { key := key, node := node } }

def disconnect (w : Wallet) : Wallet :=
  { w with session := none }

/-- The start of every signed message. -/
def messagePreamble : String :=
  "\x19Ethereum Signed Message:\n"

/-- The hash of a message behind its preamble and its length in bytes. -/
def messageDigest (message : String) : Digest :=
  let body := utf8 message
  Keccak.hash (utf8 (messagePreamble ++ toString body.length) ++ body)

/-- What is added to the parity of a signature that stands by itself. -/
def parityOffset : UInt8 := 27

def signatureBytes (s : Secp256k1.Signature) : List UInt8 :=
  bytesOf 32 s.r ++ bytesOf 32 s.s ++ [parityOffset + if s.odd then 1 else 0]

def sign (w : Wallet) (message : String) : Except Failure String :=
  match w.session with
  | none => .error .walletNotConnected
  | some session =>
    .ok (Hex.text (signatureBytes (Secp256k1.sign session.key (messageDigest message))))

end Wallet

end ClusterDesk
