import ClusterDesk.Bytes.Rlp
import ClusterDesk.Chain.Calldata
import ClusterDesk.Curve.Secp256k1

/-!
# Transactions

A call of a contract with a priority fee and a fee limit, and no value. What is signed is the hash
of the type byte and the fields; the signature is written behind them.
-/

namespace ClusterDesk

structure Transaction where
  chainId : UInt64
  nonce : UInt64
  priorityFee : Nat
  maxFee : Nat
  gas : UInt64
  contract : Address
  data : List UInt8
deriving DecidableEq

namespace Transaction

/-- The type byte of transactions with a priority fee. -/
def typeByte : UInt8 := 2

/-- The fields, among them no value and an empty access list. -/
def fields (t : Transaction) : List Rlp := [
  .number t.chainId.toNat,
  .number t.nonce.toNat,
  .number t.priorityFee,
  .number t.maxFee,
  .number t.gas.toNat,
  .bytes t.contract.bytes,
  .number 0,
  .bytes t.data,
  .list []]

def digest (t : Transaction) : Digest :=
  Keccak.hash (typeByte :: (Rlp.list t.fields).encode)

end Transaction

structure SignedTransaction where
  transaction : Transaction
  signature : Secp256k1.Signature

namespace SignedTransaction

/-- The bytes that a node accepts. -/
def encode (s : SignedTransaction) : List UInt8 :=
  Transaction.typeByte :: (Rlp.list (s.transaction.fields ++ [
    .number (if s.signature.odd then 1 else 0),
    .number s.signature.r,
    .number s.signature.s])).encode

end SignedTransaction

def Transaction.sign (t : Transaction) (key : Secp256k1.Key) : SignedTransaction :=
  ⟨t, Secp256k1.sign key t.digest⟩

end ClusterDesk
