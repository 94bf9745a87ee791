import ClusterDesk.Hash.Keccak
import ClusterDesk.Json.Decoder
import ClusterDesk.Text.Basic

/-!
# Accounts in texts

An address is shown with a checksum in the case of its letters: a letter is a capital when the
hash of the lower-case digits has a nibble of at least eight at its place. So it is shown in the
address of the page where a Safe has its pending transactions.
-/

namespace ClusterDesk

def nibbles (bytes : List UInt8) : List UInt8 :=
  bytes.flatMap fun b => [b / 16, b % 16]

def Address.checksummed (a : Address) : String :=
  let digits := Hex.encode a.bytes
  let marks := nibbles (Keccak.hash (digits.map fun c => c.toNat.toUInt8)).bytes
  let cased := (digits.zip marks).map fun (c, mark) => if 8 ≤ mark then c.toUpper else c
  String.ofList ('0' :: 'x' :: cased)

/-- Reads a word from the text of its digits or from the list of its bytes. -/
def Word.decoder (size : Nat) : Json.Decoder (Word size)
  | .str s =>
    match Word.parse size s with
    | .ok w => .ok w
    | .error e => .error (.invalid e.message)
  | .arr items =>
    match items.mapM Json.Decoder.natural8 with
    | .error e => .error e
    | .ok bytes => if h : bytes.length = size then .ok ⟨bytes, h⟩ else .error (.tooLong bytes.length)
  | j => .error (.wrongType j .text)

/-- Where the pages are that show what became of a claim. -/
structure ClaimLinks where
  explorer : String
  safeApp : String
  /-- The name of the chain in the Safe app. -/
  safeChain : String
deriving DecidableEq, Repr

namespace ClaimLinks

/-- The page of a transaction. -/
def transaction (links : ClaimLinks) (hash : Digest) : String :=
  Text.trimSlashes links.explorer ++ "/tx/" ++ hash.text

/-- The queue of pending transactions of a Safe. -/
def safeQueue (links : ClaimLinks) (safe : Address) : String :=
  Text.trimSlashes links.safeApp ++ "/transactions/queue?safe=" ++ links.safeChain ++ ":" ++
    safe.checksummed

end ClaimLinks

end ClusterDesk
