import Mathlib.Algebra.Group.Nat.Defs
import Mathlib.Data.List.TakeDrop
import ClusterDesk.Chain.Calldata
import ClusterDesk.Hash.Keccak

/-!
# Claim calls and their bytes

A claim call is its selector and one word after the other, so each word is found at its own place,
and the call is read back from its bytes.
-/

namespace ClusterDesk

theorem numberOf_bytesOf (size n : Nat) : numberOf (bytesOf size n) = n % 256 ^ size := by
  induction size generalizing n with
  | zero => simp [bytesOf, numberOf, Nat.mod_one]
  | succ size ih =>
    have hlast : (n % 256).toUInt8.toNat = n % 256 := by
      simp
    rw [bytesOf, numberOf_concat, ih, hlast, Nat.pow_succ', Nat.mod_mul]
    omega

theorem Word.toNat_ofNat {size n : Nat} (h : n < 256 ^ size) : (Word.ofNat size n).toNat = n := by
  rw [Word.toNat, Word.ofNat, numberOf_bytesOf, Nat.mod_eq_of_lt h]

theorem Amount.ofWord_ofNat (a : Amount) : Amount.ofWord (.ofNat 32 a.wei) = a := by
  have hnumber : (Word.ofNat 32 a.wei).toNat = a.wei := Word.toNat_ofNat a.wei_lt
  simp only [Amount.ofWord, hnumber]

namespace Calldata

/-- An address as a word. -/
def ofAddress (a : Address) : Digest :=
  ⟨addressWord a, by simp [addressWord, a.length_bytes]⟩

theorem addressOf?_ofAddress (a : Address) : addressOf? (ofAddress a) = some a := by
  have hfront : (ofAddress a).bytes.take 12 = List.replicate 12 0 := List.take_left' (by simp)
  have hback : (ofAddress a).bytes.drop 12 = a.bytes := List.drop_left' (by simp)
  simp only [addressOf?, hfront, hback, a.length_bytes, and_self, dif_pos]

theorem ofAddress_injective : Function.Injective ofAddress := by
  intro a b h
  have hread := congrArg addressOf? h
  rw [addressOf?_ofAddress, addressOf?_ofAddress] at hread
  exact Option.some.inj hread

/-- The words of a claim: those of its head, where the tail starts, and the tail with its length. -/
def claimWords (c : ClaimCall) : List Digest :=
  [ofAddress c.account, .ofNat 32 c.cumulative.wei, c.root, .ofNat 32 tailOffset,
    .ofNat 32 c.proof.length] ++ c.proof

theorem claim_eq (c : ClaimCall) :
    claim c = claimSelector ++ (claimWords c).flatMap Word.bytes := by
  simp only [claim, claimWords, List.flatMap_append, List.flatMap_cons, List.flatMap_nil,
    List.append_assoc, List.nil_append]
  rfl

theorem length_flatMap_bytes (words : List Digest) :
    (words.flatMap Word.bytes).length = 32 * words.length := by
  induction words with
  | nil => rfl
  | cons w words ih =>
    rw [List.flatMap_cons, List.length_append, w.length_bytes, ih, List.length_cons]
    omega

theorem wordAt?_flatMap (words : List Digest) (i : Nat) :
    wordAt? (words.flatMap Word.bytes) (32 * i) = words[i]? := by
  induction words generalizing i with
  | nil => simp [wordAt?]
  | cons w words ih =>
    cases i with
    | zero =>
      have hfirst : ((w :: words).flatMap Word.bytes).take 32 = w.bytes :=
        List.take_left' w.length_bytes
      simp only [wordAt?, wordSize, Nat.mul_zero, List.drop_zero, hfirst, w.length_bytes, dif_pos,
        List.getElem?_cons_zero]
    | succ i =>
      have hrest : ((w :: words).flatMap Word.bytes).drop (32 * (i + 1)) =
          (words.flatMap Word.bytes).drop (32 * i) := by
        rw [show 32 * (i + 1) = w.bytes.length + 32 * i by rw [w.length_bytes]; omega,
          List.flatMap_cons, List.drop_length_add_append]
      have hnext := ih i
      simp only [wordAt?] at hnext ⊢
      rw [List.getElem?_cons_succ, ← hnext]
      simp only [hrest]

theorem flatMap_bytes_injective : Function.Injective fun words : List Digest =>
    words.flatMap Word.bytes := by
  intro words others h
  dsimp only at h
  refine List.ext_getElem? fun i => ?_
  rw [← wordAt?_flatMap, ← wordAt?_flatMap, h]

theorem wordsFrom?_flatMap {words : List Digest} {n i : Nat} (h : i + n ≤ words.length) :
    wordsFrom? (words.flatMap Word.bytes) (32 * i) n = some ((words.drop i).take n) := by
  induction n generalizing i with
  | zero => simp [wordsFrom?]
  | succ n ih =>
    have hi : i < words.length := by omega
    have hnext := ih (i := i + 1) (by omega)
    rw [show 32 * (i + 1) = 32 * i + wordSize by rw [wordSize]; omega] at hnext
    simp only [wordsFrom?, wordAt?_flatMap, List.getElem?_eq_getElem hi, hnext,
      List.drop_eq_getElem_cons hi, List.take_succ_cons, Option.bind_eq_bind, Option.bind_some,
      pure]

/-- A call is read back, with as many words of its proof as one word can count. -/
theorem decodeClaim?_claim (c : ClaimCall) :
    decodeClaim? (claim c) =
      some { c with proof := c.proof.take (c.proof.length % 2 ^ 256) } := by
  have hselector : (claim c).take 4 = claimSelector := by
    rw [claim_eq]
    exact List.take_left' rfl
  have hwords : (claim c).drop 4 = (claimWords c).flatMap Word.bytes := by
    rw [claim_eq]
    exact List.drop_left' rfl
  have hword (i : Nat) : wordAt? ((claim c).drop 4) (32 * i) = (claimWords c)[i]? := by
    rw [hwords]
    exact wordAt?_flatMap (claimWords c) i
  have haccount : wordAt? ((claim c).drop 4) 0 = some (ofAddress c.account) := hword 0
  have hamount : wordAt? ((claim c).drop 4) wordSize = some (.ofNat 32 c.cumulative.wei) := hword 1
  have hroot : wordAt? ((claim c).drop 4) (2 * wordSize) = some c.root := hword 2
  have hoffset : wordAt? ((claim c).drop 4) (3 * wordSize) = some (.ofNat 32 tailOffset) := hword 3
  have hlength : wordAt? ((claim c).drop 4) tailOffset = some (.ofNat 32 c.proof.length) := hword 4
  have hproof : wordsFrom? ((claim c).drop 4) (tailOffset + wordSize)
      (c.proof.length % 2 ^ 256) = some (c.proof.take (c.proof.length % 2 ^ 256)) := by
    have hle := Nat.mod_le c.proof.length (2 ^ 256)
    have hfits : 5 + c.proof.length % 2 ^ 256 ≤ (claimWords c).length := by
      simp only [claimWords, List.length_append, List.length_cons, List.length_nil]
      omega
    rw [hwords]
    exact wordsFrom?_flatMap hfits
  have hcumulative : Amount.ofNat? (Word.ofNat 32 c.cumulative.wei).toNat = some c.cumulative := by
    rw [Word.toNat_ofNat c.cumulative.wei_lt, Amount.ofNat?, dif_pos c.cumulative.wei_lt]
  have hstart : (Word.ofNat 32 tailOffset).toNat = tailOffset := Word.toNat_ofNat (by decide)
  have hcount : (Word.ofNat 32 c.proof.length).toNat = c.proof.length % 2 ^ 256 :=
    numberOf_bytesOf 32 c.proof.length
  simp only [decodeClaim?, hselector, reduceIte, haccount, hamount, hroot, hoffset, hstart, hlength,
    hcount, hproof, hcumulative, addressOf?_ofAddress, Option.bind_eq_bind, Option.bind_some, pure]

theorem claim_injective : Function.Injective claim := by
  rintro ⟨account, cumulative, root, proof⟩ ⟨account', cumulative', root', proof'⟩ h
  rw [claim_eq, claim_eq, List.append_cancel_left_eq] at h
  have hwords := flatMap_bytes_injective h
  simp only [claimWords, List.cons_append, List.nil_append, List.cons.injEq] at hwords
  obtain ⟨haccount, hamount, hroot, -, -, hproof⟩ := hwords
  have hcumulative : cumulative = cumulative' := by
    rw [← Amount.ofWord_ofNat cumulative, hamount, Amount.ofWord_ofNat]
  rw [ofAddress_injective haccount, hcumulative, hroot, hproof]

/-- What the bytes of a claim say about the call. -/
structure Faithful (call : ClaimCall) (data : List UInt8) : Prop where
  selector : claimSelector <+: data
  length : data.length = 4 + 32 * (5 + call.proof.length)
  /-- The call is read back, unless its proof has more words than a word can count. -/
  decoded : decodeClaim? data = some call ↔ call.proof.length < 2 ^ 256
  /-- No other call has these bytes, however long its proof is. -/
  unique : ∀ other, claim other = data → other = call

/-- The bytes of a claim are those of its call and of no other. -/
theorem faithful_claim (call : ClaimCall) : Faithful call (claim call) where
  selector := by
    rw [claim_eq]
    exact List.prefix_append _ _
  length := by
    rw [claim_eq, List.length_append, length_flatMap_bytes, claimWords, List.length_append]
    simp only [claimSelector, List.length_cons, List.length_nil]
  decoded := by
    rw [decodeClaim?_claim]
    constructor
    · intro hsame
      have hkept := congrArg ClaimCall.proof (Option.some.inj hsame)
      rw [List.take_eq_self_iff] at hkept
      exact Nat.lt_of_le_of_lt hkept (Nat.mod_lt _ (by decide))
    · intro hfew
      rw [Nat.mod_eq_of_lt hfew, List.take_length]
  unique other h := claim_injective h

example : (Keccak.hash (utf8 "claim(address,uint256,bytes32,bytes32[])")).bytes.take 4 =
    claimSelector := by
  decide +kernel

end Calldata

end ClusterDesk
