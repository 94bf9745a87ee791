import ClusterDesk.Hash.Keccak
import ClusterDesk.Hash.Sha256

/-!
# Signatures on secp256k1

Points of `y ^ 2 = x ^ 3 + 7` in projective form, and deterministic signatures: the nonce comes
from the key and the digest alone, and the lower of the two values of `s` is taken.
-/

namespace ClusterDesk.Secp256k1

def p : Nat := Nat.pow 2 256 - Nat.pow 2 32 - 977

/-- The order of the base point. -/
def n : Nat := 0xfffffffffffffffffffffffffffffffebaaedce6af48a03bbfd25e8cd0364141

/-- The bits of a number from bit `width - 1` down to bit 0. -/
def bits (width : Nat) (k : Nat) : List Bool :=
  (List.range width).reverse.map k.testBit

def powMod (base exponent modulus : Nat) : Nat :=
  (bits 256 exponent).foldl
    (fun acc b => let sq := acc * acc % modulus; if b then sq * base % modulus else sq) 1

def inverse (a modulus : Nat) : Nat :=
  powMod (a % modulus) (modulus - 2) modulus

def sub (a b : Nat) : Nat :=
  (a + (p - b % p)) % p

/-- The point `(x / z ^ 2, y / z ^ 3)`; at infinity when `z` is zero. -/
structure Point where
  x : Nat
  y : Nat
  z : Nat

namespace Point

def infinity : Point := ⟨1, 1, 0⟩

def base : Point where
  x := 0x79be667ef9dcbbac55a06295ce870b07029bfcdb2dce28d959f2815b16f81798
  y := 0x483ada7726a3c4655da4fbfc0e1108a8fd17b448a68554199c47d08ffb10d4b8
  z := 1

def double (a : Point) : Point :=
  if a.z == 0 || a.y == 0 then infinity
  else
    let yy := a.y * a.y % p
    let s := 4 * a.x * yy % p
    let m := 3 * a.x * a.x % p
    let x := sub (m * m) (2 * s)
    ⟨x, sub (m * sub s x) (8 * yy * yy), 2 * a.y * a.z % p⟩

def add (a b : Point) : Point :=
  if a.z == 0 then b
  else if b.z == 0 then a
  else
    let za := a.z * a.z % p
    let zb := b.z * b.z % p
    let ua := a.x * zb % p
    let ub := b.x * za % p
    let sa := a.y * zb * b.z % p
    let sb := b.y * za * a.z % p
    if ua == ub then
      if sa == sb then double a else infinity
    else
      let h := sub ub ua
      let r := sub sb sa
      let hh := h * h % p
      let hhh := hh * h % p
      let v := ua * hh % p
      let x := sub (sub (r * r) hhh) (2 * v)
      ⟨x, sub (r * sub v x) (sa * hhh), h * a.z * b.z % p⟩

def scale (k : Nat) (a : Point) : Point :=
  (bits 256 k).foldl (fun acc b => let d := double acc; if b then add d a else d) infinity

def coordinates (a : Point) : Nat × Nat :=
  let i := inverse a.z p
  (a.x * i * i % p, a.y * i * i * i % p)

end Point

/-- A private key: a scalar from 1 below the order. -/
structure Key where
  scalar : Nat
  positive : 0 < scalar
  small : scalar < n

namespace Key

def ofNat? (k : Nat) : Option Key :=
  if h : 0 < k ∧ k < n then some ⟨k, h.1, h.2⟩ else none

/-- The last 20 bytes of the hash of the public point. -/
def address (key : Key) : Address :=
  let (x, y) := (Point.base.scale key.scalar).coordinates
  Word.ofNat 20 (Keccak.hash (bytesOf 32 x ++ bytesOf 32 y)).toNat

end Key

structure Signature where
  r : Nat
  s : Nat
  /-- Whether the nonce point has an odd second coordinate. -/
  odd : Bool
deriving BEq, Repr

structure Generator where
  k : List UInt8
  v : List UInt8

namespace Generator

def mix (g : Generator) (mark : UInt8) (data : List UInt8) : Generator :=
  let k := Sha256.keyed g.k (g.v ++ mark :: data)
  ⟨k, Sha256.keyed k g.v⟩

def start (key : Key) (digest : Digest) : Generator :=
  let seed := bytesOf 32 key.scalar ++ bytesOf 32 (digest.toNat % n)
  let g : Generator := ⟨List.replicate 32 0, List.replicate 32 1⟩
  (g.mix 0 seed).mix 1 seed

/-- The next candidate, and the generator to go on with if it is refused. -/
def next (g : Generator) : Nat × Generator :=
  let v := Sha256.keyed g.k g.v
  (numberOf v, (⟨g.k, v⟩ : Generator).mix 0 [])

end Generator

/-- The signature with a given nonce, if the nonce will do. -/
def signWith? (key : Key) (digest : Digest) (nonce : Nat) : Option Signature :=
  if nonce == 0 || n ≤ nonce then none
  else
    let (x, y) := (Point.base.scale nonce).coordinates
    let r := x % n
    let s := inverse nonce n * ((digest.toNat + r * key.scalar) % n) % n
    if r == 0 || s == 0 then none
    else
      let odd := y % 2 == 1
      some (if n / 2 < s then ⟨r, n - s, !odd⟩ else ⟨r, s, odd⟩)

/-- How many nonces are tried; the first one fails with a chance below `2 ^ -127`. -/
def attempts : Nat := 8

def signFrom (key : Key) (digest : Digest) : Nat → Generator → Signature
  | 0, _ => ⟨0, 0, false⟩
  | left + 1, g =>
    let (nonce, g) := g.next
    match signWith? key digest nonce with
    | some signature => signature
    | none => signFrom key digest left g

def sign (key : Key) (digest : Digest) : Signature :=
  signFrom key digest attempts (Generator.start key digest)

end ClusterDesk.Secp256k1
