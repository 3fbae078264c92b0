/-
  The elliptic curve secp256k1 and deterministic signatures over it.

  Points are held in projective form, `(x / z ^ 2, y / z ^ 3)` modulo the field's prime, with
  `z = 0` for the point at infinity.

  * `Secp256k1.publicKey` is the affine point of a secret key;
  * `Secp256k1.sign` signs a hash: the nonce is drawn from the key and the hash by a chain of keyed
    hashes, so that one key signs one hash in one way, and `s` lies in the lower half of its range.
-/
import PacketRelay.Digest.Sha256

namespace PacketRelay.Secp256k1

/-- The prime of the field. -/
def fieldPrime : Nat :=
  0xfffffffffffffffffffffffffffffffffffffffffffffffffffffffefffffc2f

/-- The number of points of the curve. -/
def order : Nat := 0xfffffffffffffffffffffffffffffffebaaedce6af48a03bbfd25e8cd0364141

/-- The lowest `n` binary digits of a number, highest first. -/
def bits (n v : Nat) : List Bool := (List.range n).reverse.map v.testBit

/-- `b ^ e` modulo `m` for an exponent of at most 256 binary digits. -/
def powMod (m b e : Nat) : Nat :=
  (bits 256 e).foldl (fun acc bit =>
    let square := acc * acc % m
    if bit then square * b % m else square) 1

/-- The inverse modulo a prime. -/
def invMod (p a : Nat) : Nat := powMod p a (p - 2)

/-! ## Points -/

/-- A point of the curve. -/
structure Point where
  x : Nat
  y : Nat
  z : Nat
deriving DecidableEq

namespace Point

/-- The point at infinity. -/
def infinity : Point := ⟨1, 1, 0⟩

/-- The generator. -/
def generator : Point :=
  ⟨0x79be667ef9dcbbac55a06295ce870b07029bfcdb2dce28d959f2815b16f81798,
   0x483ada7726a3c4655da4fbfc0e1108a8fd17b448a68554199c47d08ffb10d4b8, 1⟩

/-- Difference modulo the field's prime. -/
def sub (a b : Nat) : Nat := (a + fieldPrime - b) % fieldPrime

/-- Twice a point. -/
def double (p : Point) : Point :=
  let a := p.x * p.x % fieldPrime
  let b := p.y * p.y % fieldPrime
  let c := b * b % fieldPrime
  let d := 4 * p.x * b % fieldPrime
  let e := 3 * a % fieldPrime
  let x := sub (e * e % fieldPrime) (2 * d % fieldPrime)
  ⟨x, sub (e * sub d x % fieldPrime) (8 * c % fieldPrime), 2 * p.y * p.z % fieldPrime⟩

/-- The sum of two points. -/
def add (p q : Point) : Point :=
  if p.z = 0 then q
  else if q.z = 0 then p
  else
    let zp := p.z * p.z % fieldPrime
    let zq := q.z * q.z % fieldPrime
    let u := p.x * zq % fieldPrime
    let v := q.x * zp % fieldPrime
    let s := p.y * zq % fieldPrime * q.z % fieldPrime
    let t := q.y * zp % fieldPrime * p.z % fieldPrime
    if u = v then if s = t then p.double else infinity
    else
      let h := sub v u
      let r := sub t s
      let hh := h * h % fieldPrime
      let hhh := hh * h % fieldPrime
      let w := u * hh % fieldPrime
      let x := sub (sub (r * r % fieldPrime) hhh) (2 * w % fieldPrime)
      let y := sub (r * sub w x % fieldPrime) (s * hhh % fieldPrime)
      ⟨x, y, p.z * q.z % fieldPrime * h % fieldPrime⟩

/-- A multiple of a point. -/
def multiple (k : Nat) (p : Point) : Point :=
  (bits 256 k).foldl (fun acc bit => if bit then acc.double.add p else acc.double) infinity

/-- The two coordinates of a point. -/
def affine (p : Point) : Nat × Nat :=
  let i := invMod fieldPrime p.z
  let ii := i * i % fieldPrime
  (p.x * ii % fieldPrime, p.y * ii % fieldPrime * i % fieldPrime)

end Point

/-- The coordinates of the point a secret key stands for. -/
def publicKey (key : Nat) : Nat × Nat := (Point.multiple key Point.generator).affine

/-! ## Signatures -/

/-- A signature; `odd` tells which of two points the signer has used. -/
structure Signature where
  odd : Bool
  r : Nat
  s : Nat
deriving Repr, DecidableEq

/-- The chain of keyed hashes that nonces are drawn from. -/
structure NonceChain where
  k : Bytes
  v : Bytes

namespace NonceChain

/-- Mixes a seed into the chain. -/
def mix (c : NonceChain) (mark : UInt8) (seed : Bytes) : NonceChain :=
  let k := hmac c.k (c.v ++ mark :: seed)
  ⟨k, hmac k c.v⟩

/-- The chain of a key and a hash. -/
def start (key hash : Nat) : NonceChain :=
  let seed := Bytes.ofNat 32 key ++ Bytes.ofNat 32 hash
  ((NonceChain.mk (List.replicate 32 0) (List.replicate 32 1)).mix 0 seed).mix 1 seed

/-- The first draw that is a valid nonce; the first argument bounds the number of draws. -/
def draw : Nat → NonceChain → Nat
  | 0, _ => 1
  | n + 1, c =>
    let v := hmac c.k c.v
    let nonce := Bytes.toNat v
    if 0 < nonce ∧ nonce < order then nonce else draw n (NonceChain.mix ⟨c.k, v⟩ 0 [])

end NonceChain

/-- Signs the hash `hash` of a message with a secret key. -/
def sign (key hash : Nat) : Signature :=
  let e := hash % order
  let nonce := NonceChain.draw 64 (NonceChain.start key e)
  let (x, y) := (Point.multiple nonce Point.generator).affine
  let r := x % order
  let s := invMod order nonce * (e + r * key) % order
  if order / 2 < s then ⟨y % 2 == 0, r, order - s⟩ else ⟨y % 2 == 1, r, s⟩

end PacketRelay.Secp256k1
