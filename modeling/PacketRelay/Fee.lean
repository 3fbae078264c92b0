/-
  Fees and prices per unit of gas.

  Amounts are natural numbers of wei and never exceed `weiMax`.  Products are formed in words of
  256 bits, which are wide enough for an amount times a 64-bit factor, and cut off at `weiMax`.

  * `bumpByPercent` is the least price a replacement of a pending transaction has to carry;
  * `Fraction.apply` scales a sampled fee;
  * `PendingTransaction` is what the node reports about a transaction in its pool, read as a
    price (`gasPrice`) or as a tip and a fee cap (`tipCap`, `feeCap`);
  * `Pricing` is the price chosen for a new transaction.
-/
namespace PacketRelay

/-- An amount of wei. -/
abbrev Wei := Nat

/-- The largest amount that is represented. -/
def weiMax : Nat := (1 <<< 128) - 1

/-- The largest block number, nonce, gas limit or percentage. -/
def countMax : Nat := (1 <<< 64) - 1

/-- A word of 256 bits, cut off at `weiMax`. -/
def clampWei (w : BitVec 256) : Wei := min weiMax w.toNat

/-- `floor (value * (100 + percent) / 100)`, cut off at `weiMax`. -/
def bumpByPercent (value : Wei) (percent : Nat) : Wei :=
  clampWei (BitVec.ofNat 256 value * (100 + BitVec.ofNat 256 percent) / 100)

/-! ## Fractions -/

/-- A rational multiplier. -/
structure Fraction where
  numerator : Nat
  denominator : Nat
deriving Repr, DecidableEq

namespace Fraction

/-- The multiplier that changes nothing. -/
def one : Fraction := ⟨1, 1⟩

/-- `floor (value * numerator / denominator)`, cut off at `weiMax`; a zero denominator gives
    zero. -/
def apply (f : Fraction) (value : Wei) : Wei :=
  if f.denominator = 0 then 0
  else clampWei
    (BitVec.ofNat 256 value * BitVec.ofNat 256 f.numerator / BitVec.ofNat 256 f.denominator)

end Fraction

/-! ## Transaction kinds -/

/-- How new transactions are priced. -/
inductive PricingKind where
  /-- By one price per unit of gas. -/
  | legacy
  /-- By a tip and a fee cap. -/
  | dynamic
deriving Repr, DecidableEq

/-- The type number of a transaction with a gas price. -/
def legacyType : Nat := 0

/-- The type number of a transaction with an access list. -/
def accessListType : Nat := 1

/-- The type number of a transaction with a fee cap and a tip cap. -/
def dynamicFeeType : Nat := 2

/-- The type number of a transaction that carries blobs. -/
def blobType : Nat := 3

/-! ## Pending transactions -/

/-- The fee fields of a transaction in the node's pool. -/
inductive PendingFees where
  | gasPrice (price : Wei)
  | dynamic (tipCap feeCap : Wei)
deriving Repr, DecidableEq

/-- A transaction of the sender that waits in the node's pool. -/
structure PendingTransaction where
  nonce : Nat
  fees : PendingFees
  type : Nat
deriving Repr, DecidableEq

namespace PendingTransaction

/-- The price a replacement with one price competes with: of dynamic fees, the fee cap. -/
def gasPrice (t : PendingTransaction) : Wei :=
  match t.fees with
  | .gasPrice price => price
  | .dynamic _ feeCap => feeCap

/-- The tip a replacement competes with: a single price is paid as tip in full. -/
def tipCap (t : PendingTransaction) : Wei :=
  match t.fees with
  | .gasPrice price => price
  | .dynamic tipCap _ => tipCap

/-- The fee cap a replacement competes with. -/
def feeCap (t : PendingTransaction) : Wei := t.gasPrice

end PendingTransaction

/-! ## Replacement bounds and pricing -/

/-- Increments and ceilings for the replacement of a stuck transaction. -/
structure FeeBounds where
  gasPriceIncrement : Wei
  maxGasPrice : Wei
  tipCapIncrement : Wei
  maxTipCap : Wei
  feeCapIncrement : Wei
  maxFeeCap : Wei
deriving Repr, DecidableEq

/-- The price chosen for a transaction. -/
inductive Pricing where
  | legacy (gasPrice : Wei)
  | dynamic (tipCap feeCap : Wei)
deriving Repr, DecidableEq

namespace Pricing

/-- The most a unit of gas can cost. -/
def maxPrice : Pricing → Wei
  | legacy gasPrice => gasPrice
  | dynamic _ feeCap => feeCap

end Pricing

end PacketRelay
