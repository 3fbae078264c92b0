/-
  Transactions: what is asked for, what the node knows, what came of it, and what is signed.

  * `TransactionRequest` is a transaction to be sent, every field of which may be absent;
  * `Transaction` is a transaction the node has looked up, `Receipt` its outcome;
  * `Envelope` is a transaction with all fields its kind needs.  `Envelope.ofRequest` chooses the
    kind from the fields that are present and `Envelope.signed` is the signed form.
-/
import PacketRelay.Curve.Secp256k1
import PacketRelay.Digest.Keccak
import PacketRelay.Fee
import PacketRelay.Rlp

namespace PacketRelay

/-! ## Requests and answers -/

/-- Where a transaction goes. -/
inductive Recipient where
  | create
  | call (address : Address)
deriving DecidableEq

/-- An address and storage keys a transaction announces to read. -/
structure AccessEntry where
  address : Address
  storageKeys : List Hash
deriving DecidableEq

/-- A transaction to be sent. -/
structure TransactionRequest where
  sender : Option Address := none
  recipient : Option Recipient := none
  nonce : Option Nat := none
  gas : Option Nat := none
  gasPrice : Option Wei := none
  feeCap : Option Wei := none
  tipCap : Option Wei := none
  value : Option Nat := none
  input : Option Bytes := none
  chainId : Option Nat := none
  accessList : Option (List AccessEntry) := none
  type : Option Nat := none
deriving DecidableEq

/-- A transaction the node has looked up; `block` is absent while it is pending. -/
structure Transaction where
  hash : Hash
  type : Nat
  block : Option Nat
  request : TransactionRequest
deriving DecidableEq

/-- The outcome of a transaction in a block. -/
structure Receipt where
  transactionHash : Hash
  blockNumber : Nat
  success : Bool
  gasUsed : Nat
deriving DecidableEq

/-! ## Signing -/

/-- The fields that all kinds of transactions share. -/
structure Envelope.Common where
  chainId : Nat
  nonce : Nat
  gas : Nat
  recipient : Recipient
  value : Nat
  input : Bytes
deriving DecidableEq

/-- A transaction with all fields its kind needs. -/
inductive Envelope where
  | legacy (c : Envelope.Common) (gasPrice : Wei)
  | accessList (c : Envelope.Common) (gasPrice : Wei) (entries : List AccessEntry)
  | dynamicFee (c : Envelope.Common) (tipCap feeCap : Wei) (entries : List AccessEntry)
deriving DecidableEq

namespace Envelope

/-- The shared fields of a request, if none is missing. -/
def Common.ofRequest? (r : TransactionRequest) : Option Common := do
  let chainId ← r.chainId
  let nonce ← r.nonce
  let gas ← r.gas
  let recipient ← r.recipient
  pure ⟨chainId, nonce, gas, recipient, r.value.getD 0, r.input.getD []⟩

/-- A gas price makes a transaction legacy, or with access list where there is one; without it
    the transaction has dynamic fees. -/
def ofRequest? (r : TransactionRequest) : Option Envelope := do
  let common ← Common.ofRequest? r
  match r.gasPrice, r.accessList with
  | some gasPrice, some entries => pure (.accessList common gasPrice entries)
  | some gasPrice, none => pure (.legacy common gasPrice)
  | none, entries => do
    let tipCap ← r.tipCap
    let feeCap ← r.feeCap
    pure (.dynamicFee common tipCap feeCap (entries.getD []))

/-- The recipient as an item; a creation has none. -/
def recipientItem : Recipient → Rlp
  | .create => .bytes []
  | .call address => .bytes address.bytes

/-- An access list as an item. -/
def accessItem (entries : List AccessEntry) : Rlp :=
  .list (entries.map fun e =>
    .list [.bytes e.address.bytes, .list (e.storageKeys.map fun k => .bytes k.bytes)])

/-- The chain the signature is bound to. -/
def chainId : Envelope → Nat
  | legacy c _ | accessList c _ _ | dynamicFee c _ _ _ => c.chainId

/-- The number written before a transaction that is no legacy one. -/
def typeBytes : Envelope → Bytes
  | legacy _ _ => []
  | accessList _ _ _ => [1]
  | dynamicFee _ _ _ _ => [2]

/-- The fields in the order in which they are written, without chain and signature of a legacy
    transaction. -/
def fields : Envelope → List Rlp
  | legacy c gasPrice =>
    [.number c.nonce, .number gasPrice, .number c.gas, recipientItem c.recipient, .number c.value,
     .bytes c.input]
  | accessList c gasPrice entries =>
    [.number c.chainId, .number c.nonce, .number gasPrice, .number c.gas,
     recipientItem c.recipient, .number c.value, .bytes c.input, accessItem entries]
  | dynamicFee c tipCap feeCap entries =>
    [.number c.chainId, .number c.nonce, .number tipCap, .number feeCap, .number c.gas,
     recipientItem c.recipient, .number c.value, .bytes c.input, accessItem entries]

/-- What is appended to the fields before hashing: a legacy transaction names its chain there. -/
def unsignedTail : Envelope → List Rlp
  | legacy c _ => [.number c.chainId, .number 0, .number 0]
  | _ => []

/-- The parity of a signature; that of a legacy transaction carries the chain with it. -/
def parityItem (t : Envelope) (odd : Bool) : Rlp :=
  match t with
  | legacy c _ => .number (35 + 2 * c.chainId + odd.toNat)
  | _ => .number odd.toNat

/-- The hash that is signed. -/
def signingHash (t : Envelope) : Hash :=
  keccak256 (t.typeBytes ++ (Rlp.list (t.fields ++ t.unsignedTail)).encode)

/-- The transaction signed with a secret key. -/
def signed (t : Envelope) (key : Nat) : Bytes :=
  let g := Secp256k1.sign key t.signingHash.toNat
  t.typeBytes ++ (Rlp.list (t.fields ++ [t.parityItem g.odd, .number g.r, .number g.s])).encode

end Envelope

end PacketRelay
