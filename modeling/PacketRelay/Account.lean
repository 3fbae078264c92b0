/-
  Accounts, which own an address and sign transactions.

  * `Account` is anything that can sign;
  * `Account.ofKey` is the account of a secret key: it signs what `Envelope.ofRequest?` makes of a
    request with its own address and chain filled in.
-/
import PacketRelay.Checksum
import PacketRelay.Secret
import PacketRelay.Transaction

namespace PacketRelay

/-- Why a signature is refused. -/
inductive AccountError where
  | invalidKey
  /-- The request lacks a field that its kind of transaction needs. -/
  | incompleteRequest
  | refused (reason : String)
deriving Repr, DecidableEq

/-- The wording of an error. -/
def AccountError.message : AccountError → String
  | invalidKey => "Invalid key: Invalid private key format"
  | incompleteRequest => "Signing failed: transaction can't be built due to missing keys"
  | refused reason => "Signing failed: " ++ reason

/-- An address together with what signs for it. -/
structure Account where
  address : Address
  chainId : Nat
  sign : TransactionRequest → Except AccountError Bytes

namespace Account

/-- The address of a secret key: the last bytes of the hash of its point. -/
def addressOfKey (key : Nat) : Address :=
  let (x, y) := Secp256k1.publicKey key
  FixedBytes.ofNat 20 (keccak256 (Bytes.ofNat 32 x ++ Bytes.ofNat 32 y)).toNat

/-- Reads a secret key: 32 bytes that write a number from one up to the order of the curve,
    exclusive. -/
def key? (s : Secret) : Option Nat :=
  match fixedBytes? 32 (Text.trimmed s.exposed) with
  | none => none
  | some b => if 0 < b.toNat ∧ b.toNat < Secp256k1.order then some b.toNat else none

/-- Signs a request as coming from an address on a chain. -/
def signWith (key : Nat) (address : Address) (chainId : Nat) (request : TransactionRequest) :
    Except AccountError Bytes :=
  let request := { request with sender := some address, chainId := some chainId }
  match Envelope.ofRequest? request with
  | none => .error .incompleteRequest
  | some t => .ok (t.signed key)

/-- The account of a secret key on a chain. -/
def ofKey (secret : Secret) (chainId : Nat) : Except AccountError Account :=
  match key? secret with
  | none => .error .invalidKey
  | some key =>
    let address := addressOfKey key
    .ok ⟨address, chainId, signWith key address chainId⟩

end Account

end PacketRelay
