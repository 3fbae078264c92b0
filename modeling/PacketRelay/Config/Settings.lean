/-
  The settings of a relayer.
-/
import PacketRelay.Binary64
import PacketRelay.Fee
import PacketRelay.Packet
import PacketRelay.Path
import PacketRelay.Secret

namespace PacketRelay

/-- The chain: how it is reached and where its messaging contract and its data are. -/
structure ChainSettings where
  chainId : Nat
  rpcUrl : String
  contract : Address
  dataDir : Path
deriving DecidableEq

/-- The search for packets. -/
structure SyncSettings where
  blocksPerQuery : Nat
  initialSent : Nat
  initialReceived : Nat
  path : ChannelPath
deriving DecidableEq

/-- How often and in which intervals a receipt is asked for. -/
structure ReceiptSettings where
  attempts : Nat
  intervalSecs : Nat
deriving Repr, DecidableEq

/-- How a tip and a fee cap are derived from the fee history. -/
structure DynamicFeeSettings where
  tipLimit : Option Wei
  tipRate : Fraction
  feeLimit : Option Wei
  baseFeeRate : Fraction
  percentile : Binary64
  /-- How many older blocks are looked at. -/
  retries : Nat
deriving Repr, DecidableEq

/-- When and how a stuck transaction is replaced. -/
structure ReplaceSettings where
  checkSecs : Nat
  pendingSecs : Nat
  bounds : FeeBounds
deriving Repr, DecidableEq

/-- The sending of transactions. -/
structure TransactionSettings where
  kind : PricingKind
  /-- By how many percent a replacement must be dearer. -/
  priceBump : Option Nat
  gasLimit : Option Nat
  receipt : ReceiptSettings
  dynamic : DynamicFeeSettings
  replace : Option ReplaceSettings
deriving Repr, DecidableEq

/-- Where checkpoints are kept. -/
inductive StorageKind where
  | file
  | memory
deriving Repr, DecidableEq

/-- The keeping of checkpoints. -/
structure StorageSettings where
  kind : StorageKind
  /-- A folder in place of the one for the chain. -/
  path : Option Path
deriving Repr, DecidableEq

/-- All settings. -/
structure Config where
  chain : ChainSettings
  privateKey : Secret
  sync : SyncSettings
  tx : TransactionSettings
  /-- The folders in which contract artifacts are searched. -/
  artifactDirs : List Path
  storage : StorageSettings
deriving DecidableEq

namespace ReceiptSettings

/-- What counts when nothing is set. -/
def default : ReceiptSettings := ⟨10, 3⟩

end ReceiptSettings

namespace DynamicFeeSettings

/-- What counts when nothing is set. -/
def default : DynamicFeeSettings := ⟨none, .one, none, .one, .ofInt 50, 5⟩

end DynamicFeeSettings

namespace TransactionSettings

/-- What counts when nothing is set. -/
def default : TransactionSettings := ⟨.dynamic, none, none, .default, .default, none⟩

end TransactionSettings

namespace StorageSettings

/-- What counts when nothing is set. -/
def default : StorageSettings := ⟨.file, none⟩

end StorageSettings

/-- The folder of the chain's checkpoints. -/
def Config.checkpointDir (c : Config) : Path :=
  c.storage.path.getD (c.chain.dataDir.join ⟨Decimal.text c.chain.chainId⟩)

end PacketRelay
