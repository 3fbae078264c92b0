/-
  A chain with everything a relayer needs for it.

  `Chain.build` puts a chain together from settings: the catalog of contract errors, the account,
  the sender of transactions and the scanner for packets.
-/
import PacketRelay.Config.Settings
import PacketRelay.Delivery.Replacement
import PacketRelay.Discovery.Scan
import PacketRelay.Revert.Artifact

namespace PacketRelay

/-- What is wrong with settings when they are put to use. -/
inductive ChainFault where
  | account (e : AccountError)
  /-- The node serves another chain. -/
  | otherChain (reported configured : Nat)
deriving Repr, DecidableEq

/-- The wording of a fault. -/
def ChainFault.message : ChainFault → String
  | account e => "Failed to create account: " ++ e.message
  | otherChain reported configured =>
    "RPC endpoint reports chain id " ++ Decimal.text reported ++ ", configured " ++
      Decimal.text configured

/-- Why an operation on a chain fails. -/
inductive ChainError where
  | config (fault : ChainFault)
  | delivery (e : DeliveryError)
  | discovery (e : DiscoveryError)
  | revert (e : RevertError)
  | storage (e : StorageError)
  | node (e : NodeError)
deriving DecidableEq

/-- The wording of an error. -/
def ChainError.message : ChainError → String
  | config fault => "Configuration error: " ++ fault.message
  | delivery e => e.message
  | discovery e => e.message
  | revert e => e.message
  | storage e => e.message
  | node e => e.message

/-- A chain, one channel of which is relayed. -/
structure Chain where
  config : Config
  sender : Sender
  scanner : Scanner

namespace Config

/-- The storage of checkpoints. -/
def openStorage (c : Config) (files : FileTree) : Storage :=
  match c.storage.kind with
  | .file => .directory c.checkpointDir files
  | .memory => .memory []

/-- The checkpoints. -/
def openCheckpoints (c : Config) (files : FileTree) : Checkpoints :=
  ⟨c.openStorage files, c.sync.initialSent, c.sync.initialReceived⟩

/-- The catalog of contract errors. -/
def errorCatalog (c : Config) (files : FileTree) : Except RevertError ErrorCatalog :=
  ErrorCatalog.ofFolders Abi.selector files c.artifactDirs

end Config

namespace Chain

variable {σ : Type}

/-- Puts a chain together. -/
def build (c : Config) (files : FileTree) : Except ChainError Chain := do
  let errors ← (c.errorCatalog files).mapError .revert
  let account ← (Account.ofKey c.privateKey c.chain.chainId).mapError fun e => .config (.account e)
  pure ⟨c, ⟨account, errors, c.tx⟩, ⟨c.chain.contract, c.sync.path, c.sync.blocksPerQuery⟩⟩

/-- Checks that a node serves the chain. -/
def verifyId (k : Chain) (reported : Nat) : Except ChainError Unit :=
  if reported = k.config.chain.chainId then .ok ()
  else .error (.config (.otherChain reported k.config.chain.chainId))

/-- The latest block. -/
def latestHeight [Node σ] (token : CancelToken) : Run σ ChainError Nat :=
  ExceptT.adapt .node (Session.ask token .blockNumber)

/-- The checkpoints of both directions. -/
def checkpoints (c : Checkpoints) : Except ChainError (List (Direction × Nat)) := do
  let sent ← (c.load .sent).mapError .storage
  let received ← (c.load .received).mapError .storage
  pure [(.sent, sent), (.received, received)]

/-- The text of the error that data report. -/
def decodeRevert (k : Chain) (data : Bytes) : Except ChainError String :=
  (k.sender.errors.decodeText data).mapError .revert

end Chain

end PacketRelay
