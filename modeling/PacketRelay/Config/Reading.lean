/-
  Settings as documents.

  `reader` reads settings and `document` writes them.  Sections and fields that are left out take
  their defaults, unless they have none.
-/
import PacketRelay.Config.Settings
import PacketRelay.Document.Reader

namespace PacketRelay

/-- The largest number of 32 bits. -/
def smallMax : Nat := (1 <<< 32) - 1

/-! ## Parts of the domain -/

namespace PricingKind

/-- Reads a kind of pricing. -/
def reader (form : Notation) : Reader PricingKind :=
  Variants.reader form [("legacy", .unit .legacy), ("dynamic", .unit .dynamic)]

/-- Writes a kind of pricing. -/
def document : PricingKind → Document
  | legacy => .text "legacy"
  | dynamic => .text "dynamic"

end PricingKind

namespace Fraction

/-- Reads a fraction. -/
def reader (form : Notation) : Reader Fraction :=
  Fields.reader form (Fraction.mk
    <$> .required "numerator" (.natural countMax)
    <*> .required "denominator" (.natural countMax))

/-- Writes a fraction. -/
def document (f : Fraction) : Document :=
  .table [("numerator", .natural f.numerator), ("denominator", .natural f.denominator)]

end Fraction

namespace ChannelPath

/-- Reads both ends of a channel. -/
def reader (form : Notation) : Reader ChannelPath :=
  Fields.reader form ((fun port channel port' channel' => ⟨⟨port, channel⟩, ⟨port', channel'⟩⟩)
    <$> .required "port_id" .text
    <*> .required "channel_id" .text
    <*> .required "counterparty_port_id" .text
    <*> .required "counterparty_channel_id" .text)

/-- Writes both ends of a channel. -/
def document (p : ChannelPath) : Document :=
  .table [("port_id", .text p.own.port), ("channel_id", .text p.own.channel),
    ("counterparty_port_id", .text p.counterparty.port),
    ("counterparty_channel_id", .text p.counterparty.channel)]

end ChannelPath

/-- Reads a path. -/
def Path.reader : Reader Path := fun d => (Reader.text d).map Path.mk

/-- Writes a path. -/
def Path.document (p : Path) : Document := .text p.text

/-- Reads a secret. -/
def Secret.reader : Reader Secret := fun d => (Reader.text d).map Secret.mk

/-- Writes a secret, without telling it. -/
def Secret.document (s : Secret) : Document := .text s.shown

/-! ## Transactions -/

namespace ReceiptSettings

/-- Reads how receipts are asked for. -/
def reader (form : Notation) : Reader ReceiptSettings :=
  Fields.reader form (ReceiptSettings.mk
    <$> .defaulted "attempts" default.attempts (.natural smallMax)
    <*> .defaulted "interval_secs" default.intervalSecs (.natural countMax))

/-- Writes how receipts are asked for. -/
def document (r : ReceiptSettings) : Document :=
  .table [("attempts", .natural r.attempts), ("interval_secs", .natural r.intervalSecs)]

end ReceiptSettings

namespace DynamicFeeSettings

/-- Reads how fees are derived. -/
def reader (form : Notation) : Reader DynamicFeeSettings :=
  Fields.reader form (DynamicFeeSettings.mk
    <$> .defaulted "limit_priority_fee_per_gas" none (Reader.wei.optional)
    <*> .defaulted "priority_fee_rate" .one (Fraction.reader form)
    <*> .defaulted "limit_fee_per_gas" none (Reader.wei.optional)
    <*> .defaulted "base_fee_rate" .one (Fraction.reader form)
    <*> .defaulted "fee_history_reward_percentile" default.percentile (.number form)
    <*> .defaulted "max_retry_for_fee_history" default.retries (.natural smallMax))

/-- Writes how fees are derived. -/
def document (s : DynamicFeeSettings) : Document :=
  .table [("limit_priority_fee_per_gas", .optional .natural s.tipLimit),
    ("priority_fee_rate", s.tipRate.document),
    ("limit_fee_per_gas", .optional .natural s.feeLimit),
    ("base_fee_rate", s.baseFeeRate.document),
    ("fee_history_reward_percentile", .float s.percentile),
    ("max_retry_for_fee_history", .natural s.retries)]

end DynamicFeeSettings

namespace ReplaceSettings

/-- Reads how stuck transactions are replaced. -/
def reader (form : Notation) : Reader ReplaceSettings :=
  Fields.reader form ((fun checkSecs pendingSecs a b c d e f =>
      ⟨checkSecs, pendingSecs, ⟨a, b, c, d, e, f⟩⟩)
    <$> .required "check_interval_secs" (.natural countMax)
    <*> .required "pending_duration_to_replace_secs" (.natural countMax)
    <*> .defaulted "gas_price_inc" 0 .wei
    <*> .defaulted "max_gas_price" 0 .wei
    <*> .defaulted "gas_tip_cap_inc" 0 .wei
    <*> .defaulted "max_gas_tip_cap" 0 .wei
    <*> .defaulted "gas_fee_cap_inc" 0 .wei
    <*> .defaulted "max_gas_fee_cap" 0 .wei)

/-- Writes how stuck transactions are replaced. -/
def document (s : ReplaceSettings) : Document :=
  .table [("check_interval_secs", .natural s.checkSecs),
    ("pending_duration_to_replace_secs", .natural s.pendingSecs),
    ("gas_price_inc", .natural s.bounds.gasPriceIncrement),
    ("max_gas_price", .natural s.bounds.maxGasPrice),
    ("gas_tip_cap_inc", .natural s.bounds.tipCapIncrement),
    ("max_gas_tip_cap", .natural s.bounds.maxTipCap),
    ("gas_fee_cap_inc", .natural s.bounds.feeCapIncrement),
    ("max_gas_fee_cap", .natural s.bounds.maxFeeCap)]

end ReplaceSettings

namespace TransactionSettings

/-- Reads how transactions are sent. -/
def reader (form : Notation) : Reader TransactionSettings :=
  Fields.reader form (TransactionSettings.mk
    <$> .defaulted "tx_type" .dynamic (PricingKind.reader form)
    <*> .optional "price_bump" (.natural countMax)
    <*> .optional "gas_limit" (.natural countMax)
    <*> .defaulted "receipt" .default (ReceiptSettings.reader form)
    <*> .defaulted "dynamic" .default (DynamicFeeSettings.reader form)
    <*> .optional "replace" (ReplaceSettings.reader form))

/-- Writes how transactions are sent. -/
def document (s : TransactionSettings) : Document :=
  .table [("tx_type", s.kind.document), ("price_bump", .optional .natural s.priceBump),
    ("gas_limit", .optional .natural s.gasLimit), ("receipt", s.receipt.document),
    ("dynamic", s.dynamic.document), ("replace", .optional ReplaceSettings.document s.replace)]

end TransactionSettings

/-! ## All settings -/

namespace ChainSettings

/-- The folder of data when none is set. -/
def defaultDataDir : Path := ⟨"./data"⟩

/-- Reads the chain. -/
def reader (form : Notation) : Reader ChainSettings :=
  Fields.reader form (ChainSettings.mk
    <$> .required "chain_id" (.natural countMax)
    <*> .required "rpc_url" .text
    <*> .required "ibc_address" (.fixedBytes form 20)
    <*> .defaulted "data_dir" defaultDataDir Path.reader)

/-- Writes the chain. -/
def document (s : ChainSettings) : Document :=
  .table [("chain_id", .natural s.chainId), ("rpc_url", .text s.rpcUrl),
    ("ibc_address", .text (Hex.text s.contract.bytes)), ("data_dir", s.dataDir.document)]

end ChainSettings

namespace SyncSettings

/-- Reads how packets are searched. -/
def reader (form : Notation) : Reader SyncSettings :=
  Fields.reader form (SyncSettings.mk
    <$> .defaulted "blocks_per_query" 1000 (.natural countMax)
    <*> .defaulted "initial_send_checkpoint" 1 (.natural countMax)
    <*> .defaulted "initial_recv_checkpoint" 1 (.natural countMax)
    <*> .required "path" (ChannelPath.reader form))

/-- Writes how packets are searched. -/
def document (s : SyncSettings) : Document :=
  .table [("blocks_per_query", .natural s.blocksPerQuery),
    ("initial_send_checkpoint", .natural s.initialSent),
    ("initial_recv_checkpoint", .natural s.initialReceived), ("path", s.path.document)]

end SyncSettings

namespace StorageSettings

/-- Reads how checkpoints are kept. -/
def reader (form : Notation) : Reader StorageSettings :=
  Fields.reader form (StorageSettings.mk
    <$> .defaulted "backend" .file
      (Variants.reader form [("file", .unit .file), ("memory", .unit .memory)])
    <*> .optional "path" Path.reader)

/-- Writes how checkpoints are kept. -/
def document (s : StorageSettings) : Document :=
  .table [("backend", match s.kind with | .file => .text "file" | .memory => .text "memory"),
    ("path", .optional Path.document s.path)]

end StorageSettings

namespace Config

/-- Reads all settings. -/
def reader (form : Notation) : Reader Config :=
  Fields.reader form (Config.mk
    <$> .required "chain" (ChainSettings.reader form)
    <*> .required "account" (Fields.reader form (.required "private_key" Secret.reader))
    <*> .required "sync" (SyncSettings.reader form)
    <*> .defaulted "tx" .default (TransactionSettings.reader form)
    <*> .defaulted "revert" []
      (Fields.reader form (.defaulted "artifact_dirs" [] (.list Path.reader)))
    <*> .defaulted "storage" .default (StorageSettings.reader form))

/-- Writes all settings. -/
def document (c : Config) : Document :=
  .table [("chain", c.chain.document),
    ("account", .table [("private_key", c.privateKey.document)]), ("sync", c.sync.document),
    ("tx", c.tx.document),
    ("revert", .table [("artifact_dirs", .list (c.artifactDirs.map Path.document))]),
    ("storage", c.storage.document)]

end Config

end PacketRelay
