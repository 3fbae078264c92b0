/-
  Loading settings.

  `Config.parse` resolves the references to variables in a text, reads the document and checks the
  settings; `Config.load` does this with a file.
-/
import PacketRelay.Config.Environment
import PacketRelay.Config.Error
import PacketRelay.Config.Reading
import PacketRelay.Toml.Parser

namespace PacketRelay

/-- Fails when a condition does not hold. -/
def SettingFault.unless (fault : SettingFault) (holds : Bool) : Except SettingFault Unit :=
  if holds then .ok () else .error fault

/-- Whether a text has other characters than blanks. -/
def isFilled (s : String) : Bool := !(Text.trimmed s).isEmpty

namespace ChainSettings

/-- Whether a text starts like the address of a service on the web. -/
def hasScheme (url : String) : Bool := url.startsWith "http://" || url.startsWith "https://"

/-- Checks the chain. -/
def check (s : ChainSettings) : Except SettingFault Unit := do
  SettingFault.emptyUrl.unless (isFilled s.rpcUrl)
  SettingFault.urlScheme.unless (hasScheme (Text.trimmed s.rpcUrl))
  SettingFault.zeroContract.unless (s.contract.bytes.any (· != 0))

end ChainSettings

namespace SyncSettings

/-- Checks the search for packets. -/
def check (s : SyncSettings) : Except SettingFault Unit := do
  SettingFault.zeroBlocksPerQuery.unless (s.blocksPerQuery != 0)
  (SettingFault.emptyPathPart "port_id").unless (isFilled s.path.own.port)
  (SettingFault.emptyPathPart "channel_id").unless (isFilled s.path.own.channel)
  (SettingFault.emptyPathPart "counterparty_port_id").unless (isFilled s.path.counterparty.port)
  (SettingFault.emptyPathPart "counterparty_channel_id").unless
    (isFilled s.path.counterparty.channel)

end SyncSettings

namespace TransactionSettings

/-- Checks the sending of transactions. -/
def check (s : TransactionSettings) : Except SettingFault Unit := do
  SettingFault.zeroAttempts.unless (s.receipt.attempts != 0)
  (SettingFault.zeroDenominator "priority_fee_rate").unless (s.dynamic.tipRate.denominator != 0)
  (SettingFault.zeroDenominator "base_fee_rate").unless (s.dynamic.baseFeeRate.denominator != 0)
  (SettingFault.percentile s.dynamic.percentile).unless (s.dynamic.percentile.isWithin 100)
  match s.replace with
  | none => pure ()
  | some r => do
    SettingFault.zeroCheckInterval.unless (r.checkSecs != 0)
    SettingFault.zeroPendingDuration.unless (r.pendingSecs != 0)

end TransactionSettings

namespace Config

/-- Checks all settings. -/
def check (c : Config) : Except SettingFault Unit := do
  c.chain.check
  SettingFault.emptyKey.unless (!c.privateKey.isEmpty)
  c.sync.check
  c.tx.check

/-- Reads and checks settings from a document without references to variables. -/
def parseResolved (s : String) : Except ConfigError Config :=
  match Toml.parse s with
  | none => .error .malformed
  | some d => do
    let c ← (reader .toml d).mapError ConfigError.document
    c.check.mapError ConfigError.invalid
    pure c

/-- Reads and checks settings. -/
def parse (env : Environment) (s : String) : Except ConfigError Config := do
  let resolved ← (env.resolve s).mapError fun name => .invalid (.unsetVariable name)
  parseResolved resolved

/-- Reads and checks settings from a file. -/
def load (env : Environment) (files : FileTree) (p : Path) : Except ConfigError Config := do
  let content ← (files.read p).mapError .file
  let s ← (Utf8.decode content).mapError .notText
  parse env s

end Config

end PacketRelay
