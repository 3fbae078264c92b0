/-
  Why settings cannot be used.
-/
import PacketRelay.Document.Reader
import PacketRelay.FileTree

namespace PacketRelay

/-- What is wrong with settings that were read. -/
inductive SettingFault where
  | unsetVariable (name : String)
  | emptyUrl
  | urlScheme
  | zeroContract
  | emptyKey
  | zeroBlocksPerQuery
  | emptyPathPart (name : String)
  | zeroAttempts
  | zeroDenominator (rate : String)
  | percentile (x : Binary64)
  | zeroCheckInterval
  | zeroPendingDuration
deriving Repr, DecidableEq

namespace SettingFault

/-- The wording of a fault. -/
def message : SettingFault → String
  | unsetVariable name => "Environment variable '" ++ name ++ "' not found"
  | emptyUrl => "chain.rpc_url cannot be empty"
  | urlScheme => "chain.rpc_url must start with http:// or https://"
  | zeroContract => "chain.ibc_address cannot be the zero address"
  | emptyKey => "account.private_key cannot be empty"
  | zeroBlocksPerQuery => "sync.blocks_per_query must be greater than 0"
  | emptyPathPart name => "sync.path." ++ name ++ " cannot be empty"
  | zeroAttempts => "tx.receipt.attempts must be at least 1"
  | zeroDenominator rate => "tx.dynamic." ++ rate ++ " denominator cannot be 0"
  | percentile x =>
    "tx.dynamic.fee_history_reward_percentile must be within [0, 100], got " ++ x.plain
  | zeroCheckInterval => "tx.replace.check_interval_secs must be greater than 0"
  | zeroPendingDuration => "tx.replace.pending_duration_to_replace_secs must be greater than 0"

end SettingFault

/-- Why settings cannot be used. -/
inductive ConfigError where
  /-- The file cannot be read. -/
  | file (fault : FileFault)
  /-- The content of the file is no text. -/
  | notText (e : Utf8.Error)
  /-- The text is no document. -/
  | malformed
  | document (e : DocumentError)
  | invalid (fault : SettingFault)
deriving Repr, DecidableEq

namespace ConfigError

/-- The wording of an error. -/
def message : ConfigError → String
  | file fault => "IO error: " ++ fault.message
  | notText e => "IO error: " ++ e.message
  | malformed => "Configuration error: invalid document"
  | document e => "Configuration error: " ++ e.message
  | invalid fault => "Validation error: " ++ fault.message

end ConfigError

end PacketRelay
