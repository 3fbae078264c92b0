/-
  Running commands.

  `Command.run` gives the text that a command prints, or the error it ends in.
-/
import PacketRelay.Chain
import PacketRelay.Command.Arguments
import PacketRelay.Config.Load
import PacketRelay.Endpoint

namespace PacketRelay

/-- Why a command fails. -/
inductive CommandError where
  | config (e : ConfigError)
  | data (e : Hex.Error)
  | revert (e : RevertError)
  | chain (e : ChainError)
deriving DecidableEq

/-- The wording of an error. -/
def CommandError.message : CommandError → String
  | config e => e.message
  | data e => e.message
  | revert e => e.message
  | chain e => e.message

/-- Lines of text. -/
def unlines (lines : List String) : String := String.join (lines.map (· ++ "\n"))

/-- The lines that tell a price. -/
def Pricing.lines : Pricing → List String
  | legacy gasPrice => ["gas_price\t" ++ Decimal.text gasPrice]
  | dynamic tipCap feeCap =>
    ["max_priority_fee_per_gas\t" ++ Decimal.text tipCap,
      "max_fee_per_gas\t" ++ Decimal.text feeCap]

/-- The text that tells how a watch has ended. -/
def ReplacementOutcome.text : ReplacementOutcome → String
  | mined => "Mined"
  | replaced r =>
    "Replaced(ReceiptSummary \x7b tx_hash: " ++ Hex.text r.transactionHash.bytes ++
      ", block_number: " ++ Decimal.text r.blockNumber ++ ", success: " ++ toString r.success ++
      ", gas_used: " ++ Decimal.text r.gasUsed ++ " \x7d)"

namespace DecodedError

/-- The error as a table. -/
def document (e : DecodedError) : Document :=
  .object [("name", .text e.name), ("arguments", e.table)]

end DecodedError

namespace Command

/-- Tells which error data report. -/
def decodeText (c : Config) (files : FileTree) (data : String) (asJson : Bool) :
    Except CommandError String := do
  let bytes ← (Hex.decodeText data).mapError .data
  let errors ← (c.errorCatalog files).mapError .revert
  let decoded ← (errors.decode bytes).mapError .revert
  pure (unlines [if asJson then Json.pretty decoded.document else decoded.text])

/-- The chain and its node. -/
def openChain (c : Config) (files : FileTree) : Except ChainError (Chain × Endpoint) := do
  let node ← (Endpoint.ofUrl c.chain.rpcUrl).mapError .delivery
  let k ← Chain.build c files
  pure (k, node)

/-- The chain and its node, which serves this chain. -/
def connect (c : Config) (files : FileTree) : Except ChainError (Chain × Endpoint) := do
  let (k, node) ← openChain c files
  k.verifyId (← node.chainId.mapError .node)
  pure (k, node)

/-- Runs an operation of the sender from an instant on. -/
def perform {α : Type} (c : Config) (files : FileTree) (start : Instant)
    (f : Sender → Run Endpoint DeliveryError α) : Except CommandError α := do
  let (k, node) ← (connect c files).mapError .chain
  let session : Session Endpoint :=
    { peers := node, now := start, calls := [], checkpoints := c.openCheckpoints files,
      channelOpen := false }
  ((Session.run (f k.sender) session).1.mapError .delivery).mapError .chain

/-- The text that a command prints. -/
def run (c : Config) (files : FileTree) : Command → Except CommandError String
  | decodeRevert data asJson => decodeText c files data asJson
  | gasPrice nonce => do
    let pricing ← perform c files 0 fun s => s.gasPricing .never nonce
    pure (unlines pricing.lines)
  | replaceTransaction hash pendingSecs timeoutSecs => do
    let start := seconds pendingSecs
    let token := match timeoutSecs with
      | some n => CancelToken.never.withDeadline (start + seconds n)
      | none => .never
    let outcome ← perform c files start fun s => s.replaceStuck token hash 0
    pure (unlines [outcome.text])
  | checkpoints => do
    let _ ← (openChain c files).mapError .chain
    let all ← (Chain.checkpoints (c.openCheckpoints files)).mapError .chain
    pure (unlines (all.map fun (d, n) => d.key ++ "\t" ++ Decimal.text n))

end Command

/-! ## Whole command lines -/

/-- How the run of a command line ends. -/
structure Outcome where
  exitCode : UInt8
  output : String
  error : Option CommandError

namespace Outcome

/-- What comes of a command line that is not run. -/
def ofRefusal : Arguments.Refusal → Outcome
  | .usage => ⟨2, "", none⟩
  | .help => ⟨0, Arguments.usage, none⟩
  | .version => ⟨0, "relayer-service 0.1.0\n", none⟩

/-- What comes of a command. -/
def ofResult : Except CommandError String → Outcome
  | .ok text => ⟨0, text, none⟩
  | .error e => ⟨1, "", some e⟩

end Outcome

namespace Arguments

/-- The text that a command line prints, or the error it ends in. -/
def run (a : Arguments) (env : Environment) (files : FileTree) : Except CommandError String := do
  let c ← (Config.load env files a.settings).mapError .config
  a.command.run c files

/-- Reads and runs a command line. -/
def execute (words : List String) (env : Environment) (files : FileTree) : Outcome :=
  match parse words with
  | .error refusal => .ofRefusal refusal
  | .ok a => .ofResult (a.run env files)

/-- The paths that a command line reads from, apart from its settings. -/
def sources (c : Config) : List Path := c.checkpointDir :: c.artifactDirs

end Arguments

end PacketRelay
