/-
  The command line.

  A command line names a file with settings, how much is logged, and a command with its own options.
  Options start with dashes; the value of an option follows it or is joined to it, and after two
  dashes alone there are no more options.  Words are read in order, and the first that is wrong or
  asks for help decides.

  * `Arguments.parse` reads a command line;
  * `Arguments.Refusal` says that nothing is to be run.
-/
import PacketRelay.Checksum
import PacketRelay.Decimal
import PacketRelay.Fee
import PacketRelay.Path

namespace PacketRelay

/-- What is to be done. -/
inductive Command where
  /-- Tell which error data report. -/
  | decodeRevert (data : String) (asJson : Bool)
  /-- Tell the price of a new transaction, or of one that replaces the pending one with a nonce. -/
  | gasPrice (nonce : Option Nat)
  /-- Watch a transaction and replace it when it is stuck. -/
  | replaceTransaction (hash : Hash) (pendingSecs : Nat) (timeoutSecs : Option Nat)
  /-- Tell the checkpoints. -/
  | checkpoints
deriving DecidableEq

/-- A command line. -/
structure Arguments where
  settings : Path
  logLevel : String
  command : Command
deriving DecidableEq

namespace Arguments

/-- Why nothing is to be run. -/
inductive Refusal where
  /-- The command line makes no sense. -/
  | usage
  | help
  | version
deriving Repr, DecidableEq

/-! ## Values -/

/-- A value that a command line may hold: its name and the texts it may be. -/
structure Slot where
  name : String
  accepts : String → Bool

/-- Values as they were given, by name. -/
abbrev Given := List (String × String)

/-- The word read last: it is checked only when the next one is read, or at the end. -/
inductive Pending where
  | nothing
  /-- The next word is to be the value. -/
  | wanted (slot : Slot)
  | found (slot : Slot) (value : String)

/-- Notes a value, which has to be acceptable and may be given once. -/
def put (given : Given) (slot : Slot) (value : String) : Except Refusal Given :=
  if slot.accepts value && (given.lookup slot.name).isNone then .ok (given ++ [(slot.name, value)])
  else .error .usage

/-- Notes the value read last. -/
def settle (given : Given) : Pending → Except Refusal Given
  | .nothing => .ok given
  | .wanted _ => .error .usage
  | .found slot value => put given slot value

/-! ## Options -/

/-- What an option asks for. -/
inductive OptionKind where
  | help
  | version
  | flag
  | value (accepts : String → Bool)

/-- An option with one or two names.  One with two either takes a value or ends the reading. -/
structure OptionName where
  long : String
  short : Option Char
  kind : OptionKind

/-- The option of all commands that asks for help. -/
def helpOption : OptionName := ⟨"help", some 'h', .help⟩

/-- Whether a word is an option. -/
def isOption : List Char → Bool
  | '-' :: _ :: _ => true
  | _ => false

/-- Notes an option and the value that is joined to it. -/
def note (o : OptionName) (joined : Option (List Char)) (given : Given) :
    Except Refusal (Given × Pending) :=
  match o.kind, joined with
  | .value accepts, some value =>
    (put given ⟨o.long, accepts⟩ (String.ofList value)).map (·, .nothing)
  | .value accepts, none => .ok (given, .wanted ⟨o.long, accepts⟩)
  | _, some _ => .error .usage
  | .flag, none => (put given ⟨o.long, fun _ => true⟩ "").map (·, .nothing)
  | .help, none => .error .help
  | .version, none => .error .version

/-- What is joined to a long name by an equals sign. -/
def joinedLong (s : List Char) : Option (List Char) :=
  match s.dropWhile (· != '=') with
  | _ :: value => some value
  | [] => none

/-- What is joined to a short name, with or without an equals sign. -/
def joinedShort (kind : OptionKind) (s : List Char) : Option (List Char) :=
  match kind, s with
  | .value _, '=' :: value => some value
  | .value _, c :: rest => some (c :: rest)
  | _, _ => none

/-- Reads one option. -/
def option (known : List OptionName) (word : List Char) (given : Given) :
    Except Refusal (Given × Pending) :=
  match word with
  | '-' :: '-' :: name =>
    match known.find? fun o => o.long == String.ofList (name.takeWhile (· != '=')) with
    | some o => note o (joinedLong name) given
    | none => .error .usage
  | '-' :: c :: rest => match known.find? fun o => o.short == some c with
    | some o => note o (joinedShort o.kind rest) given
    | none => .error .usage
  | _ => .error .usage

/-! ## Words in order -/

/-- Reads words that are no options into the places left for them. -/
def fill : List Slot → List String → Given → Pending → Except Refusal Given
  | _, [], given, pending => settle given pending
  | [], _ :: _, _, _ => .error .usage
  | slot :: places, word :: rest, given, pending => do
    fill places rest (← settle given pending) (.found slot word)

/-- Reads words in order, up to one for which no place is left: the values, the word read last and
    the words that are left. -/
def read (known : List OptionName) :
    List Slot → List String → Given → Pending → Except Refusal (Given × Pending × List String)
  | _, [], given, pending => .ok (given, pending, [])
  | places, word :: rest, given, pending =>
    if word = "--" then (fill places rest given pending).map (·, .nothing, [])
    else if isOption word.toList then do
      let (given, pending) ← option known word.toList (← settle given pending)
      read known places rest given pending
    else match pending, places with
      | .wanted slot, places => read known places rest given (.found slot word)
      | pending, slot :: places => do
        read known places rest (← settle given pending) (.found slot word)
      | pending, [] => .ok (given, pending, word :: rest)

/-- Reads all that follows a command. -/
def readAll (known : List OptionName) (places : List Slot) (words : List String) :
    Except Refusal Given := do
  let (given, pending, rest) ← read (helpOption :: known) places words [] .nothing
  if rest.isEmpty then settle given pending else throw .usage

/-! ## Commands -/

/-- The number that a text writes. -/
def number? (s : String) : Option Nat :=
  match Decimal.read countMax s with
  | .ok n => some n
  | .error _ => none

/-- An option that takes a number. -/
def numberOption (name : String) : OptionName := ⟨name, none, .value fun s => (number? s).isSome⟩

/-- The number given under a name. -/
def numberIn (given : Given) (name : String) : Option Nat := (given.lookup name).bind number?

/-- The place of the data of an error. -/
def dataPlace : Slot := ⟨"DATA", fun _ => true⟩

/-- The place of the hash of a transaction. -/
def hashPlace : Slot := ⟨"TX_HASH", fun s => (fixedBytes? 32 s).isSome⟩

/-- The commands by name. -/
def commandNames : List String :=
  ["decode-revert", "gas-price", "replace-tx", "checkpoints", "help"]

/-- Whether help is there for a command: at most one may be named. -/
def helpWith : List String → Refusal
  | [] => .help
  | [name] => if commandNames.contains name then .help else .usage
  | _ => .usage

/-- Reads a command and what follows it. -/
def readCommand (name : String) (words : List String) : Except Refusal Command :=
  match name with
  | "decode-revert" => do
    let given ← readAll [⟨"json", none, .flag⟩] [dataPlace] words
    match given.lookup dataPlace.name with
    | some data => pure (.decodeRevert data (given.lookup "json").isSome)
    | none => throw .usage
  | "gas-price" => do
    let given ← readAll [numberOption "nonce"] [] words
    pure (.gasPrice (numberIn given "nonce"))
  | "replace-tx" => do
    let given ← readAll [numberOption "pending-secs", numberOption "timeout-secs"] [hashPlace] words
    match (given.lookup hashPlace.name).bind (fixedBytes? 32) with
    | some hash => pure (.replaceTransaction hash ((numberIn given "pending-secs").getD 0)
        (numberIn given "timeout-secs"))
    | none => throw .usage
  | "checkpoints" => do
    let _ ← readAll [] [] words
    pure .checkpoints
  | "help" => throw (helpWith words)
  | _ => throw .usage

/-- The options before the command. -/
def generalOptions : List OptionName :=
  [helpOption, ⟨"version", some 'V', .version⟩, ⟨"config", some 'c', .value fun s => !s.isEmpty⟩,
   ⟨"log-level", some 'l', .value fun _ => true⟩]

/-- Reads a command line. -/
def parse (words : List String) : Except Refusal Arguments := do
  let (given, pending, words) ← read generalOptions [] words [] .nothing
  match words with
  | [] => throw .usage
  | name :: rest =>
    let c ← readCommand name rest
    let given ← settle given pending
    pure ⟨⟨(given.lookup "config").getD "config.toml"⟩, (given.lookup "log-level").getD "info", c⟩

/-- How the command line is used. -/
def usage : String :=
  "Usage: relayer [OPTIONS] <COMMAND>\n\n" ++
  "Commands:\n" ++
  "  decode-revert [--json] <DATA>\n" ++
  "  gas-price [--nonce <NONCE>]\n" ++
  "  replace-tx [--pending-secs <SECS>] [--timeout-secs <SECS>] <TX_HASH>\n" ++
  "  checkpoints\n\n" ++
  "Options:\n" ++
  "  -c, --config <CONFIG>\n" ++
  "  -l, --log-level <LOG_LEVEL>\n" ++
  "  -h, --help\n" ++
  "  -V, --version\n"

end Arguments

end PacketRelay
