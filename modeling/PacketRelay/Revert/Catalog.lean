/-
  The catalog of contract errors.

  A catalog keeps definitions under their selectors.  It starts with the two errors that contracts
  report on their own and grows by definitions; a definition with the signature of a kept one
  changes nothing, and one with another signature under the same selector is refused.

  The selector of a signature is a parameter, `hash`.
-/
import PacketRelay.FileTree
import PacketRelay.Revert.Definition
import PacketRelay.Revert.Rendering

namespace PacketRelay

/-- Why a catalog cannot be built or data cannot be decoded. -/
inductive RevertError where
  | tooShort (length : Nat)
  | unknownSelector (selector : Selector)
  /-- The data do not hold the arguments of the error. -/
  | undecodable (name : String)
  | collision (selector : Selector) (kept added : String)
  /-- The file at the path is no artifact. -/
  | artifact (path : Path)
  | file (fault : FileFault)
  | notText (e : Utf8.Error)
deriving DecidableEq

namespace RevertError

/-- The wording of an error. -/
def message : RevertError → String
  | tooShort n => "Error data too short: " ++ Decimal.text n ++ " bytes"
  | unknownSelector s => "Unknown error selector " ++ Hex.text s.bytes
  | undecodable name => "Failed to decode " ++ name ++ ": invalid arguments"
  | collision s kept added =>
    "Selector " ++ Hex.text s.bytes ++ " collision: '" ++ kept ++ "' and '" ++ added ++ "'"
  | artifact path => "Invalid artifact " ++ path.text ++ ": no interface"
  | file fault => "IO error: " ++ fault.message
  | notText e => "IO error: " ++ e.message

end RevertError

/-- Definitions by selector, in the order of their addition. -/
structure ErrorCatalog where
  entries : List (Selector × ErrorDefinition)

namespace ErrorCatalog

/-- The definition under a selector. -/
def find? (c : ErrorCatalog) (s : Selector) : Option ErrorDefinition := c.entries.lookup s

/-- How many definitions are kept. -/
def size (c : ErrorCatalog) : Nat := c.entries.length

/-- Keeps a definition under a selector; says whether it is new. -/
def insert (c : ErrorCatalog) (s : Selector) (e : ErrorDefinition) :
    Except RevertError (Bool × ErrorCatalog) :=
  match c.find? s with
  | none => .ok (true, ⟨c.entries ++ [(s, e)]⟩)
  | some kept =>
    if kept.signature = e.signature then .ok (false, c)
    else .error (.collision s kept.signature e.signature)

section
variable (hash : String → Selector)

/-- The catalog that everything starts with. -/
def initial : ErrorCatalog :=
  ⟨[ErrorDefinition.message, ErrorDefinition.panic].map fun e => (hash e.signature, e)⟩

/-- Adds a definition. -/
def add (c : ErrorCatalog) (e : ErrorDefinition) : Except RevertError (Bool × ErrorCatalog) :=
  c.insert (hash e.signature) e

end

/-! ## Decoding -/

/-- The arguments of an error that data hold. -/
def argumentsOf? (e : ErrorDefinition) (data : Bytes) : Option (List (String × Document)) := do
  let types := (← Parameter.types? e.inputs).map AbiType.collapsed
  let values ← AbiType.decodeArguments types data
  pure ((argumentKeys 0 (e.inputs.map Parameter.name)).zip (AbiType.renderAll types values))

/-- The error that data report. -/
def decode (c : ErrorCatalog) (data : Bytes) : Except RevertError DecodedError :=
  match FixedBytes.ofBytes? 4 (data.take 4) with
  | none => .error (.tooShort data.length)
  | some s => match c.find? s with
    | none => .error (.unknownSelector s)
    | some e => match argumentsOf? e (data.drop 4) with
      | none => .error (.undecodable e.name)
      | some arguments => .ok ⟨e.name, arguments⟩

/-- The text of the error that data report. -/
def decodeText (c : ErrorCatalog) (data : Bytes) : Except RevertError String :=
  (c.decode data).map DecodedError.text

end ErrorCatalog

end PacketRelay
