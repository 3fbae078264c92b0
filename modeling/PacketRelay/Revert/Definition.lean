/-
  Definitions of contract errors.

  An error has a name and parameters.  Its signature decides under which selector contracts report
  it.  `Interface.errors` reads the errors among the items of a contract's interface.
-/
import PacketRelay.Abi.Parameter
import PacketRelay.Abi.Signature

namespace PacketRelay

/-- The definition of an error. -/
structure ErrorDefinition where
  name : String
  inputs : List Parameter

namespace ErrorDefinition

/-- The signature. -/
def signature (e : ErrorDefinition) : String :=
  Abi.signatureText e.name (Parameter.typeTexts e.inputs)

/-- Reads a definition. -/
def reader : Reader ErrorDefinition :=
  Fields.reader .json (ErrorDefinition.mk
    <$> .required "name" Parameter.nameReader
    <*> .required "inputs" (.list Parameter.reader))

/-- What contracts report with a message of their own. -/
def message : ErrorDefinition := ⟨"Error", [.mk "desc" "string" []]⟩

/-- What contracts report when something fails that must not. -/
def panic : ErrorDefinition := ⟨"Panic", [.mk "code" "uint256" []]⟩

end ErrorDefinition

/-! ## Interfaces of contracts -/

namespace Interface

/-- An item of an interface. -/
inductive Item where
  | constructor
  | fallback
  | receive
  | error (e : ErrorDefinition)
  | other

/-- The ways a function may deal with the state of the contract. -/
def mutabilities : Variants Unit :=
  [("pure", .unit ()), ("view", .unit ()), ("nonpayable", .unit ()), ("payable", .unit ())]

/-- Reads how a function deals with the state of the contract; an empty table is no content. -/
def mutability : Reader Unit
  | .table [(name, .table [])] => Variants.reader .json mutabilities (.text name)
  | d => Variants.reader .json mutabilities d

/-- What an item says about the state of the contract, today or in earlier times. -/
structure StateClaims where
  mutability : Option Unit
  payable : Option Bool
  constant : Option Bool

/-- Whether something is said today or nothing contrary was said in earlier times: what takes
    payments does not leave the state alone. -/
def StateClaims.isConsistent (c : StateClaims) : Bool :=
  c.mutability.isSome || !(c.payable == some true && c.constant == some true)

/-- Reads what an item says about the state of the contract. -/
def stateFields : Fields Unit :=
  (fun _ => ()) <$> (StateClaims.mk
    <$> .optional "stateMutability" mutability
    <*> .optional "payable" .truth
    <*> .optional "constant" .truth : Fields StateClaims).ensuring StateClaims.isConsistent

/-- Reads an item that only a table can be. -/
def tableReader {α : Type} (fs : Fields α) : Reader α
  | .table members => Fields.reader .json fs (.table members)
  | _ => .error .mismatch

/-- Reads a function. -/
def functionFields : Fields Unit :=
  (fun _ _ _ _ => ())
    <$> .required "name" Parameter.nameReader
    <*> .required "inputs" (.list Parameter.reader)
    <*> .required "outputs" (.list Parameter.reader)
    <*> stateFields

/-- Reads an event. -/
def eventFields : Fields Unit :=
  (fun _ _ _ => ())
    <$> .required "name" Parameter.nameReader
    <*> .required "inputs" (.list Parameter.eventReader)
    <*> .required "anonymous" .truth

/-- The reader of an item by its type. -/
def itemReader : String → Reader Item
  | "error" => fun d => (ErrorDefinition.reader d).map .error
  | "event" => fun d => (Fields.reader .json eventFields d).map fun _ => .other
  | "function" => fun d => (tableReader functionFields d).map fun _ => .other
  | "constructor" => fun d =>
    (tableReader ((fun _ _ => ()) <$> .required "inputs" (.list Parameter.reader) <*> stateFields)
      d).map fun _ => .constructor
  | "fallback" => fun d => (tableReader stateFields d).map fun _ => .fallback
  | "receive" => fun d => (tableReader stateFields d).map fun _ => .receive
  | _ => fun _ => .error .mismatch

/-- Reads an item: a table whose `type` says what it is, or a list that starts with this. -/
def item : Reader Item
  | .table members => match members.lookup "type" with
    | some (.text type) => itemReader type (.table (members.filter fun (k, _) => k != "type"))
    | _ => .error .mismatch
  | .list (.text type :: rest) => itemReader type (.list rest)
  | _ => .error .mismatch

/-- Whether at most one item satisfies a condition. -/
def atMostOne (p : Item → Bool) (items : List Item) : Bool := (items.filter p).length ≤ 1

/-- Reads the errors of an interface, sorted by name.  There may be one constructor, one fallback
    and one receiver. -/
def errors (d : Document) : Except DocumentError (List ErrorDefinition) := do
  let items ← Reader.list item d
  let single := atMostOne (· matches .constructor) items && atMostOne (· matches .fallback) items &&
    atMostOne (· matches .receive) items
  if single then
    let found := items.filterMap fun | .error e => some e | _ => none
    pure (found.mergeSort fun a b => !decide (b.name < a.name))
  else throw .mismatch

end Interface

end PacketRelay
