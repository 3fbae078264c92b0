/-
  Reading values of the domain from documents.

  A `Reader` takes a document to a value or says what is wrong with it.

  * `Fields` reads the fields of a structure.  A structure is written as a table, in which unknown
    keys are ignored, or as the list of its fields in order; a moment has none of them;
  * `Variants` reads one of several alternatives, which is written as its name or as a table with
    its name as the only key.
-/
import PacketRelay.Checksum
import PacketRelay.Json.Number

namespace PacketRelay

/-- The notation a document was written in. -/
inductive Notation where
  | json
  | toml
deriving Repr, DecidableEq

/-- What is wrong with a document. -/
inductive DocumentError where
  | missingField (name : String)
  | unknownVariant (name : String) (known : List String)
  | negativeAmount (n : Int)
  | invalidAmount (text : String) (e : Decimal.Error)
  /-- Anything else. -/
  | mismatch
deriving Repr, DecidableEq

namespace DocumentError

/-- Names between backticks, separated by commas or by `or` when they are two. -/
def enumerated : List String → String
  | [a] => "`" ++ a ++ "`"
  | [a, b] => "`" ++ a ++ "` or `" ++ b ++ "`"
  | names => "one of " ++ String.intercalate ", " (names.map fun a => "`" ++ a ++ "`")

/-- The wording of an error. -/
def message : DocumentError → String
  | missingField name => "missing field `" ++ name ++ "`"
  | unknownVariant name known =>
    "unknown variant `" ++ name ++ "`, expected " ++ enumerated known
  | negativeAmount n => "wei amount cannot be negative: " ++ toString n
  | invalidAmount text e => "invalid wei amount '" ++ text ++ "': " ++ e.message
  | mismatch => "invalid value"

end DocumentError

/-- Reads a value from a document. -/
abbrev Reader (α : Type) := Document → Except DocumentError α

namespace Reader

/-- Reads a natural number up to a limit. -/
def natural (limit : Nat) : Reader Nat
  | .integer n => if 0 ≤ n ∧ n.toNat ≤ limit then .ok n.toNat else .error .mismatch
  | _ => .error .mismatch

/-- Whether an integer fits 64 bits, with or without a sign. -/
def fitsWord (n : Int) : Bool := -(1 <<< 63 : Nat) ≤ n && n ≤ (countMax : Int)

/-- Reads a number that need not be whole.  An integer of TOML has to fit 64 bits. -/
def number (form : Notation) : Reader Binary64
  | .float x => .ok x
  | .integer n =>
    if form = .toml ∧ !fitsWord n then .error .mismatch
    else match Json.ofInteger n with
      | some x => .ok x
      | none => .error .mismatch
  | _ => .error .mismatch

/-- Reads a text. -/
def text : Reader String
  | .text s => .ok s
  | _ => .error .mismatch

/-- Reads a truth value. -/
def truth : Reader Bool
  | .bool b => .ok b
  | _ => .error .mismatch

/-- Reads a value that may be absent. -/
def optional {α : Type} (r : Reader α) : Reader (Option α)
  | .null => .ok none
  | d => (r d).map some

/-- Reads a list. -/
def list {α : Type} (r : Reader α) : Reader (List α)
  | .list ds => ds.mapM r
  | _ => .error .mismatch

/-- Reads bytes, written as hexadecimal text or as a list of numbers. -/
def bytes : Reader Bytes
  | .text s => match Hex.bytes? s with
    | some b => .ok b
    | none => .error .mismatch
  | .list ds => do pure ((← ds.mapM (natural 255)).map UInt8.ofNat)
  | _ => .error .mismatch

/-- Whether something that is no byte ends a list of bytes before it: in TOML whatever follows is
    left out, in JSON it has to be the last item and may not hold items of its own. -/
def endsBytes : Notation → Document → List Document → Bool
  | .toml, _, _ => true
  | .json, .list _, _ | .json, .table _, _ => false
  | .json, _, rest => rest.isEmpty

/-- Drops what may follow the bytes that are asked for: no further byte. -/
def dropEnd (form : Notation) : List Document → Except DocumentError Unit
  | [] => .ok ()
  | d :: rest => match natural 255 d with
    | .ok _ => .error .mismatch
    | .error _ => if endsBytes form d rest then .ok () else .error .mismatch

/-- Reads exactly `n` bytes. -/
def fixedBytes (form : Notation) (n : Nat) : Reader (FixedBytes n) := fun d => do
  let d ← match d with
    | .list ds => do
      dropEnd form (ds.drop n)
      pure (.list (ds.take n))
    | d => pure d
  match FixedBytes.ofBytes? n (← bytes d) with
  | some b => pure b
  | none => throw .mismatch

/-- Reads an amount of wei, written as an integer of 64 bits or as a decimal text. -/
def wei : Reader Wei
  | .integer n =>
    if n < -(1 <<< 63 : Nat) ∨ (1 <<< 63 : Nat) ≤ n then .error .mismatch
    else if n < 0 then .error (.negativeAmount n)
    else .ok n.toNat
  | .text s => (Decimal.read weiMax (Text.trimmed s)).mapError (.invalidAmount s)
  | _ => .error .mismatch

end Reader

/-! ## Structures -/

/-- Reads the fields of a structure. -/
structure Fields (α : Type) where
  /-- The names of the fields in order, with what their values have to satisfy. -/
  checks : List (String × (Document → Except DocumentError Unit))
  /-- Builds the value from the fields found; `listed` says that they come from a list. -/
  build : (listed : Bool) → (String → Option Document) → Except DocumentError α

namespace Fields

variable {α β : Type}

/-- A value that needs no field. -/
def const (a : α) : Fields α := ⟨[], fun _ _ => .ok a⟩

/-- Fields that give a function, and fields that give its argument. -/
def app (f : Fields (α → β)) (x : Fields α) : Fields β :=
  ⟨f.checks ++ x.checks, fun listed find => do
    let g ← f.build listed find
    let a ← x.build listed find
    pure (g a)⟩

instance : Applicative Fields where
  pure := const
  seq f x := app f (x ())

/-- A field whose absence is dealt with by `absent`. -/
def field (name : String) (r : Reader α) (absent : (listed : Bool) → Except DocumentError α) :
    Fields α :=
  ⟨[(name, fun d => (r d).map fun _ => ())], fun listed find => match find name with
    | some d => r d
    | none => absent listed⟩

/-- A field that must be there. -/
def required (name : String) (r : Reader α) : Fields α :=
  field name r fun listed => .error (if listed then .mismatch else .missingField name)

/-- A field that may be absent from a table. -/
def optional (name : String) (r : Reader α) : Fields (Option α) :=
  field name r.optional fun listed => if listed then .error .mismatch else .ok none

/-- A field that has a default. -/
def defaulted (name : String) (default : α) (r : Reader α) : Fields α :=
  field name r fun _ => .ok default

/-- Fields whose values have to go together. -/
def ensuring (fs : Fields α) (holds : α → Bool) : Fields α :=
  ⟨fs.checks, fun listed find => do
    let a ← fs.build listed find
    if holds a then pure a else throw .mismatch⟩

/-- Checks a member with an unknown key: TOML is read as a whole, so that nothing in it may be
    unreadable. -/
def checkUnknown (form : Notation) (d : Document) : Except DocumentError Unit :=
  if form = .toml ∧ !d.isReadable then .error .mismatch else .ok ()

/-- Checks the members of a table in order; no field may be given twice. -/
def checkMembers (form : Notation)
    (checks : List (String × (Document → Except DocumentError Unit))) :
    List String → List (String × Document) → Except DocumentError Unit
  | _, [] => .ok ()
  | seen, (k, d) :: rest => match checks.lookup k with
    | none => do
      checkUnknown form d
      checkMembers form checks seen rest
    | some check =>
      if seen.contains k then .error .mismatch
      else do
        check d
        checkMembers form checks (k :: seen) rest

/-- Reads a structure. -/
def reader (form : Notation) (fs : Fields α) : Reader α
  | .table members => do
    checkMembers form fs.checks [] members
    fs.build false fun name => members.lookup name
  | .list items =>
    if form = .json ∧ fs.checks.length < items.length then .error .mismatch
    else fs.build true fun name => ((fs.checks.map (·.1)).zip items).lookup name
  | .moment => fs.build false fun _ => none
  | _ => .error .mismatch

end Fields

/-! ## Alternatives -/

/-- An alternative: a name alone or a name with content. -/
inductive Variant (α : Type) where
  | unit (a : α)
  | content (r : Reader α)

/-- Alternatives by name. -/
abbrev Variants (α : Type) := List (String × Variant α)

namespace Variants

variable {α : Type}

/-- Whether a document stands for no content. -/
def isNothing : Notation → Document → Bool
  | .json, .null => true
  | .toml, .list [] => true
  | .toml, .table [] => true
  | _, _ => false

/-- The alternative with a name. -/
def named (vs : Variants α) (name : String) : Except DocumentError (Variant α) :=
  match vs.lookup name with
  | some v => .ok v
  | none => .error (.unknownVariant name (vs.map (·.1)))

/-- Reads an alternative. -/
def reader (form : Notation) (vs : Variants α) : Reader α
  | .text name => do
    match ← vs.named name with
    | .unit a => pure a
    | .content _ => throw .mismatch
  | .table [(name, d)] => do
    match ← vs.named name with
    | .unit a => if isNothing form d then pure a else throw .mismatch
    | .content r => r d
  | _ => .error .mismatch

end Variants

end PacketRelay
