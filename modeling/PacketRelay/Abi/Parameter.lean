/-
  Declared parameters.

  A parameter has a name, which may be empty, and the name of its type.  A parameter that is a
  structure has components too; its type is then written `tuple`, followed by the sizes of arrays.
-/
import PacketRelay.Abi.TypeName
import PacketRelay.Document.Reader

namespace PacketRelay

/-- A declared parameter. -/
inductive Parameter where
  | mk (name typeName : String) (components : List Parameter)

namespace Parameter

/-- The name. -/
def name : Parameter → String
  | mk name _ _ => name

mutual

/-- How signatures write the type of a parameter. -/
def typeText : Parameter → String
  | mk _ typeName [] => typeName
  | mk _ typeName (p :: more) =>
    "(" ++ String.intercalate "," (typeTexts (p :: more)) ++ ")" ++
      String.ofList (typeName.toList.drop 5)

/-- How signatures write the types of parameters. -/
def typeTexts : List Parameter → List String
  | [] => []
  | p :: more => typeText p :: typeTexts more

end

mutual

/-- The type of a parameter. -/
def type? : Parameter → Option AbiType
  | mk _ typeName [] => (TypeName.parse? typeName).bind TypeName.resolve?
  | mk _ typeName (p :: more) => do
    let t ← TypeName.parse? typeName
    let components ← types? (p :: more)
    pure (t.around (.tuple ((p :: more).map name) components))

/-- The types of parameters. -/
def types? : List Parameter → Option (List AbiType)
  | [] => some []
  | p :: more => do
    let first ← type? p
    let others ← types? more
    pure (first :: others)

end

/-! ## Reading -/

/-- Whether a text may name something. -/
def isName (s : String) : Bool := s.isEmpty || TypeName.isWord s.toList

/-- Reads a name. -/
def nameReader : Reader String := fun d => do
  let s ← Reader.text d
  if isName s then pure s else throw .mismatch

/-- A parameter with its components as they were written, and whether it is said to be indexed. -/
structure Written where
  name : String
  typeName : String
  indexed : Option Bool
  components : List Document

/-- Reads a parameter as it was written. -/
def writtenReader : Reader Written :=
  Fields.reader .json ((fun name typeName indexed _ components =>
      ⟨name, typeName, indexed, components⟩)
    <$> .defaulted "name" "" nameReader
    <*> .required "type" .text
    <*> .optional "indexed" .truth
    <*> .optional "internalType" .text
    <*> .defaulted "components" [] (.list .ok))

/-- Whether the type that was written goes with the components. -/
def isConsistent (w : Written) : Bool :=
  if w.components.isEmpty then (TypeName.parse? w.typeName).isSome
  else w.typeName.startsWith "tuple"

/-- Reads a parameter that may be `indexed` or not; components never are.  The first argument
    bounds the depth. -/
def readWithin : Nat → (indexed : Bool) → Reader Parameter
  | 0, _, _ => .error .mismatch
  | fuel + 1, indexed, d => do
    let w ← writtenReader d
    if (indexed || w.indexed.isNone) && isConsistent w then
      let components ← w.components.mapM (readWithin fuel false)
      pure (mk w.name w.typeName components)
    else throw .mismatch

/-- Reads a parameter. -/
def reader : Reader Parameter := fun d => readWithin (d.depth + 1) false d

/-- Reads a parameter of an event, which may say whether it is indexed. -/
def eventReader : Reader Parameter := fun d => readWithin (d.depth + 1) true d

end Parameter

end PacketRelay
