/-
  Types without the names of components.

  * `unnamed` takes the names away from a type, `relabel` takes a value along;
  * `decodeArguments_unnamed`: names make no difference for what is read;
  * `plain` is the document of a value with each tuple as a list.  What is rendered has no more than
    keys: `unkeyed_render`;
  * `documents_agree`: types that differ in names only give documents that differ in keys only.
-/
import PacketRelay.Proofs.Abi.Decoding
import PacketRelay.Revert.Rendering
import Mathlib.Data.List.Forall2

namespace PacketRelay.AbiType

open Abi

/-! ## Types -/

mutual

/-- A type without the names of components. -/
def unnamed : AbiType → AbiType
  | .array element => .array (unnamed element)
  | .fixedArray size element => .fixedArray size (unnamed element)
  | .tuple _ components => .tuple [] (unnamedAll components)
  | t => t

/-- Types without the names of components. -/
def unnamedAll : List AbiType → List AbiType
  | [] => []
  | t :: rest => unnamed t :: unnamedAll rest

end

theorem unnamedAll_eq_map (ts : List AbiType) : unnamedAll ts = ts.map unnamed := by
  induction ts with
  | nil => rfl
  | cons t ts ih => exact congrArg (unnamed t :: ·) ih

mutual

theorem isDynamic_unnamed : ∀ t : AbiType, isDynamic (unnamed t) = isDynamic t
  | .fixedArray _ element => isDynamic_unnamed element
  | .tuple _ components => anyDynamic_unnamed components
  | .uint _ | .int _ | .bool | .address | .fixedBytes _ | .function | .bytes | .string
  | .array _ => rfl

theorem anyDynamic_unnamed : ∀ ts : List AbiType, anyDynamic (unnamedAll ts) = anyDynamic ts
  | [] => rfl
  | t :: rest => by
    rw [unnamedAll, anyDynamic, anyDynamic, isDynamic_unnamed t, anyDynamic_unnamed rest]

end

mutual

theorem minimumWords_unnamed : ∀ t : AbiType, minimumWords (unnamed t) = minimumWords t
  | .fixedArray size element => congrArg (size * ·) (minimumWords_unnamed element)
  | .tuple _ components => sumMinimumWords_unnamed components
  | .uint _ | .int _ | .bool | .address | .fixedBytes _ | .function | .bytes | .string
  | .array _ => rfl

theorem sumMinimumWords_unnamed :
    ∀ ts : List AbiType, sumMinimumWords (unnamedAll ts) = sumMinimumWords ts
  | [] => rfl
  | t :: rest => by
    rw [unnamedAll, sumMinimumWords, sumMinimumWords, minimumWords_unnamed t,
      sumMinimumWords_unnamed rest]

end

mutual

theorem cells_unnamed : ∀ t : AbiType, cells (unnamed t) = cells t
  | .array element => congrArg (1 + ·) (cells_unnamed element)
  | .fixedArray size element => congrArg (1 + size * ·) (cells_unnamed element)
  | .tuple _ components => congrArg (1 + ·) (sumCells_unnamed components)
  | .uint _ | .int _ | .bool | .address | .fixedBytes _ | .function | .bytes | .string => rfl

theorem sumCells_unnamed : ∀ ts : List AbiType, sumCells (unnamedAll ts) = sumCells ts
  | [] => rfl
  | t :: rest => by
    rw [unnamedAll, sumCells, sumCells, cells_unnamed t, sumCells_unnamed rest]

end

mutual

theorem isHollow_unnamed : ∀ t : AbiType, isHollow (unnamed t) = isHollow t
  | .array element => isHollow_unnamed element
  | .fixedArray _ element => isHollow_unnamed element
  | .tuple _ components => areHollow_unnamed components
  | .uint _ | .int _ | .bool | .address | .fixedBytes _ | .function | .bytes | .string => rfl

theorem areHollow_unnamed : ∀ ts : List AbiType, areHollow (unnamedAll ts) = areHollow ts
  | [] => rfl
  | t :: rest => by
    rw [unnamedAll, areHollow, areHollow, isHollow_unnamed t, areHollow_unnamed rest]

end

theorem canHold_unnamed (t : AbiType) (n words : Nat) :
    canHold (unnamed t) n words = canHold t n words := by
  rw [canHold, canHold, minimumWords_unnamed, cells_unnamed]

theorem collapsed_unnamed (t : AbiType) : collapsed (unnamed t) = unnamed (collapsed t) := by
  unfold collapsed
  rw [isHollow_unnamed]
  by_cases h : t.isHollow = true
  · rw [if_pos h, if_pos h]
    cases t <;> rfl
  · rw [if_neg h, if_neg h]

/-! ## Values -/

mutual

/-- A value as one of the type without names. -/
def relabel : (t : AbiType) → t.Value → (unnamed t).Value
  | .uint _, n => n
  | .int _, n => n
  | .bool, b => b
  | .address, a => a
  | .fixedBytes _, b => b
  | .function, b => b
  | .bytes, b => b
  | .string, b => b
  | .array element, items => List.map (relabel element) items
  | .fixedArray _ element, items =>
    ⟨items.val.map (relabel element), (List.length_map _).trans items.property⟩
  | .tuple _ components, values => relabelAll components values

/-- Values as ones of the types without names. -/
def relabelAll : (ts : List AbiType) → Values ts → Values (unnamedAll ts)
  | [], _ => ()
  | t :: rest, (v, values) => (relabel t v, relabelAll rest values)

end

mutual

/-- **Names make no difference for what is read.** -/
theorem decode_unnamed : ∀ (t : AbiType) (f : Frame) (i : Nat),
    decode (unnamed t) f i = (decode t f i).map fun a => (relabel t a.1, a.2)
  | .uint _, f, i => by simp only [unnamed, decode]; cases f.word? i <;> rfl
  | .int _, f, i => by simp only [unnamed, decode]; cases f.word? i <;> rfl
  | .bool, f, i => by simp only [unnamed, decode]; cases f.word? i <;> rfl
  | .address, f, i => by simp only [unnamed, decode]; cases f.word? i <;> rfl
  | .fixedBytes size, f, i => by simp only [unnamed, decode]; cases f.leading? i size <;> rfl
  | .function, f, i => by simp only [unnamed, decode]; cases f.leading? i 24 <;> rfl
  | .bytes, f, i => by simp only [unnamed, decode]; cases f.sized? i <;> rfl
  | .string, f, i => by simp only [unnamed, decode]; cases f.sized? i <;> rfl
  | .array element, f, i => by
    have hitems := fun c => repeatRead_map (relabel element) (decode_unnamed element c)
    simp only [unnamed, decode, canHold_unnamed]
    cases hframe : f.indirect? i with
    | none => rfl
    | some c =>
      simp only [Option.bind_eq_bind, Option.bind_some]
      cases hcount : c.offset? 0 with
      | none => rfl
      | some n =>
        simp only [Option.bind_some]
        split
        · rfl
        split
        · cases hbody : c.child? 32 with
          | none => rfl
          | some body =>
            simp only [Option.bind_some, hitems]
            cases repeatRead (decode element body) n 0 <;> rfl
        · rfl
  | .fixedArray size element, f, i => by
    refine (decode_fixedArray size (unnamed element) f i).trans ?_
    rw [isDynamic_unnamed, decode_fixedArray]
    exact Frame.readInner_map (relabel (.fixedArray size element))
      (fun c => repeatRead_map (relabel element) (decode_unnamed element c) size 0) f _ i
  | .tuple names components, f, i => by
    refine (decode_tuple [] (unnamedAll components) f i).trans ?_
    rw [anyDynamic_unnamed, decode_tuple]
    exact Frame.readInner_map (relabel (.tuple names components))
      (fun c => decodeAll_unnamed components c 0) f _ i

theorem decodeAll_unnamed : ∀ (ts : List AbiType) (f : Frame) (i : Nat),
    decodeAll (unnamedAll ts) f i = (decodeAll ts f i).map fun a => (relabelAll ts a.1, a.2)
  | [], _, _ => rfl
  | t :: rest, f, i => by
    simp only [unnamedAll, decodeAll, decode_unnamed t]
    cases decode t f i with
    | none => rfl
    | some a =>
      simp only [Option.map_some, Option.bind_eq_bind, Option.bind_some, decodeAll_unnamed rest]
      cases decodeAll rest f a.2 <;> rfl

end

theorem decodeArgumentsFrom_unnamed (ts : List AbiType) (f : Frame) (i : Nat) :
    decodeArgumentsFrom (unnamedAll ts) f i = (decodeArgumentsFrom ts f i).map (relabelAll ts) := by
  induction ts generalizing i with
  | nil => rfl
  | cons t rest ih =>
    simp only [unnamedAll, decodeArgumentsFrom, minimumWords_unnamed, cells_unnamed]
    split
    · rfl
    simp only [decode_unnamed t]
    cases decode t f i with
    | none => rfl
    | some a =>
      simp only [Option.map_some, Option.bind_eq_bind, Option.bind_some, ih]
      cases decodeArgumentsFrom rest f a.2 <;> rfl

/-- Names make no difference for the arguments that data hold. -/
theorem decodeArguments_unnamed (ts : List AbiType) (data : Bytes) :
    decodeArguments (unnamedAll ts) data = (decodeArguments ts data).map (relabelAll ts) :=
  decodeArgumentsFrom_unnamed ts ⟨data, 0⟩ 0

/-! ## Documents -/

/-- The second document is the first one with a list in place of each table that a tuple with names
    has become. -/
inductive Unkeyed : Document → Document → Prop
  | same (d : Document) : Unkeyed d d
  | list {ds ps : List Document} : List.Forall₂ Unkeyed ds ps → Unkeyed (.list ds) (.list ps)
  | keyed {keys : List String} {ds ps : List Document} : keys.length = ds.length →
      List.Forall₂ Unkeyed ds ps → Unkeyed (.object (keys.zip ds)) (.list ps)

mutual

/-- The document of a value, with each tuple as a list. -/
def plain : (t : AbiType) → t.Value → Document
  | .uint bits, n => render (.uint bits) n
  | .int bits, n => render (.int bits) n
  | .bool, b => render .bool b
  | .address, a => render .address a
  | .fixedBytes size, b => render (.fixedBytes size) b
  | .function, b => render .function b
  | .bytes, b => render .bytes b
  | .string, b => render .string b
  | .array element, items => .list (List.map (plain element) items)
  | .fixedArray _ element, items => .list (List.map (plain element) items.val)
  | .tuple _ components, values => .list (plainAll components values)

/-- The documents of values, with each tuple as a list. -/
def plainAll : (ts : List AbiType) → Values ts → List Document
  | [], _ => []
  | t :: rest, (v, values) => plain t v :: plainAll rest values

end

mutual

/-- Names make no difference for documents without keys. -/
theorem plain_unnamed : ∀ (t : AbiType) (v : t.Value), plain (unnamed t) (relabel t v) = plain t v
  | .uint _, _ | .int _, _ | .bool, _ | .address, _ | .fixedBytes _, _ | .function, _ | .bytes, _
  | .string, _ => rfl
  | .array element, _ => congrArg Document.list <|
    List.map_map.trans (List.map_congr_left fun v _ => plain_unnamed element v)
  | .fixedArray _ element, _ => congrArg Document.list <|
    List.map_map.trans (List.map_congr_left fun v _ => plain_unnamed element v)
  | .tuple _ components, values => congrArg Document.list (plainAll_unnamed components values)

theorem plainAll_unnamed : ∀ (ts : List AbiType) (values : Values ts),
    plainAll (unnamedAll ts) (relabelAll ts values) = plainAll ts values
  | [], _ => rfl
  | t :: rest, (v, values) =>
    congrArg₂ List.cons (plain_unnamed t v) (plainAll_unnamed rest values)

end

theorem length_argumentKeys (i : Nat) (names : List String) :
    (argumentKeys i names).length = names.length := by
  induction names generalizing i with
  | nil => rfl
  | cons name names ih => exact congrArg (· + 1) (ih (i + 1))

theorem length_renderAll : ∀ (ts : List AbiType) (values : Values ts),
    (renderAll ts values).length = ts.length
  | [], _ => rfl
  | _ :: rest, (_, values) => congrArg (· + 1) (length_renderAll rest values)

mutual

/-- **What is rendered has no more than keys.** -/
theorem unkeyed_render : ∀ (t : AbiType) (v : t.Value), Unkeyed (render t v) (plain t v)
  | .uint _, _ | .int _, _ | .bool, _ | .address, _ | .fixedBytes _, _ | .function, _ | .bytes, _
  | .string, _ => .same _
  | .array element, items => .list (unkeyed_items element items)
  | .fixedArray _ element, items => .list (unkeyed_items element items.val)
  | .tuple names components, values => by
    have hall := unkeyed_renderAll components values
    simp only [render, plain]
    split
    · next hlength =>
      have hkeys := (length_argumentKeys 0 names).trans hlength
      exact .keyed (hkeys.trans (length_renderAll components values).symm) hall
    · exact .list hall

theorem unkeyed_renderAll : ∀ (ts : List AbiType) (values : Values ts),
    List.Forall₂ Unkeyed (renderAll ts values) (plainAll ts values)
  | [], _ => .nil
  | t :: rest, (v, values) => .cons (unkeyed_render t v) (unkeyed_renderAll rest values)

theorem unkeyed_items : ∀ (element : AbiType) (items : List element.Value),
    List.Forall₂ Unkeyed (items.map (render element)) (items.map (plain element))
  | _, [] => .nil
  | element, v :: items => .cons (unkeyed_render element v) (unkeyed_items element items)

end

/-- **Names make no difference** for the arguments that data hold, keys apart. -/
theorem plain_decodeArguments (ts : List AbiType) (data : Bytes) :
    (decodeArguments ts data).map (plainAll ts) =
      (decodeArguments (unnamedAll ts) data).map (plainAll (unnamedAll ts)) := by
  rw [decodeArguments_unnamed, Option.map_map]
  exact congrArg (Option.map · _) (funext fun values => (plainAll_unnamed ts values).symm)

/-- Two documents differ in keys only. -/
def SameButKeys (d d' : Document) : Prop := ∃ p, Unkeyed d p ∧ Unkeyed d' p

theorem sameButKeys_of_unkeyed {ds ds' ps : List Document} (h : List.Forall₂ Unkeyed ds ps)
    (h' : List.Forall₂ Unkeyed ds' ps) : List.Forall₂ SameButKeys ds ds' := by
  induction h generalizing ds' with
  | nil =>
    cases h'
    exact .nil
  | cons hd _ ih =>
    cases h' with
    | cons hd' h' => exact .cons ⟨_, hd, hd'⟩ (ih h')

/-- **Types that differ in names only** hold the same documents, keys apart. -/
theorem documents_agree {ts ts' : List AbiType} (h : unnamedAll ts = unnamedAll ts')
    (data : Bytes) :
    (decodeArguments ts data = none ∧ decodeArguments ts' data = none) ∨
      ∃ values values', decodeArguments ts data = some values ∧
        decodeArguments ts' data = some values' ∧
        List.Forall₂ SameButKeys (renderAll ts values) (renderAll ts' values') := by
  have hplain := plain_decodeArguments ts data
  rw [h, ← plain_decodeArguments ts' data] at hplain
  cases hv : decodeArguments ts data with
  | none =>
    rw [hv, Option.map_none, eq_comm, Option.map_eq_none_iff] at hplain
    exact .inl ⟨rfl, hplain⟩
  | some values =>
    rw [hv, Option.map_some, eq_comm, Option.map_eq_some_iff] at hplain
    obtain ⟨values', hv', hsame⟩ := hplain
    have hdocuments := unkeyed_renderAll ts' values'
    rw [hsame] at hdocuments
    exact .inr ⟨values, values', rfl, hv', sameButKeys_of_unkeyed (unkeyed_renderAll ts values)
      hdocuments⟩

theorem unnamedAll_collapsed (ts : List AbiType) :
    unnamedAll (ts.map collapsed) = (unnamedAll ts).map collapsed := by
  rw [unnamedAll_eq_map, unnamedAll_eq_map, List.map_map, List.map_map]
  exact List.map_congr_left fun t _ => (collapsed_unnamed t).symm

end PacketRelay.AbiType
