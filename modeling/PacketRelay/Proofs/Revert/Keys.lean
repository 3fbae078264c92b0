/-
  The keys of arguments.

  An argument without a name has its position as a key, and an argument may be named like that.

  * `nodup_argumentKeys_iff`: of names that differ come keys that differ, unless one of them is the
    key of an argument without a name (`Shadows`);
  * `arguments_tabulated`: where none is, every argument has a member of its own in the table of the
    arguments and in the table of each tuple; where one is, an argument is lost;
  * `argument_lost`: an error that loses one.
-/
import PacketRelay.Proofs.Abi.Parameter
import PacketRelay.Proofs.Document.Object
import PacketRelay.Proofs.Revert.Catalog
import PacketRelay.Proofs.Revert.Decoding
import PacketRelay.Proofs.Text.Numeral

namespace PacketRelay

/-! ## Keys that differ -/

/-- No name stands twice; there may be any number of empty ones. -/
def NamesDiffer (names : List String) : Prop := names.Pairwise fun a b => a ≠ "" → a ≠ b

/-- A name is the key of an argument without a name. -/
def Shadows (names : List String) : Prop :=
  ∃ i, names[i]? = some "" ∧ argumentKey "" i ∈ names

instance (names : List String) : Decidable (NamesDiffer names) :=
  inferInstanceAs (Decidable (names.Pairwise fun a b => a ≠ "" → a ≠ b))

instance (names : List String) : Decidable (Shadows names) :=
  decidable_of_iff (∃ i < names.length, names[i]? = some "" ∧ argumentKey "" i ∈ names) <| by
    constructor
    · rintro ⟨i, -, hi⟩
      exact ⟨i, hi⟩
    · rintro ⟨i, hi⟩
      exact ⟨i, (List.getElem?_eq_some_iff.1 hi.1).1, hi⟩

theorem argumentKey_unnamed (i : Nat) : argumentKey "" i = "arg" ++ Decimal.text i := rfl

theorem argumentKey_named {name : String} (h : name ≠ "") (i : Nat) : argumentKey name i = name := by
  rw [argumentKey, if_neg (by simpa [String.isEmpty_iff] using h)]

theorem argumentKey_ne_empty (i : Nat) : argumentKey "" i ≠ "" := by
  intro h
  have hlist := congrArg String.toList h
  simp [argumentKey_unnamed] at hlist

theorem argumentKey_injective {i j : Nat} (h : argumentKey "" i = argumentKey "" j) : i = j := by
  have hlist := congrArg String.toList h
  rw [argumentKey_unnamed, argumentKey_unnamed, String.toList_append, String.toList_append] at hlist
  exact Decimal.text_injective (String.toList_injective (List.append_cancel_left hlist))

theorem getElem?_argumentKeys (first : Nat) (names : List String) (i : Nat) :
    (argumentKeys first names)[i]? = names[i]?.map (argumentKey · (first + i)) := by
  induction names generalizing first i with
  | nil => rfl
  | cons name names ih =>
    cases i with
    | zero => rfl
    | succ i =>
      rw [argumentKeys, List.getElem?_cons_succ, List.getElem?_cons_succ, ih, Nat.add_right_comm,
        Nat.add_assoc]

theorem getElem?_keys {names : List String} {i : Nat} {name : String} (h : names[i]? = some name) :
    (argumentKeys 0 names)[i]? = some (argumentKey name i) := by
  rw [getElem?_argumentKeys, h, Option.map_some, Nat.zero_add]

/-- **Of names that differ come keys that differ**, unless a name is the key of an argument without
    one. -/
theorem nodup_argumentKeys_iff {names : List String} (h : NamesDiffer names) :
    (argumentKeys 0 names).Nodup ↔ ¬ Shadows names := by
  constructor
  · rintro hnodup ⟨i, hi, hmem⟩
    obtain ⟨j, hj⟩ := List.mem_iff_getElem?.1 hmem
    have hkey := getElem?_keys hj
    rw [argumentKey_named (argumentKey_ne_empty i), ← getElem?_keys hi] at hkey
    have hlength : j < (argumentKeys 0 names).length := by
      rw [AbiType.length_argumentKeys]
      exact (List.getElem?_eq_some_iff.1 hj).1
    obtain rfl : j = i := (List.getElem?_inj hlength hnodup).1 hkey
    rw [hi] at hj
    exact argumentKey_ne_empty j (Option.some.inj hj).symm
  · intro hclear
    rw [List.nodup_iff_getElem?_ne_getElem?]
    intro i j hij hj heq
    rw [AbiType.length_argumentKeys] at hj
    have hi : names[i]? = some names[i] := List.getElem?_eq_getElem (Nat.lt_trans hij hj)
    have hj' : names[j]? = some names[j] := List.getElem?_eq_getElem hj
    rw [getElem?_keys hi, getElem?_keys hj', Option.some.injEq] at heq
    have hdiffer := List.pairwise_iff_getElem.1 h i j (Nat.lt_trans hij hj) hj hij
    by_cases hempty : names[i] = ""
    · by_cases hempty' : names[j] = ""
      · rw [hempty, hempty'] at heq
        exact absurd (argumentKey_injective heq) (Nat.ne_of_lt hij)
      · rw [hempty, argumentKey_named hempty'] at heq
        refine hclear ⟨i, hempty ▸ hi, ?_⟩
        rw [heq]
        exact List.getElem_mem hj
    · by_cases hempty' : names[j] = ""
      · rw [hempty', argumentKey_named hempty] at heq
        refine hclear ⟨j, hempty' ▸ hj', ?_⟩
        rw [← heq]
        exact List.getElem_mem _
      · rw [argumentKey_named hempty, argumentKey_named hempty'] at heq
        exact hdiffer hempty heq

/-! ## Tables of arguments -/

/-- A table with exactly one member for each argument, which holds its value. -/
def KeepsAll (arguments : List (String × Document)) (d : Document) : Prop :=
  ∃ members, d = .table members ∧ members.Perm arguments

/-- A table with fewer members than there are arguments. -/
def LosesOne (arguments : List (String × Document)) (d : Document) : Prop :=
  ∃ members, d = .table members ∧ members.length < arguments.length

/-- A table keeps all arguments with names that differ, unless one of these is the key of an argument
    without a name. -/
structure Tabulates (names : List String) (arguments : List (String × Document)) (d : Document) :
    Prop where
  keeps : ¬ Shadows names → KeepsAll arguments d
  loses : Shadows names → LosesOne arguments d

theorem tabulates_object {names : List String} (h : NamesDiffer names) {values : List Document}
    (hlength : names.length = values.length) :
    Tabulates names ((argumentKeys 0 names).zip values)
      (.object ((argumentKeys 0 names).zip values)) := by
  have hkeys : (argumentKeys 0 names).length = values.length :=
    (AbiType.length_argumentKeys 0 names).trans hlength
  have hnodup : (((argumentKeys 0 names).zip values).map Prod.fst).Nodup ↔ ¬ Shadows names := by
    rw [List.map_fst_zip (Nat.le_of_eq hkeys), nodup_argumentKeys_iff h]
  constructor
  · intro hclear
    exact ⟨_, rfl, Document.sortMembers_perm (hnodup.2 hclear)⟩
  · intro hshadows
    exact ⟨_, rfl, Document.length_sortMembers_lt fun hkept => hnodup.1 hkept hshadows⟩

namespace ErrorCatalog

/-- **Every argument has a member of its own, unless a name is the key of an argument without one.**
    Data have been decoded by a definition, so that the arguments are the values that the data hold,
    one for each parameter.

    * If the names of its parameters differ, the table of the arguments has exactly one member for
      each of them, with its value, provided that no name shadows a position; otherwise it has fewer
      members than there are parameters.
    * The same is true of the names of every tuple and of its document, wherever this stands. -/
theorem arguments_tabulated {c : ErrorCatalog} {data : Bytes} {decoded : DecodedError}
    (h : c.decode data = .ok decoded) :
    (∃ (s : Selector) (e : ErrorDefinition) (types : List AbiType)
        (values : AbiType.Values (types.map AbiType.collapsed)),
      s.bytes = data.take 4 ∧ c.find? s = some e ∧ Parameter.types? e.inputs = some types ∧
      AbiType.decodeArguments (types.map AbiType.collapsed) (data.drop 4) = some values ∧
      decoded.arguments = (argumentKeys 0 (namesOf e)).zip (AbiType.renderAll _ values) ∧
      decoded.arguments.length = e.inputs.length ∧
      (NamesDiffer (namesOf e) → Tabulates (namesOf e) decoded.arguments decoded.table)) ∧
    ∀ (names : List String) (components : List AbiType) (values : AbiType.Values components),
      names.length = components.length → NamesDiffer names →
        Tabulates names ((argumentKeys 0 names).zip (AbiType.renderAll components values))
          (AbiType.render (.tuple names components) values) := by
  constructor
  · have houtcome := outcome_decode c data
    rw [h] at houtcome
    cases houtcome with
    | @decoded s e arguments hs hf harguments =>
      obtain ⟨types, values, htypes, hvalues, rfl⟩ := argumentsOf?_eq_some harguments
      have hnames : (namesOf e).length = (AbiType.renderAll _ values).length := by
        rw [AbiType.length_renderAll, List.length_map, namesOf, List.length_map,
          Parameter.length_types? htypes]
      refine ⟨s, e, types, values, hs, hf, htypes, hvalues, rfl, ?_, fun hdiffer => ?_⟩
      · rw [List.length_zip, AbiType.length_argumentKeys, ← hnames, Nat.min_self, namesOf,
          List.length_map]
      · exact tabulates_object hdiffer hnames
  · intro names components values hlength hdiffer
    have htable := tabulates_object hdiffer
      (hlength.trans (AbiType.length_renderAll components values).symm)
    simp only [AbiType.render, if_pos hlength]
    exact htable

/-! ## Two numbers, one of them without a name -/

/-- An error with two numbers, of which the second has no name. -/
def moved (first : String) : ErrorDefinition :=
  ⟨"Moved", [.mk first "uint256" [], .mk "" "uint256" []]⟩

/-- The catalog with such an error, its selector the first four bytes of its signature. -/
def movable (first : String) : ErrorCatalog := ⟨[(leading (moved first).signature, moved first)]⟩

/-- The numbers 5 and 6 under the selector of the error. -/
def movement : Bytes := utf8 "Move" ++ Bytes.ofNat 32 5 ++ Bytes.ofNat 32 6

theorem decode_movement (first : String) : (movable first).decode movement =
    .ok ⟨"Moved", [(argumentKey first 0, .integer 5), ("arg1", .integer 6)]⟩ := by
  have hs : (leading (moved first).signature).bytes = movement.take 4 := by
    have hsignature : (moved first).signature = (moved "").signature := rfl
    rw [hsignature]
    decide +kernel
  have hf : (movable first).find? (leading (moved first).signature) = some (moved first) :=
    List.lookup_cons_self
  have harguments : argumentsOf? (moved first) (movement.drop 4) =
      some [(argumentKey first 0, .integer 5), ("arg1", .integer 6)] := rfl
  exact decode_found hs hf harguments

theorem find?_movable {first : String} {s : Selector} {e : ErrorDefinition}
    (h : (movable first).find? s = some e) : e = moved first := by
  exact (Prod.mk.inj (List.mem_singleton.1 (mem_of_find? h))).2

theorem arguments_tabulated_apart :
    (movable "arg2").decode movement =
        .ok ⟨"Moved", [("arg2", .integer 5), ("arg1", .integer 6)]⟩ ∧
      KeepsAll [("arg2", .integer 5), ("arg1", .integer 6)]
        (.table [("arg1", .integer 6), ("arg2", .integer 5)]) := by
  have hdecode := decode_movement "arg2"
  obtain ⟨⟨s, e, -, -, -, hf, -, -, -, -, htable⟩, -⟩ := arguments_tabulated hdecode
  obtain rfl := find?_movable hf
  exact ⟨hdecode, (htable (by decide)).keeps (by decide)⟩

/-- **An argument is lost** where the name of another one is its key, among the parameters and in a
    tuple. -/
theorem argument_lost :
    NamesDiffer (namesOf (moved "arg1")) ∧
      (movable "arg1").decode movement =
        .ok ⟨"Moved", [("arg1", .integer 5), ("arg1", .integer 6)]⟩ ∧
      (DecodedError.mk "Moved" [("arg1", .integer 5), ("arg1", .integer 6)]).table =
        .table [("arg1", .integer 6)] ∧
      AbiType.render (.tuple ["arg1", ""] [.uint 256, .uint 256])
        ((5 : Nat), ((6 : Nat), ())) = .table [("arg1", .integer 6)] :=
  ⟨by decide, decode_movement "arg1", rfl, rfl⟩

end ErrorCatalog

end PacketRelay
