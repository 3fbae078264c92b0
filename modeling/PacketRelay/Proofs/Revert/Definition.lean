/-
  Definitions of errors with one signature.

  * `Regular`: what reading a definition makes sure of.  All definitions of an interface are;
  * `name_unique`, `types_agree`: regular definitions with one signature have one name and, if they
    have types at all, one list of types, the names of components apart.
-/
import PacketRelay.Revert.Definition
import PacketRelay.Proofs.Abi.Parameter

namespace PacketRelay

open Brackets

namespace ErrorDefinition

/-- The name is a word or empty, and structures are written with the word for them. -/
structure Regular (e : ErrorDefinition) : Prop where
  name : Parameter.isName e.name = true
  inputs : Parameter.AllTagged e.inputs

theorem regular_message : message.Regular := ⟨by decide, trivial, trivial⟩

theorem regular_panic : panic.Regular := ⟨by decide, trivial, trivial⟩

/-! ## Reading -/

theorem reader_regular : ErrorDefinition.reader.Yields Regular := by
  refine Fields.Yields.reader ?_ .json
  refine .seq (.map ?_ (Fields.yields_required Parameter.nameReader_yields))
    (Fields.yields_required Parameter.reader_yields.list)
  intro name hname inputs hinputs
  exact ⟨hname, Parameter.allTagged_of_forall hinputs⟩

/-- A table with a name and parameters is read as they are. -/
theorem reader_table {name : String} {d : Document} {inputs : List Parameter}
    (hname : Parameter.isName name = true) (hinputs : Reader.list Parameter.reader d = .ok inputs) :
    reader (.table [("name", .text name), ("inputs", d)]) = .ok ⟨name, inputs⟩ := by
  have htext : Parameter.nameReader (.text name) = .ok name := if_pos hname
  change reader _ = orMismatch (some ⟨name, inputs⟩)
  refine Fields.reader_table (by decide) rfl ?_
  exact .seq (.map ErrorDefinition.mk (Fields.answers_field (a := some name) _ rfl htext))
    (Fields.answers_field (a := some inputs) _ rfl hinputs)

end ErrorDefinition

namespace Interface

open ErrorDefinition

/-- An item that is an error is a regular one. -/
def ItemRegular (i : Item) : Prop := ∀ e, i = .error e → e.Regular

theorem itemRegular_of_ne {i : Item} (h : ∀ e, i ≠ .error e) : ItemRegular i :=
  fun e he => absurd he (h e)

theorem itemReader_regular (type : String) : (itemReader type).Yields ItemRegular := by
  unfold itemReader
  split
  · refine reader_regular.map ?_
    rintro e he _ ⟨⟩
    exact he
  · exact (Reader.yields_trivial _).map fun _ _ => itemRegular_of_ne fun _ h => by cases h
  · exact (Reader.yields_trivial _).map fun _ _ => itemRegular_of_ne fun _ h => by cases h
  · exact (Reader.yields_trivial _).map fun _ _ => itemRegular_of_ne fun _ h => by cases h
  · exact (Reader.yields_trivial _).map fun _ _ => itemRegular_of_ne fun _ h => by cases h
  · exact (Reader.yields_trivial _).map fun _ _ => itemRegular_of_ne fun _ h => by cases h
  · intro d i h
    cases h

theorem item_regular : item.Yields ItemRegular := by
  intro d i h
  unfold item at h
  split at h
  · split at h
    · exact itemReader_regular _ _ i h
    · cases h
  · exact itemReader_regular _ _ i h
  · cases h

/-- All errors of an interface are regular. -/
theorem errors_regular {d : Document} {es : List ErrorDefinition} (h : errors d = .ok es) :
    ∀ e ∈ es, e.Regular := by
  unfold errors at h
  cases hitems : Reader.list item d with
  | error err =>
    rw [hitems] at h
    cases h
  | ok items =>
    rw [hitems] at h
    simp only [bind, Except.bind] at h
    split at h
    · obtain rfl := Except.ok.inj h
      intro e he
      rw [List.mem_mergeSort, List.mem_filterMap] at he
      obtain ⟨i, hi, hfound⟩ := he
      have hregular := item_regular.list d items hitems i hi
      cases i with
      | error e' =>
        obtain rfl := Option.some.inj hfound
        exact hregular e' rfl
      | constructor => cases hfound
      | fallback => cases hfound
      | receive => cases hfound
      | other => cases hfound
    · cases h

end Interface

namespace ErrorDefinition

/-! ## Signatures -/

variable {e e' : ErrorDefinition}

theorem toList_signature (e : ErrorDefinition) : e.signature.toList =
    e.name.toList ++ '(' :: (joined (Parameter.typeChars e.inputs) ++ [')']) := by
  simp [signature, Abi.signatureText, Parameter.typeChars, joined, String.toList_intercalate]

theorem inner_of_isName {s : String} (h : Parameter.isName s = true) :
    ∀ c ∈ s.toList, TypeName.isInner c = true := by
  rw [Parameter.isName, Bool.or_eq_true] at h
  rcases h with h | h
  · simp [String.isEmpty_iff.1 h]
  · exact (TypeName.isWord_cons h).1

/-- A signature is a name and the texts of types. -/
theorem signature_unique (h : e.Regular) (h' : e'.Regular) (hsame : e.signature = e'.signature) :
    e.name = e'.name ∧
      joined (Parameter.typeChars e.inputs) = joined (Parameter.typeChars e'.inputs) := by
  have hlist := congrArg String.toList hsame
  rw [toList_signature, toList_signature] at hlist
  have hopen : ∀ r : List Char, ∀ c ∈ ('(' :: r).head?, TypeName.isInner c = false := by
    intro r c hc
    obtain rfl := Option.some.inj hc
    rfl
  obtain ⟨htake, hdrop⟩ := Text.span_run (inner_of_isName h.name) (hopen _)
  obtain ⟨htake', hdrop'⟩ := Text.span_run (inner_of_isName h'.name) (hopen _)
  rw [hlist, htake'] at htake
  rw [hlist, hdrop'] at hdrop
  exact ⟨(String.toList_inj.1 htake).symm,
    (List.append_cancel_right (List.cons.inj hdrop).2).symm⟩

/-- **Definitions with one signature have one list of types**, the names of components apart, if
    they have types at all. -/
theorem types_agree (h : e.Regular) (h' : e'.Regular) (hsame : e.signature = e'.signature)
    {ts ts' : List AbiType} (hts : Parameter.types? e.inputs = some ts)
    (hts' : Parameter.types? e'.inputs = some ts') :
    AbiType.unnamedAll ts = AbiType.unnamedAll ts' := by
  have htexts := Parameter.isText_typeChars e.inputs h.inputs hts
  have htexts' := Parameter.isText_typeChars e'.inputs h'.inputs hts'
  have hchars := joined_unique (fun u hu => ⟨(htexts u hu).closed, (htexts u hu).ne_nil⟩)
    (fun u hu => ⟨(htexts' u hu).closed, (htexts' u hu).ne_nil⟩) (signature_unique h h' hsame).2
  exact Parameter.agree_all e.inputs e'.inputs h.inputs h'.inputs hchars hts hts'

end ErrorDefinition

end PacketRelay
