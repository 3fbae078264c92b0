/-
  What is decoded tells the arguments.

  * `render_injective`: where the keys of each tuple differ, values that fit their types are told
    apart by their documents;
  * `Recovers` is what is assumed of the reading of arguments, `recovers_encodeAll` says that it is so
    within the limits;
  * `decode_encoded`: what has been encoded for an error is decoded, and the text tells the arguments.
-/
import PacketRelay.Proofs.Abi.Parameter
import PacketRelay.Proofs.Abi.RoundTrip
import PacketRelay.Proofs.Revert.Rendering
import PacketRelay.Proofs.Text.Hexadecimal
import PacketRelay.Proofs.Text.Utf8

namespace PacketRelay

namespace AbiType

/-! ## Values and their documents -/

mutual

/-- In every tuple of a type the keys differ. -/
def KeysDiffer : AbiType → Prop
  | .array element => KeysDiffer element
  | .fixedArray _ element => KeysDiffer element
  | .tuple names components => (argumentKeys 0 names).Nodup ∧ AllKeysDiffer components
  | _ => True

/-- In every tuple of the types the keys differ. -/
def AllKeysDiffer : List AbiType → Prop
  | [] => True
  | t :: rest => KeysDiffer t ∧ AllKeysDiffer rest

end

theorem renderNatural_injective {n m : Nat} (h : renderNatural n = renderNatural m) : n = m := by
  unfold renderNatural at h
  split at h
  · split at h
    · exact Int.ofNat.inj (Document.integer.inj h)
    · cases h
  · split at h
    · cases h
    · exact Decimal.text_injective (Document.text.inj h)

theorem renderInteger_injective {n m : Int} (h : renderInteger n = renderInteger m) : n = m := by
  unfold renderInteger at h
  split at h
  · split at h
    · exact Document.integer.inj h
    · cases h
  · split at h
    · cases h
    · exact Json.integerChars_injective (String.ofList_injective (Document.text.inj h))

theorem FixedBytes.text_injective {n : Nat} {b b' : FixedBytes n}
    (h : Document.text (Hex.text b.bytes) = .text (Hex.text b'.bytes)) : b = b' := by
  obtain ⟨b, hb⟩ := b
  obtain ⟨b', hb'⟩ := b'
  obtain rfl : b = b' := Hex.text_injective (Document.text.inj h)
  rfl

theorem map_injective_on {α β : Type} {f : α → β} {as as' : List α}
    (hf : ∀ a ∈ as, ∀ a' ∈ as', f a = f a' → a = a') (h : as.map f = as'.map f) : as = as' := by
  induction as generalizing as' with
  | nil => exact (List.map_eq_nil_iff.1 h.symm).symm
  | cons a as ih =>
    cases as' with
    | nil => cases h
    | cons a' as' =>
      rw [List.map_cons, List.map_cons, List.cons.injEq] at h
      have hfirst := hf a List.mem_cons_self a' List.mem_cons_self h.1
      have hrest := ih (fun b hb b' hb' => hf b (List.mem_cons_of_mem a hb) b'
        (List.mem_cons_of_mem a' hb')) h.2
      rw [hfirst, hrest]

mutual

/-- **A value is told by its document.** -/
theorem render_injective : ∀ (t : AbiType) {v v' : t.Value}, KeysDiffer t → fits t v = true →
    fits t v' = true → render t v = render t v' → v = v'
  | .uint _, _, _, _, _, _, h => renderNatural_injective h
  | .int _, _, _, _, _, _, h => renderInteger_injective h
  | .bool, _, _, _, _, _, h => Document.bool.inj h
  | .address, _, _, _, _, _, h => Hex.checksummed_injective (Document.text.inj h)
  | .fixedBytes _, _, _, _, _, _, h | .function, _, _, _, _, _, h => FixedBytes.text_injective h
  | .bytes, _, _, _, _, _, h => Hex.text_injective (Document.text.inj h)
  | .string, _, _, _, hv, hv', h => Utf8.decodeLossy_injective hv hv' (Document.text.inj h)
  | .array element, items, items', hkeys, hv, hv', h => by
    have hitems := List.all_eq_true.1 hv
    have hitems' := List.all_eq_true.1 hv'
    exact map_injective_on (fun v hmem v' hmem' heq =>
      render_injective element hkeys (hitems v hmem) (hitems' v' hmem') heq) (Document.list.inj h)
  | .fixedArray _ element, items, items', hkeys, hv, hv', h => by
    have hitems := List.all_eq_true.1 hv
    have hitems' := List.all_eq_true.1 hv'
    exact Subtype.ext (map_injective_on (fun v hmem v' hmem' heq =>
      render_injective element hkeys (hitems v hmem) (hitems' v' hmem') heq) (Document.list.inj h))
  | .tuple names components, values, values', hkeys, hv, hv', h => by
    refine renderAll_injective components hkeys.2 hv hv' ?_
    simp only [render] at h
    split at h
    · next hlength =>
      have hdocuments : ∀ values : Values components,
          (argumentKeys 0 names).length = (renderAll components values).length := fun values =>
        (length_argumentKeys 0 names).trans (hlength.trans (length_renderAll components values).symm)
      exact Document.object_injective hkeys.1 (hdocuments values) (hdocuments values') h
    · exact Document.list.inj h

/-- **Values are told by their documents.** -/
theorem renderAll_injective : ∀ (ts : List AbiType) {values values' : Values ts}, AllKeysDiffer ts →
    fitAll ts values = true → fitAll ts values' = true →
    renderAll ts values = renderAll ts values' → values = values'
  | [], _, _, _, _, _, _ => rfl
  | t :: rest, (v, values), (v', values'), hkeys, hv, hv', h => by
    simp only [fitAll, Bool.and_eq_true] at hv hv'
    obtain ⟨hfirst, hrest⟩ := List.cons.inj h
    obtain rfl := render_injective t hkeys.1 hv.1 hv'.1 hfirst
    obtain rfl := renderAll_injective rest hkeys.2 hv.2 hv'.2 hrest
    rfl

end

end AbiType

namespace ErrorCatalog

open AbiType

/-! ## The arguments of an error -/

/-- What is assumed of the reading of arguments: values that have been encoded are read, as values of
    their types. -/
structure Recovers (types : List AbiType) (values : Values types) : Prop where
  kept : types.map collapsed = types
  read : decodeArguments types (encodeAll types values) = some values

/-- It is so for all types of contracts, within the limits on depth and size. -/
theorem recovers_encodeAll {types : List AbiType} {values : Values types}
    (ht : areProper types = true) (hv : fitAll types values = true)
    (hlimits : withinLimits types = true)
    (hsize : (encodeAll types values).length < 1 <<< 64) : Recovers types values :=
  ⟨map_collapsed ht, decodeArguments_encodeAll ht hv hlimits hsize⟩

section
variable {c : ErrorCatalog} {s : Selector} {e : ErrorDefinition} {types : List AbiType}

/-- The data of an error. -/
def encoded (s : Selector) (types : List AbiType) (values : Values types) : Bytes :=
  s.bytes ++ encodeAll types values

/-- The arguments of an error with given values. -/
def argumentsWith (e : ErrorDefinition) (types : List AbiType) (values : Values types) :
    List (String × Document) :=
  (argumentKeys 0 (namesOf e)).zip (renderAll types values)

theorem argumentsOf?_encodeAll (htypes : Parameter.types? e.inputs = some types)
    {values : Values types} (h : Recovers types values) :
    argumentsOf? e (encodeAll types values) = some (argumentsWith e types values) := by
  obtain ⟨hkept, hread⟩ := h
  rw [argumentsOf?, htypes, Option.bind_eq_bind, Option.bind_some, hkept]
  simp only [hread, Option.bind_eq_bind, Option.bind_some]
  rfl

theorem length_keys (htypes : Parameter.types? e.inputs = some types) (values : Values types) :
    (argumentKeys 0 (namesOf e)).length = (renderAll types values).length := by
  rw [length_argumentKeys, length_renderAll, namesOf, List.length_map,
    Parameter.length_types? htypes]

theorem decode_of_recovers (hf : c.find? s = some e)
    (htypes : Parameter.types? e.inputs = some types) {values : Values types}
    (h : Recovers types values) :
    c.decode (encoded s types values) = .ok ⟨e.name, argumentsWith e types values⟩ := by
  have htake : (encoded s types values).take 4 = s.bytes := List.take_left' s.size
  have hdrop : (encoded s types values).drop 4 = encodeAll types values := List.drop_left' s.size
  refine decode_found htake.symm hf ?_
  rw [hdrop]
  exact argumentsOf?_encodeAll htypes h

/-- The arguments of an error are told by its text. -/
theorem argumentsWith_of_text {values values' : Values types}
    (h : (DecodedError.mk e.name (argumentsWith e types values)).text =
      (DecodedError.mk e.name (argumentsWith e types values')).text) :
    argumentsWith e types values = argumentsWith e types values' := by
  have hrendered : ∀ values : Values types, ∀ m ∈ argumentsWith e types values, Rendered m.2 :=
    fun values => rendered_zip (rendered_renderAll types values)
  have htext : Json.text (.table (argumentsWith e types values)) =
      Json.text (.table (argumentsWith e types values')) := by
    have hlist := congrArg String.toList h
    rw [DecodedError.text, DecodedError.text, String.toList_append, String.toList_append] at hlist
    exact String.toList_injective (List.append_cancel_left hlist)
  have hparse := parse_text_table (hrendered values)
  rw [htext, parse_text_table (hrendered values')] at hparse
  exact (Document.table.inj (Option.some.inj hparse)).symm

theorem values_of_argumentsWith (htypes : Parameter.types? e.inputs = some types)
    (hkeys : AllKeysDiffer types) {values values' : Values types} (hv : fitAll types values = true)
    (hv' : fitAll types values' = true)
    (h : argumentsWith e types values = argumentsWith e types values') : values = values' := by
  have hdocuments : renderAll types values = renderAll types values' := by
    have hsecond := congrArg (List.map Prod.snd) h
    rwa [argumentsWith, argumentsWith, List.map_snd_zip (Nat.le_of_eq (length_keys htypes values).symm),
      List.map_snd_zip (Nat.le_of_eq (length_keys htypes values').symm)] at hsecond
  exact renderAll_injective types hkeys hv hv' hdocuments

end

/-- The data of an error are decoded, and they tell its arguments. -/
structure Faithful (c : ErrorCatalog) (s : Selector) (e : ErrorDefinition) (types : List AbiType) :
    Prop where
  /-- What is decoded has the name of the error and a document for each parameter, in their order. -/
  decoded (values : Values types) : Recovers types values →
    c.decode (encoded s types values) = .ok ⟨e.name, argumentsWith e types values⟩ ∧
      (argumentsWith e types values).length = e.inputs.length ∧
      (argumentsWith e types values).map Prod.snd = renderAll types values
  /-- No two lists of arguments have one text. -/
  told (values values' : Values types) : AllKeysDiffer types → fitAll types values = true →
    fitAll types values' = true → Recovers types values → Recovers types values' →
    c.decodeText (encoded s types values) = c.decodeText (encoded s types values') → values = values'

/-- **What is encoded is decoded, and its text tells what it is.** For every definition under a
    selector whose parameters have types, all that is assumed is that arguments are read from their
    encoding; the keys of each tuple have to differ for the text to tell them.  Data are too short
    exactly if there are less than four bytes, and their selector is unknown exactly if no definition
    is under it. -/
theorem decode_encoded (c : ErrorCatalog) :
    (∀ s e types, c.find? s = some e → Parameter.types? e.inputs = some types →
      Faithful c s e types) ∧
    (∀ data n, c.decode data = .error (.tooShort n) ↔ data.length < 4 ∧ n = data.length) ∧
    (∀ data s, c.decode data = .error (.unknownSelector s) ↔
      s.bytes = data.take 4 ∧ c.find? s = none) := by
  refine ⟨?_, fun _ _ => decode_tooShort_iff, fun _ _ => decode_unknownSelector_iff⟩
  intro s e types hf htypes
  constructor
  · intro values h
    refine ⟨decode_of_recovers hf htypes h, ?_, ?_⟩
    · rw [argumentsWith, List.length_zip, length_keys htypes, Nat.min_self, length_renderAll,
        Parameter.length_types? htypes]
    · exact List.map_snd_zip (Nat.le_of_eq (length_keys htypes values).symm)
  · intro values values' hkeys hv hv' h h' htext
    rw [decodeText, decodeText, decode_of_recovers hf htypes h, decode_of_recovers hf htypes h'] at htext
    exact values_of_argumentsWith htypes hkeys hv hv' (argumentsWith_of_text (Except.ok.inj htext))

/-! ## An array of tuples and a text -/

/-- An error with an array of tuples that hold an array each, and with a text. -/
def nested : ErrorDefinition :=
  ⟨"Nested", [.mk "moves" "tuple[]" [.mk "change" "int64" [], .mk "limits" "uint256[2]" []],
    .mk "note" "string" []]⟩

/-- The types of its parameters. -/
def nestedTypes : List AbiType :=
  [.array (.tuple ["change", "limits"] [.int 64, .fixedArray 2 (.uint 256)]), .string]

/-- One move by -1, with two limits. -/
def moveWithin (low high : Nat) : Values nestedTypes :=
  ([((-1 : Int), (⟨[low, high], rfl⟩, ()))], (utf8 "é", ()))

/-- The catalog with this error under the selector of zeros. -/
def nesting : ErrorCatalog := ⟨[(.zero 4, nested)]⟩

theorem decode_encoded_nested :
    nesting.decode (encoded (.zero 4) nestedTypes (moveWithin (2 ^ 64 - 1) (2 ^ 64))) =
      .ok ⟨"Nested", [
        ("moves", .list [.table [("change", .integer (-1)),
          ("limits", .list [.integer 18446744073709551615, .text "18446744073709551616"])]]),
        ("note", .text "é")]⟩ ∧
    nesting.decodeText (encoded (.zero 4) nestedTypes (moveWithin (2 ^ 64 - 1) (2 ^ 64))) ≠
      nesting.decodeText (encoded (.zero 4) nestedTypes (moveWithin (2 ^ 64) (2 ^ 64 - 1))) := by
  have hf : nesting.find? (.zero 4) = some nested := List.lookup_cons_self
  have htypes : Parameter.types? nested.inputs = some nestedTypes := by rfl
  have hfits : fitAll nestedTypes (moveWithin (2 ^ 64 - 1) (2 ^ 64)) = true := by decide +kernel
  have hfits' : fitAll nestedTypes (moveWithin (2 ^ 64) (2 ^ 64 - 1)) = true := by decide +kernel
  have hrecovers := recovers_encodeAll (by decide) hfits (by decide) (by decide +kernel)
  have hrecovers' := recovers_encodeAll (by decide) hfits' (by decide) (by decide +kernel)
  obtain ⟨hdecoded, htold⟩ := (decode_encoded nesting).1 _ _ _ hf htypes
  constructor
  · exact (hdecoded _ hrecovers).1.trans rfl
  · intro htext
    have hsame := htold _ _ ⟨⟨by decide, trivial, trivial, trivial⟩, trivial, trivial⟩ hfits hfits'
      hrecovers hrecovers' htext
    have hlimits := congrArg (renderAll nestedTypes) hsame
    cases hlimits

end ErrorCatalog

end PacketRelay
