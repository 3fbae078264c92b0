/-
  What decoding can end in.

  * `argumentsOf?_eq_some`: arguments are the values that data hold, rendered under their keys;
  * `decode_short`, `decode_unknown` and `decode_eq_decodedAs`: the selector of data decides what
    becomes of them, and all data are too short or have one (`short_or_selector`);
  * `Outcome` is all that can become of data, with one case for each error: `outcome_decode`.
-/
import PacketRelay.Revert.Catalog
import PacketRelay.Proofs.Abi.Unnamed
import PacketRelay.Proofs.Bytes

namespace PacketRelay

namespace ErrorCatalog

variable {c : ErrorCatalog} {e : ErrorDefinition} {data : Bytes}

/-! ## Arguments -/

/-- The names of the parameters. -/
def namesOf (e : ErrorDefinition) : List String := e.inputs.map Parameter.name

/-- **Arguments are the values that data hold**, rendered under their keys. -/
theorem argumentsOf?_eq_some {arguments : List (String × Document)}
    (h : argumentsOf? e data = some arguments) : ∃ types, ∃ values,
      Parameter.types? e.inputs = some types ∧
      AbiType.decodeArguments (types.map AbiType.collapsed) data = some values ∧
      arguments = (argumentKeys 0 (namesOf e)).zip (AbiType.renderAll _ values) := by
  obtain ⟨types, htypes, h⟩ := Option.bind_eq_some_iff.1 h
  obtain ⟨values, hvalues, h⟩ := Option.bind_eq_some_iff.1 h
  exact ⟨types, values, htypes, hvalues, (Option.some.inj h).symm⟩

/-! ## The selector of data -/

/-- Data are too short, or they start with a selector. -/
theorem short_or_selector (data : Bytes) :
    data.length < 4 ∨ ∃ s : Selector, s.bytes = data.take 4 := by
  cases hs : FixedBytes.ofBytes? 4 (data.take 4) with
  | none =>
    have hlength := FixedBytes.ofBytes?_eq_none.1 hs
    rw [List.length_take] at hlength
    exact .inl (by omega)
  | some s => exact .inr ⟨s, FixedBytes.bytes_of_ofBytes? hs⟩

theorem decode_short (h : data.length < 4) : c.decode data = .error (.tooShort data.length) := by
  have hnone : FixedBytes.ofBytes? 4 (data.take 4) = none := by
    rw [FixedBytes.ofBytes?_eq_none, List.length_take]
    omega
  simp only [decode, hnone]

/-- What a definition makes of data without their selector. -/
def decodedAs (e : ErrorDefinition) (data : Bytes) : Except RevertError DecodedError :=
  match argumentsOf? e data with
  | none => .error (.undecodable e.name)
  | some arguments => .ok ⟨e.name, arguments⟩

section
variable {s : Selector} (hs : s.bytes = data.take 4)
include hs

theorem decode_unknown (hf : c.find? s = none) : c.decode data = .error (.unknownSelector s) := by
  simp only [decode, ← hs, FixedBytes.ofBytes?_bytes, hf]

theorem decode_eq_decodedAs (hf : c.find? s = some e) :
    c.decode data = decodedAs e (data.drop 4) := by
  simp only [decode, ← hs, FixedBytes.ofBytes?_bytes, hf]
  rfl

theorem decode_found (hf : c.find? s = some e) {arguments : List (String × Document)}
    (h : argumentsOf? e (data.drop 4) = some arguments) :
    c.decode data = .ok ⟨e.name, arguments⟩ := by
  rw [decode_eq_decodedAs hs hf, decodedAs, h]

end

/-! ## Outcomes -/

/-- All that can become of data. -/
inductive Outcome (c : ErrorCatalog) (data : Bytes) : Except RevertError DecodedError → Prop
  /-- There is no whole selector. -/
  | short : data.length < 4 → Outcome c data (.error (.tooShort data.length))
  /-- No definition is under the selector. -/
  | unknown {s : Selector} : s.bytes = data.take 4 → c.find? s = none →
      Outcome c data (.error (.unknownSelector s))
  /-- The definition has no types, or the data do not hold its arguments. -/
  | undecodable {s : Selector} {e : ErrorDefinition} : s.bytes = data.take 4 →
      c.find? s = some e → argumentsOf? e (data.drop 4) = none →
      Outcome c data (.error (.undecodable e.name))
  | decoded {s : Selector} {e : ErrorDefinition} {arguments : List (String × Document)} :
      s.bytes = data.take 4 → c.find? s = some e →
      argumentsOf? e (data.drop 4) = some arguments → Outcome c data (.ok ⟨e.name, arguments⟩)

/-- Decoding has one of these outcomes. -/
theorem outcome_decode (c : ErrorCatalog) (data : Bytes) : Outcome c data (c.decode data) := by
  rcases short_or_selector data with hshort | ⟨s, hs⟩
  · rw [decode_short hshort]
    exact .short hshort
  cases hf : c.find? s with
  | none =>
    rw [decode_unknown hs hf]
    exact .unknown hs hf
  | some e =>
    rw [decode_eq_decodedAs hs hf, decodedAs]
    cases harguments : argumentsOf? e (data.drop 4) with
    | none => exact .undecodable hs hf harguments
    | some arguments => exact .decoded hs hf harguments

/-- **Data are too short** exactly if there are less than four bytes. -/
theorem decode_tooShort_iff {n : Nat} :
    c.decode data = .error (.tooShort n) ↔ data.length < 4 ∧ n = data.length := by
  constructor
  · intro h
    have houtcome := outcome_decode c data
    rw [h] at houtcome
    cases houtcome with
    | short hlength => exact ⟨hlength, rfl⟩
  · rintro ⟨hlength, rfl⟩
    exact decode_short hlength

/-- **A selector is unknown** exactly if data start with it and no definition is under it. -/
theorem decode_unknownSelector_iff {s : Selector} :
    c.decode data = .error (.unknownSelector s) ↔ s.bytes = data.take 4 ∧ c.find? s = none := by
  constructor
  · intro h
    have houtcome := outcome_decode c data
    rw [h] at houtcome
    cases houtcome with
    | unknown hs hf => exact ⟨hs, hf⟩
  · rintro ⟨hs, hf⟩
    exact decode_unknown hs hf

end ErrorCatalog

end PacketRelay
