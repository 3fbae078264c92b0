/-
  The order of loading.

  `performAll` makes changes one after the other, up to the first one that fails.

  * `Gathers`: a catalog knows all of some definitions, and nothing else.  Such catalogs have the same
    signature under each selector, and one that gathers more has grown by the new selectors
    (`Gathers.size_eq_add`);
  * `Added.inTurn_cases`: adding definitions leads to such a catalog, and it fails exactly if something
    cannot be read or two signatures share a selector;
  * `Alike`: what has been decoded differs in keys only;
  * `order_independent`: the order of changes decides on keys only;
  * `order_undetermined`: of two definitions with one signature, one of which has no types.
-/
import PacketRelay.Proofs.Revert.Decoding
import PacketRelay.Proofs.Revert.Definition
import PacketRelay.Proofs.Revert.History
import Mathlib.Data.Finset.Card
import Mathlib.Data.Finset.Dedup

namespace PacketRelay.ErrorCatalog

variable {hash : String → Selector} {c c' : ErrorCatalog} {changes changes' : List Change}
  {es es' : List ErrorDefinition} {e e' : ErrorDefinition} {s : Selector}

/-! ## Several changes -/

/-- Makes changes one after the other, up to the first one that fails. -/
def performAll (hash : String → Selector) : List Change → Loading Nat
  | [] => pure 0
  | change :: rest => do
    let n ← change.perform hash
    let m ← performAll hash rest
    pure (n + m)

theorem loads_performAll (hash : String → Selector) (changes : List Change) :
    Loads hash (performAll hash changes) (.inTurn (changes.map Change.declared)) := by
  induction changes with
  | nil => exact loads_pure
  | cons change rest ih => exact (change.loads hash).andThen ih

/-- All that changes are asked for can be read. -/
def Readable (changes : List Change) : Prop := ∀ change ∈ changes, change.declared.stop = none

/-- The definitions that changes read. -/
def collected (changes : List Change) : List ErrorDefinition :=
  changes.flatMap fun change => change.declared.definitions

/-- These and the two definitions that every catalog starts with. -/
def gathered (changes : List Change) : List ErrorDefinition :=
  ErrorDefinition.message :: ErrorDefinition.panic :: collected changes

/-! ## What a catalog gathers -/

/-- Two signatures share a selector. -/
def Clash (hash : String → Selector) (es : List ErrorDefinition) : Prop :=
  ∃ e ∈ es, ∃ e' ∈ es, e.signature ≠ e'.signature ∧ hash e.signature = hash e'.signature

theorem Clash.mono (h : Clash hash es) (hes : es ⊆ es') : Clash hash es' := by
  obtain ⟨e, he, e', he', hclash⟩ := h
  exact ⟨e, hes he, e', hes he', hclash⟩

/-- The definitions that a catalog keeps. -/
def definitions (c : ErrorCatalog) : List ErrorDefinition := c.entries.map Prod.snd

/-- The catalog knows all of the definitions, and nothing else. -/
structure Gathers (hash : String → Selector) (c : ErrorCatalog) (es : List ErrorDefinition) :
    Prop where
  consistent : Consistent hash c
  knows : c.Knows hash es
  member : ∀ entry ∈ c.entries, entry.2 ∈ es

/-- What is found under a selector has it. -/
theorem Consistent.selector (h : Consistent hash c) (hf : c.find? s = some e) :
    s = hash e.signature :=
  h.own (s, e) (mem_of_find? hf)

/-- The selectors of definitions. -/
def selectorsOf (hash : String → Selector) (es : List ErrorDefinition) : Finset Selector :=
  (es.map fun e => hash e.signature).toFinset

/-- The selectors under which a catalog has something. -/
def selectors (c : ErrorCatalog) : Finset Selector := (c.entries.map Prod.fst).toFinset

theorem Consistent.card_selectors (h : Consistent hash c) : c.selectors.card = c.size := by
  rw [selectors, List.toFinset_card_of_nodup h.distinct, List.length_map]
  rfl

namespace Gathers

theorem congr (h : c.Gathers hash es) (hes : ∀ e, e ∈ es ↔ e ∈ es') : c.Gathers hash es' where
  consistent := h.consistent
  knows e he := h.knows e ((hes e).2 he)
  member entry hentry := (hes entry.2).1 (h.member entry hentry)

theorem separates (h : c.Gathers hash es) : ¬ Clash hash es := by
  rintro ⟨e, he, e', he', hne, hselector⟩
  obtain ⟨kept, hf, hsame⟩ := h.knows e he
  obtain ⟨kept', hf', hsame'⟩ := h.knows e' he'
  rw [← hselector, hf] at hf'
  obtain rfl := Option.some.inj hf'
  exact hne (hsame.symm.trans hsame')

theorem selectors_eq (h : c.Gathers hash es) : c.selectors = selectorsOf hash es := by
  ext s
  rw [selectors, selectorsOf, List.mem_toFinset, List.mem_toFinset, List.mem_map, List.mem_map]
  constructor
  · rintro ⟨⟨s, e⟩, hentry, rfl⟩
    exact ⟨e, h.member _ hentry, (h.consistent.own _ hentry).symm⟩
  · rintro ⟨e, he, rfl⟩
    obtain ⟨kept, hf, -⟩ := h.knows e he
    exact ⟨_, mem_of_find? hf, rfl⟩

variable (h : c.Gathers hash es) (h' : c'.Gathers hash es)
include h h'

/-- What one catalog finds, another one finds with the same signature. -/
theorem find?_some (hf : c.find? s = some e) :
    ∃ e', c'.find? s = some e' ∧ e'.signature = e.signature := by
  have hmem := h.member _ (mem_of_find? hf)
  rw [h.consistent.selector hf]
  exact h'.knows e hmem

/-- **Catalogs that gather the same definitions** have the same signature under each selector. -/
theorem signature_find? (s : Selector) :
    (c.find? s).map ErrorDefinition.signature = (c'.find? s).map ErrorDefinition.signature := by
  cases hf : c.find? s with
  | some e =>
    obtain ⟨e', hf', hsame⟩ := h.find?_some h' hf
    rw [hf', Option.map_some, Option.map_some, hsame]
  | none =>
    cases hf' : c'.find? s with
    | none => rfl
    | some e' =>
      obtain ⟨e, hf'', -⟩ := h'.find?_some h hf'
      rw [hf] at hf''
      cases hf''

theorem size_eq : c.size = c'.size := by
  rw [← h.consistent.card_selectors, ← h'.consistent.card_selectors, h.selectors_eq,
    h'.selectors_eq]

end Gathers

/-- A catalog knows what it keeps, whatever is added to it. -/
theorem knows_definitions (hc : Consistent hash c) (h : c.Extends c') :
    c'.Knows hash c.definitions := by
  intro e he
  obtain ⟨⟨s, e⟩, hentry, rfl⟩ := List.mem_map.1 he
  have hs : s = hash e.signature := hc.own _ hentry
  refine ⟨e, h.find? ?_, rfl⟩
  rw [← hs]
  exact hc.find?_of_mem hentry

theorem Consistent.gathers (h : Consistent hash c) : c.Gathers hash c.definitions :=
  ⟨h, knows_definitions h (.refl c), fun _ => List.mem_map_of_mem⟩

/-- A catalog that gathers more definitions grows by their new selectors. -/
theorem Gathers.size_eq_add (hc : Consistent hash c) (h : c'.Gathers hash (c.definitions ++ es)) :
    c'.size = c.size + (selectorsOf hash es \ c.selectors).card := by
  have hunion : c'.selectors = selectorsOf hash es ∪ c.selectors := by
    rw [h.selectors_eq, hc.gathers.selectors_eq, Finset.union_comm, selectorsOf, List.map_append,
      List.toFinset_append]
    rfl
  rw [← h.consistent.card_selectors, ← hc.card_selectors, hunion, ← Finset.card_sdiff_add_card,
    Nat.add_comm]

theorem mem_definitions_keepAll (h : (s, e) ∈ (c.keepAll hash es).entries) :
    e ∈ c.definitions ++ es :=
  List.mem_append.2 ((mem_keepAll h).imp_left (List.mem_map_of_mem (f := Prod.snd)))

/-- **Adding definitions** to a catalog gathers them, or not all of them can be read, or two
    signatures share a selector. -/
theorem Added.gathers_or_clash {d : Declared} {r : Except RevertError Nat}
    (hc : Consistent hash c) (h : Added hash c d r c') :
    (∃ n, r = .ok n ∧ d.stop = none ∧ c'.Gathers hash (c.definitions ++ d.definitions) ∧
      c'.size = c.size + n) ∨
    (∃ err, r = .error err) ∧ (d.stop ≠ none ∨ Clash hash (c.definitions ++ d.definitions)) := by
  cases h with
  | @done n hstop hknows hsize =>
    refine .inl ⟨n, rfl, hstop, ⟨hc.keepAll _, ?_, ?_⟩, hsize⟩
    · exact List.forall_mem_append.2 ⟨knows_definitions hc (extends_keepAll hash c _), hknows⟩
    · exact fun entry hentry => mem_definitions_keepAll hentry
  | @refused before after e kept hsplit hknows hholds =>
    refine .inr ⟨⟨_, rfl⟩, .inr ⟨kept, ?_, e, ?_, hholds.2, ?_⟩⟩
    · have hkept := mem_definitions_keepAll (mem_of_find? hholds.1)
      rw [hsplit, ← List.append_assoc]
      exact List.mem_append_left _ hkept
    · rw [hsplit]
      simp
    · exact ((hc.keepAll before).selector hholds.1).symm
  | @stopped err hstop _ =>
    refine .inr ⟨⟨err, rfl⟩, .inl ?_⟩
    rw [hstop]
    exact Option.some_ne_none err

/-- Adding what is read one after the other. -/
theorem Added.inTurn_cases {ds : List Declared} {r : Except RevertError Nat}
    (hc : Consistent hash c) (h : Added hash c (.inTurn ds) r c') :
    (∃ n, r = .ok n ∧ (∀ d ∈ ds, d.stop = none) ∧
      c'.Gathers hash (c.definitions ++ ds.flatMap Declared.definitions) ∧ c'.size = c.size + n) ∨
    (∃ err, r = .error err) ∧ (¬ (∀ d ∈ ds, d.stop = none) ∨
      Clash hash (c.definitions ++ ds.flatMap Declared.definitions)) := by
  rcases h.gathers_or_clash hc with ⟨n, rfl, hstop, hgathers, hsize⟩ | ⟨⟨err, rfl⟩, hfault⟩
  · have hall := Declared.inTurn_stop.1 hstop
    rw [Declared.inTurn_definitions hall] at hgathers
    exact .inl ⟨n, rfl, hall, hgathers, hsize⟩
  · refine .inr ⟨⟨err, rfl⟩, hfault.imp (mt Declared.inTurn_stop.2) fun hclash => hclash.mono ?_⟩
    intro e he
    rw [List.mem_append] at he ⊢
    exact he.imp_right Declared.mem_inTurn

/-- **Several changes** gather what they read, or something cannot be read, or two signatures share a
    selector. -/
theorem performAll_cases
    (hsep : hash ErrorDefinition.message.signature ≠ hash ErrorDefinition.panic.signature)
    (changes : List Change) :
    (∃ n c, performAll hash changes (initial hash) = (.ok n, c) ∧ Readable changes ∧
      c.Gathers hash (gathered changes) ∧ c.size = (initial hash).size + n) ∨
    (∃ err c, performAll hash changes (initial hash) = (.error err, c)) ∧
      (¬ Readable changes ∨ Clash hash (gathered changes)) := by
  obtain ⟨r, c, hrun, hadded⟩ := loads_performAll hash changes (initial hash)
  have hgathered : gathered changes = (initial hash).definitions ++
      (changes.map Change.declared).flatMap Declared.definitions := by
    rw [List.flatMap_map]
    rfl
  have hreadable : Readable changes ↔ ∀ d ∈ changes.map Change.declared, d.stop = none := by
    rw [List.forall_mem_map, Readable]
  rw [hgathered, hreadable]
  rcases hadded.inTurn_cases (consistent_initial hsep) with
    ⟨n, rfl, hall, hgathers, hsize⟩ | ⟨⟨err, rfl⟩, hfault⟩
  · exact .inl ⟨n, c, hrun, hall, hgathers, hsize⟩
  · exact .inr ⟨⟨err, c, hrun⟩, hfault⟩

/-! ## Decoding -/

/-- What has been decoded differs in keys only. -/
inductive Alike : Except RevertError DecodedError → Except RevertError DecodedError → Prop
  | error (err : RevertError) : Alike (.error err) (.error err)
  | ok {name : String} {arguments arguments' : List (String × Document)} :
      List.Forall₂ (fun a a' => AbiType.SameButKeys a.2 a'.2) arguments arguments' →
      Alike (.ok ⟨name, arguments⟩) (.ok ⟨name, arguments'⟩)

theorem forall₂_zip {α β : Type} {R : β → β → Prop} {keys keys' : List α} {ds ds' : List β}
    (h : List.Forall₂ R ds ds') (hkeys : keys.length = ds.length)
    (hkeys' : keys'.length = ds'.length) :
    List.Forall₂ (fun a a' => R a.2 a'.2) (keys.zip ds) (keys'.zip ds') := by
  have hmap := h
  rw [← List.map_snd_zip hkeys.ge, ← List.map_snd_zip hkeys'.ge, List.forall₂_map_left_iff,
    List.forall₂_map_right_iff] at hmap
  exact hmap

/-- Definitions with one signature that have types give arguments that differ in keys only. -/
theorem arguments_agree (h : e.Regular) (h' : e'.Regular) (hsame : e.signature = e'.signature)
    {ts ts' : List AbiType} (hts : Parameter.types? e.inputs = some ts)
    (hts' : Parameter.types? e'.inputs = some ts') (data : Bytes) :
    (argumentsOf? e data = none ∧ argumentsOf? e' data = none) ∨
      ∃ arguments arguments', argumentsOf? e data = some arguments ∧
        argumentsOf? e' data = some arguments' ∧
        List.Forall₂ (fun a a' => AbiType.SameButKeys a.2 a'.2) arguments arguments' := by
  have htypes : AbiType.unnamedAll (ts.map AbiType.collapsed) =
      AbiType.unnamedAll (ts'.map AbiType.collapsed) := by
    rw [AbiType.unnamedAll_collapsed, AbiType.unnamedAll_collapsed,
      ErrorDefinition.types_agree h h' hsame hts hts']
  have hlength : ∀ {e : ErrorDefinition} {ts : List AbiType}
      (values : AbiType.Values (ts.map AbiType.collapsed)),
      Parameter.types? e.inputs = some ts →
      (argumentKeys 0 (e.inputs.map Parameter.name)).length = (AbiType.renderAll _ values).length := by
    intro e ts values hts
    rw [AbiType.length_argumentKeys, AbiType.length_renderAll, List.length_map, List.length_map,
      Parameter.length_types? hts]
  simp only [argumentsOf?, hts, hts', Option.bind_eq_bind, Option.bind_some]
  rcases AbiType.documents_agree htypes data with ⟨hv, hv'⟩ | ⟨values, values', hv, hv', hall⟩
  · rw [hv, hv']
    exact .inl ⟨rfl, rfl⟩
  · rw [hv, hv']
    exact .inr ⟨_, _, rfl, rfl, forall₂_zip hall (hlength values hts) (hlength values' hts')⟩

/-- Of two definitions with one signature under the selector of the data, one has types and the other
    has none. -/
def Undetermined (hash : String → Selector) (es : List ErrorDefinition) (data : Bytes) : Prop :=
  ∃ e ∈ es, ∃ e' ∈ es, e.signature = e'.signature ∧ (hash e.signature).bytes = data.take 4 ∧
    (Parameter.types? e.inputs).isSome ∧ Parameter.types? e'.inputs = none

/-- Definitions with one signature make the same of data, keys apart, unless one of them has types and
    the other has none. -/
theorem decodedAs_alike (h : e.Regular) (h' : e'.Regular) (hsame : e.signature = e'.signature)
    (data : Bytes) : Alike (decodedAs e data) (decodedAs e' data) ∨
      ((Parameter.types? e.inputs).isSome ∧ Parameter.types? e'.inputs = none) ∨
      ((Parameter.types? e'.inputs).isSome ∧ Parameter.types? e.inputs = none) := by
  have hname := (ErrorDefinition.signature_unique h h' hsame).1
  cases hts : Parameter.types? e.inputs with
  | none =>
    cases hts' : Parameter.types? e'.inputs with
    | none =>
      have hnone : argumentsOf? e data = none := by rw [argumentsOf?, hts]; rfl
      have hnone' : argumentsOf? e' data = none := by rw [argumentsOf?, hts']; rfl
      rw [decodedAs, decodedAs, hnone, hnone', hname]
      exact .inl (.error _)
    | some ts' => exact .inr (.inr ⟨rfl, rfl⟩)
  | some ts =>
    cases hts' : Parameter.types? e'.inputs with
    | none => exact .inr (.inl ⟨rfl, rfl⟩)
    | some ts' =>
      rw [decodedAs, decodedAs, hname]
      rcases arguments_agree h h' hsame hts hts' data with
        ⟨hnone, hnone'⟩ | ⟨arguments, arguments', harguments, harguments', hall⟩
      · rw [hnone, hnone']
        exact .inl (.error _)
      · rw [harguments, harguments']
        exact .inl (.ok hall)

/-- **Catalogs that gather the same definitions** decode the same, keys apart. -/
theorem Gathers.decode_alike (h : c.Gathers hash es) (h' : c'.Gathers hash es)
    (hregular : ∀ e ∈ es, e.Regular) (data : Bytes) :
    Alike (c.decode data) (c'.decode data) ∨ Undetermined hash es data := by
  rcases short_or_selector data with hshort | ⟨s, hs⟩
  · rw [decode_short hshort, decode_short hshort]
    exact .inl (.error _)
  cases hf : c.find? s with
  | none =>
    have hf' : c'.find? s = none := by
      rw [← Option.map_eq_none_iff, ← h.signature_find? h' s, hf, Option.map_none]
    rw [decode_unknown hs hf, decode_unknown hs hf']
    exact .inl (.error _)
  | some e =>
    obtain ⟨e', hf', hsame⟩ := h.find?_some h' hf
    have he := h.member _ (mem_of_find? hf)
    have he' := h'.member _ (mem_of_find? hf')
    have hselector : (hash e.signature).bytes = data.take 4 := by
      rw [← h.consistent.selector hf, hs]
    rw [decode_eq_decodedAs hs hf, decode_eq_decodedAs hs hf']
    refine (decodedAs_alike (hregular e he) (hregular e' he') hsame.symm _).imp_right ?_
    rintro (⟨htypes, hnone⟩ | ⟨htypes, hnone⟩)
    · exact ⟨e, he, e', he', hsame.symm, hselector, htypes, hnone⟩
    · exact ⟨e', he', e, he, hsame, hsame ▸ hselector, htypes, hnone⟩

/-! ## Two orders -/

theorem definitionsIn_regular {path : Path} {content : Bytes}
    (h : definitionsIn path content = .ok es) : ∀ e ∈ es, e.Regular := by
  unfold definitionsIn at h
  cases hdecode : Utf8.decode content with
  | error err =>
    rw [hdecode] at h
    cases h
  | ok text =>
    simp only [hdecode, Except.mapError, bind, Except.bind] at h
    split at h
    · cases h
    · split at h
      · obtain rfl := Except.ok.inj h
        exact List.forall_mem_nil _
      · next d _ interface _ =>
        cases herrors : Interface.errors interface with
        | error err =>
          rw [herrors] at h
          cases h
        | ok found =>
          rw [herrors] at h
          obtain rfl := Except.ok.inj h
          exact Interface.errors_regular herrors

/-- What is read of an artifact is regular. -/
theorem declaredIn_regular (path : Path) (content : Bytes) :
    ∀ e ∈ (declaredIn path content).definitions, e.Regular := by
  unfold declaredIn
  cases hread : definitionsIn path content with
  | ok es => exact definitionsIn_regular hread
  | error err => exact List.forall_mem_nil _

theorem declaredAll_regular (found : List (Path × Bytes)) :
    ∀ e ∈ (declaredAll found).definitions, e.Regular := by
  induction found with
  | nil => exact List.forall_mem_nil _
  | cons artifact rest ih =>
    have hfirst := declaredIn_regular artifact.1 artifact.2
    rw [declaredAll]
    cases hstop : (declaredIn artifact.1 artifact.2).stop with
    | none =>
      rw [Declared.andThen_none _ hstop, List.forall_mem_append]
      exact ⟨hfirst, ih⟩
    | some err =>
      rw [Declared.andThen_some _ hstop]
      exact hfirst

/-- All that changes read is regular, if the definitions among them are. -/
theorem collected_regular (h : ∀ e, .definition e ∈ changes → e.Regular) :
    ∀ e ∈ collected changes, e.Regular := by
  intro e he
  obtain ⟨change, hchange, he⟩ := List.mem_flatMap.1 he
  cases change with
  | definition e' =>
    obtain rfl := List.mem_singleton.1 he
    exact h e hchange
  | artifact files path =>
    rw [Change.declared, declaredAt] at he
    split at he
    · exact declaredIn_regular _ _ e he
    · cases he
  | folder files root =>
    rw [Change.declared, declaredBelow] at he
    split at he
    · exact declaredAll_regular _ e he
    · cases he

/-- **The order of changes decides on keys only.** Two lists of changes read the same definitions, and
    in both or in neither all can be read.  Then

    * both fail, or both succeed with as many new definitions, the same signature under each selector,
      and data that are decoded alike, keys apart.  Data are excepted that have the selector of two
      definitions with one signature of which one has types and the other has none;
    * where all can be read, making the changes fails exactly if two signatures share a selector. -/
theorem order_independent
    (hsep : hash ErrorDefinition.message.signature ≠ hash ErrorDefinition.panic.signature)
    (hread : Readable changes ↔ Readable changes')
    (hsame : ∀ e, e ∈ collected changes ↔ e ∈ collected changes')
    (hregular : ∀ e, .definition e ∈ changes → e.Regular) :
    ((∃ n c c', performAll hash changes (initial hash) = (.ok n, c) ∧
        performAll hash changes' (initial hash) = (.ok n, c') ∧
        (∀ s, (c.find? s).map ErrorDefinition.signature =
          (c'.find? s).map ErrorDefinition.signature) ∧
        ∀ data, Alike (c.decode data) (c'.decode data) ∨
          Undetermined hash (gathered changes) data) ∨
      ∃ err c err' c', performAll hash changes (initial hash) = (.error err, c) ∧
        performAll hash changes' (initial hash) = (.error err', c')) ∧
    (Readable changes → ((∃ err c, performAll hash changes (initial hash) = (.error err, c)) ↔
      Clash hash (gathered changes))) := by
  have hgathered : ∀ e, e ∈ gathered changes ↔ e ∈ gathered changes' := by
    intro e
    simp only [gathered, List.mem_cons, hsame]
  have hclash : Clash hash (gathered changes) ↔ Clash hash (gathered changes') := by
    simp only [Clash, hgathered]
  have hall : ∀ e ∈ gathered changes, e.Regular := by
    rw [gathered, List.forall_mem_cons, List.forall_mem_cons]
    exact ⟨ErrorDefinition.regular_message, ErrorDefinition.regular_panic,
      collected_regular hregular⟩
  rcases performAll_cases hsep changes with
    ⟨n, c, hrun, hreadable, hc, hsize⟩ | ⟨⟨err, c, hrun⟩, hfault⟩
  · refine ⟨?_, ?_⟩
    · rcases performAll_cases hsep changes' with
        ⟨n', c', hrun', _, hc', hsize'⟩ | ⟨_, hfault'⟩
      · replace hc' := hc'.congr fun e => (hgathered e).symm
        have hn : n = n' := by
          have hsizes := hc.size_eq hc'
          omega
        subst hn
        exact .inl ⟨n, c, c', hrun, hrun', hc.signature_find? hc', hc.decode_alike hc' hall⟩
      · rw [← hread, ← hclash] at hfault'
        exact absurd hfault' (not_or.2 ⟨not_not.2 hreadable, hc.separates⟩)
    · intro _
      constructor
      · rintro ⟨err, c', hrun'⟩
        rw [hrun] at hrun'
        cases hrun'
      · intro hclashes
        exact absurd hclashes hc.separates
  · refine ⟨.inr ?_, ?_⟩
    · rcases performAll_cases hsep changes' with
        ⟨n', c', hrun', hreadable', hc', _⟩ | ⟨⟨err', c', hrun'⟩, _⟩
      · rw [hread, hclash] at hfault
        exact absurd hfault (not_or.2 ⟨not_not.2 hreadable', hc'.separates⟩)
      · exact ⟨err, c, err', c', hrun, hrun'⟩
    · intro hreadable
      exact iff_of_true ⟨err, c, hrun⟩ (hfault.resolve_left (not_not.2 hreadable))

/-! ## Definitions in both orders -/

/-- The argument of an error under two names. -/
def renamed : List Change :=
  [.definition ⟨"Failed", [.mk "code" "uint256" []]⟩,
    .definition ⟨"Failed", [.mk "reason" "uint256" []]⟩]

theorem readable_renamed : Readable renamed := by
  simp [Readable, renamed, Change.declared]

theorem order_independent_renamed :
    leading ErrorDefinition.message.signature ≠ leading ErrorDefinition.panic.signature ∧
      Readable renamed ∧ (∀ e, e ∈ collected renamed ↔ e ∈ collected renamed.reverse) ∧
      ∃ n c c', performAll leading renamed (initial leading) = (.ok n, c) ∧
        performAll leading renamed.reverse (initial leading) = (.ok n, c') ∧
        ∀ data, Alike (c.decode data) (c'.decode data) := by
  have hmem : ∀ change, change ∈ renamed ↔ change ∈ renamed.reverse :=
    fun _ => List.mem_reverse.symm
  have hsame : ∀ e, e ∈ collected renamed ↔ e ∈ collected renamed.reverse := by
    intro e
    simp only [collected, List.mem_flatMap, hmem]
  have hread : Readable renamed ↔ Readable renamed.reverse := by
    simp only [Readable, hmem]
  have hregular : ∀ e, .definition e ∈ renamed → e.Regular := by
    intro e he
    simp only [renamed, List.mem_cons, List.not_mem_nil, or_false, Change.definition.injEq] at he
    rcases he with rfl | rfl <;> exact ⟨by decide, trivial, trivial⟩
  have htypes : ∀ e ∈ gathered renamed, (Parameter.types? e.inputs).isSome := by
    simp only [gathered, collected, renamed, List.flatMap_cons, List.flatMap_nil, Change.declared,
      List.cons_append, List.nil_append, List.forall_mem_cons]
    exact ⟨by decide +kernel, by decide +kernel, by decide +kernel, by decide +kernel,
      List.forall_mem_nil _⟩
  refine ⟨leading_separates, readable_renamed, hsame, ?_⟩
  rcases (order_independent leading_separates hread hsame hregular).1 with
    ⟨n, c, c', hrun, hrun', -, hdecode⟩ | ⟨err, c, err', c', hrun, -⟩
  · refine ⟨n, c, c', hrun, hrun', ?_⟩
    intro data
    refine (hdecode data).resolve_right ?_
    rintro ⟨-, -, e', he', -, -, -, hnone⟩
    have hsome := htypes e' he'
    rw [hnone] at hsome
    cases hsome
  · have hok : (performAll leading renamed (initial leading)).1 = .ok 1 := rfl
    rw [hrun] at hok
    cases hok

/-- A structure that holds a number twice, each time in a structure of its own. -/
def divided : ErrorDefinition :=
  ⟨"Split", [.mk "p" "tuple" [.mk "x" "tuple" [.mk "a" "uint256" []],
    .mk "y" "tuple" [.mk "a" "uint256" []]]]⟩

/-- A structure whose type is no name of a type, with the text of both structures of `divided`. -/
def fused : ErrorDefinition :=
  ⟨"Split", [.mk "p" "tuple" [.mk "x" "tuple,(uint256)" [.mk "a" "uint256" []]]]⟩

/-- A parameter as it stands in an artifact. -/
def writtenParameter (name typeName : String) (components : List Document) : Document :=
  .table [("name", .text name), ("type", .text typeName), ("components", .list components)]

/-- Data with the selector of both definitions. -/
def divisible : Bytes := utf8 "Spli" ++ Bytes.ofNat 32 1 ++ Bytes.ofNat 32 2

/-- `fused` as it stands in an artifact. -/
def fusedItem : Document :=
  .table [("name", .text "Split"), ("inputs", .list [writtenParameter "p" "tuple"
    [writtenParameter "x" "tuple,(uint256)" [writtenParameter "a" "uint256" []]]])]

/-- A structure with one component is read as one. -/
theorem readWithin_structure {fuel : Nat} {name typeName : String} {d : Document} {p : Parameter}
    (hwritten : Parameter.writtenReader (writtenParameter name typeName [d]) =
      .ok ⟨name, typeName, none, [d]⟩) (htuple : "tuple".toList <+: typeName.toList)
    (hcomponent : Parameter.readWithin fuel false d = .ok p) :
    Parameter.readWithin (fuel + 1) false (writtenParameter name typeName [d]) =
      .ok (.mk name typeName [p]) := by
  refine Parameter.readWithin_written hwritten rfl
    (Parameter.isConsistent_structure (List.cons_ne_nil _ _) htuple) ?_
  rw [List.mapM_cons, hcomponent]
  rfl

theorem reader_fusedItem : ErrorDefinition.reader fusedItem = .ok fused := by
  have hnumber : Parameter.readWithin 5 false (writtenParameter "a" "uint256" []) =
      .ok (.mk "a" "uint256" []) := by rfl
  have hinner : Parameter.readWithin 6 false (writtenParameter "x" "tuple,(uint256)" _) = .ok _ :=
    readWithin_structure (by rfl) ⟨",(uint256)".toList, by rfl⟩ hnumber
  have houter : Parameter.readWithin 7 false (writtenParameter "p" "tuple" _) = .ok _ :=
    readWithin_structure (by rfl) (List.prefix_refl _) hinner
  refine ErrorDefinition.reader_table (by rfl) ?_
  rw [Reader.list, List.mapM_cons, Parameter.reader]
  change (Parameter.readWithin 7 false _ >>= _) = _
  rw [houter]
  rfl

theorem regular_divided : divided.Regular :=
  ⟨by decide, ⟨⟨[], rfl⟩, ⟨⟨[], rfl⟩, trivial, trivial⟩, ⟨⟨[], rfl⟩, trivial, trivial⟩, trivial⟩,
    trivial⟩

theorem decode_divided : ((initial leading).keep leading divided).decode divisible =
    .ok ⟨"Split", [("p", .object [("x", .object [("a", .integer 1)]),
      ("y", .object [("a", .integer 2)])])]⟩ := by
  rfl

theorem decode_fused : ((initial leading).keep leading fused).decode divisible =
    .error (.undecodable "Split") := by
  rfl

/-- **Of two definitions with one signature the first one counts**, and it decides whether data can be
    decoded where only one of them has types. -/
theorem order_undetermined :
    ErrorDefinition.reader fusedItem = .ok fused ∧ divided.Regular ∧ fused.Regular ∧
      divided.signature = fused.signature ∧
      performAll leading [.definition divided, .definition fused] (initial leading) =
        (.ok 1, (initial leading).keep leading divided) ∧
      performAll leading [.definition fused, .definition divided] (initial leading) =
        (.ok 1, (initial leading).keep leading fused) ∧
      ¬ Alike (((initial leading).keep leading divided).decode divisible)
        (((initial leading).keep leading fused).decode divisible) := by
  refine ⟨reader_fusedItem, regular_divided, ErrorDefinition.reader_regular _ _ reader_fusedItem,
    by decide +kernel, rfl, rfl, ?_⟩
  rw [decode_divided, decode_fused]
  rintro ⟨⟩

end PacketRelay.ErrorCatalog
