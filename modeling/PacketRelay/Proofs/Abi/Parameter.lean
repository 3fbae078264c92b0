/-
  Parameters and the texts of their types.

  * `Tagged`: the type of a structure is written with the word for it.  What is read is;
  * `agree`: parameters whose types have one text have one type, the names of components apart, if
    they have types at all.
-/
import PacketRelay.Abi.Parameter
import PacketRelay.Proofs.Abi.TypeName
import PacketRelay.Proofs.Abi.Unnamed
import PacketRelay.Proofs.Document.Reader

namespace PacketRelay

open Brackets PacketRelay.TypeName

/-- The arrays of a name stay around an element without names. -/
theorem AbiType.unnamed_around (core : AbiType) : ∀ t : TypeName,
    unnamed (around core t) = around (unnamed core) t
  | .word _ => rfl
  | .tuple _ => rfl
  | .array element => congrArg AbiType.array (unnamed_around core element)
  | .fixedArray size element => congrArg (AbiType.fixedArray size) (unnamed_around core element)

namespace Parameter

mutual

/-- The types of structures are written with the word for them. -/
def Tagged : Parameter → Prop
  | mk _ _ [] => True
  | mk _ typeName (p :: more) =>
    (∃ tail, typeName.toList = ['t', 'u', 'p', 'l', 'e'] ++ tail) ∧ AllTagged (p :: more)

/-- In each of the parameters. -/
def AllTagged : List Parameter → Prop
  | [] => True
  | p :: more => Tagged p ∧ AllTagged more

end

/-! ## Texts -/

section
variable {name typeName : String} {p : Parameter} {more : List Parameter}

/-- The texts of the types of parameters. -/
def typeChars (ps : List Parameter) : List (List Char) := (typeTexts ps).map String.toList

theorem toList_typeText : (typeText (mk name typeName (p :: more))).toList =
    '(' :: (joined (typeChars (p :: more)) ++ ')' :: typeName.toList.drop 5) := by
  simp [typeText, typeChars, joined, String.toList_intercalate]

theorem type?_structure {t : AbiType} (h : type? (mk name typeName (p :: more)) = some t) :
    ∃ n ts, parse? typeName = some n ∧ types? (p :: more) = some ts ∧
      t = around (.tuple ((p :: more).map Parameter.name) ts) n := by
  rw [type?] at h
  obtain ⟨n, hn, h⟩ := Option.bind_eq_some_iff.1 h
  obtain ⟨ts, hts, h⟩ := Option.bind_eq_some_iff.1 h
  exact ⟨n, ts, hn, hts, (Option.some.inj h).symm⟩

theorem types?_cons {ts : List AbiType} (h : types? (p :: more) = some ts) :
    ∃ t rest, type? p = some t ∧ types? more = some rest ∧ ts = t :: rest := by
  rw [types?] at h
  obtain ⟨t, ht, h⟩ := Option.bind_eq_some_iff.1 h
  obtain ⟨rest, hrest, h⟩ := Option.bind_eq_some_iff.1 h
  exact ⟨t, rest, ht, hrest, (Option.some.inj h).symm⟩

theorem length_types? {ps : List Parameter} {ts : List AbiType} (h : types? ps = some ts) :
    ts.length = ps.length := by
  induction ps generalizing ts with
  | nil =>
    obtain rfl := Option.some.inj h
    rfl
  | cons p more ih =>
    obtain ⟨t, rest, -, hrest, rfl⟩ := types?_cons h
    exact congrArg (· + 1) (ih hrest)

/-- What follows the word for a structure is closed and does not end with a blank. -/
theorem tail_of_reads {tail : List Char} {n : TypeName}
    (h : Reads (['t', 'u', 'p', 'l', 'e'] ++ tail) n) :
    Closed tail ∧ ∀ c ∈ tail.getLast?, isBlank c = false := by
  obtain ⟨hclosed, -, hlast⟩ := h.isText
  refine ⟨hclosed, ?_⟩
  intro c hc
  refine hlast c ?_
  rw [List.getLast?_append, hc]
  rfl

end

mutual

/-- The text of a type that there is. -/
theorem isText_typeText : ∀ (p : Parameter) {t : AbiType}, Tagged p → type? p = some t →
    IsText (typeText p).toList
  | mk _ typeName [], t, _, h => by
    obtain ⟨n, hn, -⟩ := Option.bind_eq_some_iff.1 h
    exact (reads_of_parse? hn).isText
  | mk _ typeName (p :: more), t, ⟨⟨tail, htail⟩, hall⟩, h => by
    obtain ⟨n, ts, hn, hts, -⟩ := type?_structure h
    have hreads := reads_of_parse? hn
    rw [htail] at hreads
    obtain ⟨hclosed, hlast⟩ := tail_of_reads hreads
    rw [toList_typeText, htail]
    have htexts := isText_typeChars (p :: more) hall hts
    exact isText_tuple (.inl rfl) (balanced_joined fun u hu => (htexts u hu).closed) hclosed hlast

theorem isText_typeChars : ∀ (ps : List Parameter) {ts : List AbiType}, AllTagged ps →
    types? ps = some ts → ∀ u ∈ typeChars ps, IsText u
  | [], _, _, _, _, hu => by cases hu
  | p :: more, ts, ⟨hp, hmore⟩, h, u, hu => by
    obtain ⟨t, rest, ht, hrest, -⟩ := types?_cons h
    rcases List.mem_cons.1 hu with rfl | hu
    · exact isText_typeText p hp ht
    · exact isText_typeChars more hmore hrest u hu

end

/-! ## Types -/

mutual

/-- A parameter has the type that its text stands for, the names of components apart. -/
theorem agree_name : ∀ (p : Parameter) {n : TypeName} {t t' : AbiType}, Tagged p →
    Reads (typeText p).toList n → resolve? n = some t → type? p = some t' →
    t.unnamed = t'.unnamed
  | mk _ typeName [], n, t, t', _, hreads, hn, ht => by
    obtain ⟨n', hn', hresolve⟩ := Option.bind_eq_some_iff.1 ht
    obtain rfl := hreads.unique (reads_of_parse? hn')
    obtain rfl := Option.some.inj (hn.symm.trans hresolve)
    rfl
  | mk _ typeName (p :: more), n, t, t', ⟨⟨tail, htail⟩, hall⟩, hreads, hn, ht => by
    obtain ⟨n', ts', hn', hts', rfl⟩ := type?_structure ht
    have hreads' := reads_of_parse? hn'
    rw [htail] at hreads'
    rw [toList_typeText, htail] at hreads
    have htexts := isText_typeChars (p :: more) hall hts'
    obtain ⟨ns, m, hns, hm, rfl⟩ := reads_tuple (by simp [typeChars, typeTexts]) htexts hreads
    obtain rfl := hreads'.unique hm
    rw [resolve?_graft] at hn
    obtain ⟨ts, hts, rfl⟩ := Option.map_eq_some_iff.1 hn
    have hsame := agree_names (p :: more) hall hns hts hts'
    rw [AbiType.unnamed_around, AbiType.unnamed_around, AbiType.unnamed, AbiType.unnamed, hsame]

theorem agree_names : ∀ (ps : List Parameter) {ns : List TypeName} {ts ts' : List AbiType},
    AllTagged ps → List.Forall₂ Reads (typeChars ps) ns → resolveAll? ns = some ts →
    types? ps = some ts' → AbiType.unnamedAll ts = AbiType.unnamedAll ts'
  | [], _, ts, ts', _, .nil, hns, hts => by
    obtain rfl := Option.some.inj hns
    obtain rfl := Option.some.inj hts
    rfl
  | p :: more, _, ts, ts', ⟨hp, hmore⟩, .cons hreads hrest, hns, hts => by
    obtain ⟨t, ht, hns⟩ := Option.bind_eq_some_iff.1 hns
    obtain ⟨us, hus, hdone⟩ := Option.bind_eq_some_iff.1 hns
    obtain rfl := Option.some.inj hdone
    obtain ⟨t', us', ht', hus', rfl⟩ := types?_cons hts
    rw [AbiType.unnamedAll, AbiType.unnamedAll, agree_name p hp hreads ht ht',
      agree_names more hmore hrest hus hus']

end

mutual

/-- **Parameters whose types have one text have one type**, the names of components apart, if they
    have types at all. -/
theorem agree : ∀ (p q : Parameter) {t t' : AbiType}, Tagged p → Tagged q →
    (typeText p).toList = (typeText q).toList → type? p = some t → type? q = some t' →
    t.unnamed = t'.unnamed
  | mk _ typeName [], q, t, t', _, hq, htext, ht, ht' => by
    obtain ⟨n, hn, hresolve⟩ := Option.bind_eq_some_iff.1 ht
    have hreads := reads_of_parse? hn
    have hsame : typeName.toList = (typeText q).toList := htext
    rw [hsame] at hreads
    exact agree_name q hq hreads hresolve ht'
  | mk name typeName (p :: more), mk _ typeName' [], t, t', hp, _, htext, ht, ht' => by
    obtain ⟨n, hn, hresolve⟩ := Option.bind_eq_some_iff.1 ht'
    have hreads := reads_of_parse? hn
    have hsame : typeName'.toList = (typeText (mk name typeName (p :: more))).toList := htext.symm
    rw [hsame] at hreads
    exact (agree_name (mk name typeName (p :: more)) hp hreads hresolve ht).symm
  | mk _ typeName (p :: more), mk _ typeName' (q :: more'), t, t', ⟨⟨tail, htail⟩, hall⟩,
      ⟨⟨tail', htail'⟩, hall'⟩, htext, ht, ht' => by
    obtain ⟨n, ts, hn, hts, rfl⟩ := type?_structure ht
    obtain ⟨n', ts', hn', hts', rfl⟩ := type?_structure ht'
    have htexts := isText_typeChars (p :: more) hall hts
    have htexts' := isText_typeChars (q :: more') hall' hts'
    rw [toList_typeText, toList_typeText, htail, htail'] at htext
    obtain ⟨hinside, rfl⟩ := balanced_unique (balanced_joined fun u hu => (htexts u hu).closed)
      (balanced_joined fun u hu => (htexts' u hu).closed) (List.cons.inj htext).2
    have hreads := reads_of_parse? hn
    have hreads' := reads_of_parse? hn'
    rw [htail] at hreads
    rw [htail'] at hreads'
    obtain rfl := hreads.unique hreads'
    have hchars := joined_unique (fun u hu => ⟨(htexts u hu).closed, (htexts u hu).ne_nil⟩)
      (fun u hu => ⟨(htexts' u hu).closed, (htexts' u hu).ne_nil⟩) hinside
    have hsame := agree_all (p :: more) (q :: more') hall hall' hchars hts hts'
    rw [AbiType.unnamed_around, AbiType.unnamed_around, AbiType.unnamed, AbiType.unnamed, hsame]

theorem agree_all : ∀ (ps qs : List Parameter) {ts ts' : List AbiType}, AllTagged ps →
    AllTagged qs → typeChars ps = typeChars qs → types? ps = some ts → types? qs = some ts' →
    AbiType.unnamedAll ts = AbiType.unnamedAll ts'
  | [], [], _, _, _, _, _, hts, hts' => by
    obtain rfl := Option.some.inj hts
    obtain rfl := Option.some.inj hts'
    rfl
  | p :: more, q :: more', _, _, ⟨hp, hmore⟩, ⟨hq, hmore'⟩, htext, hts, hts' => by
    obtain ⟨hfirst, hrest⟩ := List.cons.inj htext
    obtain ⟨t, us, ht, hus, rfl⟩ := types?_cons hts
    obtain ⟨t', us', ht', hus', rfl⟩ := types?_cons hts'
    rw [AbiType.unnamedAll, AbiType.unnamedAll, agree p q hp hq hfirst ht ht',
      agree_all more more' hmore hmore' hrest hus hus']

end

/-! ## Reading -/

theorem allTagged_of_forall {ps : List Parameter} (h : ∀ p ∈ ps, Tagged p) : AllTagged ps := by
  induction ps with
  | nil => trivial
  | cons p ps ih =>
    rw [List.forall_mem_cons] at h
    exact ⟨h.1, ih h.2⟩

theorem tagged_of_consistent {name typeName : String} {components : List Parameter}
    (htag : components ≠ [] → typeName.startsWith "tuple" = true) (hall : AllTagged components) :
    Tagged (mk name typeName components) := by
  cases components with
  | nil => trivial
  | cons p more =>
    obtain ⟨tail, htail⟩ := String.startsWith_string_iff.1 (htag (List.cons_ne_nil p more))
    exact ⟨⟨tail, htail.symm⟩, hall⟩

/-- A type that starts with the word for structures goes with components. -/
theorem isConsistent_structure {w : Written} (hne : w.components ≠ [])
    (htuple : "tuple".toList <+: w.typeName.toList) : isConsistent w = true := by
  rw [isConsistent, if_neg (by simpa using hne)]
  exact String.startsWith_string_iff.2 htuple

/-- What was written is read, if its type goes with its components. -/
theorem readWithin_written {fuel : Nat} {d : Document} {w : Written} {components : List Parameter}
    (hwritten : writtenReader d = .ok w) (hindexed : w.indexed = none)
    (hconsistent : isConsistent w = true)
    (hcomponents : w.components.mapM (readWithin fuel false) = .ok components) :
    readWithin (fuel + 1) false d = .ok (mk w.name w.typeName components) := by
  simp [readWithin, hwritten, hindexed, hconsistent, hcomponents, bind, Except.bind, pure,
    Except.pure]

theorem readWithin_yields (fuel : Nat) (indexed : Bool) :
    (readWithin fuel indexed).Yields Tagged := by
  induction fuel generalizing indexed with
  | zero =>
    intro d p h
    cases h
  | succ fuel ih =>
    intro d p h
    unfold readWithin at h
    cases hw : writtenReader d with
    | error e =>
      rw [hw] at h
      cases h
    | ok w =>
      rw [hw] at h
      simp only [bind, Except.bind] at h
      split at h
      · next hcheck =>
        rw [Bool.and_eq_true, isConsistent] at hcheck
        cases hcomponents : w.components.mapM (readWithin fuel false) with
        | error e =>
          rw [hcomponents] at h
          cases h
        | ok components =>
          rw [hcomponents] at h
          obtain rfl := Except.ok.inj h
          refine tagged_of_consistent ?_ (allTagged_of_forall ((ih false).mapM hcomponents))
          intro hne
          cases hwritten : w.components with
          | nil =>
            rw [hwritten] at hcomponents
            exact absurd (Except.ok.inj hcomponents).symm hne
          | cons d ds =>
            rw [hwritten] at hcheck
            exact hcheck.2
      · cases h

/-- What is read as a structure is written with the word for one. -/
theorem reader_yields : Parameter.reader.Yields Tagged :=
  fun d => readWithin_yields (d.depth + 1) false d

theorem nameReader_yields : nameReader.Yields fun s => isName s = true := by
  intro d s h
  unfold nameReader at h
  cases htext : Reader.text d with
  | error e =>
    rw [htext] at h
    cases h
  | ok t =>
    rw [htext] at h
    simp only [bind, Except.bind] at h
    split at h
    · next hname =>
      obtain rfl := Except.ok.inj h
      exact hname
    · cases h

end Parameter

end PacketRelay
