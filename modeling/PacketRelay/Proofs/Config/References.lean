/-
  References in settings are replaced in one pass.

  * `Reference.WellFormed` is how a reference is written, and `front?_eq_some_iff`: exactly such a
    reference is read at the front of a text;
  * `Piece.Splits s ps`: the parts `ps` make up the text `s`, and a reference stands wherever one
    starts outside of those before it.  `splits_iff`: a text is split in this way and in no other;
  * `resolve_references`: what stands between references is kept, and each reference is replaced by a
    value or its default, unless it is the first that has neither.
-/
import PacketRelay.Config.Environment
import PacketRelay.Proofs.Text.Numeral
import Mathlib.Data.List.TakeWhile

namespace PacketRelay

namespace Reference

/-! ## References at the front of a text -/

/-- A name of upper-case letters, digits and underscores that starts with no digit, and a default
    without a closing brace. -/
structure WellFormed (r : Reference) : Prop where
  nonempty : r.name ≠ []
  first : ∀ c ∈ r.name.head?, c.isUpper ∨ c = '_'
  letters : ∀ c ∈ r.name, c.isUpper ∨ c.isDigit ∨ c = '_'
  fallback : ∀ d ∈ r.fallback, '\x7d' ∉ d

/-- A reference starts at the front of a text. -/
def Starts (s : List Char) : Prop :=
  ∃ (r : Reference) (rest : List Char), r.WellFormed ∧ s = r.text ++ rest

/-- What follows the name of a reference. -/
def closing : Option (List Char) → List Char
  | none => ['\x7d']
  | some d => ':' :: '-' :: (d ++ ['\x7d'])

theorem text_append (r : Reference) (rest : List Char) :
    r.text ++ rest = '$' :: '\x7b' :: (r.name ++ (closing r.fallback ++ rest)) := by
  obtain ⟨name, _ | d⟩ := r <;> simp [text, closing]

theorem isNameChar_iff {c : Char} : isNameChar c = true ↔ c.isUpper ∨ c.isDigit ∨ c = '_' := by
  simp [isNameChar, or_assoc]

theorem isDigit_eq_false {c : Char} (h : c.isUpper ∨ c = '_') : c.isDigit = false := by
  rcases h with h | rfl
  · have hupper : 'A'.val ≤ c.val := (of_decide_eq_true h).1
    have hdigit : ¬ c.val ≤ '9'.val := by
      rw [UInt32.le_iff_toNat_le] at hupper ⊢
      have hA : 'A'.val.toNat = 65 := rfl
      have hnine : '9'.val.toNat = 57 := rfl
      omega
    exact Bool.and_eq_false_iff.2 (.inr (decide_eq_false hdigit))
  · rfl

/-- A run of characters before one that does not belong to it. -/
theorem span_until {p : Char → Bool} {run : List Char} {c : Char} (hrun : ∀ a ∈ run, p a = true)
    (hc : p c = false) (rest : List Char) :
    (run ++ c :: rest).takeWhile p = run ∧ (run ++ c :: rest).dropWhile p = c :: rest :=
  Text.span_run hrun (by simpa using hc)

theorem eq_of_dropWhile {p : Char → Bool} {s rest : List Char} {c : Char}
    (h : s.dropWhile p = c :: rest) :
    s = s.takeWhile p ++ c :: rest ∧ (∀ a ∈ s.takeWhile p, p a = true) ∧ p c = false := by
  have hend := List.head?_dropWhile_not p s
  rw [h] at hend
  refine ⟨?_, fun a ha => List.mem_takeWhile_imp ha, hend⟩
  rw [← h, List.takeWhile_append_dropWhile]

theorem wellFormed_of_tail? {s rest : List Char} {r : Reference} (h : tail? s = some (r, rest)) :
    r.WellFormed ∧ s = r.name ++ (closing r.fallback ++ rest) := by
  simp only [tail?] at h
  split at h
  · cases h
  next c hc =>
  split at h
  · cases h
  next hdigit =>
  have hletters : ∀ a ∈ s.takeWhile isNameChar, a.isUpper ∨ a.isDigit ∨ a = '_' :=
    fun a ha => isNameChar_iff.1 (List.mem_takeWhile_imp ha)
  have hfirst : ∀ a ∈ (s.takeWhile isNameChar).head?, a.isUpper ∨ a = '_' := by
    intro a ha
    obtain rfl : c = a := Option.some.inj (hc.symm.trans ha)
    exact (hletters c (List.mem_of_mem_head? ha)).imp_right fun h => h.resolve_left hdigit
  have hname : s.takeWhile isNameChar ≠ [] := by
    intro hnil
    rw [hnil] at hc
    cases hc
  split at h
  next hdrop =>
    obtain ⟨hs, -⟩ := eq_of_dropWhile hdrop
    obtain ⟨rfl, rfl⟩ := Prod.mk.inj (Option.some.inj h)
    exact ⟨⟨hname, hfirst, hletters, by simp⟩, hs⟩
  next more hdrop =>
    obtain ⟨hs, -⟩ := eq_of_dropWhile hdrop
    split at h
    next hmore =>
      obtain ⟨hs', hrun, hend⟩ := eq_of_dropWhile hmore
      obtain ⟨rfl, rfl⟩ := Prod.mk.inj (Option.some.inj h)
      refine ⟨⟨hname, hfirst, hletters, ?_⟩, ?_⟩
      · rintro d ⟨⟩ hbrace
        exact absurd (hrun _ hbrace) (by decide)
      · rw [bne_eq_false_iff_eq] at hend
        rw [hend] at hs'
        simpa [closing, ← hs'] using hs
    · cases h
  · cases h

theorem tail?_of_wellFormed {r : Reference} (h : r.WellFormed) (rest : List Char) :
    tail? (r.name ++ (closing r.fallback ++ rest)) = some (r, rest) := by
  obtain ⟨name, fallback⟩ := r
  obtain ⟨hne, hfirst, hletters, hfallback⟩ := h
  obtain ⟨c, name, rfl⟩ := List.exists_cons_of_ne_nil hne
  have hrun : ∀ a ∈ c :: name, isNameChar a = true := fun a ha => isNameChar_iff.2 (hletters a ha)
  have hdigit : c.isDigit = false := isDigit_eq_false (hfirst c rfl)
  cases fallback with
  | none =>
    obtain ⟨htake, hdrop⟩ := span_until hrun (rfl : isNameChar '\x7d' = false) rest
    simp only [closing, List.singleton_append, tail?, htake, hdrop]
    simp [hdigit]
  | some d =>
    have hd : ∀ a ∈ d, (a != '\x7d') = true := by
      intro a ha
      rw [bne_iff_ne]
      rintro rfl
      exact hfallback d rfl ha
    have hclosing : closing (some d) ++ rest = ':' :: '-' :: (d ++ '\x7d' :: rest) := by
      simp [closing]
    obtain ⟨htake, hdrop⟩ := span_until hrun (rfl : isNameChar ':' = false)
      ('-' :: (d ++ '\x7d' :: rest))
    obtain ⟨htake', hdrop'⟩ := span_until hd (rfl : ('\x7d' != '\x7d') = false) rest
    simp only [hclosing, tail?, htake, hdrop, htake', hdrop']
    simp [hdigit]

/-- **Exactly a well-formed reference is read** at the front of a text. -/
theorem front?_eq_some_iff {s rest : List Char} {r : Reference} :
    front? s = some (r, rest) ↔ r.WellFormed ∧ s = r.text ++ rest := by
  constructor
  · intro h
    unfold front? at h
    split at h
    · obtain ⟨hr, rfl⟩ := wellFormed_of_tail? h
      exact ⟨hr, (text_append r rest).symm⟩
    · cases h
  · rintro ⟨hr, rfl⟩
    rw [text_append]
    exact tail?_of_wellFormed hr rest

theorem front?_eq_none_iff {s : List Char} : front? s = none ↔ ¬ Starts s := by
  constructor
  · rintro h ⟨r, rest, hr, hs⟩
    cases h.symm.trans (front?_eq_some_iff.2 ⟨hr, hs⟩)
  · intro h
    cases hfront : front? s with
    | none => rfl
    | some found =>
      obtain ⟨r, rest⟩ := found
      obtain ⟨hr, hs⟩ := front?_eq_some_iff.1 hfront
      exact absurd ⟨r, rest, hr, hs⟩ h

end Reference

/-! ## The parts of a text -/

namespace Piece

/-- The parts make up the text.  The references among them are well-formed, and none starts at a
    character that is a part of its own. -/
structure Splits (s : List Char) (ps : List Piece) : Prop where
  text : ps.flatMap text = s
  references : ∀ r, reference r ∈ ps → r.WellFormed
  leftmost : ∀ before c after, ps = before ++ char c :: after →
    ¬ Reference.Starts (c :: after.flatMap Piece.text)

theorem splits_nil {s : List Char} : Splits s [] ↔ s = [] := by
  constructor
  · intro h
    exact h.text.symm
  · rintro rfl
    exact ⟨rfl, by simp, by simp⟩

/-- What holds of the parts holds without the first of them. -/
theorem Splits.tail {s : List Char} {p : Piece} {ps : List Piece} (h : Splits s (p :: ps)) :
    Splits (ps.flatMap Piece.text) ps where
  text := rfl
  references r hr := h.references r (List.mem_cons_of_mem p hr)
  leftmost before c after hps := h.leftmost (p :: before) c after (by rw [hps, List.cons_append])

theorem Splits.cons_char {s : List Char} {c : Char} {ps : List Piece} (h : Splits s ps)
    (hc : ¬ Reference.Starts (c :: s)) : Splits (c :: s) (char c :: ps) where
  text := by rw [List.flatMap_cons, h.text]; rfl
  references r hr := h.references r (by simpa using hr)
  leftmost before a after hps := by
    cases before with
    | nil =>
      obtain ⟨ha, rfl⟩ := List.cons.inj hps
      obtain rfl := Piece.char.inj ha
      rwa [h.text]
    | cons p before => exact h.leftmost before a after (List.cons.inj hps).2

theorem Splits.cons_reference {s : List Char} {r : Reference} {ps : List Piece} (h : Splits s ps)
    (hr : r.WellFormed) : Splits (r.text ++ s) (reference r :: ps) where
  text := by rw [List.flatMap_cons, h.text]; rfl
  references r' hr' := by
    rcases List.mem_cons.1 hr' with heq | hmem
    · obtain rfl := Piece.reference.inj heq
      exact hr
    · exact h.references r' hmem
  leftmost before a after hps := by
    cases before with
    | nil => cases (List.cons.inj hps).1
    | cons p before => exact h.leftmost before a after (List.cons.inj hps).2

theorem pieces_nil : pieces [] = [] := by
  rw [pieces]
  rfl

theorem pieces_of_starts {r : Reference} (hr : r.WellFormed) (rest : List Char) :
    pieces (r.text ++ rest) = reference r :: pieces rest := by
  have hfront : Reference.front? (r.text ++ rest) = some (r, rest) :=
    Reference.front?_eq_some_iff.2 ⟨hr, rfl⟩
  rw [pieces]
  split
  · next hsome =>
    obtain ⟨rfl, rfl⟩ := Prod.mk.inj (Option.some.inj (hfront.symm.trans hsome))
    rfl
  · next hnone => cases hfront.symm.trans hnone

theorem pieces_of_not_starts {c : Char} {rest : List Char} (h : ¬ Reference.Starts (c :: rest)) :
    pieces (c :: rest) = char c :: pieces rest := by
  have hfront : Reference.front? (c :: rest) = none := Reference.front?_eq_none_iff.2 h
  rw [pieces]
  split
  · next hsome => cases hfront.symm.trans hsome
  · rfl

theorem splits_pieces (s : List Char) : Splits s (pieces s) := by
  fun_induction pieces s with
  | case1 s r rest hfront ih =>
    obtain ⟨hr, rfl⟩ := Reference.front?_eq_some_iff.1 hfront
    exact ih.cons_reference hr
  | case2 hnone => exact splits_nil.2 rfl
  | case3 c rest hnone ih => exact ih.cons_char (Reference.front?_eq_none_iff.1 hnone)

theorem Splits.eq_pieces {s : List Char} {ps : List Piece} (h : Splits s ps) : ps = pieces s := by
  induction ps generalizing s with
  | nil => rw [splits_nil.1 h, pieces_nil]
  | cons p ps ih =>
    have hps := ih h.tail
    obtain rfl := h.text
    cases p with
    | char c =>
      have hstarts := h.leftmost [] c ps rfl
      have htext : (char c :: ps).flatMap Piece.text = c :: ps.flatMap Piece.text := rfl
      rw [htext, pieces_of_not_starts hstarts, ← hps]
    | reference r =>
      have hr := h.references r List.mem_cons_self
      rw [List.flatMap_cons, Piece.text, pieces_of_starts hr, ← hps]

/-- **A text is split in one way only.** -/
theorem splits_iff {s : List Char} {ps : List Piece} : Splits s ps ↔ ps = pieces s := by
  constructor
  · exact Splits.eq_pieces
  · rintro rfl
    exact splits_pieces s

end Piece

/-! ## Values -/

namespace Environment

variable {env : Environment}

/-- A reference has a value or a default. -/
def Covers (env : Environment) : Piece → Prop
  | .char _ => True
  | .reference r => (env (String.ofList r.name)).isSome ∨ r.fallback.isSome

/-- What is put in place of a reference: the value of the variable, or else the default. -/
def replacement (env : Environment) (r : Reference) : List Char :=
  match env (String.ofList r.name) with
  | some value => value.toList
  | none => r.fallback.getD []

/-- A part with a value in place of a reference. -/
def replaced (env : Environment) : Piece → List Char
  | .char c => [c]
  | .reference r => env.replacement r

theorem resolve_of_covers {p : Piece} (h : env.Covers p) :
    Piece.resolve env p = .ok (env.replaced p) := by
  cases p with
  | char c => rfl
  | reference r =>
    cases henv : env (String.ofList r.name) with
    | some value => simp only [Piece.resolve, replaced, replacement, henv]
    | none =>
      cases hfallback : r.fallback with
      | some d => simp only [Piece.resolve, replaced, replacement, henv, hfallback, Option.getD_some]
      | none => simp [Covers, henv, hfallback] at h

theorem resolve_of_not_covers {r : Reference} (h : ¬ env.Covers (.reference r)) :
    Piece.resolve env (.reference r) = .error (String.ofList r.name) := by
  simp only [Covers, not_or, Bool.not_eq_true, Option.isSome_eq_false_iff,
    Option.isNone_iff_eq_none] at h
  simp only [Piece.resolve, h.1, h.2]

/-- The first reference among some parts that has neither a value nor a default. -/
def FirstOpen (env : Environment) (ps : List Piece) (r : Reference) : Prop :=
  ∃ before after, ps = before ++ .reference r :: after ∧ (∀ p ∈ before, env.Covers p) ∧
    ¬ env.Covers (.reference r)

theorem FirstOpen.cons {p : Piece} {ps : List Piece} {r : Reference} (hp : env.Covers p)
    (h : env.FirstOpen ps r) : env.FirstOpen (p :: ps) r := by
  obtain ⟨before, after, rfl, hbefore, hr⟩ := h
  exact ⟨p :: before, after, rfl, List.forall_mem_cons.2 ⟨hp, hbefore⟩, hr⟩

theorem FirstOpen.not_all {ps : List Piece} {r : Reference} (h : env.FirstOpen ps r) :
    ¬ ∀ p ∈ ps, env.Covers p := by
  obtain ⟨before, after, rfl, -, hr⟩ := h
  intro hall
  exact hr (hall _ (by simp))

/-- No two references are the first one. -/
theorem FirstOpen.unique {ps : List Piece} {r r' : Reference} (h : env.FirstOpen ps r)
    (h' : env.FirstOpen ps r') : r = r' := by
  obtain ⟨before, after, hps, hbefore, hr⟩ := h
  obtain ⟨before', after', hps', hbefore', hr'⟩ := h'
  exact Piece.reference.inj (Text.first_unique (hps.symm.trans hps') hbefore hr hbefore' hr').2

/-- What comes of some parts: all of them are replaced, or a variable is reported. -/
inductive Outcome (env : Environment) (ps : List Piece) : Except String (List (List Char)) → Prop
  | replaced : (∀ p ∈ ps, env.Covers p) → Outcome env ps (.ok (ps.map env.replaced))
  | reported {r : Reference} : env.FirstOpen ps r → Outcome env ps (.error (String.ofList r.name))

theorem outcome_mapM (env : Environment) (ps : List Piece) :
    env.Outcome ps (ps.mapM (Piece.resolve env)) := by
  induction ps with
  | nil => exact .replaced (by simp)
  | cons p ps ih =>
    rw [List.mapM_cons]
    by_cases hp : env.Covers p
    · rw [resolve_of_covers hp]
      generalize ps.mapM (Piece.resolve env) = outcome at ih
      cases ih with
      | replaced hall => exact .replaced (List.forall_mem_cons.2 ⟨hp, hall⟩)
      | reported hopen => exact .reported (hopen.cons hp)
    · cases p with
      | char c => exact absurd trivial hp
      | reference r =>
        rw [resolve_of_not_covers hp]
        exact .reported ⟨[], ps, rfl, by simp, hp⟩

/-- **References are replaced in one pass.**  A text is split in one way into characters and
    references, from left to right.  If each reference has a value or a default, these stand in the
    result in its place, as they are, and the characters are kept; otherwise the variable of the first
    one that has neither is reported. -/
theorem resolve_references (env : Environment) (s : String) :
    ∃ ps, (∀ qs, Piece.Splits s.toList qs ↔ qs = ps) ∧
      (∀ out, env.resolve s = .ok out ↔
        (∀ p ∈ ps, env.Covers p) ∧ out.toList = ps.flatMap env.replaced) ∧
      ∀ name, env.resolve s = .error name ↔
        ∃ r, env.FirstOpen ps r ∧ name = String.ofList r.name := by
  refine ⟨Piece.pieces s.toList, fun qs => Piece.splits_iff, ?_⟩
  have hresolve : env.resolve s = ((Piece.pieces s.toList).mapM (Piece.resolve env)).map
      fun parts => String.ofList parts.flatten := by
    rw [resolve]
    cases (Piece.pieces s.toList).mapM (Piece.resolve env) <;> rfl
  have houtcome := env.outcome_mapM (Piece.pieces s.toList)
  rw [hresolve]
  generalize (Piece.pieces s.toList).mapM (Piece.resolve env) = outcome at houtcome
  cases houtcome with
  | replaced hall =>
    constructor
    · intro out
      rw [Except.map, Except.ok.injEq, List.flatMap_def, ← String.toList_inj, String.toList_ofList]
      exact ⟨fun hout => ⟨hall, hout.symm⟩, fun hout => hout.2.symm⟩
    · rintro name
      refine iff_of_false nofun ?_
      rintro ⟨r, hopen, -⟩
      exact hopen.not_all hall
  | @reported r hopen =>
    constructor
    · intro out
      refine iff_of_false nofun ?_
      rintro ⟨hall, -⟩
      exact hopen.not_all hall
    · intro name
      constructor
      · intro herror
        exact ⟨r, hopen, (Except.error.inj herror).symm⟩
      · rintro ⟨r', hopen', rfl⟩
        rw [hopen'.unique hopen]
        rfl

end Environment

end PacketRelay
