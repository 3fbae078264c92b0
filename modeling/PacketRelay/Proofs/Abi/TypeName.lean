/-
  The texts of type names.

  * `reads_local`: what is read as a name is a text (`IsText`) that is read alike in front of
    anything that cannot go on it, with more fuel and more levels of tuples;
  * `arrays_graft`: the sizes of arrays are read alike around every element;
  * `Reads`: a whole text is read as a name.  A tuple is read name by name: `reads_tuple`.
-/
import PacketRelay.Abi.TypeName
import PacketRelay.Proofs.Text.Brackets
import PacketRelay.Proofs.Text.Numeral
import Mathlib.Data.List.TakeDrop
import Mathlib.Data.List.TakeWhile

namespace PacketRelay.TypeName

open Brackets

/-! ## Characters -/

/-- A character that is no bracket, no comma and no blank. -/
structure IsMark (c : Char) : Prop where
  plain : IsPlain c
  not_blank : c ≠ ' ' ∧ c ≠ '\t'

theorem isMark_of_inner {c : Char} (h : isInner c = true) : IsMark c := by
  refine ⟨⟨?_, ?_, ?_⟩, ?_, ?_⟩ <;> rintro rfl <;> cases h

theorem isMark_of_digit {c : Char} (h : c.isDigit = true) : IsMark c :=
  isMark_of_inner (by simp [isInner, h])

theorem isMark_dot : IsMark '.' := ⟨⟨by decide, by decide, by decide⟩, by decide, by decide⟩

theorem isMark_open : IsMark '[' := ⟨⟨by decide, by decide, by decide⟩, by decide, by decide⟩

theorem isMark_close : IsMark ']' := ⟨⟨by decide, by decide, by decide⟩, by decide, by decide⟩

theorem isInner_of_leading {c : Char} (h : isLeading c = true) : isInner c = true := by
  simp [isInner, h]

/-! ## Words -/

section
variable {s r : List Char} {n : TypeName}

theorem isWord_cons {w : List Char} (h : isWord w = true) :
    (∀ c ∈ w, isInner c = true) ∧ ∃ c rest, w = c :: rest ∧ isLeading c = true := by
  cases w with
  | nil => cases h
  | cons c rest =>
    rw [isWord, Bool.and_eq_true, List.all_eq_true] at h
    refine ⟨?_, c, rest, rfl, h.1⟩
    intro d hd
    rcases List.mem_cons.1 hd with rfl | hd
    · exact isInner_of_leading h.1
    · exact h.2 d hd

/-- The second word of an enumeration, which may be missing. -/
theorem dropWord_split (s : List Char) : ∃ w, s = w ++ dropWord s ∧ (∀ c ∈ w, isInner c = true) ∧
    ∀ r, (∀ c ∈ r.head?, isInner c = false) → dropWord (w ++ r) = r := by
  have hnone : ∀ r : List Char, (∀ c ∈ r.head?, isInner c = false) → dropWord r = r := by
    intro r hr
    cases r with
    | nil => rfl
    | cons c r =>
      have hleading : ¬ isLeading c = true := by
        intro hleading
        have := hr c rfl
        rw [isInner_of_leading hleading] at this
        cases this
      rw [dropWord, if_neg hleading]
  cases s with
  | nil => exact ⟨[], rfl, by simp, hnone⟩
  | cons c s =>
    by_cases hc : isLeading c = true
    · have hmore : ∀ d ∈ s.takeWhile isInner, isInner d = true :=
        fun d hd => List.mem_takeWhile_imp hd
      refine ⟨c :: s.takeWhile isInner, ?_, ?_, ?_⟩
      · rw [dropWord, if_pos hc, List.cons_append, List.takeWhile_append_dropWhile]
      · intro d hd
        rcases List.mem_cons.1 hd with rfl | hd
        · exact isInner_of_leading hc
        · exact hmore d hd
      · intro r hr
        rw [List.cons_append, dropWord, if_pos hc]
        exact (Text.span_run hmore hr).2
    · exact ⟨[], by rw [dropWord, if_neg hc]; rfl, by simp, hnone⟩

/-- A word is read alike in front of anything that cannot go on it. -/
theorem word?_local (h : word? s = some (n, r)) : ∃ u, s = u ++ r ∧ (∀ c ∈ u, IsMark c) ∧
    (∃ c rest, u = c :: rest ∧ isLeading c = true) ∧
    ∀ r', (∀ c ∈ r'.head?, isInner c = false ∧ c ≠ '.') → word? (u ++ r') = some (n, r') := by
  unfold word? at h
  dsimp only at h
  split at h
  · cases h
  next hword =>
  simp only [Bool.not_eq_true', Bool.not_eq_false] at hword
  obtain ⟨hinner, c, rest, hfirst, hleading⟩ := isWord_cons hword
  have hsplit : s.takeWhile isInner ++ s.dropWhile isInner = s := List.takeWhile_append_dropWhile
  generalize s.takeWhile isInner = w at *
  generalize s.dropWhile isInner = tail at *
  obtain rfl := hsplit
  split at h
  · next after =>
    obtain ⟨hn, hr⟩ := Prod.mk.inj (Option.some.inj h)
    obtain ⟨w', hw', hinner', hback⟩ := dropWord_split after
    rw [hr] at hw'
    have hhead : w ++ '.' :: w' = c :: (rest ++ '.' :: w') := by rw [hfirst]; rfl
    refine ⟨w ++ '.' :: w', by rw [hw']; simp, ?_, ⟨c, _, hhead, hleading⟩, ?_⟩
    · intro d hd
      rcases List.mem_append.1 hd with hd | hd
      · exact isMark_of_inner (hinner d hd)
      · rcases List.mem_cons.1 hd with rfl | hd
        · exact isMark_dot
        · exact isMark_of_inner (hinner' d hd)
    · intro r' hends
      have hdot : ∀ d ∈ ('.' :: (w' ++ r')).head?, isInner d = false := by
        intro d hd
        obtain rfl := Option.some.inj hd
        rfl
      obtain ⟨htake, hdrop⟩ := Text.span_run hinner hdot
      have happend : w ++ '.' :: w' ++ r' = w ++ '.' :: (w' ++ r') := by simp
      simp only [happend, word?, htake, hdrop, hword, hback r' fun d hd => (hends d hd).1]
      rw [← hn]
      rfl
  · obtain ⟨hn, rfl⟩ := Prod.mk.inj (Option.some.inj h)
    refine ⟨w, rfl, fun d hd => isMark_of_inner (hinner d hd), ⟨c, rest, hfirst, hleading⟩, ?_⟩
    intro r' hends
    obtain ⟨htake, hdrop⟩ := Text.span_run hinner fun d hd => (hends d hd).1
    simp only [word?, htake, hdrop, hword]
    split
    · next heq => cases heq
    split
    · next after _ => exact absurd rfl (hends '.' rfl).2
    · rw [hn]

end

/-! ## Sizes of arrays -/

/-- A name around another element, in place of what is not an array. -/
def graft (core : TypeName) : TypeName → TypeName
  | array element => .array (graft core element)
  | fixedArray size element => .fixedArray size (graft core element)
  | _ => core

section
variable {t n : TypeName} {s r : List Char} {fuel : Nat}

/-- More than `m` steps leave at least `m` after the first one. -/
theorem exists_succ_of_le {m k : Nat} (h : m + 1 ≤ k) : ∃ k', k = k' + 1 ∧ m ≤ k' :=
  ⟨k - 1, by omega, by omega⟩

theorem arrays_end (fuel : Nat) (t : TypeName) (h : ∀ c ∈ s.head?, c ≠ '[') :
    arrays fuel t s = some (t, s) := by
  cases fuel with
  | zero => rfl
  | succ fuel =>
    unfold arrays
    dsimp only
    split
    · exact absurd rfl (h '[' rfl)
    · exact absurd rfl (h '[' rfl)
    · rfl

theorem arrays_sized (fuel : Nat) (t : TypeName) {ds rest : List Char} {size : Nat}
    (hds : ∀ c ∈ ds, c.isDigit = true) (hsize : Decimal.readChars countMax ds = .ok (size + 1)) :
    arrays (fuel + 1) t ('[' :: (ds ++ ']' :: rest)) =
      arrays fuel (.fixedArray (size + 1) t) rest := by
  have hclose : ∀ c ∈ (']' :: rest).head?, c.isDigit = false := by
    intro c hc
    obtain rfl := Option.some.inj hc
    rfl
  obtain ⟨htake, hdrop⟩ := Text.span_run hds hclose
  have hne : ∀ after, ds ++ ']' :: rest ≠ ']' :: after := by
    intro after heq
    cases ds with
    | nil => cases hsize
    | cons c ds =>
      obtain rfl := (List.cons.inj heq).1
      cases hds ']' List.mem_cons_self
  conv_lhs => unfold arrays
  dsimp only
  split
  · next heq => exact absurd (List.cons.inj heq).2 (hne _)
  · next heq =>
    obtain rfl := (List.cons.inj heq).2
    simp only [List.span_eq_takeWhile_dropWhile, htake, hdrop, hsize]
  · next hno => exact absurd rfl (hno _)

/-- One size is read, or there is none. -/
theorem arrays_cases (h : arrays (fuel + 1) t s = some (n, r)) :
    (∃ rest, s = '[' :: ']' :: rest ∧ arrays fuel (.array t) rest = some (n, r)) ∨
    (∃ ds size rest, s = '[' :: (ds ++ ']' :: rest) ∧ (∀ c ∈ ds, c.isDigit = true) ∧
      Decimal.readChars countMax ds = .ok (size + 1) ∧
      arrays fuel (.fixedArray (size + 1) t) rest = some (n, r)) ∨
    n = t ∧ r = s := by
  unfold arrays at h
  dsimp only at h
  split at h
  · exact .inl ⟨_, rfl, h⟩
  · next rest _ =>
    refine .inr (.inl ?_)
    rw [List.span_eq_takeWhile_dropWhile] at h
    split at h
    · next size after hsize hafter =>
      refine ⟨rest.takeWhile Char.isDigit, size, after, ?_, fun c hc => List.mem_takeWhile_imp hc,
        hsize, h⟩
      rw [← hafter, List.takeWhile_append_dropWhile]
    · cases h
  · obtain ⟨rfl, rfl⟩ := Prod.mk.inj (Option.some.inj h)
    exact .inr (.inr ⟨rfl, rfl⟩)

/-- **The sizes of arrays are read alike** in front of anything that cannot go on them. -/
theorem arrays_local (hfuel : s.length ≤ fuel) (h : arrays fuel t s = some (n, r)) :
    ∃ u, s = u ++ r ∧ (∀ c ∈ u, IsMark c) ∧ (∀ c ∈ u.head?, c = '[') ∧
      ∀ fuel' r', (u ++ r').length ≤ fuel' → (∀ c ∈ r'.head?, c ≠ '[') →
        arrays fuel' t (u ++ r') = some (n, r') := by
  induction fuel generalizing t s with
  | zero =>
    obtain rfl := List.length_eq_zero_iff.1 (Nat.le_zero.1 hfuel)
    obtain ⟨rfl, rfl⟩ := Prod.mk.inj (Option.some.inj h)
    exact ⟨[], rfl, by simp, by simp, fun fuel' r' _ hr' => arrays_end fuel' t hr'⟩
  | succ fuel ih =>
    rcases arrays_cases h with ⟨rest, rfl, hrest⟩ | ⟨ds, size, rest, rfl, hds, hsize, hrest⟩ |
      ⟨rfl, rfl⟩
    · obtain ⟨u, rfl, hmarks, -, hlocal⟩ := ih (by simp at hfuel; omega) hrest
      refine ⟨'[' :: ']' :: u, rfl, ?_, by simp, ?_⟩
      · simp only [List.forall_mem_cons]
        exact ⟨isMark_open, isMark_close, hmarks⟩
      · intro fuel' r' hfuel' hr'
        simp only [List.cons_append, List.length_cons] at hfuel' ⊢
        obtain ⟨fuel', rfl, hle⟩ := exists_succ_of_le hfuel'
        exact hlocal fuel' r' (Nat.le_of_succ_le hle) hr'
    · obtain ⟨u, rfl, hmarks, -, hlocal⟩ := ih (by simp at hfuel; omega) hrest
      refine ⟨'[' :: (ds ++ ']' :: u), by simp, ?_, by simp, ?_⟩
      · simp only [List.forall_mem_cons, List.forall_mem_append]
        exact ⟨isMark_open, fun c hc => isMark_of_digit (hds c hc), isMark_close, hmarks⟩
      · intro fuel' r' hfuel' hr'
        simp only [List.cons_append, List.length_cons, List.append_assoc, List.length_append]
          at hfuel' ⊢
        obtain ⟨fuel', rfl, hle⟩ := exists_succ_of_le hfuel'
        rw [arrays_sized fuel' t hds hsize]
        exact hlocal fuel' r' (by simp; omega) hr'
    · exact ⟨[], rfl, by simp, by simp, fun fuel' r' _ hr' => arrays_end fuel' n hr'⟩

/-- The sizes of arrays are read alike around every element. -/
theorem arrays_graft (core : TypeName) (fuel : Nat) (t : TypeName) (s : List Char) :
    arrays fuel (graft core t) s = (arrays fuel t s).map fun a => (graft core a.1, a.2) := by
  induction fuel generalizing t s with
  | zero => rfl
  | succ fuel ih =>
    unfold arrays
    dsimp only
    split
    · exact ih (.array t) _
    · split
      · exact ih (.fixedArray _ t) _
      · rfl
    · rfl

end

/-! ## Blanks -/

theorem skip_split (s : List Char) : ∃ b, s = b ++ skip s ∧ (∀ c ∈ b, isBlank c = true) ∧
    ∀ c ∈ (skip s).head?, isBlank c = false := by
  refine ⟨s.takeWhile isBlank, List.takeWhile_append_dropWhile.symm,
    fun c hc => List.mem_takeWhile_imp hc, ?_⟩
  intro c hc
  have hhead := List.head?_dropWhile_not isBlank s
  have hskip : skip s = s.dropWhile isBlank := rfl
  rw [hskip] at hc
  rw [Option.mem_def.1 hc] at hhead
  simpa using hhead

theorem skip_append {b r : List Char} (hb : ∀ c ∈ b, isBlank c = true)
    (hr : ∀ c ∈ r.head?, isBlank c = false) : skip (b ++ r) = r := (Text.span_run hb hr).2

theorem isPlain_of_blank {c : Char} (h : isBlank c = true) : IsPlain c := by
  refine ⟨?_, ?_, ?_⟩ <;> rintro rfl <;> cases h

theorem balanced_of_blank {b : List Char} (hb : ∀ c ∈ b, isBlank c = true) : Balanced b :=
  balanced_of_plain fun c hc => isPlain_of_blank (hb c hc)

theorem head_append {u r : List Char} {P : Char → Prop} (hu : ∀ c ∈ u.head?, P c)
    (hr : ∀ c ∈ r.head?, P c) : ∀ c ∈ (u ++ r).head?, P c := by
  cases u with
  | nil => exact hr
  | cons c u => exact hu

theorem head_before {v r r' : List Char} {P : Char → Prop} (h : ∀ c ∈ (v ++ ')' :: r).head?, P c) :
    ∀ c ∈ (v ++ ')' :: r').head?, P c := by
  cases v with
  | nil => exact h
  | cons c v => exact h

/-- The blanks in front of what a bracket closes are skipped whatever follows the bracket. -/
theorem skip_local {s v r : List Char} (h : skip s = v ++ ')' :: r) :
    ∃ b, s = b ++ (v ++ ')' :: r) ∧ (∀ c ∈ b, isBlank c = true) ∧
      ∀ r', skip (b ++ (v ++ ')' :: r')) = v ++ ')' :: r' := by
  obtain ⟨b, hb, hblank, hhead⟩ := skip_split s
  rw [h] at hb hhead
  exact ⟨b, hb, hblank, fun r' => skip_append hblank (head_before hhead)⟩

/-! ## Names -/

/-- The text of a name. -/
structure IsText (u : List Char) : Prop where
  closed : Closed u
  first : ∃ c rest, u = c :: rest ∧ isBlank c = false ∧ c ≠ ')'
  last : ∀ c ∈ u.getLast?, isBlank c = false

theorem IsText.ne_nil {u : List Char} (h : IsText u) : u ≠ [] := by
  obtain ⟨c, rest, rfl, -⟩ := h.first
  exact List.cons_ne_nil c rest

/-- What cannot go on a name. -/
def Ends (r : List Char) : Prop := ∀ c ∈ r.head?, isInner c = false ∧ c ≠ '.' ∧ c ≠ '[' ∧ c ≠ '('

/-- What a tuple may be written with. -/
def IsPrefix (w : List Char) : Prop := w = [] ∨ w = ['t', 'u', 'p', 'l', 'e']

theorem IsMark.isBlank_eq {c : Char} (h : IsMark c) : isBlank c = false := by
  simp [isBlank, h.not_blank.1, h.not_blank.2]

theorem last_of_marks {u : List Char} (h : ∀ c ∈ u, IsMark c) :
    ∀ c ∈ u.getLast?, isBlank c = false :=
  fun c hc => (h c (List.mem_of_getLast? hc)).isBlank_eq

theorem isText_of_marks {u : List Char} (h : ∀ c ∈ u, IsMark c)
    (hfirst : ∃ c rest, u = c :: rest) : IsText u := by
  obtain ⟨c, rest, rfl⟩ := hfirst
  have hc := h c List.mem_cons_self
  exact ⟨closed_of_plain fun c hc => (h c hc).plain,
    ⟨c, rest, rfl, hc.isBlank_eq, hc.plain.2.1⟩, last_of_marks h⟩

theorem isText_tuple {w v u : List Char} (hw : IsPrefix w) (hv : Balanced v) (hu : Closed u)
    (hend : ∀ c ∈ u.getLast?, isBlank c = false) : IsText (w ++ '(' :: (v ++ ')' :: u)) := by
  have hclosed : Closed ('(' :: (v ++ ')' :: u)) := hv.closed_brackets hu
  have hlast : ∀ c ∈ (w ++ '(' :: (v ++ ')' :: u)).getLast?, isBlank c = false := by
    intro c hc
    have hrest : (w ++ '(' :: (v ++ ')' :: u)).getLast? = (')' :: u).getLast? := by
      rw [← List.cons_append, ← List.append_assoc, List.getLast?_append_cons]
    rw [hrest] at hc
    cases u with
    | nil =>
      obtain rfl := Option.some.inj hc
      rfl
    | cons d u =>
      rw [List.getLast?_cons_cons] at hc
      exact hend c hc
  rcases hw with rfl | rfl
  · exact ⟨hclosed, ⟨'(', _, rfl, rfl, by decide⟩, hlast⟩
  · exact ⟨hclosed, ⟨'t', _, rfl, rfl, by decide⟩, hlast⟩

section
variable {fuel d : Nat} {s r rest inner w : List Char} {n stem : TypeName}

theorem name_tuple (hw : IsPrefix w) (h : tuple? fuel d inner = some (stem, rest)) :
    name (fuel + 1) d (w ++ '(' :: inner) = arrays rest.length stem rest := by
  rcases hw with rfl | rfl
  · simp only [List.nil_append, name, h]
    rfl
  · simp only [List.cons_append, List.nil_append, name, h]
    rfl

theorem name_word (h : word? s = some (stem, rest)) (hrest : ∀ c ∈ rest.head?, c ≠ '(') :
    name (fuel + 1) d s = arrays rest.length stem rest := by
  unfold name
  dsimp only
  split
  · cases h
  · next after =>
    have hkeyword : word? ('t' :: 'u' :: 'p' :: 'l' :: 'e' :: '(' :: after) =
        some (.word ['t', 'u', 'p', 'l', 'e'], '(' :: after) := rfl
    rw [hkeyword] at h
    obtain ⟨rfl, rfl⟩ := Prod.mk.inj (Option.some.inj h)
    exact absurd rfl (hrest '(' rfl)
  · rw [h]
    rfl

/-- A name is a tuple or a word, with the sizes of arrays. -/
theorem name_cases (h : name (fuel + 1) d s = some (n, r)) :
    ∃ stem rest, arrays rest.length stem rest = some (n, r) ∧
      ((∃ w inner, IsPrefix w ∧ s = w ++ '(' :: inner ∧ tuple? fuel d inner = some (stem, rest)) ∨
        word? s = some (stem, rest)) := by
  unfold name at h
  dsimp only at h
  split at h
  · obtain ⟨⟨stem, rest⟩, htuple, harrays⟩ := Option.bind_eq_some_iff.1 h
    exact ⟨stem, rest, harrays, .inl ⟨[], _, .inl rfl, rfl, htuple⟩⟩
  · obtain ⟨⟨stem, rest⟩, htuple, harrays⟩ := Option.bind_eq_some_iff.1 h
    exact ⟨stem, rest, harrays, .inl ⟨_, _, .inr rfl, rfl, htuple⟩⟩
  · obtain ⟨⟨stem, rest⟩, hword, harrays⟩ := Option.bind_eq_some_iff.1 h
    exact ⟨stem, rest, harrays, .inr hword⟩

theorem tuple_empty (h : skip s = ')' :: r) :
    tuple? (fuel + 1) (d + 1) s = some (.tuple [], r) := by
  rw [tuple?, h]
  rfl

theorem tuple_names {ns : List TypeName} (hne : ∀ c ∈ (skip s).head?, c ≠ ')')
    (h : names fuel d (skip s) = some (ns, r)) :
    tuple? (fuel + 1) (d + 1) s = some (.tuple ns, r) := by
  rw [tuple?]
  split
  · next heq => exact absurd rfl (hne ')' (by rw [heq]; rfl))
  · rw [h]
    rfl

theorem tuple_cases (h : tuple? (fuel + 1) d s = some (n, r)) : ∃ d', d = d' + 1 ∧
    ((skip s = ')' :: r ∧ n = .tuple []) ∨
      (∀ c ∈ (skip s).head?, c ≠ ')') ∧ ∃ ns, names fuel d' (skip s) = some (ns, r) ∧
        n = .tuple ns) := by
  cases d with
  | zero => cases h
  | succ d =>
    refine ⟨d, rfl, ?_⟩
    rw [tuple?] at h
    split at h
    · next heq =>
      obtain ⟨rfl, rfl⟩ := Prod.mk.inj (Option.some.inj h)
      exact .inl ⟨heq, rfl⟩
    · next hno =>
      obtain ⟨⟨ns, r'⟩, hnames, hdone⟩ := Option.map_eq_some_iff.1 h
      obtain ⟨rfl, rfl⟩ := Prod.mk.inj hdone
      refine .inr ⟨?_, ns, hnames, rfl⟩
      rintro c hc rfl
      obtain ⟨after, hafter⟩ := List.head?_eq_some_iff.1 hc
      exact hno after hafter

/-- How the names of a tuple go on after one of them. -/
inductive GoesOn (fuel d : Nat) (n : TypeName) : List Char → List TypeName → List Char → Prop
  | comma {after r : List Char} : skip after = ')' :: r → GoesOn fuel d n (',' :: after) [n] r
  | more {after r : List Char} {ns : List TypeName} : (∀ c ∈ (skip after).head?, c ≠ ')') →
      names fuel d (skip after) = some (ns, r) → GoesOn fuel d n (',' :: after) (n :: ns) r
  | last {rest r : List Char} : (∀ c ∈ rest.head?, c ≠ ',') → skip rest = ')' :: r →
      GoesOn fuel d n rest [n] r

theorem names_goesOn {ns : List TypeName} (hname : name fuel d s = some (n, rest))
    (h : GoesOn fuel d n rest ns r) : names (fuel + 1) d s = some (ns, r) := by
  rw [names, hname]
  cases h with
  | comma hskip =>
    simp only [Option.bind_eq_bind, Option.bind_some, hskip]
    rfl
  | more hmore hnames =>
    simp only [Option.bind_eq_bind, Option.bind_some]
    split
    · next heq => exact absurd rfl (hmore ')' (by rw [heq]; rfl))
    · rw [hnames]
      rfl
  | last hlast hskip =>
    simp only [Option.bind_eq_bind, Option.bind_some]
    split
    · exact absurd rfl (hlast ',' rfl)
    · rw [hskip]
      rfl

theorem names_cases {ns : List TypeName} (h : names (fuel + 1) d s = some (ns, r)) :
    ∃ n rest, name fuel d s = some (n, rest) ∧ GoesOn fuel d n rest ns r := by
  rw [names] at h
  obtain ⟨⟨n, rest⟩, hname, hrest⟩ := Option.bind_eq_some_iff.1 h
  refine ⟨n, rest, hname, ?_⟩
  dsimp only at hrest
  split at hrest
  · next after =>
    split at hrest
    · next heq =>
      obtain ⟨rfl, rfl⟩ := Prod.mk.inj (Option.some.inj hrest)
      exact .comma heq
    · next hno =>
      obtain ⟨⟨more, r'⟩, hmore, hdone⟩ := Option.bind_eq_some_iff.1 hrest
      obtain ⟨rfl, rfl⟩ := Prod.mk.inj (Option.some.inj hdone)
      refine .more ?_ hmore
      rintro c hc rfl
      obtain ⟨after', hafter⟩ := List.head?_eq_some_iff.1 hc
      exact hno after' hafter
  · next hno =>
    split at hrest
    · next heq =>
      obtain ⟨rfl, rfl⟩ := Prod.mk.inj (Option.some.inj hrest)
      refine .last ?_ heq
      rintro c hc rfl
      obtain ⟨after', hafter⟩ := List.head?_eq_some_iff.1 hc
      exact hno after' hafter
    · cases hrest

end

/-! ## Names are read alike wherever they stand -/

/-- With this fuel, what is read as a name is a text that is read alike in front of anything that
    cannot go on it, with more fuel and more levels. -/
def NameLocal (fuel : Nat) : Prop := ∀ d s n r, name fuel d s = some (n, r) →
  ∃ u, s = u ++ r ∧ IsText u ∧ ∀ fuel' d' r', fuel ≤ fuel' → d ≤ d' → Ends r' →
    name fuel' d' (u ++ r') = some (n, r')

/-- As `NameLocal`, for a tuple after its opening bracket. -/
def TupleLocal (fuel : Nat) : Prop := ∀ d s n r, tuple? fuel d s = some (n, r) →
  ∃ v, s = v ++ ')' :: r ∧ Balanced v ∧ ∀ fuel' d' r', fuel ≤ fuel' → d ≤ d' →
    tuple? fuel' d' (v ++ ')' :: r') = some (n, r')

/-- As `NameLocal`, for the names in a tuple up to its closing bracket. -/
def NamesLocal (fuel : Nat) : Prop := ∀ d s ns r, names fuel d s = some (ns, r) →
  ∃ v, s = v ++ ')' :: r ∧ Balanced v ∧ ∀ fuel' d' r', fuel ≤ fuel' → d ≤ d' →
    names fuel' d' (v ++ ')' :: r') = some (ns, r')

theorem nameLocal_succ {fuel : Nat} (htuple : TupleLocal fuel) : NameLocal (fuel + 1) := by
  intro d s n r h
  obtain ⟨stem, rest, harrays, hstem⟩ := name_cases h
  obtain ⟨u, rfl, hmarks, hopen, hlocal⟩ := arrays_local (Nat.le_refl _) harrays
  rcases hstem with ⟨w, inner, hw, rfl, hinner⟩ | hword
  · obtain ⟨v, rfl, hv, hback⟩ := htuple d inner stem _ hinner
    have hclosed : Closed u := closed_of_plain fun c hc => (hmarks c hc).plain
    refine ⟨w ++ '(' :: (v ++ ')' :: u), by simp,
      isText_tuple hw hv hclosed (last_of_marks hmarks), ?_⟩
    intro fuel' d' r' hfuel hd hr'
    obtain ⟨fuel', rfl, hle⟩ := exists_succ_of_le hfuel
    have happend : w ++ '(' :: (v ++ ')' :: u) ++ r' = w ++ '(' :: (v ++ ')' :: (u ++ r')) := by
      simp
    rw [happend, name_tuple hw (hback fuel' d' (u ++ r') hle hd)]
    exact hlocal _ r' (Nat.le_refl _) fun c hc => (hr' c hc).2.2.1
  · obtain ⟨u', rfl, hmarks', ⟨c, more, rfl, -⟩, hback⟩ := word?_local hword
    refine ⟨c :: more ++ u, by simp, isText_of_marks ?_ ⟨c, more ++ u, rfl⟩, ?_⟩
    · exact List.forall_mem_append.2 ⟨hmarks', hmarks⟩
    intro fuel' d' r' hfuel hd hr'
    obtain ⟨fuel', rfl, -⟩ := exists_succ_of_le hfuel
    have hopens : ∀ c ∈ u.head?, isInner c = false ∧ c ≠ '.' ∧ c ≠ '(' := by
      intro c hc
      rw [hopen c hc]
      decide
    have hends : ∀ c ∈ (u ++ r').head?, isInner c = false ∧ c ≠ '.' ∧ c ≠ '(' :=
      head_append hopens fun c hc => ⟨(hr' c hc).1, (hr' c hc).2.1, (hr' c hc).2.2.2⟩
    have hread := hback (u ++ r') fun c hc => ⟨(hends c hc).1, (hends c hc).2.1⟩
    rw [List.append_assoc, name_word hread fun c hc => (hends c hc).2.2]
    exact hlocal _ r' (Nat.le_refl _) fun c hc => (hr' c hc).2.2.1

theorem tupleLocal_succ {fuel : Nat} (hnames : NamesLocal fuel) : TupleLocal (fuel + 1) := by
  intro d s n r h
  obtain ⟨d, rfl, ⟨hskip, rfl⟩ | ⟨hne, ns, hread, rfl⟩⟩ := tuple_cases h
  · obtain ⟨b, hb, hblank, hback⟩ := skip_local (v := []) hskip
    refine ⟨b, hb, balanced_of_blank hblank, fun fuel' d' r' hfuel hd => ?_⟩
    obtain ⟨fuel', rfl, -⟩ := exists_succ_of_le hfuel
    obtain ⟨d', rfl, -⟩ := exists_succ_of_le hd
    exact tuple_empty (hback r')
  · obtain ⟨v, hv, hbalanced, hlocal⟩ := hnames d _ ns r hread
    obtain ⟨b, hb, hblank, hback⟩ := skip_local hv
    rw [hv] at hne
    refine ⟨b ++ v, by rw [hb, List.append_assoc], (balanced_of_blank hblank).append hbalanced,
      fun fuel' d' r' hfuel hd => ?_⟩
    obtain ⟨fuel', rfl, hle⟩ := exists_succ_of_le hfuel
    obtain ⟨d', rfl, hdeep⟩ := exists_succ_of_le hd
    rw [List.append_assoc]
    refine tuple_names ?_ ?_
    · rw [hback]
      exact head_before hne
    · rw [hback]
      exact hlocal fuel' d' r' hle hdeep

/-- What follows a name in a tuple, up to the bracket that closes it, is read alike in front of
    anything. -/
theorem goesOn_local {fuel d : Nat} {n : TypeName} {rest r : List Char} {ns : List TypeName}
    (hnames : NamesLocal fuel) (h : GoesOn fuel d n rest ns r) :
    ∃ q, rest = q ++ ')' :: r ∧ Balanced q ∧ (∀ r', Ends (q ++ ')' :: r')) ∧
      ∀ fuel' d' r', fuel ≤ fuel' → d ≤ d' → GoesOn fuel' d' n (q ++ ')' :: r') ns r' := by
  have hcomma : ∀ after : List Char, Ends (',' :: after) := by
    intro after c hc
    obtain rfl := Option.some.inj hc
    decide
  cases h with
  | comma hskip =>
    obtain ⟨b, rfl, hblank, hback⟩ := skip_local (v := []) hskip
    exact ⟨',' :: b, rfl, balanced_comma.append (balanced_of_blank hblank), fun r' => hcomma _,
      fun fuel' d' r' _ _ => .comma (hback r')⟩
  | more hne hmore =>
    obtain ⟨v, hv, hbalanced, hlocal⟩ := hnames d _ _ r hmore
    obtain ⟨b, rfl, hblank, hback⟩ := skip_local hv
    rw [hv] at hne
    refine ⟨',' :: (b ++ v), by simp,
      balanced_comma.append ((balanced_of_blank hblank).append hbalanced), fun r' => hcomma _,
      fun fuel' d' r' hfuel hd => ?_⟩
    rw [List.cons_append, List.append_assoc]
    refine .more ?_ ?_
    · rw [hback]
      exact head_before hne
    · rw [hback]
      exact hlocal fuel' d' r' hfuel hd
  | last _ hskip =>
    obtain ⟨b, rfl, hblank, hback⟩ := skip_local (v := []) hskip
    have hclose : ∀ r', ∀ c ∈ (b ++ ')' :: r').head?, c = ' ' ∨ c = '\t' ∨ c = ')' := by
      intro r'
      refine head_append (fun c hc => ?_) fun c hc => .inr (.inr (Option.some.inj hc).symm)
      have hc := hblank c (List.mem_of_head? hc)
      simp only [isBlank, Bool.or_eq_true, beq_iff_eq] at hc
      exact hc.imp_right .inl
    refine ⟨b, rfl, balanced_of_blank hblank, fun r' c hc => ?_, fun fuel' d' r' _ _ => .last ?_ ?_⟩
    · rcases hclose r' c hc with rfl | rfl | rfl <;> decide
    · rintro c hc rfl
      rcases hclose r' ',' hc with hc | hc | hc <;> cases hc
    · exact hback r'

theorem namesLocal_succ {fuel : Nat} (hname : NameLocal fuel) (hnames : NamesLocal fuel) :
    NamesLocal (fuel + 1) := by
  intro d s ns r h
  obtain ⟨n, rest, hread, hgoesOn⟩ := names_cases h
  obtain ⟨u, rfl, htext, hlocal⟩ := hname d s n rest hread
  obtain ⟨q, rfl, hq, hends, hback⟩ := goesOn_local hnames hgoesOn
  refine ⟨u ++ q, (List.append_assoc _ _ _).symm, htext.closed.balanced.append hq,
    fun fuel' d' r' hfuel hd => ?_⟩
  obtain ⟨fuel', rfl, hle⟩ := exists_succ_of_le hfuel
  rw [List.append_assoc]
  exact names_goesOn (hlocal fuel' d' _ hle hd (hends r')) (hback fuel' d' r' hle hd)

/-- **Names are read alike wherever they stand.** -/
theorem reads_local (fuel : Nat) : NameLocal fuel ∧ TupleLocal fuel ∧ NamesLocal fuel := by
  induction fuel with
  | zero =>
    refine ⟨?_, ?_, ?_⟩ <;> intro d s n r h <;> cases h
  | succ fuel ih =>
    exact ⟨nameLocal_succ ih.2.1, tupleLocal_succ ih.2.2, namesLocal_succ ih.1 ih.2.2⟩

/-! ## Whole texts -/

/-- The text is read as the name. -/
def Reads (s : List Char) (n : TypeName) : Prop := ∃ fuel d, name fuel d s = some (n, [])

section
variable {s r : List Char} {n n' : TypeName} {fuel d : Nat}

theorem ends_nil : Ends [] := by
  intro c hc
  cases hc

theorem reads_of_parse? {s : String} (h : parse? s = some n) : Reads s.toList n := by
  unfold parse? at h
  split at h
  · next t hname =>
    obtain rfl := Option.some.inj h
    exact ⟨_, _, hname⟩
  · cases h

theorem Reads.isText (h : Reads s n) : IsText s := by
  obtain ⟨fuel, d, hname⟩ := h
  obtain ⟨u, rfl, htext, -⟩ := (reads_local fuel).1 d s n [] hname
  rwa [List.append_nil]

/-- A text is read as one name at most. -/
theorem Reads.unique (h : Reads s n) (h' : Reads s n') : n = n' := by
  obtain ⟨fuel, d, hname⟩ := h
  obtain ⟨fuel', d', hname'⟩ := h'
  obtain ⟨u, hu, -, hlocal⟩ := (reads_local fuel).1 d s n [] hname
  obtain ⟨u', hu', -, hlocal'⟩ := (reads_local fuel').1 d' s n' [] hname'
  obtain rfl : u = u' := List.append_cancel_right (hu.symm.trans hu')
  have hread := hlocal (max fuel fuel') (max d d') [] (by omega) (by omega) ends_nil
  have hread' := hlocal' (max fuel fuel') (max d d') [] (by omega) (by omega) ends_nil
  rw [hread] at hread'
  exact (Prod.mk.inj (Option.some.inj hread')).1

/-- What is read in front of something is read on its own as well. -/
theorem reads_front (h : name fuel d s = some (n, r)) : ∃ u, s = u ++ r ∧ Reads u n := by
  obtain ⟨u, hu, -, hlocal⟩ := (reads_local fuel).1 d s n r h
  have hread := hlocal fuel d [] (Nat.le_refl _) (Nat.le_refl _) ends_nil
  rw [List.append_nil] at hread
  exact ⟨u, hu, fuel, d, hread⟩

/-- After a name there are blanks in front of the comma or the bracket that follows. -/
theorem GoesOn.stops {rest : List Char} {ns : List TypeName} (h : GoesOn fuel d n rest ns r) :
    ∃ b rest', rest = b ++ rest' ∧ (∀ c ∈ b, isBlank c = true) ∧ Stops rest' := by
  have hstops : ∀ (c : Char) (after : List Char), c = ',' ∨ c = ')' → Stops (c :: after) := by
    intro c after hc d hd
    obtain rfl := Option.some.inj hd
    exact hc
  cases h with
  | comma _ => exact ⟨[], _, rfl, by simp, hstops _ _ (.inl rfl)⟩
  | more _ _ => exact ⟨[], _, rfl, by simp, hstops _ _ (.inl rfl)⟩
  | last _ hskip =>
    obtain ⟨b, hb, hblank, -⟩ := skip_local (v := []) hskip
    exact ⟨b, _, hb, hblank, hstops _ _ (.inr rfl)⟩

/-- A text is the first name, if it stands in front of a comma or a bracket. -/
theorem names_first {u q : List Char} {ns : List TypeName} (hu : IsText u) (hq : Stops q)
    (h : names (fuel + 1) d (u ++ q) = some (ns, r)) :
    ∃ n, Reads u n ∧ GoesOn fuel d n q ns r := by
  obtain ⟨n, rest, hname, hgoesOn⟩ := names_cases h
  obtain ⟨u', hsplit, hreads⟩ := reads_front hname
  obtain ⟨b, rest', rfl, hblank, hstops⟩ := hgoesOn.stops
  have hclosed : Closed (u' ++ b) :=
    hreads.isText.closed.append (closed_of_plain fun c hc => isPlain_of_blank (hblank c hc))
  rw [← List.append_assoc] at hsplit
  obtain ⟨rfl, rfl⟩ := closed_unique hu.closed hclosed hq hstops hsplit
  -- The blanks would be the end of the text.
  obtain rfl : b = [] := by
    refine List.eq_nil_iff_forall_not_mem.2 fun c hc => ?_
    obtain ⟨last, hlast⟩ : ∃ last, b.getLast? = some last := by
      cases hb : b.getLast? with
      | none => simp [List.getLast?_eq_none_iff.1 hb] at hc
      | some last => exact ⟨last, rfl⟩
    have hend := hu.last last (by rw [List.getLast?_append, hlast]; rfl)
    rw [hblank last (List.mem_of_getLast? hlast)] at hend
    cases hend
  rw [List.append_nil]
  exact ⟨n, hreads, hgoesOn⟩

/-- No blank and no closing bracket stands in front of texts. -/
theorem skip_joined {u : List Char} (hu : IsText u) (us : List (List Char)) (q : List Char) :
    skip (joined (u :: us) ++ q) = joined (u :: us) ++ q ∧
      ∀ c ∈ (joined (u :: us) ++ q).head?, c ≠ ')' := by
  obtain ⟨q', hq', -⟩ := joined_cons u us
  obtain ⟨c, rest, rfl, hblank, hclose⟩ := hu.first
  rw [hq', List.append_assoc]
  constructor
  · refine skip_append (b := []) (by simp) ?_
    intro d hd
    obtain rfl := Option.some.inj hd
    exact hblank
  · intro d hd
    obtain rfl := Option.some.inj hd
    exact hclose

/-- **Texts between commas are read one by one.** -/
theorem names_joined {us : List (List Char)} {ns : List TypeName} (hne : us ≠ [])
    (hus : ∀ u ∈ us, IsText u) (h : names fuel d (joined us ++ ')' :: s) = some (ns, r)) :
    r = s ∧ List.Forall₂ Reads us ns := by
  induction us generalizing fuel ns with
  | nil => exact absurd rfl hne
  | cons u us ih =>
    cases fuel with
    | zero => cases h
    | succ fuel =>
    have hu := hus u List.mem_cons_self
    cases us with
    | nil =>
      have hclose : Stops (')' :: s) := by
        intro c hc
        exact .inr (Option.some.inj hc).symm
      have hjoined : joined [u] ++ ')' :: s = u ++ ')' :: s := by simp [joined]
      rw [hjoined] at h
      obtain ⟨n, hreads, hgoesOn⟩ := names_first hu hclose h
      cases hgoesOn with
      | last _ hskip =>
        have hsame : skip (')' :: s) = ')' :: s := rfl
        rw [hsame] at hskip
        exact ⟨(List.cons.inj hskip).2.symm, .cons hreads .nil⟩
    | cons u' us =>
      have hcomma : Stops (',' :: (joined (u' :: us) ++ ')' :: s)) := by
        intro c hc
        exact .inl (Option.some.inj hc).symm
      have happend : joined (u :: u' :: us) ++ ')' :: s =
          u ++ ',' :: (joined (u' :: us) ++ ')' :: s) := by
        rw [joined_cons_cons, List.append_assoc, List.cons_append]
      rw [happend] at h
      obtain ⟨n, hreads, hgoesOn⟩ := names_first hu hcomma h
      have hskip := skip_joined (hus u' (by simp)) us (')' :: s)
      cases hgoesOn with
      | comma hempty =>
        rw [hskip.1] at hempty
        exact absurd rfl (hskip.2 ')' (by rw [hempty]; rfl))
      | more _ hmore =>
        rw [hskip.1] at hmore
        obtain ⟨hr, hall⟩ := ih (by simp) (fun v hv => hus v (List.mem_cons_of_mem _ hv)) hmore
        exact ⟨hr, .cons hreads hall⟩
      | last hlast _ => exact absurd rfl (hlast ',' rfl)

/-- What may follow a tuple may follow the word for a structure. -/
theorem reads_structure {ns : List TypeName}
    (h : arrays s.length (.tuple ns) s = some (n, [])) :
    ∃ n', Reads (['t', 'u', 'p', 'l', 'e'] ++ s) n' ∧ n = graft (.tuple ns) n' := by
  have hgraft := arrays_graft (.tuple ns) s.length (.word ['t', 'u', 'p', 'l', 'e']) s
  obtain ⟨⟨n', r'⟩, hcore, hdone⟩ := Option.map_eq_some_iff.1 (hgraft.symm.trans h)
  obtain ⟨rfl, rfl⟩ := Prod.mk.inj hdone
  obtain ⟨u, htail, -, hopen, -⟩ := arrays_local (Nat.le_refl _) hcore
  rw [List.append_nil] at htail
  have hhead : ∀ c ∈ s.head?, isInner c = false ∧ c ≠ '.' ∧ c ≠ '(' := by
    intro c hc
    rw [htail] at hc
    rw [hopen c hc]
    decide
  have hkeyword : word? ['t', 'u', 'p', 'l', 'e'] = some (.word ['t', 'u', 'p', 'l', 'e'], []) :=
    rfl
  obtain ⟨u', hsplit, -, -, hlocal⟩ := word?_local hkeyword
  rw [List.append_nil] at hsplit
  have hword := hlocal s fun c hc => ⟨(hhead c hc).1, (hhead c hc).2.1⟩
  rw [← hsplit] at hword
  refine ⟨n', ⟨1, 0, ?_⟩, rfl⟩
  rw [name_word hword fun c hc => (hhead c hc).2.2]
  exact hcore

/-- **A tuple is read name by name**, its arrays as those of a structure. -/
theorem reads_tuple {us : List (List Char)} (hne : us ≠ []) (hus : ∀ u ∈ us, IsText u)
    (h : Reads ('(' :: (joined us ++ ')' :: s)) n) :
    ∃ ns n', List.Forall₂ Reads us ns ∧ Reads (['t', 'u', 'p', 'l', 'e'] ++ s) n' ∧
      n = graft (.tuple ns) n' := by
  obtain ⟨fuel, d, hname⟩ := h
  cases fuel with
  | zero => cases hname
  | succ fuel =>
  obtain ⟨stem, rest, harrays, ⟨w, inner, hw, hinner, htuple⟩ | hword⟩ := name_cases hname
  · obtain rfl : inner = joined us ++ ')' :: s := by
      rcases hw with rfl | rfl
      · exact (List.cons.inj hinner).2.symm
      · cases (List.cons.inj hinner).1
    cases fuel with
    | zero => cases htuple
    | succ fuel =>
    obtain ⟨u, us', rfl⟩ := List.exists_cons_of_ne_nil hne
    have hskip := skip_joined (hus u List.mem_cons_self) us' (')' :: s)
    obtain ⟨d, rfl, ⟨hempty, -⟩ | ⟨-, ns, hnames, rfl⟩⟩ := tuple_cases htuple
    · rw [hskip.1] at hempty
      exact absurd rfl (hskip.2 ')' (by rw [hempty]; rfl))
    · rw [hskip.1] at hnames
      obtain ⟨rfl, hall⟩ := names_joined hne hus hnames
      obtain ⟨n', hreads, rfl⟩ := reads_structure harrays
      exact ⟨ns, n', hall, hreads, rfl⟩
  · obtain ⟨u, hsplit, -, ⟨c, more, rfl, hleading⟩, -⟩ := word?_local hword
    rw [← (List.cons.inj hsplit).1] at hleading
    cases hleading

end

/-! ## Meaning -/

/-- The arrays of a name keep their sizes around another element. -/
theorem resolve?_graft (ns : List TypeName) : ∀ t : TypeName,
    resolve? (graft (.tuple ns) t) = (resolveAll? ns).map fun ts => around (.tuple [] ts) t
  | word _ => rfl
  | tuple _ => rfl
  | array element => by
    rw [graft, resolve?, resolve?_graft ns element, Option.map_map]
    rfl
  | fixedArray size element => by
    rw [graft, resolve?, resolve?_graft ns element, Option.map_map]
    rfl

end PacketRelay.TypeName
