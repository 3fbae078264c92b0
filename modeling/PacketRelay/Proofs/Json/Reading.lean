/-
  What has been written as JSON is read.

  * `stringTail_quoted`: a string is read as it was;
  * `reread` is what a document is read as: only its numbers may differ;
  * `parse_text`, `parseKept_text`: the text of a document is read as that.
-/
import PacketRelay.Proofs.Json.Numeral
import PacketRelay.Proofs.Text.Hexadecimal

namespace PacketRelay.Json

/-! ## Strings -/

theorem charValue?_digit {n : Nat} (h : n < 16) : Hex.charValue? (Hex.digit n) = some n :=
  Hex.charValue?_eq_some_iff.2 ⟨h, .inl rfl⟩

theorem unit?_escaped {n : Nat} (h : n < 0x20) :
    unit? '0' '0' (Hex.digit (n / 16)) (Hex.digit (n % 16)) = some n := by
  have hzero : Hex.charValue? '0' = some 0 := charValue?_digit (n := 0) (by decide)
  have hvalue : n / 16 * 16 + n % 16 = n := Nat.div_add_mod' n 16
  simp [unit?, hzero, charValue?_digit (n := n / 16) (by omega),
    charValue?_digit (n := n % 16) (by omega), hvalue]

theorem stringTail_no_unit {a b c d : Char} (h : unit? a b c d = none) (rest : List Char) :
    stringTail ('\\' :: 'u' :: a :: b :: c :: d :: rest) = none := by
  rw [stringTail.eq_def]
  split
  · cases ‹_ = []›
  · next heq => cases heq
  · next heq =>
    simp only [List.cons.injEq, true_and] at heq
    obtain ⟨rfl, rfl, rfl, rfl, -⟩ := heq
    simp only [h]
  · next heq =>
    simp only [List.cons.injEq, true_and] at heq
    obtain ⟨rfl, rfl, rfl, rfl, -⟩ := heq
    simp only [h]
  · next hno heq =>
    simp only [List.cons.injEq, true_and] at heq
    exact (hno _ _ _ _ _ heq.1.symm heq.2.symm).elim
  · next hno _ heq =>
    simp only [List.cons.injEq] at heq
    exact (hno _ _ _ _ _ heq.1.symm heq.2.symm).elim

/-- An escaped unit that is no half of a pair is read alone. -/
theorem stringTail_unit {a b c d : Char} {n : Nat} (h : unit? a b c d = some n)
    (hhigh : isHigh n = false) (hlow : isLow n = false) (rest : List Char) :
    stringTail ('\\' :: 'u' :: a :: b :: c :: d :: rest) =
      consText (Char.ofNat n) (stringTail rest) := by
  rw [stringTail.eq_def]
  split
  · cases ‹_ = []›
  · next heq => cases heq
  · -- another unit follows, which need not be readable
    next e f g i _ heq =>
    simp only [List.cons.injEq, true_and] at heq
    obtain ⟨rfl, rfl, rfl, rfl, rfl⟩ := heq
    cases hnext : unit? e f g i with
    | none =>
      simp only [h, stringTail_no_unit hnext]
      rfl
    | some low => simp [h, hhigh, hlow]
  · next heq =>
    simp only [List.cons.injEq, true_and] at heq
    obtain ⟨rfl, rfl, rfl, rfl, rfl⟩ := heq
    simp [h, hhigh, hlow]
  · next hno heq =>
    simp only [List.cons.injEq, true_and] at heq
    exact (hno _ _ _ _ _ heq.1.symm heq.2.symm).elim
  · next hno _ heq =>
    simp only [List.cons.injEq] at heq
    exact (hno _ _ _ _ _ heq.1.symm heq.2.symm).elim

theorem stringTail_escaped (c : Char) (rest : List Char) :
    stringTail (escapedChar c ++ rest) = consText c (stringTail rest) := by
  unfold escapedChar
  split
  · next h => subst h; rfl
  split
  · next h => subst h; rfl
  split
  · next h => subst h; rfl
  split
  · next h => subst h; rfl
  split
  · next h => subst h; rfl
  split
  · next h => subst h; rfl
  split
  · next h => subst h; rfl
  split
  · next hcontrol =>
    have hsmall : c.toNat < 0xD800 := by omega
    have hread := stringTail_unit (unit?_escaped hcontrol) (by simp [isHigh]; omega)
      (by simp [isLow]; omega) rest
    rwa [Char.ofNat_toNat] at hread
  · next hquote hbackslash _ _ _ _ _ hprintable =>
    have hplain : ¬ (c.toNat < 0x20 ∨ c = '\\') := by simp [hprintable, hbackslash]
    rw [List.singleton_append, stringTail.eq_def]
    split <;> simp_all

/-- **A string is read as it was.** -/
theorem stringTail_flatMap (s rest : List Char) :
    stringTail (s.flatMap escapedChar ++ '"' :: rest) = some (some s, rest) := by
  induction s with
  | nil => rfl
  | cons c s ih =>
    rw [List.flatMap_cons, List.append_assoc, stringTail_escaped, ih]
    rfl

/-! ## Values -/

/-- What is read of a floating-point number that has been written: one that is not finite is
    written as null. -/
def rereadFloat : Binary64 → Document
  | .finite negative m p => (floatNumeral negative m p).document
  | _ => .null

mutual

/-- What is read of a document that has been written. -/
def reread : Document → Document
  | .integer n => (integerNumeral n).document
  | .float x => rereadFloat x
  | .moment | .unreadable => .null
  | .list ds => .list (rereadItems ds)
  | .table ms => .table (rereadMembers ms)
  | d => d

/-- `reread` for the items of an array. -/
def rereadItems : List Document → List Document
  | [] => []
  | d :: rest => reread d :: rereadItems rest

/-- `reread` for the members of an object. -/
def rereadMembers : List (String × Document) → List (String × Document)
  | [] => []
  | (k, d) :: rest => (k, reread d) :: rereadMembers rest

end

/-- With what a value can begin. -/
def Starts (c : Char) : Prop :=
  c ∈ ['n', 't', 'f', '"', '-', '[', '\x7b'] ∨ c.isDigit = true

theorem Starts.not_blank {c : Char} (h : Starts c) (s : List Char) : skip (c :: s) = c :: s := by
  have hblank : (c == ' ' || c == '\n' || c == '\t' || c == '\r') = false := by
    rcases h with h | h
    · simp only [List.mem_cons, List.not_mem_nil, or_false] at h
      rcases h with rfl | rfl | rfl | rfl | rfl | rfl | rfl <;> rfl
    · by_contra hblank
      simp only [Bool.not_eq_false, Bool.or_eq_true, beq_iff_eq] at hblank
      rcases hblank with ((rfl | rfl) | rfl) | rfl <;> cases h
  rw [skip, List.dropWhile_cons_of_neg (by simp [hblank])]

theorem Starts.ne_end {c : Char} (h : Starts c) : c ≠ ']' ∧ c ≠ '\x7d' := by
  constructor <;> rintro rfl <;> rcases h with h | h <;> revert h <;> decide

theorem starts_numeral {n : Numeral} (hn : n.WellFormed) : ∃ c s, n.chars = c :: s ∧
    (c = '-' ∧ n.negative = true ∧ s = n.tail ∨
      c.isDigit = true ∧ n.negative = false ∧ n.tail = c :: s) := by
  obtain ⟨negative, whole, fraction, exponent⟩ := n
  cases negative with
  | true => exact ⟨'-', _, rfl, .inl ⟨rfl, rfl, rfl⟩⟩
  | false =>
    cases whole with
    | nil => exact absurd rfl hn.whole.ne_nil
    | cons c whole => exact ⟨c, _, rfl, .inr ⟨hn.whole.digit c List.mem_cons_self, rfl, rfl⟩⟩

theorem value_digit {c : Char} (h : c.isDigit = true) (fuel : Nat) (s : List Char) :
    value (fuel + 1) (c :: s) = numberTail false (c :: s) := by
  have hskip := Starts.not_blank (.inr h) s
  rw [value, hskip]
  split
  all_goals first
    | rfl
    | next heq =>
      obtain ⟨rfl, -⟩ := List.cons.inj heq
      cases h

/-- A number is read. -/
theorem value_numeral {n : Numeral} (hn : n.WellFormed) (fuel : Nat) {rest : List Char}
    (h : Ends rest) : value (fuel + 1) (n.chars ++ rest) = some (n.document, rest) := by
  have htail := numberTail_chars hn h
  obtain ⟨c, s, hchars, ⟨rfl, hnegative, rfl⟩ | ⟨hdigit, hnegative, htail'⟩⟩ := starts_numeral hn
  · rw [hnegative] at htail
    rw [hchars, List.cons_append, value, Starts.not_blank (.inl (by decide))]
    exact htail
  · rw [hnegative, htail'] at htail
    rw [hchars, List.cons_append, value_digit hdigit]
    exact htail

theorem starts_chars (d : Document) : ∃ c s, chars d = c :: s ∧ Starts c := by
  have hnumeral : ∀ n : Numeral, n.WellFormed → ∃ c s, n.chars = c :: s ∧ Starts c := by
    intro n hn
    obtain ⟨c, s, hchars, ⟨rfl, -⟩ | ⟨hdigit, -⟩⟩ := starts_numeral hn
    · exact ⟨_, _, hchars, .inl (by decide)⟩
    · exact ⟨_, _, hchars, .inr hdigit⟩
  cases d with
  | integer n =>
    rw [chars, ← chars_integerNumeral]
    exact hnumeral _ (wellFormed_integerNumeral n)
  | float x =>
    cases x with
    | finite negative m p =>
      rw [chars, ← chars_floatNumeral]
      exact hnumeral _ (wellFormed_floatNumeral negative m p)
    | _ => exact ⟨_, _, rfl, .inl (by decide)⟩
  | bool b => cases b <;> exact ⟨_, _, rfl, .inl (by decide)⟩
  | _ => exact ⟨_, _, rfl, .inl (by decide)⟩

theorem starts_itemChars {ds : List Document} (h : ds ≠ []) :
    ∃ c s, itemChars ds = c :: s ∧ Starts c := by
  cases ds with
  | nil => exact absurd rfl h
  | cons d ds =>
    obtain ⟨c, s, hchars, hstarts⟩ := starts_chars d
    cases ds with
    | nil => exact ⟨c, s, hchars, hstarts⟩
    | cons d' ds =>
      exact ⟨c, s ++ ',' :: itemChars (d' :: ds), by simp [itemChars, hchars], hstarts⟩

theorem value_list {c : Char} (h : Starts c) (fuel : Nat) (s : List Char) :
    value (fuel + 1) ('[' :: c :: s) =
      (items fuel (c :: s)).map fun (ds, rest) => (.list ds, rest) := by
  simp only [value, Starts.not_blank (c := '[') (.inl (by decide)), h.not_blank]
  split
  · next heq => exact absurd (List.cons.inj heq).1 h.ne_end.1
  · rfl

theorem value_table (fuel : Nat) (s : List Char) :
    value (fuel + 1) ('\x7b' :: '"' :: s) =
      (members fuel ('"' :: s)).map fun (ms, rest) => (tableOf ms, rest) := rfl

theorem quote_memberChars (k : String) (d : Document) (ms : List (String × Document)) :
    ∃ s, memberChars ((k, d) :: ms) = '"' :: s := by
  cases ms with
  | nil => exact ⟨_, rfl⟩
  | cons m ms => exact ⟨_, rfl⟩

/-- What follows a member. -/
def membersAfter (fuel : Nat) (k : List Char) :
    Document × List Char → Option (List (Option (List Char) × Document) × List Char)
  | (d, rest) => match skip rest with
    | '\x7d' :: rest => some ([(some k, d)], rest)
    | ',' :: rest => (members fuel rest).bind fun a => some ((some k, d) :: a.1, a.2)
    | _ => none

theorem members_quoted (k : String) (fuel : Nat) (s : List Char) :
    members (fuel + 1) (quoted k ++ ':' :: s) =
      (value fuel s).bind (membersAfter fuel k.toList) := by
  simp only [quoted, List.cons_append, List.append_assoc, List.nil_append, members,
    Starts.not_blank (c := '"') (.inl (by decide)), stringTail_flatMap, Option.bind_eq_bind,
    Option.bind_some]
  rfl

/-- Members with their keys as they are read. -/
def readMembers (ms : List (String × Document)) : List (Option (List Char) × Document) :=
  ms.map fun m => (some m.1.toList, m.2)

theorem tableOf_readMembers (ms : List (String × Document)) :
    tableOf (readMembers ms) = .table ms := by
  have hmembers : (readMembers ms).mapM (fun m => m.1.map fun k => (String.ofList k, m.2)) =
      some ms := by
    induction ms with
    | nil => rfl
    | cons m ms ih =>
      rw [readMembers, List.map_cons, List.mapM_cons, ← readMembers, ih]
      simp
  rw [tableOf, hmembers]

theorem ends_cons {c : Char} (h : c = ',' ∨ c = ']' ∨ c = '\x7d') (rest : List Char) :
    Ends (c :: rest) := by
  intro c' hc'
  obtain rfl : c = c' := Option.some.inj hc'
  exact h

mutual

/-- **A document is read**, in front of what ends a value. -/
theorem value_chars : ∀ (d : Document) (fuel : Nat) (rest : List Char),
    2 * (chars d).length ≤ fuel → Ends rest → value fuel (chars d ++ rest) = some (reread d, rest)
  | d, 0, rest, hfuel, _ => by
    obtain ⟨c, s, hchars, -⟩ := starts_chars d
    simp [hchars] at hfuel
  | .null, _ + 1, _, _, _ => rfl
  | .moment, _ + 1, _, _, _ => rfl
  | .unreadable, _ + 1, _, _, _ => rfl
  | .bool true, _ + 1, _, _, _ => rfl
  | .bool false, _ + 1, _, _, _ => rfl
  | .integer n, fuel + 1, rest, _, h => by
    rw [chars, ← chars_integerNumeral]
    exact value_numeral (wellFormed_integerNumeral n) fuel h
  | .float .nan, _ + 1, _, _, _ => rfl
  | .float (.infinite _), _ + 1, _, _, _ => rfl
  | .float (.finite negative m p), fuel + 1, rest, _, h => by
    rw [chars, ← chars_floatNumeral]
    exact value_numeral (wellFormed_floatNumeral negative m p) fuel h
  | .text s, fuel + 1, rest, _, _ => by
    have hread := stringTail_flatMap s.toList rest
    simp only [chars, quoted, List.cons_append, List.append_assoc, List.nil_append, value,
      Starts.not_blank (c := '"') (.inl (by decide)), hread]
    simp [reread]
  | .list [], _ + 1, _, _, _ => rfl
  | .list (d :: ds), fuel + 1, rest, hfuel, _ => by
    have hitems := items_chars (d :: ds) fuel rest (by simp) (by simp [chars] at hfuel; omega)
    obtain ⟨c, s, hchars, hstarts⟩ := starts_itemChars (List.cons_ne_nil d ds)
    simp only [chars, List.cons_append, List.append_assoc, List.nil_append]
    rw [hchars] at hitems ⊢
    rw [List.cons_append, value_list hstarts]
    rw [List.cons_append] at hitems
    rw [hitems]
    rfl
  | .table [], _ + 1, _, _, _ => rfl
  | .table ((k, d) :: ms), fuel + 1, rest, hfuel, _ => by
    have hmembers := members_chars ((k, d) :: ms) fuel rest (by simp)
      (by simp [chars] at hfuel; omega)
    obtain ⟨s, hchars⟩ := quote_memberChars k d ms
    simp only [chars, List.cons_append, List.append_assoc, List.nil_append]
    rw [hchars, List.cons_append] at hmembers ⊢
    rw [value_table, hmembers]
    exact congrArg (fun d => some (d, rest)) (tableOf_readMembers _)

theorem items_chars : ∀ (ds : List Document) (fuel : Nat) (rest : List Char), ds ≠ [] →
    2 * (itemChars ds).length + 1 ≤ fuel →
      items fuel (itemChars ds ++ ']' :: rest) = some (rereadItems ds, rest)
  | [], _, _, hne, _ => absurd rfl hne
  | _ :: _, 0, _, _, hfuel => by simp at hfuel
  | [d], fuel + 1, rest, _, hfuel => by
    have hvalue := value_chars d fuel (']' :: rest) (by simp [itemChars] at hfuel; omega)
      (ends_cons (by simp) rest)
    simp only [itemChars, items, hvalue, Option.bind_eq_bind, Option.bind_some]
    rfl
  | d :: d' :: ds, fuel + 1, rest, _, hfuel => by
    have hlength : 2 * (chars d).length + 2 * (itemChars (d' :: ds)).length + 2 ≤ fuel := by
      simp [itemChars] at hfuel ⊢
      omega
    have hvalue := value_chars d fuel (',' :: (itemChars (d' :: ds) ++ ']' :: rest)) (by omega)
      (ends_cons (by simp) _)
    have hitems := items_chars (d' :: ds) fuel rest (by simp) (by omega)
    simp only [itemChars, List.append_assoc, List.cons_append, items, Option.bind_eq_bind]
    rw [hvalue, Option.bind_some]
    change (items fuel (itemChars (d' :: ds) ++ ']' :: rest)).bind _ = _
    rw [hitems]
    rfl

theorem members_chars : ∀ (ms : List (String × Document)) (fuel : Nat) (rest : List Char),
    ms ≠ [] → 2 * (memberChars ms).length + 1 ≤ fuel →
      members fuel (memberChars ms ++ '\x7d' :: rest) =
        some (readMembers (rereadMembers ms), rest)
  | [], _, _, hne, _ => absurd rfl hne
  | _ :: _, 0, _, _, hfuel => by simp at hfuel
  | [(k, d)], fuel + 1, rest, _, hfuel => by
    have hvalue := value_chars d fuel ('\x7d' :: rest) (by simp [memberChars] at hfuel; omega)
      (ends_cons (by simp) rest)
    rw [memberChars, List.append_assoc, List.cons_append, members_quoted, hvalue]
    rfl
  | (k, d) :: m :: ms, fuel + 1, rest, _, hfuel => by
    have hlength : 2 * (chars d).length + 2 * (memberChars (m :: ms)).length + 2 ≤ fuel := by
      simp [memberChars] at hfuel ⊢
      omega
    have hvalue := value_chars d fuel (',' :: (memberChars (m :: ms) ++ '\x7d' :: rest)) (by omega)
      (ends_cons (by simp) _)
    have hmembers := members_chars (m :: ms) fuel rest (by simp) (by omega)
    simp only [memberChars, List.append_assoc, List.cons_append]
    rw [members_quoted, hvalue, Option.bind_some]
    change (members fuel (memberChars (m :: ms) ++ '\x7d' :: rest)).bind _ = _
    rw [hmembers]
    rfl

end

/-- **What has been written is read**, but for its numbers. -/
theorem parse_text (d : Document) : parse (text d) = some (reread d) := by
  have hvalue := value_chars d (2 * (chars d).length + 2) [] (by omega) (by intro c hc; cases hc)
  rw [List.append_nil] at hvalue
  simp only [parse, text, String.toList_ofList, parseChars, hvalue]
  rfl

/-- It is kept with its tables sorted, unless it is nested too deeply. -/
theorem parseKept_text {d : Document} (hreadable : (reread d).isReadable = true)
    (hdepth : (reread d).depth ≤ depthLimit) : parseKept (text d) = some (reread d).merged := by
  simp [parseKept, parse_text, hreadable, hdepth]

end PacketRelay.Json
