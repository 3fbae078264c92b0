/-
  The texts that are hexadecimal.

  * `Spells`: two digits for each byte, in either case;
  * `decode_eq_ok_iff`, `decode_eq_oddLength_iff`, `decode_eq_invalidCharacter_iff`: each answer of
    `decode` and the digits it is given to;
  * `decodeText_eq_ok_iff`: blanks and one prefix may stand around what is read.
-/
import PacketRelay.Hex
import PacketRelay.Proofs.Text.Numeral
import Mathlib.Tactic.SplitIfs

namespace PacketRelay.Hex

/-! ## Digits -/

/-- A character is the digit of a value, in either case. -/
def IsDigit (n : Nat) (c : Char) : Prop := c = digit n ∨ c = (digit n).toUpper

theorem charValue?_eq_some_iff {c : Char} {n : Nat} :
    charValue? c = some n ↔ n < 16 ∧ IsDigit n c := by
  constructor
  · intro h
    have hascii : c.toNat < 0x80 := by
      by_contra hc
      rw [charValue?, if_neg hc] at h
      cases h
    have hall : ∀ m < 0x80, (charValue? (Char.ofNat m)).all fun n =>
        n < 16 ∧ (Char.ofNat m = digit n ∨ Char.ofNat m = (digit n).toUpper) := by decide +kernel
    have hc := hall c.toNat hascii
    rw [Char.ofNat_toNat, h] at hc
    simpa [IsDigit] using hc
  · rintro ⟨hn, h⟩
    have hall : ∀ n < 16, charValue? (digit n) = some n ∧ charValue? (digit n).toUpper = some n := by
      decide
    rcases h with rfl | rfl
    · exact (hall n hn).1
    · exact (hall n hn).2

theorem IsDigit.not_blank {n : Nat} {c : Char} (h : IsDigit n c) (hn : n < 16) :
    Text.isBlank c = false := by
  have hall : ∀ n < 16, Text.isBlank (digit n) = false ∧ Text.isBlank (digit n).toUpper = false := by
    decide
  rcases h with rfl | rfl
  · exact (hall n hn).1
  · exact (hall n hn).2

/-- A byte that stands for a digit of either case. -/
def IsDigitByte (x : UInt8) : Prop :=
  (48 ≤ x.toNat ∧ x.toNat ≤ 57) ∨ (65 ≤ x.toNat ∧ x.toNat ≤ 70) ∨ (97 ≤ x.toNat ∧ x.toNat ≤ 102)

theorem digitValue?_cases (x : UInt8) :
    (IsDigitByte x ∧ ∃ n, digitValue? x = some n) ∨ (¬ IsDigitByte x ∧ digitValue? x = none) := by
  unfold IsDigitByte digitValue?
  simp only
  split_ifs with h₁ h₂ h₃
  · exact .inl ⟨.inl h₁, _, rfl⟩
  · exact .inl ⟨.inr (.inr h₂), _, rfl⟩
  · exact .inl ⟨.inr (.inl h₃), _, rfl⟩
  · exact .inr ⟨by omega, rfl⟩

theorem digitValue?_of_le {x : UInt8} (h : 0x80 ≤ x.toNat) : digitValue? x = none := by
  simp only [digitValue?]
  rw [if_neg (by omega), if_neg (by omega), if_neg (by omega)]

/-- The first byte of a character tells whether it is a digit, and a digit has no other. -/
theorem utf8EncodeChar_eq (c : Char) : ∃ x more, String.utf8EncodeChar c = x :: more ∧
    digitValue? x = charValue? c ∧ (charValue? c ≠ none → more = []) := by
  by_cases hascii : c.toNat < 0x80
  · refine ⟨_, [], Utf8.utf8EncodeChar_ascii hascii, ?_, fun _ => rfl⟩
    rw [charValue?, if_pos hascii]
  · have hnone : charValue? c = none := by rw [charValue?, if_neg hascii]
    have hlong : ∃ x more, String.utf8EncodeChar c = x :: more ∧ 0x80 ≤ x.toNat := by
      have hval : ¬ c.val.toNat ≤ 0x7F := by
        have : c.val.toNat = c.toNat := rfl
        omega
      -- every longer sequence starts with a byte that marks its length
      simp only [String.utf8EncodeChar, if_neg hval]
      split_ifs <;> refine ⟨_, _, rfl, ?_⟩ <;> simp only [UInt8.toNat_ofNat'] <;> omega
    obtain ⟨x, more, hc, hx⟩ := hlong
    exact ⟨x, more, hc, by rw [digitValue?_of_le hx, hnone], fun h => absurd hnone h⟩

theorem utf8Chars_cons (c : Char) (cs : List Char) :
    utf8Chars (c :: cs) = String.utf8EncodeChar c ++ utf8Chars cs := rfl

theorem utf8Chars_digit {n : Nat} {c : Char} (h : charValue? c = some n) (cs : List Char) :
    ∃ x, utf8Chars (c :: cs) = x :: utf8Chars cs ∧ digitValue? x = some n := by
  obtain ⟨x, more, hc, hx, hmore⟩ := utf8EncodeChar_eq c
  obtain rfl := hmore (by simp [h])
  exact ⟨x, by rw [utf8Chars_cons, hc]; rfl, hx.trans h⟩

theorem utf8Chars_other {c : Char} (h : charValue? c = none) (cs : List Char) :
    ∃ x more, utf8Chars (c :: cs) = x :: more ∧ digitValue? x = none := by
  obtain ⟨x, more, hc, hx, -⟩ := utf8EncodeChar_eq c
  exact ⟨x, more ++ utf8Chars cs, by rw [utf8Chars_cons, hc]; rfl, hx.trans h⟩

/-- Where all bytes of a text stand for digits, its characters are these digits. -/
theorem digits_of_bytes {cs : List Char} (h : ∀ y ∈ utf8Chars cs, IsDigitByte y) :
    (∀ c ∈ cs, charValue? c ≠ none) ∧ (utf8Chars cs).length = cs.length := by
  induction cs with
  | nil => exact ⟨by simp, rfl⟩
  | cons c cs ih =>
    cases hc : charValue? c with
    | none =>
      obtain ⟨x, more, hbytes, hx⟩ := utf8Chars_other hc cs
      rcases digitValue?_cases x with ⟨-, n, hsome⟩ | ⟨hnot, -⟩
      · cases hsome.symm.trans hx
      · exact absurd (h x (by simp [hbytes])) hnot
    | some n =>
      obtain ⟨x, hbytes, -⟩ := utf8Chars_digit hc cs
      rw [hbytes] at h ⊢
      obtain ⟨hdigits, hlength⟩ := ih (List.forall_mem_cons.1 h).2
      exact ⟨List.forall_mem_cons.2 ⟨by simp [hc], hdigits⟩, by simp [hlength]⟩

/-! ## Texts that spell bytes -/

/-- A text of two digits for each byte, in either case. -/
inductive Spells : List Char → Bytes → Prop
  | nil : Spells [] []
  | cons {hi lo : Char} {x : UInt8} {cs : List Char} {b : Bytes} :
    IsDigit (x.toNat / 16) hi → IsDigit (x.toNat % 16) lo → Spells cs b →
    Spells (hi :: lo :: cs) (x :: b)

theorem spells_encodeChars (b : Bytes) : Spells (encodeChars b) b := by
  induction b with
  | nil => exact .nil
  | cons x b ih => exact .cons (.inl rfl) (.inl rfl) ih

theorem Spells.digits {cs : List Char} {b : Bytes} (h : Spells cs b) :
    ∀ c ∈ cs, ∃ n < 16, IsDigit n c := by
  induction h with
  | nil => simp
  | @cons hi lo x cs b hhi hlo _ ih =>
    have hx := x.toNat_lt
    exact List.forall_mem_cons.2 ⟨⟨_, by omega, hhi⟩,
      List.forall_mem_cons.2 ⟨⟨_, by omega, hlo⟩, ih⟩⟩

/-- An even number of digits spells bytes. -/
theorem exists_spells : ∀ {cs : List Char}, cs.length % 2 = 0 → (∀ c ∈ cs, charValue? c ≠ none) →
    ∃ b, Spells cs b
  | [], _, _ => ⟨[], .nil⟩
  | [c], heven, _ => by simp at heven
  | hi :: lo :: cs, heven, hdigits => by
    simp only [List.length_cons] at heven
    obtain ⟨hhi, hrest⟩ := List.forall_mem_cons.1 hdigits
    obtain ⟨hlo, hrest⟩ := List.forall_mem_cons.1 hrest
    obtain ⟨h, hh⟩ := Option.ne_none_iff_exists'.1 hhi
    obtain ⟨l, hl⟩ := Option.ne_none_iff_exists'.1 hlo
    obtain ⟨b, hb⟩ := exists_spells (by omega) hrest
    obtain ⟨hh, hhi⟩ := charValue?_eq_some_iff.1 hh
    obtain ⟨hl, hlo⟩ := charValue?_eq_some_iff.1 hl
    have hbyte : (UInt8.ofNat (h * 16 + l)).toNat = h * 16 + l := by
      rw [UInt8.toNat_ofNat']
      omega
    refine ⟨UInt8.ofNat (h * 16 + l) :: b, .cons ?_ ?_ hb⟩
    · rwa [hbyte, show (h * 16 + l) / 16 = h by omega]
    · rwa [hbyte, show (h * 16 + l) % 16 = l by omega]

theorem decodePairs_of_spells {cs : List Char} {b : Bytes} (h : Spells cs b) (index : Nat) :
    (utf8Chars cs).length = 2 * b.length ∧ decodePairs index (utf8Chars cs) = .ok b := by
  induction h generalizing index with
  | nil => exact ⟨rfl, rfl⟩
  | @cons hi lo x cs b hhi hlo _ ih =>
    have hx := x.toNat_lt
    obtain ⟨y, hy, hhigh⟩ := utf8Chars_digit
      (charValue?_eq_some_iff.2 ⟨(by omega : x.toNat / 16 < 16), hhi⟩) (lo :: cs)
    obtain ⟨z, hz, hlow⟩ := utf8Chars_digit
      (charValue?_eq_some_iff.2 ⟨(by omega : x.toNat % 16 < 16), hlo⟩) cs
    obtain ⟨hlength, hrest⟩ := ih (index + 2)
    have hbyte : UInt8.ofNat (x.toNat / 16 * 16 + x.toNat % 16) = x := by
      rw [Nat.div_add_mod', UInt8.ofNat_toNat]
    rw [hy, hz]
    constructor
    · simp only [List.length_cons, hlength]
      omega
    · simp only [decodePairs, digitAt, hhigh, hlow, hrest, Except.bind, bind, pure, Except.pure, hbyte]

/-! ## The first fault -/

/-- The first byte that stands for no digit, and its index. -/
def FirstFault (bytes : Bytes) (x : UInt8) (index : Nat) : Prop :=
  ∃ before after, bytes = before ++ x :: after ∧ before.length = index ∧
    (∀ y ∈ before, IsDigitByte y) ∧ ¬ IsDigitByte x

theorem FirstFault.unique {bytes : Bytes} {x x' : UInt8} {i i' : Nat} (h : FirstFault bytes x i)
    (h' : FirstFault bytes x' i') : x = x' ∧ i = i' := by
  obtain ⟨before, after, hbytes, rfl, hbefore, hx⟩ := h
  obtain ⟨before', after', hbytes', rfl, hbefore', hx'⟩ := h'
  obtain ⟨rfl, rfl⟩ := Text.first_unique (hbytes.symm.trans hbytes') hbefore hx hbefore' hx'
  exact ⟨rfl, rfl⟩

/-- Pairs of digits are read, or the first byte that is none is reported. -/
theorem decodePairs_cases : ∀ (bytes : Bytes) (index : Nat), bytes.length % 2 = 0 →
    ((∀ y ∈ bytes, IsDigitByte y) ∧ ∃ b, decodePairs index bytes = .ok b) ∨
    ∃ x i, FirstFault bytes x i ∧ decodePairs index bytes = .error (.invalidCharacter x (index + i))
  | [], index, _ => .inl ⟨by simp, [], rfl⟩
  | [x], _, heven => by simp at heven
  | hi :: lo :: bytes, index, heven => by
    rcases digitValue?_cases hi with ⟨hhi, h, hhigh⟩ | ⟨hhi, hhigh⟩
    · rcases digitValue?_cases lo with ⟨hlo, l, hlow⟩ | ⟨hlo, hlow⟩
      · rcases decodePairs_cases bytes (index + 2) (by simp only [List.length_cons] at heven; omega) with
          ⟨hall, b, hb⟩ | ⟨x, i, ⟨before, after, rfl, rfl, hbefore, hx⟩, herror⟩
        · refine .inl ⟨by simpa using ⟨hhi, hlo, hall⟩, UInt8.ofNat (h * 16 + l) :: b, ?_⟩
          simp only [decodePairs, digitAt, hhigh, hlow, hb]
          rfl
        · refine .inr ⟨x, before.length + 2, ⟨hi :: lo :: before, after, rfl, rfl, ?_, hx⟩, ?_⟩
          · simpa using ⟨hhi, hlo, hbefore⟩
          · simp only [decodePairs, digitAt, hhigh, hlow, herror]
            rw [Nat.add_assoc, Nat.add_comm 2]
            rfl
      · refine .inr ⟨lo, 1, ⟨[hi], bytes, rfl, rfl, by simpa using hhi, hlo⟩, ?_⟩
        simp only [decodePairs, digitAt, hhigh, hlow]
        rfl
    · refine .inr ⟨hi, 0, ⟨[], lo :: bytes, rfl, rfl, by simp, hhi⟩, ?_⟩
      simp only [decodePairs, digitAt, hhigh]
      rfl

/-- The three answers of `decode`. -/
theorem decode_cases (bytes : Bytes) :
    (bytes.length % 2 = 1 ∧ decode bytes = .error .oddLength) ∨
    (bytes.length % 2 = 0 ∧ (∀ y ∈ bytes, IsDigitByte y) ∧ ∃ b, decode bytes = .ok b) ∨
    ∃ x i, bytes.length % 2 = 0 ∧ FirstFault bytes x i ∧
      decode bytes = .error (.invalidCharacter x i) := by
  rcases Nat.mod_two_eq_zero_or_one bytes.length with heven | hodd
  · have hdecode : decode bytes = decodePairs 0 bytes := if_neg (by omega)
    rcases decodePairs_cases bytes 0 heven with ⟨hall, hread⟩ | ⟨x, i, hfault, herror⟩
    · exact .inr (.inl ⟨heven, hall, hdecode ▸ hread⟩)
    · rw [Nat.zero_add] at herror
      exact .inr (.inr ⟨x, i, heven, hfault, hdecode.trans herror⟩)
  · exact .inl ⟨hodd, if_pos hodd⟩

/-- **Exactly the texts that spell bytes are read.** -/
theorem decode_eq_ok_iff {cs : List Char} {b : Bytes} :
    decode (utf8Chars cs) = .ok b ↔ Spells cs b := by
  constructor
  · intro h
    rcases decode_cases (utf8Chars cs) with ⟨-, herror⟩ | ⟨heven, hall, -⟩ | ⟨x, i, -, -, herror⟩
    · cases h.symm.trans herror
    · obtain ⟨hdigits, hlength⟩ := digits_of_bytes hall
      obtain ⟨b', hb'⟩ := exists_spells (by rwa [hlength] at heven) hdigits
      have hread : decode (utf8Chars cs) = .ok b' := by
        rw [decode, if_neg (by omega), (decodePairs_of_spells hb' 0).2]
      obtain rfl := Except.ok.inj (h.symm.trans hread)
      exact hb'
    · cases h.symm.trans herror
  · intro h
    obtain ⟨hlength, hread⟩ := decodePairs_of_spells h 0
    rw [decode, if_neg (by omega), hread]

theorem decode_eq_oddLength_iff {bytes : Bytes} :
    decode bytes = .error .oddLength ↔ bytes.length % 2 = 1 := by
  constructor
  · intro h
    rcases decode_cases bytes with ⟨hodd, -⟩ | ⟨-, -, b, hread⟩ | ⟨x, i, -, -, herror⟩
    · exact hodd
    · cases h.symm.trans hread
    · cases h.symm.trans herror
  · exact fun hodd => if_pos hodd

theorem decode_eq_invalidCharacter_iff {bytes : Bytes} {x : UInt8} {i : Nat} :
    decode bytes = .error (.invalidCharacter x i) ↔
      bytes.length % 2 = 0 ∧ FirstFault bytes x i := by
  rcases decode_cases bytes with ⟨hodd, herror⟩ | ⟨-, hall, b, hread⟩ | ⟨x', i', heven, hfault, herror⟩
  · rw [herror]
    exact iff_of_false (by simp) fun h => by omega
  · rw [hread]
    refine iff_of_false (by simp) ?_
    rintro ⟨-, before, after, rfl, -, -, hx⟩
    exact hx (hall x (by simp))
  · rw [herror]
    constructor
    · intro h
      obtain ⟨rfl, rfl⟩ := Error.invalidCharacter.inj (Except.error.inj h)
      exact ⟨heven, hfault⟩
    · rintro ⟨-, h⟩
      obtain ⟨rfl, rfl⟩ := hfault.unique h
      rfl

/-! ## Prefixes and blanks -/

theorem hasPrefix_iff {s : List Char} :
    hasPrefix s = true ↔ ['0', 'x'] <+: s ∨ ['0', 'X'] <+: s := by
  constructor
  · intro h
    unfold hasPrefix at h
    split at h
    · exact .inl ⟨_, rfl⟩
    · exact .inr ⟨_, rfl⟩
    · cases h
  · rintro (⟨rest, rfl⟩ | ⟨rest, rfl⟩) <;> rfl

/-- Nothing, or one of the two prefixes. -/
def AtMostPrefix (s : List Char) : Prop := s = [] ∨ s = ['0', 'x'] ∨ s = ['0', 'X']

theorem exists_prefix (s : List Char) : ∃ pre, AtMostPrefix pre ∧ s = pre ++ dropPrefix s := by
  unfold dropPrefix
  split
  next h =>
    rcases hasPrefix_iff.1 h with ⟨rest, rfl⟩ | ⟨rest, rfl⟩
    · exact ⟨['0', 'x'], .inr (.inl rfl), rfl⟩
    · exact ⟨['0', 'X'], .inr (.inr rfl), rfl⟩
  · exact ⟨[], .inl rfl, rfl⟩

theorem dropPrefix_append {pre s : List Char} (hpre : AtMostPrefix pre) (hs : hasPrefix s = false) :
    dropPrefix (pre ++ s) = s := by
  rcases hpre with rfl | rfl | rfl
  · simp [dropPrefix, hs]
  · rfl
  · rfl

theorem AtMostPrefix.not_blank {pre : List Char} (h : AtMostPrefix pre) :
    ∀ c ∈ pre, Text.isBlank c = false := by
  have hzero : Text.isBlank '0' = false := rfl
  have hx : Text.isBlank 'x' = false ∧ Text.isBlank 'X' = false := ⟨rfl, rfl⟩
  rcases h with rfl | rfl | rfl
  · simp
  · simp [hzero, hx.1]
  · simp [hzero, hx.2]

/-- No `x` is a digit, so what spells bytes has no prefix. -/
theorem Spells.hasPrefix_eq {cs : List Char} {b : Bytes} (h : Spells cs b) : hasPrefix cs = false := by
  have hx : ∀ c ∈ cs, charValue? c ≠ none := by
    intro c hc
    obtain ⟨n, hn, hdigit⟩ := h.digits c hc
    simp [charValue?_eq_some_iff.2 ⟨hn, hdigit⟩]
  by_contra hprefix
  rcases hasPrefix_iff.1 (Bool.not_eq_false _ ▸ hprefix) with ⟨rest, rfl⟩ | ⟨rest, rfl⟩
  · exact hx 'x' (by simp) rfl
  · exact hx 'X' (by simp) rfl

/-- What is left of a text without the blanks at its ends and one prefix. -/
def stripped (s : String) : List Char := dropPrefix (Text.trim s.toList)

/-- Blanks, one prefix at most and digits that spell bytes. -/
def Written (s : List Char) (b : Bytes) : Prop :=
  ∃ before pre cs after, s = before ++ (pre ++ cs) ++ after ∧
    (∀ c ∈ before, Text.isBlank c = true) ∧ AtMostPrefix pre ∧ Spells cs b ∧
    ∀ c ∈ after, Text.isBlank c = true

/-- **Blanks and one prefix may stand around what is read.** -/
theorem decodeText_eq_ok_iff {s : String} {b : Bytes} : decodeText s = .ok b ↔ Written s.toList b := by
  change decode (utf8Chars (stripped s)) = .ok b ↔ _
  rw [decode_eq_ok_iff]
  constructor
  · intro h
    obtain ⟨before, after, hs, hbefore, hafter⟩ := Text.exists_surrounded s.toList
    obtain ⟨pre, hpre, hcut⟩ := exists_prefix (Text.trim s.toList)
    exact ⟨before, pre, stripped s, after, by rw [stripped, ← hcut, ← hs], hbefore, hpre, h, hafter⟩
  · rintro ⟨before, pre, cs, after, hs, hbefore, hpre, hcs, hafter⟩
    have hblank : ∀ c ∈ pre ++ cs, Text.isBlank c = false := by
      refine List.forall_mem_append.2 ⟨hpre.not_blank, fun c hc => ?_⟩
      obtain ⟨n, hn, hdigit⟩ := hcs.digits c hc
      exact hdigit.not_blank hn
    rwa [stripped, hs, Text.trim_surrounded hbefore hblank hafter, dropPrefix_append hpre hcs.hasPrefix_eq]

theorem withPrefix_of_hasPrefix {s : String} (h : hasPrefix s.toList = true) : withPrefix s = s :=
  if_pos h

theorem toList_withPrefix {s : String} (h : hasPrefix s.toList = false) :
    (withPrefix s).toList = '0' :: 'x' :: s.toList := by
  simp [withPrefix, h]

theorem hasPrefix_withPrefix (s : String) : hasPrefix (withPrefix s).toList = true := by
  cases h : hasPrefix s.toList with
  | false => rw [toList_withPrefix h]; rfl
  | true => rwa [withPrefix_of_hasPrefix h]

/-- A prefix is taken off again exactly where it has been put on. -/
theorem withoutPrefix_withPrefix_iff {s : String} :
    withoutPrefix (withPrefix s) = s ↔ hasPrefix s.toList = false := by
  cases h : hasPrefix s.toList with
  | false =>
    rw [withoutPrefix, toList_withPrefix h]
    exact iff_of_true String.ofList_toList rfl
  | true =>
    refine iff_of_false (fun heq => ?_) (by simp)
    have hdrop : s.toList.drop 2 = s.toList := by
      rw [withPrefix_of_hasPrefix h, withoutPrefix, dropPrefix, if_pos h] at heq
      rw [← String.toList_ofList (l := s.toList.drop 2), heq]
    have hlength := congrArg List.length hdrop
    rcases hasPrefix_iff.1 h with ⟨rest, hrest⟩ | ⟨rest, hrest⟩ <;>
      simp [← hrest] at hlength <;> omega

/-- **The texts that are read, what the others are refused for, and the prefix.** A text is read
    as the bytes that its digits spell between blanks and after one prefix at most. Of the others
    those with an odd number of bytes are refused as such, and the rest for their first byte that
    is no digit, by its index in what is left of the text. So what has been written is read back,
    in either case, with or without a prefix and between blanks; a second prefix is never added,
    and exactly a text without a prefix is the same after one is added and taken off. -/
theorem decodeText_reads :
    (∀ s b, decodeText s = .ok b ↔ Written s.toList b) ∧
    (∀ s, decodeText s = .error .oddLength ↔ (utf8Chars (stripped s)).length % 2 = 1) ∧
    (∀ s x i, decodeText s = .error (.invalidCharacter x i) ↔
      (utf8Chars (stripped s)).length % 2 = 0 ∧ FirstFault (utf8Chars (stripped s)) x i) ∧
    (∀ b, Spells (encode b).toList b) ∧
    (∀ b cs before after, Spells cs b → (∀ c ∈ before, Text.isBlank c = true) →
      (∀ c ∈ after, Text.isBlank c = true) →
      decodeText (String.ofList (before ++ cs ++ after)) = .ok b ∧
      decodeText (String.ofList (before ++ (withPrefix (String.ofList cs)).toList ++ after)) = .ok b) ∧
    (∀ s, withPrefix (withPrefix s) = withPrefix s) ∧
    ∀ s, withoutPrefix (withPrefix s) = s ↔
      ¬ ['0', 'x'] <+: s.toList ∧ ¬ ['0', 'X'] <+: s.toList := by
  refine ⟨fun s b => decodeText_eq_ok_iff, fun s => decode_eq_oddLength_iff,
    fun s x i => decode_eq_invalidCharacter_iff, fun b => ?_, ?_,
    fun s => withPrefix_of_hasPrefix (hasPrefix_withPrefix s), fun s => ?_⟩
  · rw [encode, String.toList_ofList]
    exact spells_encodeChars b
  · intro b cs before after hcs hbefore hafter
    constructor
    · refine decodeText_eq_ok_iff.2 ⟨before, [], cs, after, ?_, hbefore, .inl rfl, hcs, hafter⟩
      rw [String.toList_ofList, List.nil_append]
    · refine decodeText_eq_ok_iff.2 ⟨before, ['0', 'x'], cs, after, ?_, hbefore, .inr (.inl rfl), hcs,
        hafter⟩
      rw [String.toList_ofList, toList_withPrefix (by simpa using hcs.hasPrefix_eq), String.toList_ofList]
      rfl
  · rw [withoutPrefix_withPrefix_iff, Bool.eq_false_iff, Ne, hasPrefix_iff, not_or]

end PacketRelay.Hex
