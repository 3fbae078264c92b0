/-
  Numerals are read back.

  * `Utf8.decode_ascii`: the bytes of a text below `80` are that text;
  * `Decimal.read_text`: a number in decimal notation reads as itself up to the limit and is too
    large beyond it;
  * `Text.trim_surrounded`, `Text.exists_surrounded`: blanks at the ends of a text are trimmed off,
    and nothing else.
-/
import PacketRelay.Decimal
import PacketRelay.Text.Blank
import PacketRelay.Text.Utf8
import Mathlib.Data.List.Basic
import Mathlib.Data.List.TakeWhile

namespace PacketRelay

/-! ## Bytes of plain characters -/

namespace Utf8

theorem utf8EncodeChar_ascii {c : Char} (h : c.toNat < 0x80) :
    String.utf8EncodeChar c = [UInt8.ofNat c.toNat] := by
  have hc : c.val.toNat ≤ 0x7F := by
    have : c.val.toNat = c.toNat := rfl
    omega
  simp only [String.utf8EncodeChar, if_pos hc]
  rfl

theorem sequence_ascii {c : Char} (h : c.toNat < 0x80) (rest : Bytes) :
    sequence (UInt8.ofNat c.toNat) rest = .char c 1 := by
  have hb : (UInt8.ofNat c.toNat).toNat = c.toNat := by
    rw [UInt8.toNat_ofNat', Nat.mod_eq_of_lt (by omega)]
  simp [sequence, hb, h]

theorem decodeFrom_ascii {s : List Char} (h : ∀ c ∈ s, c.toNat < 0x80) (index : Nat) :
    decodeFrom s.length index (utf8Chars s) = .ok s := by
  induction s generalizing index with
  | nil => rfl
  | cons c s ih =>
    obtain ⟨hc, hs⟩ := List.forall_mem_cons.1 h
    have hbytes : utf8Chars (c :: s) = UInt8.ofNat c.toNat :: utf8Chars s := by
      simp [utf8Chars, utf8EncodeChar_ascii hc]
    simp only [hbytes, List.length_cons, decodeFrom, sequence_ascii hc, List.drop_succ_cons,
      List.drop_zero, ih hs]
    rfl

theorem length_utf8Chars_ascii {s : List Char} (h : ∀ c ∈ s, c.toNat < 0x80) :
    (utf8Chars s).length = s.length := by
  induction s with
  | nil => rfl
  | cons c s ih =>
    obtain ⟨hc, hs⟩ := List.forall_mem_cons.1 h
    have := ih hs
    simp_all [utf8Chars, utf8EncodeChar_ascii hc]

theorem decode_ascii {s : List Char} (h : ∀ c ∈ s, c.toNat < 0x80) :
    decode (utf8 (String.ofList s)) = .ok (String.ofList s) := by
  simp only [decode, utf8, String.toList_ofList, length_utf8Chars_ascii h, decodeFrom_ascii h]
  rfl

theorem decode_ascii_toList {s : String} (h : (s.toList.all fun c => c.toNat < 0x80) = true) :
    decode (utf8 s) = .ok s := by
  have hdecode := decode_ascii fun c hc => of_decide_eq_true (List.all_eq_true.1 h c hc)
  rwa [String.ofList_toList] at hdecode

end Utf8

/-! ## Runs and blanks -/

/-- A run of characters ends where another one follows. -/
theorem Text.span_run {p : Char → Bool} {s rest : List Char} (h : ∀ c ∈ s, p c = true)
    (hrest : ∀ c ∈ rest.head?, p c = false) :
    (s ++ rest).takeWhile p = s ∧ (s ++ rest).dropWhile p = rest := by
  rw [List.takeWhile_append_of_pos h, List.dropWhile_append_of_pos h]
  cases rest with
  | nil => simp
  | cons c rest => simp [hrest c rfl]

/-- The first element without a property stands at one place only. -/
theorem Text.first_unique {α : Type} {P : α → Prop} {before before' after after' : List α} {x x' : α}
    (h : before ++ x :: after = before' ++ x' :: after') (hbefore : ∀ y ∈ before, P y)
    (hx : ¬ P x) (hbefore' : ∀ y ∈ before', P y) (hx' : ¬ P x') : before = before' ∧ x = x' := by
  rcases List.append_eq_append_iff.1 h with ⟨between, rfl, hrest⟩ | ⟨between, rfl, hrest⟩
  · cases between with
    | nil => exact ⟨(List.append_nil _).symm, (List.cons.inj hrest).1⟩
    | cons y between =>
      obtain ⟨rfl, -⟩ := List.cons.inj hrest
      exact absurd (hbefore' x (by simp)) hx
  · cases between with
    | nil => exact ⟨List.append_nil _, (List.cons.inj hrest).1.symm⟩
    | cons y between =>
      obtain ⟨rfl, -⟩ := List.cons.inj hrest
      exact absurd (hbefore x' (by simp)) hx'

/-- Blanks around a text that has none are trimmed off. -/
theorem Text.trim_surrounded {before s after : List Char} (hbefore : ∀ c ∈ before, isBlank c = true)
    (hs : ∀ c ∈ s, isBlank c = false) (hafter : ∀ c ∈ after, isBlank c = true) :
    trim (before ++ s ++ after) = s := by
  have hstart : ∀ {t : List Char}, (∀ c ∈ t, isBlank c = false) → t.dropWhile isBlank = t := by
    intro t ht
    cases t with
    | nil => rfl
    | cons c t => simp [ht c List.mem_cons_self]
  have hend : trimEnd (s ++ after) = s := by
    have hblank : ∀ c ∈ after.reverse, isBlank c = true := fun c hc => hafter c (List.mem_reverse.1 hc)
    rw [trimEnd, List.reverse_append, List.dropWhile_append_of_pos hblank,
      hstart fun c hc => hs c (List.mem_reverse.1 hc), List.reverse_reverse]
  rw [trim, List.append_assoc, List.dropWhile_append_of_pos hbefore]
  cases s with
  | nil =>
    have hnil : after.dropWhile isBlank = [] := List.dropWhile_eq_nil_iff.2 hafter
    rw [List.nil_append, hnil]
    rfl
  | cons c s =>
    rwa [List.cons_append, List.dropWhile_cons_of_neg (by simp [hs c List.mem_cons_self])]

/-- Only blanks are trimmed off. -/
theorem Text.exists_surrounded (s : List Char) : ∃ before after, s = before ++ trim s ++ after ∧
    (∀ c ∈ before, isBlank c = true) ∧ ∀ c ∈ after, isBlank c = true := by
  let rest := s.dropWhile isBlank
  have hrest : rest = trimEnd rest ++ (rest.reverse.takeWhile isBlank).reverse := by
    rw [trimEnd, ← List.reverse_append, List.takeWhile_append_dropWhile, List.reverse_reverse]
  refine ⟨s.takeWhile isBlank, (rest.reverse.takeWhile isBlank).reverse, ?_, ?_, ?_⟩
  · rw [trim, List.append_assoc, ← hrest, List.takeWhile_append_dropWhile]
  · exact fun c hc => List.mem_takeWhile_imp hc
  · exact fun c hc => List.mem_takeWhile_imp (List.mem_reverse.1 hc)

/-! ## Decimal notation -/

namespace Decimal

theorem digits_of_lt {n : Nat} (h : n < 10) : digits n = [n.digitChar] :=
  Nat.toDigits_of_lt_base h

theorem digits_of_le {n : Nat} (h : 10 ≤ n) :
    digits n = digits (n / 10) ++ [(n % 10).digitChar] :=
  Nat.toDigits_of_base_le (by decide) h

theorem digits_ne_nil (n : Nat) : digits n ≠ [] := by
  rcases Nat.lt_or_ge n 10 with h | h
  · simp [digits_of_lt h]
  · simp [digits_of_le h]

/-- Every character of a number is a digit. -/
theorem mem_digits {n : Nat} {c : Char} (h : c ∈ digits n) : ∃ d < 10, c = d.digitChar := by
  induction n using Nat.strongRecOn with
  | _ n ih =>
    rcases Nat.lt_or_ge n 10 with hn | hn
    · rw [digits_of_lt hn, List.mem_singleton] at h
      exact ⟨n, hn, h⟩
    · rw [digits_of_le hn, List.mem_append, List.mem_singleton] at h
      rcases h with h | h
      · exact ih (n / 10) (by omega) h
      · exact ⟨n % 10, Nat.mod_lt _ (by decide), h⟩

theorem digitChar_spec {d : Nat} (h : d < 10) :
    digitValue? d.digitChar = some d ∧ d.digitChar.toNat < 0x80 ∧ d.digitChar ≠ '+' ∧
      Text.isBlank d.digitChar = false := by
  have : ∀ d < 10, digitValue? d.digitChar = some d ∧ d.digitChar.toNat < 0x80 ∧
      d.digitChar ≠ '+' ∧ Text.isBlank d.digitChar = false := by decide
  exact this d h

theorem readDigits_append (limit n : Nat) (a b : List Char) :
    readDigits limit n (a ++ b) = (readDigits limit n a).bind (readDigits limit · b) := by
  induction a generalizing n with
  | nil => rfl
  | cons c a ih =>
    simp only [List.cons_append, readDigits]
    split
    · rfl
    · split_ifs
      · exact ih _
      · rfl

theorem readDigits_digitChar {limit n d : Nat} (h : d < 10) :
    readDigits limit n [d.digitChar] =
      if n * 10 + d ≤ limit then .ok (n * 10 + d) else .error .tooLarge := by
  simp only [readDigits, (digitChar_spec h).1]

theorem readDigits_digits (limit n : Nat) :
    readDigits limit 0 (digits n) = if n ≤ limit then .ok n else .error .tooLarge := by
  induction n using Nat.strongRecOn with
  | _ n ih =>
    rcases Nat.lt_or_ge n 10 with hn | hn
    · rw [digits_of_lt hn, readDigits_digitChar hn]
      simp
    · have hdiv : n / 10 * 10 + n % 10 = n := by omega
      rw [digits_of_le hn, readDigits_append, ih (n / 10) (by omega)]
      by_cases hl : n / 10 ≤ limit
      · simp only [if_pos hl, Except.bind]
        rw [readDigits_digitChar (Nat.mod_lt _ (by decide)), hdiv]
      · rw [if_neg hl, if_neg (by omega)]
        rfl

/-- **Decimal notation is read back.** -/
theorem read_text (limit n : Nat) :
    read limit (text n) = if n ≤ limit then .ok n else .error .tooLarge := by
  rw [read, text, String.toList_ofList]
  rw [← readDigits_digits]
  cases h : digits n with
  | nil => exact absurd h (digits_ne_nil n)
  | cons c s =>
    obtain ⟨d, hd, hc⟩ := mem_digits (h ▸ List.mem_cons_self : c ∈ digits n)
    have hplus := (digitChar_spec hd).2.2.1
    rw [← hc] at hplus
    unfold readChars
    split <;> simp_all

theorem text_injective {n m : Nat} (h : text n = text m) : n = m := by
  have hread := read_text (max n m) n
  rw [h, read_text, if_pos (Nat.le_max_left n m), if_pos (Nat.le_max_right n m)] at hread
  exact (Except.ok.inj hread).symm

theorem ascii_digits {n : Nat} {c : Char} (h : c ∈ digits n) : c.toNat < 0x80 := by
  obtain ⟨d, hd, rfl⟩ := mem_digits h
  exact (digitChar_spec hd).2.1

theorem decode_text (n : Nat) : Utf8.decode (utf8 (text n)) = .ok (text n) :=
  Utf8.decode_ascii fun _ => ascii_digits

theorem trim_digits (n : Nat) : Text.trim (digits n) = digits n := by
  have hblank : ∀ c ∈ digits n, Text.isBlank c = false := by
    intro c hc
    obtain ⟨d, hd, rfl⟩ := mem_digits hc
    exact (digitChar_spec hd).2.2.2
  simpa using @Text.trim_surrounded [] (digits n) [] (by simp) hblank (by simp)

theorem trimmed_text (n : Nat) : Text.trimmed (text n) = text n := by
  rw [Text.trimmed, text, String.toList_ofList, trim_digits]

end Decimal

end PacketRelay
