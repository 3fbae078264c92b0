/-
  Bytes that are a text are its bytes.

  * `sequence_char`: a character that is read stands there in its shortest form;
  * `utf8_of_decode`: bytes that are read as a text are the bytes of this text;
  * `decodeLossy_of_decode`: nothing is replaced in a text;
  * `utf8_injective`: no two texts have the same bytes.
-/
import PacketRelay.Text.Utf8
import Mathlib.Tactic.SplitIfs

namespace PacketRelay.Utf8

/-! ## One character -/

theorem val_ofNat {n : Nat} (h : n.isValidChar) : (Char.ofNat n).val.toNat = n := by
  rw [Char.ofNat, dif_pos h]
  rfl

/-- A character of two bytes. -/
theorem encode_two {b c : UInt8} (hb : 0xC2 ≤ b.toNat ∧ b.toNat ≤ 0xDF)
    (hc : 0x80 ≤ c.toNat ∧ c.toNat ≤ 0xBF) :
    String.utf8EncodeChar (Char.ofNat (b.toNat % 32 * 64 + (c.toNat - 0x80))) = [b, c] := by
  have hvalid : (b.toNat % 32 * 64 + (c.toNat - 0x80)).isValidChar := .inl (by omega)
  simp only [String.utf8EncodeChar, val_ofNat hvalid]
  rw [if_neg (by omega), if_pos (by omega)]
  have hfirst : (b.toNat % 32 * 64 + (c.toNat - 0x80)) / 64 % 32 + 192 = b.toNat := by omega
  have hsecond : (b.toNat % 32 * 64 + (c.toNat - 0x80)) % 64 + 128 = c.toNat := by omega
  rw [hfirst, hsecond, UInt8.ofNat_toNat, UInt8.ofNat_toNat]

/-- A character of three bytes that is no surrogate. -/
theorem encode_three {b c d : UInt8} (hb : 0xE0 ≤ b.toNat ∧ b.toNat ≤ 0xEF)
    (hc : 0x80 ≤ c.toNat ∧ c.toNat ≤ 0xBF) (hd : 0x80 ≤ d.toNat ∧ d.toNat ≤ 0xBF)
    (hlong : b.toNat = 0xE0 → 0xA0 ≤ c.toNat) (hplain : b.toNat = 0xED → c.toNat ≤ 0x9F) :
    String.utf8EncodeChar (Char.ofNat ((b.toNat % 16 * 64 + (c.toNat - 0x80)) * 64 +
      (d.toNat - 0x80))) = [b, c, d] := by
  generalize hn : (b.toNat % 16 * 64 + (c.toNat - 0x80)) * 64 + (d.toNat - 0x80) = n
  have hvalid : n.isValidChar := by
    rw [Nat.isValidChar]
    omega
  simp only [String.utf8EncodeChar, val_ofNat hvalid]
  rw [if_neg (by omega), if_neg (by omega), if_pos (by omega)]
  have hfirst : n / 4096 % 16 + 224 = b.toNat := by omega
  have hsecond : n / 64 % 64 + 128 = c.toNat := by omega
  have hthird : n % 64 + 128 = d.toNat := by omega
  rw [hfirst, hsecond, hthird, UInt8.ofNat_toNat, UInt8.ofNat_toNat, UInt8.ofNat_toNat]

/-- A character of four bytes. -/
theorem encode_four {b c d e : UInt8} (hb : 0xF0 ≤ b.toNat ∧ b.toNat ≤ 0xF4)
    (hc : 0x80 ≤ c.toNat ∧ c.toNat ≤ 0xBF) (hd : 0x80 ≤ d.toNat ∧ d.toNat ≤ 0xBF)
    (he : 0x80 ≤ e.toNat ∧ e.toNat ≤ 0xBF)
    (hlong : b.toNat = 0xF0 → 0x90 ≤ c.toNat) (hlast : b.toNat = 0xF4 → c.toNat ≤ 0x8F) :
    String.utf8EncodeChar (Char.ofNat (((b.toNat % 8 * 64 + (c.toNat - 0x80)) * 64 +
      (d.toNat - 0x80)) * 64 + (e.toNat - 0x80))) = [b, c, d, e] := by
  generalize hn : ((b.toNat % 8 * 64 + (c.toNat - 0x80)) * 64 + (d.toNat - 0x80)) * 64 +
    (e.toNat - 0x80) = n
  have hvalid : n.isValidChar := by
    rw [Nat.isValidChar]
    omega
  simp only [String.utf8EncodeChar, val_ofNat hvalid]
  rw [if_neg (by omega), if_neg (by omega), if_neg (by omega)]
  have hfirst : n / 262144 % 8 + 240 = b.toNat := by omega
  have hsecond : n / 4096 % 64 + 128 = c.toNat := by omega
  have hthird : n / 64 % 64 + 128 = d.toNat := by omega
  have hfourth : n % 64 + 128 = e.toNat := by omega
  rw [hfirst, hsecond, hthird, hfourth, UInt8.ofNat_toNat, UInt8.ofNat_toNat, UInt8.ofNat_toNat,
    UInt8.ofNat_toNat]

/-- The first two bytes of a sequence and its length. -/
theorem lead_cases {b lo hi size : Nat} (h : lead b = some (lo, hi, size)) :
    (size = 2 ∧ (0xC2 ≤ b ∧ b ≤ 0xDF) ∧ lo = 0x80 ∧ hi = 0xBF) ∨
    (size = 3 ∧ (0xE0 ≤ b ∧ b ≤ 0xEF) ∧ (0x80 ≤ lo ∧ hi ≤ 0xBF) ∧
      (b = 0xE0 → lo = 0xA0) ∧ (b = 0xED → hi = 0x9F)) ∨
    (size = 4 ∧ (0xF0 ≤ b ∧ b ≤ 0xF4) ∧ (0x80 ≤ lo ∧ hi ≤ 0xBF) ∧
      (b = 0xF0 → lo = 0x90) ∧ (b = 0xF4 → hi = 0x8F)) := by
  unfold lead at h
  split_ifs at h <;> simp only [Option.some.injEq, Prod.mk.injEq] at h <;> omega

/-- One more byte of a sequence. -/
theorem tail_succ {acc size left n : Nat} {rest : Bytes} {c : Char}
    (h : tail acc size (left + 1) rest = .char c n) :
    ∃ b more, rest = b :: more ∧ (0x80 ≤ b.toNat ∧ b.toNat ≤ 0xBF) ∧
      tail (acc * 64 + (b.toNat - 0x80)) (size + 1) left more = .char c n := by
  cases rest with
  | nil => cases h
  | cons b more =>
    rw [tail] at h
    split at h
    · next hb => exact ⟨b, more, rfl, hb, h⟩
    · cases h

/-- **A character that is read** stands there in its shortest form. -/
theorem sequence_char {b : UInt8} {rest : Bytes} {c : Char} {n : Nat}
    (h : sequence b rest = .char c n) :
    String.utf8EncodeChar c ++ (b :: rest).drop n = b :: rest := by
  unfold sequence at h
  split at h
  · next hascii =>
    obtain ⟨rfl, rfl⟩ := Front.char.inj h
    have hvalid : b.toNat.isValidChar := .inl (by omega)
    simp only [String.utf8EncodeChar, val_ofNat hvalid]
    rw [if_pos (by omega), UInt8.ofNat_toNat]
    rfl
  split at h
  · cases h
  next lo hi size hlead =>
  split at h
  · cases h
  next c₁ rest =>
  split at h
  · next hsecond =>
    rcases lead_cases hlead with ⟨rfl, hb, rfl, rfl⟩ | ⟨rfl, hb, hrange, hlong, hplain⟩ |
      ⟨rfl, hb, hrange, hlong, hlast⟩
    · obtain ⟨rfl, rfl⟩ := Front.char.inj h
      have hencode := encode_two hb hsecond
      exact congrArg (· ++ rest) hencode
    · obtain ⟨d, rest, rfl, hd, h⟩ := tail_succ h
      obtain ⟨rfl, rfl⟩ := Front.char.inj h
      have hencode := encode_three hb (c := c₁) (by omega) hd (by omega) (by omega)
      exact congrArg (· ++ rest) hencode
    · obtain ⟨d, rest, rfl, hd, h⟩ := tail_succ h
      obtain ⟨e, rest, rfl, he, h⟩ := tail_succ h
      obtain ⟨rfl, rfl⟩ := Front.char.inj h
      have hencode := encode_four hb (c := c₁) (by omega) hd he (by omega) (by omega)
      exact congrArg (· ++ rest) hencode
  · cases h

/-! ## A whole text -/

theorem decodeFrom_char {fuel index : Nat} {b : UInt8} {rest : Bytes} {s : List Char}
    (h : decodeFrom (fuel + 1) index (b :: rest) = .ok s) :
    ∃ c n more, sequence b rest = .char c n ∧ s = c :: more ∧
      decodeFrom fuel (index + n) ((b :: rest).drop n) = .ok more := by
  rw [decodeFrom] at h
  split at h
  · next c n hsequence =>
    cases hmore : decodeFrom fuel (index + n) ((b :: rest).drop n) with
    | error e =>
      rw [hmore] at h
      cases h
    | ok more =>
      rw [hmore] at h
      exact ⟨c, n, more, hsequence, (Except.ok.inj h).symm, hmore⟩
  · cases h
  · cases h

theorem length_rest {b : UInt8} {rest : Bytes} {c : Char} {n : Nat}
    (h : sequence b rest = .char c n) : ((b :: rest).drop n).length ≤ rest.length := by
  have hlength := congrArg List.length (sequence_char h)
  have hpos := c.utf8Size_pos
  rw [List.length_append, String.length_utf8EncodeChar, List.length_cons] at hlength
  omega

theorem utf8Chars_of_decodeFrom {fuel index : Nat} {b : Bytes} {s : List Char}
    (hfuel : b.length ≤ fuel) (h : decodeFrom fuel index b = .ok s) : utf8Chars s = b := by
  induction fuel generalizing index b s with
  | zero =>
    obtain rfl := Except.ok.inj h
    exact (List.eq_nil_of_length_eq_zero (Nat.le_zero.1 hfuel)).symm
  | succ fuel ih =>
    cases b with
    | nil =>
      obtain rfl := Except.ok.inj h
      rfl
    | cons x rest =>
      obtain ⟨c, n, more, hsequence, rfl, hmore⟩ := decodeFrom_char h
      have hrest := ih (Nat.le_trans (length_rest hsequence) (Nat.le_of_succ_le_succ hfuel)) hmore
      have hfirst := sequence_char hsequence
      rw [← hrest] at hfirst
      exact hfirst

theorem decodeLossyFrom_of_decodeFrom {fuel index : Nat} {b : Bytes} {s : List Char}
    (h : decodeFrom fuel index b = .ok s) : decodeLossyFrom fuel b = s := by
  induction fuel generalizing index b s with
  | zero => exact Except.ok.inj h
  | succ fuel ih =>
    cases b with
    | nil => exact Except.ok.inj h
    | cons x rest =>
      obtain ⟨c, n, more, hsequence, rfl, hmore⟩ := decodeFrom_char h
      simp only [decodeLossyFrom, hsequence, ih hmore]

variable {b b' : Bytes} {s : String}

theorem decodeFrom_of_decode (h : decode b = .ok s) :
    ∃ cs, decodeFrom b.length 0 b = .ok cs ∧ s = String.ofList cs := by
  unfold decode at h
  cases hread : decodeFrom b.length 0 b with
  | error e =>
    rw [hread] at h
    cases h
  | ok cs =>
    rw [hread] at h
    exact ⟨cs, rfl, (Except.ok.inj h).symm⟩

/-- **Bytes that are a text are its bytes.** -/
theorem utf8_of_decode (h : decode b = .ok s) : utf8 s = b := by
  obtain ⟨cs, hread, rfl⟩ := decodeFrom_of_decode h
  rw [utf8, String.toList_ofList]
  exact utf8Chars_of_decodeFrom (Nat.le_refl _) hread

/-- **Nothing is replaced in a text.** -/
theorem decodeLossy_of_decode (h : decode b = .ok s) : decodeLossy b = s := by
  obtain ⟨cs, hread, rfl⟩ := decodeFrom_of_decode h
  exact congrArg String.ofList (decodeLossyFrom_of_decodeFrom hread)

/-- Two byte strings that are texts are told apart by these. -/
theorem decodeLossy_injective (h : (decode b).isOk = true) (h' : (decode b').isOk = true)
    (hsame : decodeLossy b = decodeLossy b') : b = b' := by
  cases hs : decode b with
  | error e =>
    rw [hs] at h
    cases h
  | ok s =>
    cases hs' : decode b' with
    | error e =>
      rw [hs'] at h'
      cases h'
    | ok s' =>
      rw [decodeLossy_of_decode hs, decodeLossy_of_decode hs'] at hsame
      rw [← utf8_of_decode hs, hsame, utf8_of_decode hs']

/-- **No two texts have the same bytes.** -/
theorem utf8_injective {s t : String} (h : utf8 s = utf8 t) : s = t := by
  have hbytes : s.toList.utf8Encode = t.toList.utf8Encode := congrArg List.toByteArray h
  have hchars := congrArg ByteArray.utf8Decode? hbytes
  rw [List.utf8Decode?_utf8Encode, List.utf8Decode?_utf8Encode] at hchars
  exact String.toList_injective (congrArg Array.toList (Option.some.inj hchars))

end PacketRelay.Utf8
