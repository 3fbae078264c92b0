/-
  Hexadecimal texts are read back.

  * `Hex.decodeText_text`: the digits of a byte string after `0x` read as these bytes;
  * `checksummed_injective`: the case of its digits does not hide an address.
-/
import PacketRelay.Checksum
import PacketRelay.Proofs.Text.Spelling

namespace PacketRelay.Hex

theorem mem_encodeChars {b : Bytes} {c : Char} (h : c ∈ encodeChars b) : ∃ n < 16, c = digit n := by
  obtain ⟨x, -, hc⟩ := List.mem_flatMap.1 h
  have hx := x.toNat_lt
  rcases List.mem_pair.1 hc with rfl | rfl
  · exact ⟨x.toNat / 16, by omega, rfl⟩
  · exact ⟨x.toNat % 16, by omega, rfl⟩

theorem decode_encodeChars (b : Bytes) : decode (utf8Chars (encodeChars b)) = .ok b :=
  decode_eq_ok_iff.2 (spells_encodeChars b)

/-- **Hexadecimal texts are read back.** -/
theorem decodeText_text (b : Bytes) : decodeText (text b) = .ok b := by
  refine decodeText_eq_ok_iff.2 ⟨[], ['0', 'x'], encodeChars b, [], ?_, by simp, .inr (.inl rfl),
    spells_encodeChars b, by simp⟩
  simp [text, encode]

theorem text_injective {b b' : Bytes} (h : text b = text b') : b = b' := by
  have hread := decodeText_text b
  rw [h, decodeText_text] at hread
  exact (Except.ok.inj hread).symm

theorem encodeChars_injective {b b' : Bytes} (h : encodeChars b = encodeChars b') : b = b' := by
  have hread := decode_encodeChars b
  rw [h, decode_encodeChars] at hread
  exact (Except.ok.inj hread).symm

/-! ## Digits of either case -/

/-- A digit in lower case. -/
def lowered (c : Char) : Char := digit ((charValue? c).getD 0)

theorem lowered_digit {n : Nat} (h : n < 16) :
    lowered (digit n) = digit n ∧ lowered (digit n).toUpper = digit n := by
  have : ∀ n < 16, lowered (digit n) = digit n ∧ lowered (digit n).toUpper = digit n := by decide
  exact this n h

theorem map_lowered {cs : List Char} (h : ∀ c ∈ cs, ∃ n < 16, c = digit n) : cs.map lowered = cs := by
  refine (List.map_congr_left fun c hc => ?_).trans (List.map_id cs)
  obtain ⟨n, hn, rfl⟩ := h c hc
  exact (lowered_digit hn).1

/-- The case of digits is all that a checksum sets. -/
theorem map_lowered_checksumCase {cs : List Char} (h : ∀ c ∈ cs, ∃ n < 16, c = digit n)
    (hs : List Char) : (checksumCase cs hs).map lowered = cs := by
  induction cs generalizing hs with
  | nil => cases hs <;> rfl
  | cons c cs ih =>
    cases hs with
    | nil => exact map_lowered h
    | cons c' hs =>
      obtain ⟨⟨n, hn, rfl⟩, hrest⟩ := List.forall_mem_cons.1 h
      rw [checksumCase, List.map_cons, ih hrest hs]
      split
      · rw [(lowered_digit hn).2]
      · rw [(lowered_digit hn).1]

/-- **Two addresses are told apart by their texts.** -/
theorem checksummed_injective {a a' : Address} (h : a.checksummed = a'.checksummed) : a = a' := by
  have hcase : ∀ a : Address, ((a.checksummed.toList).drop 2).map lowered = encodeChars a.bytes := by
    intro a
    rw [FixedBytes.checksummed, String.toList_ofList]
    exact map_lowered_checksumCase (fun c hc => mem_encodeChars hc) _
  have hbytes : a.bytes = a'.bytes := encodeChars_injective (by rw [← hcase a, h, hcase a'])
  obtain ⟨b, hb⟩ := a
  obtain ⟨b', hb'⟩ := a'
  obtain rfl : b = b' := hbytes
  rfl

end PacketRelay.Hex
