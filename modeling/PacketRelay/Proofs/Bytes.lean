/-
  Bytes and the numbers that they write.

  * `Bytes.toNat_ofNat` and `Bytes.ofNat_toNat`: a number that fits is read from its bytes, and bytes
    are written again from their number;
  * `FixedBytes.ofBytes?` accepts exactly what has the right length.
-/
import PacketRelay.Bytes
import Mathlib.Algebra.Order.Ring.Nat
import Mathlib.Data.List.Induction

namespace PacketRelay

namespace Bytes

theorem toNat_concat (b : Bytes) (x : UInt8) : toNat (b ++ [x]) = toNat b * 256 + x.toNat :=
  List.foldl_append

/-- A number that fits is read from its bytes. -/
theorem toNat_ofNat {n v : Nat} (h : v < 256 ^ n) : toNat (ofNat n v) = v := by
  induction n generalizing v with
  | zero => exact (Nat.lt_one_iff.1 h).symm
  | succ n ih =>
    have hdiv : v / 256 < 256 ^ n := Nat.div_lt_of_lt_mul (by rwa [← Nat.pow_succ'])
    rw [ofNat, toNat_concat, ih hdiv, UInt8.toNat_ofNat']
    omega

/-- Bytes are written again from their number. -/
theorem ofNat_toNat (b : Bytes) : ofNat b.length (toNat b) = b := by
  induction b using List.reverseRecOn with
  | nil => rfl
  | append_singleton b x ih =>
    have hx : x.toNat < 256 := x.toNat_lt
    have hdiv : (toNat b * 256 + x.toNat) / 256 = toNat b := by omega
    have hlast : UInt8.ofNat (toNat b * 256 + x.toNat) = x := by
      rw [UInt8.ofNat_add, UInt8.ofNat_mul, UInt8.ofNat_toNat]
      simp
    rw [List.length_append, List.length_singleton, toNat_concat, ofNat, hdiv, ih, hlast]

theorem toNat_lt (b : Bytes) : toNat b < 256 ^ b.length := by
  induction b using List.reverseRecOn with
  | nil => exact Nat.one_pos
  | append_singleton b x ih =>
    have hx : x.toNat < 256 := x.toNat_lt
    rw [toNat_concat, List.length_append, List.length_singleton, Nat.pow_succ]
    omega

end Bytes

namespace FixedBytes

theorem ofNat_toNat {n : Nat} (b : FixedBytes n) : ofNat n b.toNat = b := by
  obtain ⟨bytes, rfl⟩ := b
  simp only [ofNat, toNat, Bytes.ofNat_toNat]

theorem bytes_of_ofBytes? {n : Nat} {b : Bytes} {s : FixedBytes n}
    (h : ofBytes? n b = some s) : s.bytes = b := by
  unfold ofBytes? at h
  split at h
  · obtain rfl := Option.some.inj h
    rfl
  · cases h

theorem ofBytes?_eq_none {n : Nat} {b : Bytes} : ofBytes? n b = none ↔ b.length ≠ n := by
  unfold ofBytes?
  split <;> simp [*]

theorem ofBytes?_bytes {n : Nat} (s : FixedBytes n) : ofBytes? n s.bytes = some s :=
  dif_pos s.size

end FixedBytes

end PacketRelay
