/-
  Splitting a range of blocks into windows.

  `scanWindows first last size` covers the blocks from `first` to `last`, both included, by windows
  of `size` blocks, the last of which may be shorter.

  `Word.scanWindows?` is the loop that finds these windows one after the other in words of 64 bits.
  A window that would end beyond the largest word is cut off there; where the next window would have
  to start beyond it, there is no result.
-/
namespace PacketRelay

/-- The windows of a range, in order; a size of zero counts as one. -/
def scanWindows (first last size : Nat) : List (Nat × Nat) :=
  let size := max size 1
  if last < first then []
  else (List.range ((last - first) / size + 1)).map fun i =>
    (first + i * size, min (first + i * size + (size - 1)) last)

/-! ## In words -/

namespace Word

/-- The sum of two words, if it is a word. -/
def add? (a b : UInt64) : Option UInt64 :=
  if a.toNat + b.toNat < UInt64.size then some (a + b) else none

/-- The sum of two words, cut off at the largest word. -/
def saturatingAdd (a b : UInt64) : UInt64 := (add? a b).getD (0 - 1)

theorem add?_eq_some_iff {a b c : UInt64} : add? a b = some c ↔ c.toNat = a.toNat + b.toNat := by
  have hc := c.toNat_lt_size
  rw [add?]
  split
  · rename_i h
    have hsum : (a + b).toNat = a.toNat + b.toNat := by
      rw [UInt64.toNat_add]
      exact Nat.mod_eq_of_lt h
    rw [Option.some_inj, ← UInt64.toNat_inj, hsum, eq_comm]
  · constructor
    · intro h
      cases h
    · omega

theorem toNat_saturatingAdd (a b : UInt64) :
    (saturatingAdd a b).toNat = min (a.toNat + b.toNat) (UInt64.size - 1) := by
  rw [saturatingAdd]
  cases h : add? a b with
  | some c =>
    have hsum := add?_eq_some_iff.1 h
    have hc := c.toNat_lt_size
    rw [Option.getD_some]
    omega
  | none =>
    have hlarge : ¬ a.toNat + b.toNat < UInt64.size := fun hlt => by simp [add?, hlt] at h
    have hmax : (0 - 1 : UInt64).toNat = UInt64.size - 1 := rfl
    rw [Option.getD_none, hmax]
    omega

/-- The end of the window from `start` on: after `size` blocks, or at `last`. -/
def windowEnd (last size start : UInt64) : UInt64 := min (saturatingAdd start (size - 1)) last

/-- What is cut off at the largest word would be cut off at `last` anyway. -/
theorem toNat_windowEnd (last size start : UInt64) :
    (windowEnd last size start).toNat = min (start.toNat + (size - 1).toNat) last.toNat := by
  have hsum := toNat_saturatingAdd start (size - 1)
  have hlast := last.toNat_lt_size
  show (if saturatingAdd start (size - 1) ≤ last then _ else last).toNat = _
  split <;> rename_i hle <;> rw [UInt64.le_iff_toNat_le] at hle <;> omega

/-- The windows from `start` on. -/
def windowsFrom? (last size start : UInt64) : Option (List (UInt64 × UInt64)) :=
  let stop := windowEnd last size start
  if last ≤ stop then some [(start, stop)]
  else match _hnext : add? stop 1 with
    | none => none
    | some next => (windowsFrom? last size next).map ((start, stop) :: ·)
termination_by last.toNat - start.toNat
decreasing_by
  rename_i hmore
  have hnext : next.toNat = stop.toNat + 1 := add?_eq_some_iff.1 _hnext
  have hstop : stop.toNat = _ := toNat_windowEnd last size start
  rw [UInt64.le_iff_toNat_le] at hmore
  omega

/-- The windows of a range, in order; a size of zero counts as one. -/
def scanWindows? (first last size : UInt64) : Option (List (UInt64 × UInt64)) :=
  if last < first then some [] else windowsFrom? last (max size 1) first

end Word

end PacketRelay
