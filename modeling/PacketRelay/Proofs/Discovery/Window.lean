/-
  The windows of a range of blocks.

  * `Tiles` says how windows cover a range one after the other; what holds of all such windows is
    proved by induction on it, and `Partitions` collects it;
  * `tiles_scanWindows` and `Word.tiles_windowsFrom?`: the windows of a range do so, and those that
    the loop in words finds as well;
  * `scanWindows_partitions`: so the loop finds the windows of the range, and they partition it.
-/
import Mathlib.Algebra.Order.BigOperators.Group.Finset
import Mathlib.Data.UInt
import Mathlib.Order.Interval.Finset.Nat
import PacketRelay.Discovery.Window

namespace PacketRelay

/-! ## Tilings -/

/-- Windows that cover the blocks from a first one to `last`, one after the other: all of `size`
    blocks, except for the last one, which may be shorter. -/
inductive Tiles (last size : Nat) : Nat → List (Nat × Nat) → Prop
  | final {start : Nat} : start ≤ last → last < start + size → Tiles last size start [(start, last)]
  | more {start : Nat} {ws : List (Nat × Nat)} : start + size ≤ last →
      Tiles last size (start + size) ws → Tiles last size start ((start, start + size - 1) :: ws)

/-- Whether a block lies in a window. -/
def covers (height : Nat) (w : Nat × Nat) : Bool := w.1 ≤ height && height ≤ w.2

theorem covers_iff {height : Nat} {w : Nat × Nat} :
    covers height w = true ↔ w.1 ≤ height ∧ height ≤ w.2 := by simp [covers]

namespace Tiles

variable {last size start : Nat} {ws : List (Nat × Nat)}

theorem pos (h : Tiles last size start ws) : 0 < size := by
  induction h with
  | final => omega
  | more _ _ ih => exact ih

theorem ne_nil (h : Tiles last size start ws) : ws ≠ [] := by
  cases h <;> exact List.cons_ne_nil _ _

/-- There is one tiling of a range. -/
theorem unique {ws' : List (Nat × Nat)} (h : Tiles last size start ws)
    (h' : Tiles last size start ws') : ws = ws' := by
  induction h generalizing ws' with
  | final hle hlt =>
    cases h' with
    | final => rfl
    | more hmore => omega
  | more hmore _ ih =>
    cases h' with
    | final _ hlt => omega
    | more _ hrest => rw [ih hrest]

/-- The first window starts where the range does. -/
theorem head? (h : Tiles last size start ws) : ws.head?.map Prod.fst = some start := by
  cases h <;> rfl

/-- The last window ends where the range does. -/
theorem getLast? (h : Tiles last size start ws) : ws.getLast?.map Prod.snd = some last := by
  induction h with
  | final => rfl
  | more _ hrest ih => rwa [List.getLast?_cons_of_ne_nil hrest.ne_nil]

/-- Each window lies in the range, is not empty, and holds at most `size` blocks. -/
theorem of_mem (h : Tiles last size start ws) {w : Nat × Nat} (hw : w ∈ ws) :
    start ≤ w.1 ∧ w.1 ≤ w.2 ∧ w.2 ≤ last ∧ w.2 < w.1 + size := by
  induction h with
  | final hle hlt =>
    rw [List.mem_singleton.1 hw]
    exact ⟨Nat.le_refl _, hle, Nat.le_refl _, hlt⟩
  | @more start ws hmore hrest ih =>
    have hpos := hrest.pos
    rcases List.mem_cons.1 hw with rfl | hw
    · dsimp only
      omega
    · have := ih hw
      omega

/-- Every window but the last holds `size` blocks. -/
theorem of_mem_dropLast (h : Tiles last size start ws) {w : Nat × Nat} (hw : w ∈ ws.dropLast) :
    w.2 + 1 = w.1 + size := by
  induction h with
  | final => cases hw
  | more _ hrest ih =>
    have hpos := hrest.pos
    rw [List.dropLast_cons_of_ne_nil hrest.ne_nil] at hw
    rcases List.mem_cons.1 hw with rfl | hw
    · dsimp only
      omega
    · exact ih hw

/-- Each window starts behind the one before. -/
theorem isChain (h : Tiles last size start ws) : ws.IsChain fun w w' => w'.1 = w.2 + 1 := by
  induction h with
  | final => exact .singleton _
  | @more start ws _ hrest ih =>
    have hpos := hrest.pos
    refine List.isChain_cons.2 ⟨fun w hw => ?_, ih⟩
    have hstart := hrest.head?
    rw [Option.mem_def.1 hw] at hstart
    have := Option.some.inj hstart
    dsimp only
    omega

/-- The windows are in increasing order. -/
theorem pairwise (h : Tiles last size start ws) : ws.Pairwise fun w w' => w.2 < w'.1 := by
  induction h with
  | final => exact List.pairwise_singleton _ _
  | more _ hrest ih =>
    have hpos := hrest.pos
    refine List.pairwise_cons.2 ⟨fun w hw => ?_, ih⟩
    have := (hrest.of_mem hw).1
    dsimp only
    omega

/-- A block of the range lies in one window, any other block in none. -/
theorem countP_covers (h : Tiles last size start ws) (height : Nat) :
    ws.countP (covers height) = if start ≤ height ∧ height ≤ last then 1 else 0 := by
  induction h with
  | final hle hlt => simp [covers, List.countP_cons]
  | @more start ws hmore hrest ih =>
    have hpos := hrest.pos
    rw [List.countP_cons, ih]
    simp only [covers_iff]
    split_ifs <;> omega

/-- All windows but the last one fit into the range side by side. -/
theorem length_mul_le (h : Tiles last size start ws) : start + ws.length * size ≤ last + size := by
  induction h with
  | final hle =>
    rw [List.length_singleton, Nat.one_mul]
    exact Nat.add_le_add_right hle size
  | more _ _ ih =>
    rw [List.length_cons, Nat.succ_mul]
    omega

end Tiles

/-- Windows of at most `size` blocks hold at most `size` blocks each. -/
theorem le_length_mul {first last size : Nat} {cs : List (Nat × Nat)}
    (hsize : ∀ c ∈ cs, c.2 < c.1 + size)
    (hcover : ∀ height, first ≤ height → height ≤ last → ∃ c ∈ cs, covers height c = true) :
    last + 1 - first ≤ cs.length * size := by
  have hsub : Finset.Icc first last ⊆ cs.toFinset.biUnion fun c => Finset.Icc c.1 c.2 := by
    intro height hheight
    obtain ⟨hfirst, hlast⟩ := Finset.mem_Icc.1 hheight
    obtain ⟨c, hc, hcovers⟩ := hcover height hfirst hlast
    exact Finset.mem_biUnion.2
      ⟨c, List.mem_toFinset.2 hc, Finset.mem_Icc.2 (covers_iff.1 hcovers)⟩
  have hcard : ∀ c ∈ cs.toFinset, (Finset.Icc c.1 c.2).card ≤ size := by
    intro c hc
    have := hsize c (List.mem_toFinset.1 hc)
    rw [Nat.card_Icc]
    omega
  calc last + 1 - first
      = (Finset.Icc first last).card := (Nat.card_Icc _ _).symm
    _ ≤ cs.toFinset.card * size :=
        (Finset.card_le_card hsub).trans (Finset.card_biUnion_le_card_mul _ _ _ hcard)
    _ ≤ cs.length * size := Nat.mul_le_mul_right _ (List.toFinset_card_le _)

/-! ## The windows of a range -/

/-- Windows that partition the blocks from `first` to `last`. -/
structure Partitions (first last size : Nat) (ws : List (Nat × Nat)) : Prop where
  starts : ws.head?.map Prod.fst = some first
  ends : ws.getLast?.map Prod.snd = some last
  adjacent : ws.IsChain fun w w' => w'.1 = w.2 + 1
  increasing : ws.Pairwise fun w w' => w.2 < w'.1
  nonempty : ∀ w ∈ ws, w.1 ≤ w.2
  /-- Every window but the last holds `size` blocks. -/
  full : ∀ w ∈ ws.dropLast, w.2 + 1 = w.1 + size
  /-- No window holds more. -/
  bounded : ∀ w ∈ ws, w.2 < w.1 + size
  /-- Each block of the range lies in exactly one window, any other block in none. -/
  covering : ∀ height, ws.countP (covers height) = if first ≤ height ∧ height ≤ last then 1 else 0
  /-- As many windows of at most `size` blocks are needed to cover the range. -/
  least : ∀ cs : List (Nat × Nat), (∀ c ∈ cs, c.2 < c.1 + size) →
    (∀ height, first ≤ height → height ≤ last → ∃ c ∈ cs, covers height c = true) →
    ws.length ≤ cs.length

/-- **Windows that tile a range partition it.** -/
theorem Tiles.partitions {first last size : Nat} {ws : List (Nat × Nat)}
    (h : Tiles last size first ws) : Partitions first last size ws where
  starts := h.head?
  ends := h.getLast?
  adjacent := h.isChain
  increasing := h.pairwise
  nonempty _ hw := (h.of_mem hw).2.1
  full _ hw := h.of_mem_dropLast hw
  bounded _ hw := (h.of_mem hw).2.2.2
  covering := h.countP_covers
  least cs hsize hcover := by
    have hneeded := h.length_mul_le
    have hheld := le_length_mul hsize hcover
    by_contra hlt
    have hfewer : (cs.length + 1) * size ≤ ws.length * size := Nat.mul_le_mul_right _ (by omega)
    rw [Nat.succ_mul] at hfewer
    omega

/-- An empty range has no windows. -/
theorem scanWindows_of_lt {first last : Nat} (h : last < first) (size : Nat) :
    scanWindows first last size = [] := if_pos h

/-- A range that is no longer than a window is one window. -/
theorem scanWindows_final {first last size : Nat} (h : first ≤ last)
    (hlast : last < first + max size 1) : scanWindows first last size = [(first, last)] := by
  have hzero : (last - first) / max size 1 = 0 := Nat.div_eq_of_lt (by omega)
  have hcut : min (first + (max size 1 - 1)) last = last := Nat.min_eq_right (by omega)
  simp [scanWindows, Nat.not_lt.2 h, hzero, hcut]

/-- The windows of a longer range are one of full size and those of what is left. -/
theorem scanWindows_more {first last size : Nat} (h : first + max size 1 ≤ last) :
    scanWindows first last size =
      (first, first + max size 1 - 1) :: scanWindows (first + max size 1) last size := by
  have hpos : 0 < max size 1 := Nat.lt_of_lt_of_le Nat.one_pos (Nat.le_max_right ..)
  have hfirst : ¬ last < first := by omega
  simp only [scanWindows, if_neg hfirst, if_neg (Nat.not_lt.2 h)]
  generalize max size 1 = n at *
  have hdiv : (last - first) / n = (last - (first + n)) / n + 1 := by
    rw [← Nat.add_div_right _ hpos]
    congr 1
    omega
  rw [List.range_succ_eq_map, List.map_cons, List.map_map, hdiv]
  congr 1
  · rw [Nat.zero_mul, Nat.add_zero, Nat.min_eq_left (by omega), Nat.add_sub_assoc hpos]
  · refine List.map_congr_left fun i _ => ?_
    have hnext : first + (i + 1) * n = first + n + i * n := by rw [Nat.succ_mul]; omega
    simp only [Function.comp_apply, Nat.succ_eq_add_one, hnext]

/-- **The windows of a range tile it.** -/
theorem tiles_scanWindows {first last : Nat} (h : first ≤ last) (size : Nat) :
    Tiles last (max size 1) first (scanWindows first last size) := by
  induction hd : last - first using Nat.strongRecOn generalizing first with
  | _ d ih =>
    rcases Nat.lt_or_ge last (first + max size 1) with hlast | hmore
    · rw [scanWindows_final h hlast]
      exact .final h hlast
    · rw [scanWindows_more hmore]
      exact .more hmore (ih _ (by omega) hmore rfl)

/-! ## The loop on words -/

namespace Word

/-- A window of words, as numbers. -/
def numbers (w : UInt64 × UInt64) : Nat × Nat := (w.1.toNat, w.2.toNat)

/-- The loop goes on behind a window that ends before the range does. -/
theorem windowsFrom?_more {last size start next : UInt64}
    (hmore : ¬ last ≤ windowEnd last size start)
    (hnext : add? (windowEnd last size start) 1 = some next) :
    windowsFrom? last size start =
      (windowsFrom? last size next).map ((start, windowEnd last size start) :: ·) := by
  rw [windowsFrom?, if_neg hmore]
  split
  · rename_i hnone
    rw [hnext] at hnone
    cases hnone
  · rename_i next' hnext'
    rw [Option.some.inj (hnext.symm.trans hnext')]

/-- **The loop ends, and no sum in it is too large for a word**; what it finds tiles the range. -/
theorem tiles_windowsFrom? {last size start : UInt64} (hsize : 0 < size) (hstart : start ≤ last) :
    ∃ ws, windowsFrom? last size start = some ws ∧
      Tiles last.toNat size.toNat start.toNat (ws.map numbers) := by
  rw [UInt64.lt_iff_toNat_lt, UInt64.toNat_zero] at hsize
  have hpred : (size - 1).toNat = size.toNat - 1 :=
    UInt64.toNat_sub_of_le _ _ (UInt64.le_iff_toNat_le.2 hsize)
  induction start using windowsFrom?.induct last size with
  | case1 start stop hfinal =>
    have hstop : stop.toNat = _ := toNat_windowEnd last size start
    rw [UInt64.le_iff_toNat_le] at hfinal hstart
    have hlast : stop = last := UInt64.toNat_inj.1 (by omega)
    refine ⟨[(start, last)], ?_, .final hstart (by omega)⟩
    rw [windowsFrom?, if_pos (UInt64.le_iff_toNat_le.2 hfinal)]
    exact congrArg (fun w => some [(start, w)]) hlast
  | case2 start stop hmore hnone =>
    -- the loop goes on before the last block only, and behind that there is another word
    rw [UInt64.le_iff_toNat_le] at hmore
    have hlast := last.toNat_lt_size
    have hsome : add? stop 1 = some (stop + 1) := if_pos (by rw [UInt64.toNat_one]; omega)
    rw [hsome] at hnone
    cases hnone
  | case3 start stop hmore next hnext ih =>
    have hstop : stop.toNat = _ := toNat_windowEnd last size start
    have hsum : next.toNat = stop.toNat + 1 := add?_eq_some_iff.1 hnext
    have hend : stop.toNat < last.toNat := Nat.not_le.1 (mt UInt64.le_iff_toNat_le.2 hmore)
    obtain ⟨ws, hws, htiles⟩ := ih (UInt64.le_iff_toNat_le.2 (by omega))
    refine ⟨(start, stop) :: ws, by rw [windowsFrom?_more hmore hnext, hws]; rfl, ?_⟩
    have hwindow : numbers (start, stop) = (start.toNat, start.toNat + size.toNat - 1) :=
      Prod.ext rfl (by simp only [numbers]; omega)
    have hbehind : next.toNat = start.toNat + size.toNat := by omega
    rw [List.map_cons, hwindow]
    rw [hbehind] at htiles
    exact .more (by omega) htiles

/-- **The loop finds the windows of the range.** -/
theorem scanWindows?_eq (first last size : UInt64) : ∃ ws, scanWindows? first last size = some ws ∧
    ws.map numbers = PacketRelay.scanWindows first.toNat last.toNat size.toNat := by
  rw [scanWindows?]
  split
  · rename_i hlt
    exact ⟨[], rfl, (scanWindows_of_lt (UInt64.lt_iff_toNat_lt.1 hlt) _).symm⟩
  · rename_i hle
    have hsize : (max size 1).toNat = max size.toNat 1 := UInt64.toNat_max size 1
    have hpos : 0 < max size 1 := UInt64.lt_iff_toNat_lt.2 (hsize ▸ Nat.le_max_right ..)
    obtain ⟨ws, hws, htiles⟩ := tiles_windowsFrom? hpos (UInt64.not_lt.1 hle)
    rw [hsize] at htiles
    have hrange := UInt64.le_iff_toNat_le.1 (UInt64.not_lt.1 hle)
    exact ⟨ws, hws, htiles.unique (tiles_scanWindows hrange _)⟩

end Word

/-- **The windows of a range partition it.**  For all words the loop ends, no sum in it is too large
    for a word, and it finds these windows; an empty range has none. -/
theorem scanWindows_partitions (first last size : UInt64) :
    (∃ ws, Word.scanWindows? first last size = some ws ∧
      ws.map Word.numbers = scanWindows first.toNat last.toNat size.toNat) ∧
    (last < first → scanWindows first.toNat last.toNat size.toNat = []) ∧
    (first ≤ last → Partitions first.toNat last.toNat (max size.toNat 1)
      (scanWindows first.toNat last.toNat size.toNat)) :=
  ⟨Word.scanWindows?_eq first last size,
    fun h => scanWindows_of_lt (UInt64.lt_iff_toNat_lt.1 h) _,
    fun h => (tiles_scanWindows (UInt64.le_iff_toNat_le.1 h) _).partitions⟩

/-- The loop ends behind the last word. -/
example : Word.scanWindows? 18446744073709551610 18446744073709551615 4 =
    some [(18446744073709551610, 18446744073709551613),
      (18446744073709551614, 18446744073709551615)] := by cbv

end PacketRelay
