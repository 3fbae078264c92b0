/-
  How values that consist of others are read.

  `Frame.readInner` opens the frame of such a value and reads in it; fixed arrays and tuples are read
  in this way (`decode_fixedArray`, `decode_tuple`).  `readInner_map` takes what is read along,
  `exists_of_readInner` and `forall_of_repeatRead` say where it has been read.
-/
import PacketRelay.Abi.Decoding

namespace PacketRelay

namespace Abi

variable {α β : Type}

/-! ## Frames inside a frame -/

namespace Frame

/-- Reads in the frame of a value that stands at a position.  A dynamic value stands where an offset
    points to, and its place is the word of the offset. -/
def readInner (f : Frame) (dynamic : Bool) (i : Nat) (read : Frame → Option (α × Nat)) :
    Option (α × Nat) :=
  if dynamic then do
    let c ← f.indirect? i
    let (a, _) ← read c
    pure (a, i + 32)
  else do
    let c ← f.child? i
    let (a, j) ← read c
    pure (a, i + j)

variable {f c : Frame} {i j k o : Nat} {a : α} {read : Frame → Option (α × Nat)}

theorem readInner_moved (hframe : f.indirect? i = some c) (hread : read c = some (a, k)) :
    f.readInner true i read = some (a, i + 32) := by
  simp only [readInner, hframe, hread, if_true, Option.bind_eq_bind, Option.bind_some]
  rfl

theorem readInner_inPlace (hframe : f.child? i = some c) (hread : read c = some (a, k)) :
    f.readInner false i read = some (a, i + k) := by
  simp only [readInner, hframe, hread, Bool.false_eq_true, if_false, Option.bind_eq_bind,
    Option.bind_some]
  rfl

theorem child_of_indirect (h : f.indirect? i = some c) : ∃ o, f.child? o = some c := by
  obtain ⟨o, -, hchild⟩ := Option.bind_eq_some_iff.1 h
  exact ⟨o, hchild⟩

/-- Wherever the value stands, it has been read in a frame one level deeper. -/
theorem exists_of_readInner {dynamic : Bool} (h : f.readInner dynamic i read = some (a, j)) :
    ∃ o c k, f.child? o = some c ∧ read c = some (a, k) := by
  unfold readInner at h
  split at h
  · obtain ⟨c, hc, h⟩ := Option.bind_eq_some_iff.1 h
    obtain ⟨⟨a, k⟩, hread, h⟩ := Option.bind_eq_some_iff.1 h
    obtain rfl := (Prod.mk.inj (Option.some.inj h)).1
    obtain ⟨o, hchild⟩ := child_of_indirect hc
    exact ⟨o, c, k, hchild, hread⟩
  · obtain ⟨c, hchild, h⟩ := Option.bind_eq_some_iff.1 h
    obtain ⟨⟨a, k⟩, hread, h⟩ := Option.bind_eq_some_iff.1 h
    obtain rfl := (Prod.mk.inj (Option.some.inj h)).1
    exact ⟨i, c, k, hchild, hread⟩

/-- A value that is taken along is read in the same frame. -/
theorem readInner_map (g : α → β) {read' : Frame → Option (β × Nat)}
    (h : ∀ c, read' c = (read c).map fun a => (g a.1, a.2)) (f : Frame) (dynamic : Bool) (i : Nat) :
    f.readInner dynamic i read' = (f.readInner dynamic i read).map fun a => (g a.1, a.2) := by
  unfold readInner
  split
  · cases f.indirect? i with
    | none => rfl
    | some c =>
      simp only [Option.bind_eq_bind, Option.bind_some, h c]
      cases read c <;> rfl
  · cases f.child? i with
    | none => rfl
    | some c =>
      simp only [Option.bind_eq_bind, Option.bind_some, h c]
      cases read c <;> rfl

end Frame

/-! ## Items one after the other -/

/-- What holds of all that is read holds of items that are read one after the other. -/
theorem forall_of_repeatRead {P : α → Prop} {step : Nat → Option (α × Nat)}
    (h : ∀ i a j, step i = some (a, j) → P a) : ∀ n i items j,
      repeatRead step n i = some (items, j) → ∀ a ∈ items.val, P a := by
  intro n
  induction n with
  | zero =>
    intro i items j hread
    obtain rfl := (Prod.mk.inj (Option.some.inj hread)).1
    exact List.forall_mem_nil _
  | succ n ih =>
    intro i items j hread
    rw [repeatRead] at hread
    obtain ⟨⟨a, k⟩, hfirst, hread⟩ := Option.bind_eq_some_iff.1 hread
    obtain ⟨⟨rest, l⟩, hrest, hread⟩ := Option.bind_eq_some_iff.1 hread
    obtain rfl := (Prod.mk.inj (Option.some.inj hread)).1
    exact List.forall_mem_cons.2 ⟨h i a k hfirst, ih k rest l hrest⟩

/-- Items that are taken along are read one after the other as well. -/
theorem repeatRead_map (f : α → β) {step : Nat → Option (α × Nat)}
    {step' : Nat → Option (β × Nat)} (h : ∀ i, step' i = (step i).map fun a => (f a.1, a.2)) :
    ∀ n i, repeatRead step' n i = (repeatRead step n i).map fun a =>
      (⟨a.1.val.map f, (List.length_map _).trans a.1.property⟩, a.2) := by
  intro n
  induction n with
  | zero => intro i; rfl
  | succ n ih =>
    intro i
    rw [repeatRead, repeatRead, h i]
    cases step i with
    | none => rfl
    | some a =>
      simp only [Option.map_some, Option.bind_eq_bind, Option.bind_some, ih a.2]
      cases repeatRead step n a.2 with
      | none => rfl
      | some b => rfl

end Abi

namespace AbiType

open Abi

theorem decode_fixedArray (size : Nat) (element : AbiType) (f : Frame) (i : Nat) :
    decode (.fixedArray size element) f i =
      f.readInner (isDynamic element) i fun c => repeatRead (decode element c) size 0 := rfl

theorem decode_tuple (names : List String) (components : List AbiType) (f : Frame) (i : Nat) :
    decode (.tuple names components) f i =
      f.readInner (anyDynamic components) i fun c => decodeAll components c 0 := rfl

end AbiType

end PacketRelay
